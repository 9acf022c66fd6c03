/-
This file shows what becomes of a dropdown in elementary steps. The echo takes the choice, and the
derived entry is exchanged if the choice asks for another one: the old one is given up first, and
the new one is taken unless somebody has its name. So a dropdown changes at most three entries, of
which only the echo is a control.
-/
import Questionnaire.Proofs.Step

namespace Questionnaire.Sync

variable {catalog : Catalog} {writes shows : Control → Prop} {state : State}

/-! ### Writes -/

theorem steps_note {control : Control} {result : Sheet × Bool}
    (member : control ∈ catalog.controls) (may : writes control)
    (written : Sheet.Write state.sheet control.name result) :
    Steps catalog writes shows state (state.note control.name result) :=
  .single (.write member may written)

theorem steps_setText {control : Control} (member : control ∈ catalog.controls)
    (may : writes control) (text : String) :
    Steps catalog writes shows state (state.setText control.name text) := by
  unfold State.setText
  split
  next result written => exact steps_note member may (Sheet.write_of_setText written)
  next => exact .refl

theorem changed_setText (state : State) (name text : String) :
    ∃ more, (state.setText name text).changed = state.changed ++ more ∧ more.Sublist [name] := by
  unfold State.setText
  split
  next result _ => exact ⟨_, note_changed state name result, by
    cases result.2 <;> simp [Sheet.reported]⟩
  next => exact ⟨[], by simp, List.nil_sublist _⟩

theorem sync_setText (state : State) (name text : String) :
    (state.setText name text).sync = state.sync := by
  unfold State.setText
  split <;> rfl

/-! ### Derived entries -/

theorem slug_of_derivedName {select choice name : String}
    (derives : derivedName select choice = some name) :
    (Slug.ofText choice).isEmpty = false ∧ name = select ++ "_" ++ Slug.ofText choice := by
  unfold derivedName at derives
  simp only at derives
  split at derives
  next => cases derives
  next notEmpty => exact ⟨by simpa using notEmpty, (Option.some.inj derives).symm⟩

/-- No choice derives nothing. -/
theorem derivedName_empty (select : String) : derivedName select "" = none := by
  have empty : (Slug.ofText "").isEmpty = true := by decide +kernel
  unfold derivedName
  simp only [empty, if_true]

theorem release_of_none {select : String} (free : state.sync.derived.get? select = none) :
    release state select = state := by
  unfold release
  rw [free]

theorem release_of_some {select previous : String}
    (owned : state.IsOwned catalog) (owns : state.sync.derived.get? select = some previous) :
    release state select =
      { sync := { state.sync with derived := state.sync.derived.erase select }
        sheet := state.sheet.erase previous
        changed := state.changed ++ [previous] } := by
  unfold release
  rw [owns]
  simp only
  rw [dropDerived_eq_erase owned owns]
  rfl

theorem steps_release (select : String) :
    Steps catalog writes shows state (release state select) := by
  unfold release
  split
  next => exact .refl
  next previous owns => exact .single (.release owns)

theorem get?_derived_release (state : State) (select other : String) :
    (release state select).sync.derived.get? other =
      if select = other then none else state.sync.derived.get? other := by
  unfold release
  split
  next free =>
    split
    next equal => rw [← equal, free]
    next => rfl
  next => exact NameMap.get?_erase _ _ _

/-- A dropdown without a derived entry takes one exactly if nobody has its name. -/
theorem acquire_eq {select name choice : String} (owned : state.IsOwned catalog)
    (free : state.sync.derived.get? select = none) :
    acquire state select name choice =
      if state.sheet.contains name then state
      else
        { sync := { state.sync with derived := state.sync.derived.insert select name }
          sheet := state.sheet.insert name ⟨.checkbox true choice, true, true⟩
          changed := state.changed ++ [name] } := by
  unfold acquire NameMap.contains
  cases present : state.sheet.get? name with
  | none =>
    have notOwned : isOwned state select name = false := by
      rw [Bool.eq_false_iff]
      intro isOwned
      obtain ⟨⟨owner, other⟩, member, same⟩ := List.any_eq_true.mp isOwned
      simp only [Bool.and_eq_true, bne_iff_ne, beq_iff_eq] at same
      obtain ⟨⟨entry, otherPresent, -⟩, -⟩ :=
        owned.owner owner other ((NameMap.mem_entries_iff _ _ _).mp member)
      rw [same.2, present] at otherPresent
      cases otherPresent
    rw [notOwned]
    simp [Sheet.addDerived, present]
  | some entry =>
    rw [Option.isSome_some, if_pos rfl]
    split
    next => rfl
    next notOwned =>
      cases isDerived : entry.derived with
      | false => simp [Sheet.addDerived, present, isDerived]
      | true =>
        obtain ⟨-, -, owner, owns⟩ := owned.option name entry present isDerived
        have different : owner ≠ select := by
          rintro rfl
          rw [free] at owns
          cases owns
        refine absurd (List.any_eq_true.mpr ⟨(owner, name), ?_, ?_⟩) notOwned
        · exact (NameMap.mem_entries_iff _ _ _).mpr owns
        · simp [different]

theorem steps_acquire {dropdown : Control} {name : String} (owned : state.IsOwned catalog)
    (member : dropdown ∈ catalog.controls) (derives : dropdown.Derives name)
    (free : state.sync.derived.get? dropdown.name = none) (choice : String) :
    Steps catalog writes shows state (acquire state dropdown.name name choice) := by
  rw [acquire_eq owned free]
  split
  next => exact .refl
  next absent =>
    refine .single (.acquire member derives free ?_)
    simpa [NameMap.contains] using absent

/-! ### Dropdowns -/

/-- The choice of a select, which is empty for what is no select. -/
def choiceOf (sheet : Sheet) (select : String) : String := (sheet.text? select).getD ""

/-- The name of the derived entry that a dropdown asks for. -/
def wanted (sheet : Sheet) (select : String) : Option String :=
  derivedName select (choiceOf sheet select)

/-- The choice and what it asks for are read off what the select holds. -/
theorem choiceOf_congr {first second : Sheet} {name : String}
    (same : first.content? name = second.content? name) :
    choiceOf first name = choiceOf second name ∧ wanted first name = wanted second name := by
  have choice : choiceOf first name = choiceOf second name := by
    unfold choiceOf Sheet.text?
    rw [same]
  exact ⟨choice, by unfold wanted; rw [choice]⟩

/-- A choice that asks for a derived entry is an option. -/
theorem choice_of_wanted {dropdown : Control} {sheet : Sheet} {derived : NameMap String}
    (owned : Owned catalog derived sheet) (member : dropdown ∈ catalog.controls)
    {options : List String} {echo : Option String} (kind : dropdown.kind = .select options echo)
    {name : String} (asked : wanted sheet dropdown.name = some name) :
    choiceOf sheet dropdown.name ∈ options := by
  obtain ⟨choice, holds, chosen⟩ := owned.select member kind
  have isChoice : choiceOf sheet dropdown.name = choice := by
    unfold choiceOf Sheet.text?
    rw [holds]
    rfl
  unfold wanted at asked
  rw [isChoice] at asked ⊢
  rcases chosen with rfl | chosen
  · rw [derivedName_empty] at asked
    cases asked
  · exact Answer.option?_mem chosen

/-- A derived entry that is asked for is named after an option. -/
theorem derives_of_wanted {dropdown : Control} {sheet : Sheet} {derived : NameMap String}
    (owned : Owned catalog derived sheet) (member : dropdown ∈ catalog.controls)
    {options : List String} {echo : String} (kind : dropdown.kind = .select options (some echo))
    {name : String} (asked : wanted sheet dropdown.name = some name) : dropdown.Derives name :=
  ⟨options, echo, kind, choiceOf sheet dropdown.name, choice_of_wanted owned member kind asked,
    asked⟩

/-- The state in which the echo of a dropdown has taken its choice. -/
def echoed (state : State) (select echo : String) : State :=
  state.setText echo (choiceOf state.sheet select)

/-- A dropdown either has the derived entry that it asks for, or gives up the one it has and takes
the one it asks for. -/
theorem echoChoice_cases (state : State) (select echo : String) :
    (∃ name, wanted state.sheet select = some name ∧
      state.sync.derived.get? select = some name ∧
      echoChoice state select echo = echoed state select echo) ∨
    (wanted state.sheet select = none ∧
      echoChoice state select echo = release (echoed state select echo) select) ∨
    ∃ name, wanted state.sheet select = some name ∧
      echoChoice state select echo =
        acquire (release (echoed state select echo) select) select name
          (choiceOf state.sheet select) := by
  have same : (echoed state select echo).sync = state.sync := sync_setText state echo _
  unfold echoChoice
  simp only
  split
  next keeps =>
    rw [Bool.and_eq_true, beq_iff_eq, Option.any_eq_true] at keeps
    obtain ⟨owns, name, asked, -⟩ := keeps
    refine .inl ⟨name, asked, ?_, rfl⟩
    rw [← same, ← asked]
    exact owns
  next =>
    split
    next name asked => exact .inr (.inr ⟨name, asked, rfl⟩)
    next asked => exact .inr (.inl ⟨asked, rfl⟩)

theorem steps_echoed {dropdown : Control} (wellFormed : catalog.WellFormed)
    (member : dropdown ∈ catalog.controls) {echo : String} (echoes : dropdown.echo? = some echo)
    (may : ∀ twin : Control, twin.kind = .echo dropdown.name → writes twin) :
    Steps catalog writes shows state (echoed state dropdown.name echo) := by
  obtain ⟨twin, twinIn, rfl, kind⟩ := wellFormed.paired.echo dropdown member echo echoes
  exact steps_setText twinIn (may twin kind) _

theorem exists_kind_of_echo? {dropdown : Control} {echo : String}
    (echoes : dropdown.echo? = some echo) :
    ∃ options, dropdown.kind = .select options (some echo) := by
  unfold Control.echo? at echoes
  split at echoes
  next options other kind => exact ⟨options, by rw [kind, echoes]⟩
  next => cases echoes

theorem kind_ne_echo {dropdown : Control} {echo : String} (echoes : dropdown.echo? = some echo)
    (select : String) : dropdown.kind ≠ .echo select := by
  obtain ⟨options, isSelect⟩ := exists_kind_of_echo? echoes
  intro kind
  rw [isSelect] at kind
  cases kind

/-- Beyond its echo a dropdown writes nothing. -/
theorem steps_after_echoed {dropdown : Control} (wellFormed : catalog.WellFormed)
    (owned : state.IsOwned catalog) (member : dropdown ∈ catalog.controls) {echo : String}
    (echoes : dropdown.echo? = some echo) :
    Steps catalog writes shows (echoed state dropdown.name echo)
      (echoChoice state dropdown.name echo) := by
  have toEchoed : Steps catalog (fun _ => True) (fun _ => True) state
      (echoed state dropdown.name echo) := steps_echoed wellFormed member echoes fun _ _ => trivial
  have ownedEchoed := Steps.isOwned toEchoed owned
  obtain ⟨options, kind⟩ := exists_kind_of_echo? echoes
  have toReleased : Steps catalog writes shows (echoed state dropdown.name echo)
      (release (echoed state dropdown.name echo) dropdown.name) := steps_release dropdown.name
  rcases echoChoice_cases state dropdown.name echo with
    ⟨name, -, -, equal⟩ | ⟨-, equal⟩ | ⟨name, asked, equal⟩
  · rw [equal]
  · rw [equal]
    exact toReleased
  · rw [equal]
    refine toReleased.trans (steps_acquire (Steps.isOwned toReleased ownedEchoed) member ?_ ?_ _)
    · exact derives_of_wanted owned member kind asked
    · rw [get?_derived_release, if_pos rfl]

theorem steps_echoChoice {dropdown : Control} (wellFormed : catalog.WellFormed)
    (owned : state.IsOwned catalog) (member : dropdown ∈ catalog.controls) {echo : String}
    (echoes : dropdown.echo? = some echo)
    (may : ∀ twin : Control, twin.kind = .echo dropdown.name → writes twin) :
    Steps catalog writes shows state (echoChoice state dropdown.name echo) :=
  (steps_echoed wellFormed member echoes may).trans
    (steps_after_echoed wellFormed owned member echoes)

/-- The echo holds the choice afterwards. -/
theorem content?_echoChoice {dropdown : Control} (wellFormed : catalog.WellFormed)
    (owned : state.IsOwned catalog) (member : dropdown ∈ catalog.controls) {echo : String}
    (echoes : dropdown.echo? = some echo) :
    (echoChoice state dropdown.name echo).sheet.content? echo =
      some (.text (choiceOf state.sheet dropdown.name)) := by
  have toEchoed : Steps catalog (fun _ => True) (fun _ => True) state
      (echoed state dropdown.name echo) := steps_echoed wellFormed member echoes fun _ _ => trivial
  obtain ⟨twin, twinIn, rfl, kind⟩ := wellFormed.paired.echo dropdown member echo echoes
  have after : Steps catalog (fun _ => False) (fun _ => False)
      (echoed state dropdown.name twin.name) (echoChoice state dropdown.name twin.name) :=
    steps_after_echoed wellFormed owned member echoes
  rw [Steps.content? after wellFormed (Steps.isOwned toEchoed owned) twinIn id]
  obtain ⟨words, holds⟩ := owned.text twinIn (by rw [kind]; rfl)
  obtain ⟨entry, present, held⟩ := Option.map_eq_some_iff.mp holds
  have takes : entry.content.withText? (choiceOf state.sheet dropdown.name) =
      some (.text (choiceOf state.sheet dropdown.name)) := by
    rw [held]
    rfl
  unfold echoed State.setText
  rw [Sheet.setText_of_withText? present takes]
  show (state.sheet.put _ _ _).1.content? _ = _
  rw [Sheet.content?_eq, Sheet.get?_put present, if_pos rfl]
  rfl

theorem changed_release (owned : state.IsOwned catalog) (select : String) :
    ∃ more, (release state select).changed = state.changed ++ more ∧ more.length ≤ 1 ∧
      ∀ name ∈ more, name ∉ catalog.controls.map Control.name := by
  cases owns : state.sync.derived.get? select with
  | none =>
    rw [release_of_none owns]
    exact ⟨[], by simp, by simp, fun _ member => nomatch member⟩
  | some previous =>
    rw [release_of_some owned owns]
    refine ⟨[previous], rfl, by simp, fun name listed => ?_⟩
    rw [List.mem_singleton.mp listed]
    exact owned.notMem_controls owns

theorem changed_acquire {select : String} (owned : state.IsOwned catalog)
    (free : state.sync.derived.get? select = none) (name choice : String) :
    ∃ more, (acquire state select name choice).changed = state.changed ++ more ∧
      more.length ≤ 1 ∧ ∀ name ∈ more, name ∉ catalog.controls.map Control.name := by
  rw [acquire_eq owned free]
  split
  next => exact ⟨[], by simp, by simp, fun _ member => nomatch member⟩
  next absent =>
    refine ⟨[name], rfl, by simp, fun other listed isControl => absent ?_⟩
    obtain ⟨control, controlIn, equal⟩ := List.mem_map.mp isControl
    rw [← List.mem_singleton.mp listed, ← equal]
    exact owned.contains_control controlIn

/-- A dropdown changes at most its echo and two derived entries. -/
theorem changed_echoChoice {dropdown : Control} (wellFormed : catalog.WellFormed)
    (owned : state.IsOwned catalog) (member : dropdown ∈ catalog.controls) {echo : String}
    (echoes : dropdown.echo? = some echo) :
    ∃ more, (echoChoice state dropdown.name echo).changed = state.changed ++ more ∧
      more.length ≤ 3 ∧ ∀ name ∈ more, name = echo ∨ name ∉ catalog.controls.map Control.name := by
  have toEchoed : Steps catalog (fun _ => True) (fun _ => True) state
      (echoed state dropdown.name echo) := steps_echoed wellFormed member echoes fun _ _ => trivial
  have ownedEchoed := Steps.isOwned toEchoed owned
  have ownedReleased := Steps.isOwned (toEchoed.trans (steps_release dropdown.name)) owned
  have free : (release (echoed state dropdown.name echo) dropdown.name).sync.derived.get?
      dropdown.name = none := by
    rw [get?_derived_release, if_pos rfl]
  obtain ⟨first, firstListed, firstSublist⟩ :=
    changed_setText state echo (choiceOf state.sheet dropdown.name)
  obtain ⟨second, secondListed, secondShort, secondForeign⟩ :=
    changed_release ownedEchoed dropdown.name
  have firstShort : first.length ≤ 1 := by simpa using firstSublist.length_le
  have firstEcho : ∀ name ∈ first, name = echo := fun name listed =>
    List.mem_singleton.mp (firstSublist.subset listed)
  rcases echoChoice_cases state dropdown.name echo with
    ⟨name, -, -, equal⟩ | ⟨-, equal⟩ | ⟨name, asked, equal⟩
  · rw [equal]
    exact ⟨first, firstListed, by omega, fun name listed => .inl (firstEcho name listed)⟩
  · rw [equal, secondListed, echoed, firstListed, List.append_assoc]
    refine ⟨_, rfl, by rw [List.length_append]; omega, fun name listed => ?_⟩
    rcases List.mem_append.mp listed with inFirst | inSecond
    · exact .inl (firstEcho name inFirst)
    · exact .inr (secondForeign name inSecond)
  · obtain ⟨third, thirdListed, thirdShort, thirdForeign⟩ :=
      changed_acquire ownedReleased free name (choiceOf state.sheet dropdown.name)
    rw [equal, thirdListed, secondListed, echoed, firstListed, List.append_assoc,
      List.append_assoc]
    refine ⟨_, rfl, by rw [List.length_append, List.length_append]; omega, fun name listed => ?_⟩
    rcases List.mem_append.mp listed with inFirst | later
    · exact .inl (firstEcho name inFirst)
    rcases List.mem_append.mp later with inSecond | inThird
    · exact .inr (secondForeign name inSecond)
    · exact .inr (thirdForeign name inThird)

/-- The echo and derived entry of a control, if it is a dropdown, brought up to its choice. -/
def renewed (state : State) (control : Control) : State :=
  match control.kind with
  | .select _ (some echo) => echoChoice state control.name echo
  | _ => state

theorem echoAll_eq (catalog : Catalog) (sync : Sync) (sheet : Sheet) :
    echoAll catalog sync sheet = catalog.controls.foldl renewed ⟨sync, sheet, []⟩ := rfl

theorem renewed_of_echo? {control : Control} {echo : String} (echoes : control.echo? = some echo)
    (state : State) : renewed state control = echoChoice state control.name echo := by
  obtain ⟨options, kind⟩ := exists_kind_of_echo? echoes
  unfold renewed
  rw [kind]

theorem renewed_of_no_echo {control : Control} (noEcho : control.echo? = none) (state : State) :
    renewed state control = state := by
  unfold renewed
  split
  next options echo kind =>
    unfold Control.echo? at noEcho
    rw [kind] at noEcho
    cases noEcho
  next => rfl

theorem steps_renewed (wellFormed : catalog.WellFormed) (owned : state.IsOwned catalog)
    {control : Control} (member : control ∈ catalog.controls)
    (may : ∀ twin : Control, twin.kind = .echo control.name → writes twin) :
    Steps catalog writes shows state (renewed state control) := by
  cases echoes : control.echo? with
  | none => rw [renewed_of_no_echo echoes]
  | some echo =>
    rw [renewed_of_echo? echoes]
    exact steps_echoChoice wellFormed owned member echoes may

theorem steps_foldl_renewed (wellFormed : catalog.WellFormed) {controls : List Control}
    (may : ∀ control ∈ controls, ∀ twin : Control, twin.kind = .echo control.name → writes twin)
    (subset : controls ⊆ catalog.controls) {state : State} (owned : state.IsOwned catalog) :
    Steps catalog writes shows state (controls.foldl renewed state) := by
  induction controls generalizing state with
  | nil => exact .refl
  | cons control rest inductionHypothesis =>
    have step : Steps catalog writes shows state (renewed state control) :=
      steps_renewed wellFormed owned (subset List.mem_cons_self) (may control List.mem_cons_self)
    refine step.trans (inductionHypothesis (fun other member => ?_)
      (List.cons_subset.mp subset).2 (Steps.isOwned step owned))
    exact may other (List.mem_cons_of_mem _ member)

theorem steps_echoAll (wellFormed : catalog.WellFormed) {sync : Sync} {sheet : Sheet}
    (owned : Owned catalog sync.derived sheet)
    (may : ∀ (twin : Control) (select : String), twin.kind = .echo select → writes twin) :
    Steps catalog writes shows ⟨sync, sheet, []⟩ (echoAll catalog sync sheet) :=
  steps_foldl_renewed wellFormed (fun _ _ twin => may twin _) (List.Subset.refl _) owned

theorem owned_echoAll (wellFormed : catalog.WellFormed) {sync : Sync} {sheet : Sheet}
    (owned : Owned catalog sync.derived sheet) :
    (echoAll catalog sync sheet).IsOwned catalog := by
  have steps : Steps catalog (fun _ => True) (fun _ => True) ⟨sync, sheet, []⟩
      (echoAll catalog sync sheet) := steps_echoAll wellFormed owned fun _ _ _ => trivial
  exact Steps.isOwned steps owned

end Questionnaire.Sync

/-
This file says what taking over exported values makes of a sheet. Every entry that is exported takes
the value exported under its name, and no other entry changes; and content takes back exactly what
content of its kind was exported as. So the values that one sheet of a catalog exported turn every
control of another into that of the first. The derived entries are not taken over but derived again.
-/
import Questionnaire.Proofs.Agreement
import Questionnaire.Proofs.Calculation

namespace Questionnaire

/-! ### Single values -/

/-- The content with an exported value taken over, if it takes the value. -/
def Content.takeExported (value : String) (content : Content) : Content :=
  (match content with
    | .checkbox _ _ => content.withCheck? (Answer.isYes value)
    | _ => content.withText? value).getD content

/-- Content takes back what content of its kind was exported as. -/
theorem Content.takeExported_exported {old new : Content} (kind : new.cleared = old.cleared)
    (chosen : new.IsChosen) : old.takeExported new.exported = new := by
  cases new with
  | text words =>
    cases old with
    | text _ => rfl
    | select _ _ => cases kind
    | checkbox _ _ => cases kind
  | select choice options =>
    cases old with
    | text _ => cases kind
    | select _ _ =>
      cases kind
      unfold takeExported withText? exported
      simp only
      rcases chosen with rfl | chosen
      · rfl
      · split
        next empty => rw [String.isEmpty_iff.mp empty]; rfl
        next => rw [chosen]; rfl
    | checkbox _ _ => cases kind
  | checkbox checked value =>
    cases old with
    | text _ => cases kind
    | select _ _ => cases kind
    | checkbox _ _ =>
      cases kind
      have yes : Answer.isYes "true" = true := by decide +kernel
      have no : Answer.isYes "false" = false := by decide +kernel
      cases checked with
      | false => exact congrArg (Content.checkbox · value) no
      | true => exact congrArg (Content.checkbox · value) yes

namespace Sheet

/-- The sheet with a text written to it, if the entry takes the text, is the one with that content.
-/
theorem fst_setText {sheet : Sheet} {name : String} {entry : Entry}
    (present : sheet.get? name = some entry) (text : String) :
    (match (sheet.setText name text).toOption with
      | some (sheet, _) => (sheet, true)
      | none => (sheet, false)).1 =
      (sheet.put name entry ((entry.content.withText? text).getD entry.content)).1 := by
  cases takes : entry.content.withText? text with
  | some content =>
    rw [setText_of_withText? present takes]
    rfl
  | none =>
    cases written : sheet.setText name text with
    | error fault => exact (congrArg Prod.fst (put_eq_self rfl)).symm
    | ok result =>
      obtain ⟨other, content, otherPresent, otherTakes, -⟩ := setText_eq_ok written
      rw [present] at otherPresent
      cases otherPresent
      rw [takes] at otherTakes
      cases otherTakes

theorem applyExported_of_present {sheet : Sheet} {name : String} {entry : Entry}
    (present : sheet.get? name = some entry) (value : String) :
    (sheet.applyExported name value).1 =
      (sheet.put name entry (entry.content.takeExported value)).1 := by
  have holds : sheet.content? name = some entry.content := by
    rw [content?_eq, present]
    rfl
  have asText := fst_setText present value
  unfold applyExported Content.takeExported
  rw [holds]
  cases held : entry.content with
  | text words =>
    rw [held] at asText
    exact asText
  | select choice options =>
    rw [held] at asText
    exact asText
  | checkbox checked boxValue =>
    have takes : entry.content.withCheck? (Answer.isYes value) =
        some (.checkbox (Answer.isYes value) boxValue) := by
      rw [held]
      rfl
    simp only [setChecked_of_withCheck? present takes]
    rfl

/-- An exported value is taken over by the entry of its name only. -/
theorem content?_applyExported (sheet : Sheet) (name value other : String) :
    (sheet.applyExported name value).1.content? other =
      if name = other then (sheet.content? other).map (·.takeExported value)
      else sheet.content? other := by
  cases present : sheet.get? name with
  | none =>
    have absent : sheet.content? name = none := by
      rw [content?_eq, present]
      rfl
    have same : (sheet.applyExported name value).1 = sheet := by
      unfold applyExported
      simp only [absent]
    rw [same]
    split
    next equal => rw [← equal, absent]; rfl
    next => rfl
  | some entry =>
    rw [applyExported_of_present present, content?_eq, get?_put present]
    split
    next equal => rw [← equal, content?_eq, present]; rfl
    next => rfl

/-! ### All values -/

theorem content?_foldl_applyNext {entries : List (String × String)}
    (different : (entries.map (·.1)).Nodup) (state : Sheet × List String) (name : String) :
    (entries.foldl applyNext state).1.content? name =
      match NameMap.find name entries with
      | some value => (state.1.content? name).map (·.takeExported value)
      | none => state.1.content? name := by
  induction entries generalizing state with
  | nil => rfl
  | cons head rest inductionHypothesis =>
    obtain ⟨absent, differentRest⟩ := List.nodup_cons.mp different
    rw [List.foldl_cons, inductionHypothesis differentRest, applyNext_fst,
      content?_applyExported, NameMap.find]
    by_cases isHead : head.1 = name
    · -- No later entry has the name of the first.
      have last : NameMap.find name rest = none := by
        cases found : NameMap.find name rest with
        | none => rfl
        | some value =>
          have isIn := NameMap.mem_of_find_eq_some found
          exact absurd (List.mem_map.mpr ⟨(name, value), isIn, isHead.symm⟩) absent
      rw [last, if_pos isHead, if_pos isHead]
    · rw [if_neg isHead, if_neg isHead]

/-- Every entry takes over the value exported under its name, if there is one. -/
theorem content?_applyAll (sheet : Sheet) (snapshot : Snapshot) (name : String) :
    (Session.applyAll sheet snapshot).1.content? name =
      match snapshot.get? name with
      | some value => (sheet.content? name).map (·.takeExported value)
      | none => sheet.content? name := by
  rw [applyAll_eq]
  exact content?_foldl_applyNext (NameMap.nodup_names snapshot) (sheet, []) name

variable {catalog : Catalog} {derived : NameMap String}

/-- A control takes over the content that it has in a sheet of the same catalog. -/
theorem content?_applyAll_control {first second : Sheet} {firstDerived : NameMap String}
    (ownedFirst : Owned catalog firstDerived first) (ownedSecond : Owned catalog derived second)
    {control : Control} (member : control ∈ catalog.controls) :
    (Session.applyAll first second.snapshot).1.content? control.name =
      second.content? control.name := by
  obtain ⟨old, oldPresent, -, oldBlank, -⟩ := ownedFirst.control control member
  obtain ⟨new, newPresent, -, newBlank, chosen⟩ := ownedSecond.control control member
  rw [content?_applyAll, get?_snapshot, content?_eq, content?_eq, oldPresent, newPresent]
  exact congrArg some (Content.takeExported_exported (newBlank.trans oldBlank.symm) chosen)

/-- Sheets of one catalog that export the same hold the same in every control. -/
theorem content?_of_snapshot_eq {first second : Sheet} {firstDerived : NameMap String}
    (ownedFirst : Owned catalog firstDerived first) (ownedSecond : Owned catalog derived second)
    (same : first.snapshot = second.snapshot) {control : Control}
    (member : control ∈ catalog.controls) :
    first.content? control.name = second.content? control.name := by
  rw [← content?_applyAll_control ownedSecond ownedFirst member, same,
    content?_applyAll_control ownedSecond ownedSecond member]

/-- A derived entry that is exported checked is checked after it. -/
theorem allChecked_applyAll {first second : Sheet} {firstDerived : NameMap String}
    (ownedFirst : Owned catalog firstDerived first) (ownedSecond : Owned catalog derived second)
    (checked : Sync.AllChecked (fun _ => True) second) :
    Sync.AllChecked (fun name => second.contains name = true)
      (Session.applyAll first second.snapshot).1 := by
  intro name entry present found isDerived
  have refilled := refilled_applyAll first second.snapshot
  have ownedTaken := ownedFirst.refilled refilled
  have foreign := (ownedTaken.derived_iff found).mp isDerived
  obtain ⟨old, content, oldFound, rfl, -⟩ := refilled.exists_old found
  obtain ⟨-, ⟨oldChecked, oldValue, oldHeld⟩, -⟩ := ownedFirst.option name old oldFound isDerived
  obtain ⟨held, heldFound⟩ := NameMap.contains_iff.mp present
  have heldDerived := (ownedSecond.derived_iff heldFound).mpr foreign
  have isChecked := checked name held trivial heldFound heldDerived
  obtain ⟨-, ⟨heldChecked, value, heldContent⟩, -⟩ :=
    ownedSecond.option name held heldFound heldDerived
  rw [heldContent] at isChecked
  cases isChecked
  have taken := content?_applyAll first second.snapshot name
  rw [get?_snapshot, content?_eq, content?_eq, content?_eq, found, heldFound, oldFound] at taken
  simp only [Option.map_some, heldContent, oldHeld] at taken
  rw [Option.some.inj taken]
  show some (Answer.isYes "true") = some true
  decide +kernel

/-! ### What goes with the values -/

/-- A derived entry of which it is known that it is checked is found checked. -/
theorem checked?_of_allChecked {sheet : Sheet} {among : String → Prop}
    (owned : Owned catalog derived sheet) (checked : Sync.AllChecked among sheet) {name : String}
    (foreign : name ∉ catalog.controls.map Control.name) (present : sheet.contains name = true)
    (isAmong : among name) : sheet.checked? name = some true := by
  obtain ⟨entry, found⟩ := NameMap.contains_iff.mp present
  unfold Sheet.checked?
  rw [content?_eq, found]
  exact checked name entry isAmong found ((owned.derived_iff found).mpr foreign)

/-- Sheets with the same controls and the same checked derived entries are alike. -/
theorem alike_of_checked {first second : Sheet} {firstDerived : NameMap String}
    (ownedFirst : Owned catalog firstDerived first) (ownedSecond : Owned catalog derived second)
    (controls : ∀ control ∈ catalog.controls,
      first.content? control.name = second.content? control.name)
    (entries : ∀ name, name ∉ catalog.controls.map Control.name →
      (first.contains name = true ↔ second.contains name = true))
    (checkedFirst : Sync.AllChecked (fun _ => True) first)
    (checkedSecond : Sync.AllChecked (fun name => first.contains name = true) second) :
    Alike catalog first second := by
  have contains : ∀ name, first.contains name = second.contains name := by
    intro name
    by_cases foreign : name ∈ catalog.controls.map Control.name
    · obtain ⟨control, member, rfl⟩ := List.mem_map.mp foreign
      rw [contains_eq_isSome_content?, contains_eq_isSome_content?, controls control member]
    · exact Bool.eq_iff_iff.mpr (entries name foreign)
  refine ⟨controls, contains, fun name => ?_⟩
  by_cases foreign : name ∈ catalog.controls.map Control.name
  · obtain ⟨control, member, rfl⟩ := List.mem_map.mp foreign
    exact checked?_congr (controls control member)
  · cases present : first.contains name with
    | true =>
      rw [checked?_of_allChecked ownedFirst checkedFirst foreign present trivial,
        checked?_of_allChecked ownedSecond checkedSecond foreign (contains name ▸ present) present]
    | false =>
      have absent := contains name ▸ present
      rw [contains_eq_isSome_content?, Option.isSome_eq_false_iff, Option.isNone_iff_eq_none]
        at present absent
      exact checked?_congr (present.trans absent.symm)

/-- Sheets that are alike export the same. -/
theorem Alike.snapshot_eq {first second : Sheet} {firstDerived : NameMap String}
    (alike : Alike catalog first second) (ownedFirst : Owned catalog firstDerived first)
    (ownedSecond : Owned catalog derived second) : first.snapshot = second.snapshot := by
  refine NameMap.ext_get? fun name => ?_
  rw [get?_snapshot, get?_snapshot]
  by_cases foreign : name ∈ catalog.controls.map Control.name
  · obtain ⟨control, member, rfl⟩ := List.mem_map.mp foreign
    rw [alike.control control member]
  · -- Both hold a box of this name, checked or not alike, or neither holds anything.
    have exported : ∀ {sheet : Sheet} {owners : NameMap String}, Owned catalog owners sheet →
        (sheet.content? name).map Content.exported =
          (sheet.checked? name).map fun checked => if checked then "true" else "false" := by
      intro sheet owners owned
      unfold Sheet.checked?
      rw [content?_eq]
      cases found : sheet.get? name with
      | none => rfl
      | some entry =>
        obtain ⟨-, ⟨checked, value, held⟩, -⟩ :=
          owned.option name entry found ((owned.derived_iff found).mpr foreign)
        rw [Option.map_some, held]
        rfl
    rw [exported ownedFirst, exported ownedSecond, alike.checked]

variable {sync : Sync}

/-- Take a sheet in which the dropdowns agree with their echoes, the derived entries are checked,
and exactly those are there that would be derived again. Another sheet with the same controls is
like it once all dropdowns are echoed. -/
theorem alike_echoAll {sheet taken : Sheet} (wellFormed : catalog.WellFormed)
    (owned : Owned catalog derived sheet) (ownedTaken : Owned catalog sync.derived taken)
    (same : ∀ control ∈ catalog.controls,
      taken.content? control.name = sheet.content? control.name)
    (checkedTaken : Sync.AllChecked (fun name => sheet.contains name = true) taken)
    (echoes : ∀ name, Sync.EchoAgrees catalog name sheet)
    (checked : Sync.AllChecked (fun _ => True) sheet)
    (entries : ∀ name, name ∉ catalog.controls.map Control.name →
      (sheet.contains name = true ↔ Sync.Rederives catalog sync.derived sheet name)) :
    Alike catalog sheet (Sync.echoAll catalog sync taken).sheet := by
  have ownedStart : Sync.State.IsOwned catalog ⟨sync, taken, []⟩ := ownedTaken
  have steps := Sync.steps_foldl_echoes wellFormed ownedStart (List.Subset.refl _)
  refine alike_of_checked owned (Sync.Steps.isOwned steps ownedStart) (fun control member => ?_)
    (fun name foreign => ?_) checked (Sync.Steps.allChecked steps ownedStart checkedTaken)
  · by_cases isEcho : ∃ select, control.kind = .echo select
    · obtain ⟨select, kind⟩ := isEcho
      obtain ⟨dropdown, dropdownIn, rfl, twin⟩ :=
        wellFormed.paired.ofEcho control member select kind
      have echoed := Sync.content?_echoAll wellFormed ownedTaken dropdownIn twin
      rw [(Sync.choiceOf_congr (same dropdown dropdownIn)).1] at echoed
      rw [echoes dropdown.name dropdown dropdownIn rfl control.name twin]
      exact echoed.symm
    · have noEcho : ∀ select, control.kind ≠ .echo select :=
        fun select kind => isEcho ⟨select, kind⟩
      rw [← same control member]
      exact (Sync.content?_echoAll_other wellFormed ownedTaken member noEcho).symm
  · have asked : ∀ control ∈ catalog.controls,
        Sync.wanted taken control.name = Sync.wanted sheet control.name :=
      fun control member => (Sync.choiceOf_congr (same control member)).2
    rw [entries name foreign]
    refine Iff.trans ?_ (Sync.contains_echoAll wellFormed ownedTaken foreign).symm
    exact ⟨fun rederives => rederives.congr fun control member => (asked control member).symm,
      fun rederives => rederives.congr asked⟩

end Sheet

end Questionnaire

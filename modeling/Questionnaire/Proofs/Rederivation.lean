/-
This file says what echoing all dropdowns leaves behind. Every echo holds the choice of its
dropdown. A name that is no control becomes or stays a derived entry exactly if some dropdown asks
for it and every later dropdown that had it before still asks for it: a later owner that gives the
name up does so only after the others had their turn.
-/
import Questionnaire.Proofs.Dropdown

namespace Questionnaire.Sync

variable {catalog : Catalog} {state : State}

/-! ### Owners -/

/-- Renewing one control leaves what all others have derived. -/
theorem get?_derived_renewed {control : Control} {other : String}
    (different : control.name ≠ other) :
    (renewed state control).sync.derived.get? other = state.sync.derived.get? other := by
  cases echoes : control.echo? with
  | none => rw [renewed_of_no_echo echoes]
  | some echo =>
    have same : (echoed state control.name echo).sync = state.sync := sync_setText state echo _
    have released :
        (release (echoed state control.name echo) control.name).sync.derived.get? other =
          state.sync.derived.get? other := by
      rw [get?_derived_release, if_neg different, same]
    rw [renewed_of_echo? echoes]
    rcases echoChoice_cases state control.name echo with
      ⟨name, -, -, equal⟩ | ⟨-, equal⟩ | ⟨name, -, equal⟩
    · rw [equal, same]
    · rw [equal, released]
    · rw [equal]
      unfold acquire
      split
      next => exact released
      next =>
        split
        next =>
          simp only
          rw [NameMap.get?_insert, if_neg different, released]
        next => exact released

/-- Renewing a dropdown leaves it with what it asks for, or with nothing. -/
theorem wanted_of_renewed {control : Control} {echo name : String}
    (echoes : control.echo? = some echo)
    (owns : (renewed state control).sync.derived.get? control.name = some name) :
    wanted state.sheet control.name = some name := by
  rw [renewed_of_echo? echoes] at owns
  have same : (echoed state control.name echo).sync = state.sync := sync_setText state echo _
  have released : (release (echoed state control.name echo) control.name).sync.derived.get?
      control.name = none := by
    rw [get?_derived_release, if_pos rfl]
  rcases echoChoice_cases state control.name echo with
    ⟨other, asked, had, equal⟩ | ⟨-, equal⟩ | ⟨other, asked, equal⟩
  · rw [equal, same, had] at owns
    rw [asked, owns]
  · rw [equal, released] at owns
    cases owns
  · rw [equal] at owns
    unfold acquire at owns
    split at owns
    next => rw [released] at owns; cases owns
    next =>
      split at owns
      next =>
        rw [NameMap.get?_insert_self] at owns
        rw [asked, owns]
      next => rw [released] at owns; cases owns

theorem isOwned_released {dropdown : Control} (wellFormed : catalog.WellFormed)
    (owned : state.IsOwned catalog) (member : dropdown ∈ catalog.controls) {echo : String}
    (echoes : dropdown.echo? = some echo) :
    (release (echoed state dropdown.name echo) dropdown.name).IsOwned catalog := by
  have steps : Steps catalog (fun _ => True) (fun _ => True) state
      (release (echoed state dropdown.name echo) dropdown.name) :=
    (steps_echoed wellFormed member echoes fun _ _ => trivial).trans (steps_release _)
  exact Steps.isOwned steps owned

/-- A dropdown does not get what another one has. -/
theorem eq_of_renewed_owns (wellFormed : catalog.WellFormed) (owned : state.IsOwned catalog)
    {control : Control} (member : control ∈ catalog.controls) {name other : String}
    (owns : (renewed state control).sync.derived.get? control.name = some name)
    (otherOwns : state.sync.derived.get? other = some name) : control.name = other := by
  by_contra different
  have steps : Steps catalog (fun _ => True) (fun _ => True) state (renewed state control) :=
    steps_renewed wellFormed owned member fun _ _ => trivial
  have still := (get?_derived_renewed different).trans otherOwns
  exact different ((Steps.isOwned steps owned).apart _ _ _ owns still)

/-! ### Derived entries that are there -/

theorem contains_echoed (state : State) (select echo name : String) :
    (echoed state select echo).sheet.contains name = state.sheet.contains name := by
  unfold echoed State.setText
  split
  next result written => exact (Sheet.write_of_setText written).refilled.contains name
  next => rfl

/-- A dropdown that has what it asks for changes its echo only. -/
theorem echoChoice_of_owns (owned : state.IsOwned catalog) {select echo name : String}
    (owns : state.sync.derived.get? select = some name)
    (asked : wanted state.sheet select = some name) :
    echoChoice state select echo = echoed state select echo := by
  have same : (echoed state select echo).sync = state.sync := sync_setText state echo _
  have live : (echoed state select echo).sheet.contains name = true := by
    rw [contains_echoed]
    exact owned.contains_derived owns
  have keeps : ((echoed state select echo).sync.derived.get? select == wanted state.sheet select &&
      (wanted state.sheet select).any fun name =>
        (echoed state select echo).sheet.contains name) = true := by
    rw [same, owns, asked, Option.any_some, live]
    simp
  exact if_pos keeps

/-- A dropdown that asks for a name leaves an entry of that name, its own or another one. -/
theorem contains_of_wanted (wellFormed : catalog.WellFormed) (owned : state.IsOwned catalog)
    {control : Control} (member : control ∈ catalog.controls) {echo name : String}
    (echoes : control.echo? = some echo) (asked : wanted state.sheet control.name = some name) :
    (renewed state control).sheet.contains name = true := by
  rw [renewed_of_echo? echoes]
  rcases echoChoice_cases state control.name echo with
    ⟨other, otherAsked, had, equal⟩ | ⟨nothing, -⟩ | ⟨other, otherAsked, equal⟩
  · rw [asked] at otherAsked
    cases otherAsked
    rw [equal, contains_echoed]
    exact owned.contains_derived had
  · rw [asked] at nothing
    cases nothing
  · rw [asked] at otherAsked
    cases otherAsked
    rw [equal, acquire_eq (isOwned_released wellFormed owned member echoes)
      (by rw [get?_derived_release, if_pos rfl])]
    split
    next present => exact present
    next =>
      show NameMap.contains (NameMap.insert _ _ _) _ = true
      rw [NameMap.contains_insert]
      simp

/-- An entry stays unless its owner is renewed and no longer asks for it. -/
theorem contains_renewed (wellFormed : catalog.WellFormed) (owned : state.IsOwned catalog)
    {control : Control} (member : control ∈ catalog.controls) {name : String}
    (present : state.sheet.contains name = true)
    (keeps : state.sync.derived.get? control.name = some name →
      wanted state.sheet control.name = some name) :
    (renewed state control).sheet.contains name = true := by
  cases echoes : control.echo? with
  | none => rwa [renewed_of_no_echo echoes]
  | some echo =>
    by_cases asked : wanted state.sheet control.name = some name
    · exact contains_of_wanted wellFormed owned member echoes asked
    have same : (echoed state control.name echo).sync = state.sync := sync_setText state echo _
    have steps : Steps catalog (fun _ => True) (fun _ => True) state
        (echoed state control.name echo) := steps_echoed wellFormed member echoes fun _ _ => trivial
    have released :
        (release (echoed state control.name echo) control.name).sheet.contains name = true := by
      cases owns : (echoed state control.name echo).sync.derived.get? control.name with
      | none => rwa [release_of_none owns, contains_echoed]
      | some previous =>
        rw [release_of_some (Steps.isOwned steps owned) owns]
        show NameMap.contains (NameMap.erase _ _) _ = true
        rw [NameMap.contains_erase, contains_echoed, present]
        rw [same] at owns
        have different : previous ≠ name := fun equal => asked (keeps (equal ▸ owns))
        simp [different]
    rw [renewed_of_echo? echoes]
    rcases echoChoice_cases state control.name echo with
      ⟨other, -, -, equal⟩ | ⟨-, equal⟩ | ⟨other, -, equal⟩
    · rwa [equal, contains_echoed]
    · rwa [equal]
    · rw [equal, acquire_eq (isOwned_released wellFormed owned member echoes)
        (by rw [get?_derived_release, if_pos rfl])]
      split
      next => exact released
      next =>
        show NameMap.contains (NameMap.insert _ _ _) _ = true
        rw [NameMap.contains_insert, released, Bool.or_true]

/-! ### All dropdowns, one after the other -/

theorem get?_derived_foldl_renewed {controls : List Control} {other : String}
    (absent : other ∉ controls.map Control.name) (state : State) :
    (controls.foldl renewed state).sync.derived.get? other = state.sync.derived.get? other := by
  induction controls generalizing state with
  | nil => rfl
  | cons control rest inductionHypothesis =>
    rw [List.map_cons, List.mem_cons, not_or] at absent
    rw [List.foldl_cons, inductionHypothesis absent.2, get?_derived_renewed (Ne.symm absent.1)]

/-- No choice changes. -/
theorem wanted_of_steps (wellFormed : catalog.WellFormed) (owned : state.IsOwned catalog)
    {after : State} {shows : Control → Prop}
    (steps : Steps catalog (fun twin => ∃ select, twin.kind = .echo select) shows state after)
    {dropdown : Control} (member : dropdown ∈ catalog.controls)
    (isSelect : dropdown.isSelect = true) :
    choiceOf after.sheet dropdown.name = choiceOf state.sheet dropdown.name ∧
      wanted after.sheet dropdown.name = wanted state.sheet dropdown.name := by
  have noEcho : ¬∃ select, dropdown.kind = .echo select := by
    rintro ⟨select, isEcho⟩
    obtain ⟨options, echo, kind⟩ := Control.exists_kind_of_isSelect isSelect
    rw [kind] at isEcho
    cases isEcho
  exact choiceOf_congr (Steps.content? steps wellFormed owned member noEcho)

theorem isSelect_of_echo? {dropdown : Control} {echo : String}
    (echoes : dropdown.echo? = some echo) : dropdown.isSelect = true := by
  obtain ⟨options, kind⟩ := exists_kind_of_echo? echoes
  unfold Control.isSelect
  rw [kind]

theorem steps_renewed_echoes (wellFormed : catalog.WellFormed) (owned : state.IsOwned catalog)
    {control : Control} (member : control ∈ catalog.controls) :
    Steps catalog (fun twin => ∃ select, twin.kind = .echo select) (fun _ => False) state
      (renewed state control) :=
  steps_renewed wellFormed owned member fun _ kind => ⟨_, kind⟩

theorem steps_foldl_echoes (wellFormed : catalog.WellFormed) (owned : state.IsOwned catalog)
    {controls : List Control} (subset : controls ⊆ catalog.controls) :
    Steps catalog (fun twin => ∃ select, twin.kind = .echo select) (fun _ => False) state
      (controls.foldl renewed state) :=
  steps_foldl_renewed wellFormed (fun _ _ _ kind => ⟨_, kind⟩) subset owned

/-- An entry stays while none of the dropdowns that have it gives it up. -/
theorem contains_foldl_renewed (wellFormed : catalog.WellFormed) {controls : List Control}
    (subset : controls ⊆ catalog.controls) (different : (controls.map Control.name).Nodup)
    {state : State} (owned : state.IsOwned catalog) {name : String}
    (present : state.sheet.contains name = true)
    (keeps : ∀ control ∈ controls, state.sync.derived.get? control.name = some name →
      wanted state.sheet control.name = some name) :
    (controls.foldl renewed state).sheet.contains name = true := by
  induction controls generalizing state with
  | nil => exact present
  | cons control rest inductionHypothesis =>
    obtain ⟨member, restSubset⟩ := List.cons_subset.mp subset
    obtain ⟨absent, restDifferent⟩ := List.nodup_cons.mp different
    have steps := steps_renewed_echoes wellFormed owned member
    have ownedNext := Steps.isOwned steps owned
    refine inductionHypothesis restSubset restDifferent ownedNext
      (contains_renewed wellFormed owned member present (keeps control List.mem_cons_self)) ?_
    intro later laterIn owns
    have apart : control.name ≠ later.name := fun equal =>
      absent (equal ▸ List.mem_map_of_mem laterIn)
    rw [get?_derived_renewed apart] at owns
    have asked := keeps later (List.mem_cons_of_mem _ laterIn) owns
    -- What has a derived entry is a dropdown, whose choice the echo of another does not change.
    obtain ⟨-, dropdown, dropdownIn, named, options, echo, kind, -⟩ :=
      owned.owner later.name name owns
    have isSelect : dropdown.isSelect = true := by
      unfold Control.isSelect
      rw [kind]
    rw [← named] at asked ⊢
    rw [(wanted_of_steps wellFormed owned steps dropdownIn isSelect).2]
    exact asked

/-- Whether echoing all dropdowns leaves a derived entry of a name, when the owners are given. -/
def Rederives (catalog : Catalog) (owners : NameMap String) (sheet : Sheet) (name : String) :
    Prop :=
  name ∉ catalog.controls.map Control.name ∧
    ∃ earlier dropdown later, catalog.controls = earlier ++ dropdown :: later ∧
      dropdown.echo?.isSome = true ∧ wanted sheet dropdown.name = some name ∧
      ∀ other ∈ later, owners.get? other.name = some name → wanted sheet other.name = some name

/-- It takes no more of a sheet than what its dropdowns ask for. -/
theorem Rederives.congr {owners : NameMap String} {first second : Sheet} {name : String}
    (rederives : Rederives catalog owners first name)
    (same : ∀ control ∈ catalog.controls,
      wanted first control.name = wanted second control.name) :
    Rederives catalog owners second name := by
  obtain ⟨foreign, earlier, dropdown, later, equal, hasEcho, asked, keeps⟩ := rederives
  have isControl : ∀ control ∈ dropdown :: later, control ∈ catalog.controls :=
    fun control isIn => equal ▸ List.mem_append_right _ isIn
  refine ⟨foreign, earlier, dropdown, later, equal, hasEcho, ?_, fun other otherIn owns => ?_⟩
  · rw [← same dropdown (isControl dropdown List.mem_cons_self)]
    exact asked
  · rw [← same other (isControl other (List.mem_cons_of_mem _ otherIn))]
    exact keeps other otherIn owns

/-- No control before or after a control has its name. -/
theorem split_controls (wellFormed : catalog.WellFormed) {earlier later : List Control}
    {dropdown : Control} (equal : catalog.controls = earlier ++ dropdown :: later) :
    (earlier ⊆ catalog.controls ∧ dropdown ∈ catalog.controls ∧ later ⊆ catalog.controls) ∧
      dropdown.name ∉ later.map Control.name ∧ (later.map Control.name).Nodup ∧
      ∀ other ∈ later, other.name ∉ earlier.map Control.name := by
  have different := wellFormed.nodup
  rw [equal, List.map_append, List.map_cons, List.nodup_append] at different
  obtain ⟨-, tail, apart⟩ := different
  obtain ⟨absent, laterDifferent⟩ := List.nodup_cons.mp tail
  rw [equal]
  refine ⟨⟨List.subset_append_left _ _, List.mem_append_right _ List.mem_cons_self,
    fun other member => List.mem_append_right _ (List.mem_cons_of_mem _ member)⟩, absent,
    laterDifferent, fun other member isEarlier => ?_⟩
  exact apart _ isEarlier _ (List.mem_cons_of_mem _ (List.mem_map_of_mem member)) rfl

theorem echo?_of_derives {dropdown : Control} {name : String}
    (derives : dropdown.Derives name) : ∃ echo, dropdown.echo? = some echo := by
  obtain ⟨options, echo, kind, -⟩ := derives
  exact ⟨echo, Control.echo?_of_kind kind⟩

theorem isSelect_of_derives {dropdown : Control} {name : String}
    (derives : dropdown.Derives name) : dropdown.isSelect = true := by
  obtain ⟨echo, echoes⟩ := echo?_of_derives derives
  exact isSelect_of_echo? echoes

theorem rederives_of_owned (wellFormed : catalog.WellFormed) {sync : Sync} {sheet : Sheet}
    (owned : Owned catalog sync.derived sheet) {owner name : String}
    (owns : (echoAll catalog sync sheet).sync.derived.get? owner = some name) :
    Rederives catalog sync.derived sheet name := by
  have ownedStart : State.IsOwned catalog ⟨sync, sheet, []⟩ := owned
  have ownedAll : (echoAll catalog sync sheet).IsOwned catalog :=
    Steps.isOwned (steps_foldl_echoes wellFormed ownedStart (List.Subset.refl _)) ownedStart
  obtain ⟨-, dropdown, member, rfl, derives⟩ := ownedAll.owner owner name owns
  have foreign := ownedAll.notMem_controls owns
  obtain ⟨echo, echoes⟩ := echo?_of_derives derives
  obtain ⟨earlier, later, equal⟩ := List.append_of_mem member
  obtain ⟨⟨earlierSubset, -, -⟩, absent, -, apart⟩ := split_controls wellFormed equal
  have stepsEarlier := steps_foldl_echoes wellFormed ownedStart earlierSubset
  rw [echoAll_eq, equal, List.foldl_append, List.foldl_cons,
    get?_derived_foldl_renewed absent] at owns
  refine ⟨foreign, earlier, dropdown, later, equal, by rw [echoes]; rfl, ?_, ?_⟩
  · rw [← wanted_of_renewed echoes owns]
    exact (wanted_of_steps wellFormed ownedStart stepsEarlier member
      (isSelect_of_derives derives)).2.symm
  · intro other otherIn otherOwns
    -- Another owner would still have the name when the turn of the dropdown comes.
    have still :=
      (get?_derived_foldl_renewed (apart other otherIn) ⟨sync, sheet, []⟩).trans otherOwns
    have ownedEarlier := Steps.isOwned stepsEarlier ownedStart
    have same := eq_of_renewed_owns wellFormed ownedEarlier member owns still
    exact absurd (List.mem_map_of_mem otherIn) (same ▸ absent)

theorem owned_of_rederives (wellFormed : catalog.WellFormed) {sync : Sync} {sheet : Sheet}
    (owned : Owned catalog sync.derived sheet) {name : String}
    (rederives : Rederives catalog sync.derived sheet name) :
    ∃ owner, (echoAll catalog sync sheet).sync.derived.get? owner = some name := by
  have ownedStart : State.IsOwned catalog ⟨sync, sheet, []⟩ := owned
  have ownedAll : (echoAll catalog sync sheet).IsOwned catalog :=
    Steps.isOwned (steps_foldl_echoes wellFormed ownedStart (List.Subset.refl _)) ownedStart
  obtain ⟨foreign, earlier, dropdown, later, equal, hasEcho, asked, keeps⟩ := rederives
  obtain ⟨echo, echoes⟩ := Option.isSome_iff_exists.mp hasEcho
  obtain ⟨⟨earlierSubset, member, laterSubset⟩, absent, different, apart⟩ :=
    split_controls wellFormed equal
  have stepsEarlier := steps_foldl_echoes wellFormed ownedStart earlierSubset
  have ownedEarlier := Steps.isOwned stepsEarlier ownedStart
  have stepsNext := steps_renewed_echoes wellFormed ownedEarlier member
  have ownedNext := Steps.isOwned stepsNext ownedEarlier
  have isAsked := (wanted_of_steps wellFormed ownedStart stepsEarlier member
    (isSelect_of_echo? echoes)).2.trans asked
  have present : (echoAll catalog sync sheet).sheet.contains name = true := by
    rw [echoAll_eq, equal, List.foldl_append, List.foldl_cons]
    refine contains_foldl_renewed wellFormed laterSubset different ownedNext
      (contains_of_wanted wellFormed ownedEarlier member echoes isAsked)
      fun other otherIn owns => ?_
    have notDropdown : dropdown.name ≠ other.name := fun same =>
      absent (same ▸ List.mem_map_of_mem otherIn)
    obtain ⟨-, owning, owningIn, named, derives⟩ := ownedNext.owner other.name name owns
    rw [get?_derived_renewed notDropdown, get?_derived_foldl_renewed (apart other otherIn)] at owns
    have stillAsked := keeps other otherIn owns
    rw [← named] at stillAsked ⊢
    rw [(wanted_of_steps wellFormed ownedStart (stepsEarlier.trans stepsNext) owningIn
      (isSelect_of_derives derives)).2]
    exact stillAsked
  exact (ownedAll.contains_iff foreign).mp present

/-- Beside the controls, exactly what is derived again is there after all. -/
theorem contains_echoAll (wellFormed : catalog.WellFormed) {sync : Sync} {sheet : Sheet}
    (owned : Owned catalog sync.derived sheet) {name : String}
    (foreign : name ∉ catalog.controls.map Control.name) :
    (echoAll catalog sync sheet).sheet.contains name = true ↔
      Rederives catalog sync.derived sheet name := by
  have ownedStart : State.IsOwned catalog ⟨sync, sheet, []⟩ := owned
  have ownedAll : (echoAll catalog sync sheet).IsOwned catalog :=
    Steps.isOwned (steps_foldl_echoes wellFormed ownedStart (List.Subset.refl _)) ownedStart
  rw [ownedAll.contains_iff foreign]
  constructor
  · rintro ⟨owner, owns⟩
    exact rederives_of_owned wellFormed owned owns
  · exact owned_of_rederives wellFormed owned

/-- Every echo holds the choice of its dropdown after all. -/
theorem content?_echoAll (wellFormed : catalog.WellFormed) {sync : Sync} {sheet : Sheet}
    (owned : Owned catalog sync.derived sheet) {dropdown : Control}
    (member : dropdown ∈ catalog.controls) {echo : String}
    (echoes : dropdown.echo? = some echo) :
    (echoAll catalog sync sheet).sheet.content? echo =
      some (.text (choiceOf sheet dropdown.name)) := by
  have ownedStart : State.IsOwned catalog ⟨sync, sheet, []⟩ := owned
  obtain ⟨earlier, later, equal⟩ := List.append_of_mem member
  obtain ⟨⟨earlierSubset, -, laterSubset⟩, absent, -, -⟩ := split_controls wellFormed equal
  obtain ⟨twin, twinIn, rfl, kind⟩ := wellFormed.paired.echo dropdown member echo echoes
  have stepsEarlier := steps_foldl_echoes wellFormed ownedStart earlierSubset
  have ownedEarlier := Steps.isOwned stepsEarlier ownedStart
  have ownedNext := Steps.isOwned (steps_renewed_echoes wellFormed ownedEarlier member) ownedEarlier
  have stepsLater : Steps catalog
      (fun other => ∃ control ∈ later, other.kind = .echo control.name) (fun _ => False)
      (renewed (earlier.foldl renewed ⟨sync, sheet, []⟩) dropdown)
      (later.foldl renewed (renewed (earlier.foldl renewed ⟨sync, sheet, []⟩) dropdown)) :=
    steps_foldl_renewed wellFormed (fun control controlIn _ kind => ⟨control, controlIn, kind⟩)
      laterSubset ownedNext
  have spared : ¬∃ control ∈ later, twin.kind = .echo control.name := by
    rintro ⟨control, controlIn, otherKind⟩
    rw [kind] at otherKind
    exact absent (ControlKind.echo.inj otherKind ▸ List.mem_map_of_mem controlIn)
  rw [echoAll_eq, equal, List.foldl_append, List.foldl_cons,
    Steps.content? stepsLater wellFormed ownedNext twinIn spared, renewed_of_echo? echoes,
    content?_echoChoice wellFormed ownedEarlier member echoes,
    (wanted_of_steps wellFormed ownedStart stepsEarlier member (isSelect_of_echo? echoes)).1]

/-- And every other control holds what it held. -/
theorem content?_echoAll_other (wellFormed : catalog.WellFormed) {sync : Sync} {sheet : Sheet}
    (owned : Owned catalog sync.derived sheet) {control : Control}
    (member : control ∈ catalog.controls) (noEcho : ∀ select, control.kind ≠ .echo select) :
    (echoAll catalog sync sheet).sheet.content? control.name = sheet.content? control.name := by
  have ownedStart : State.IsOwned catalog ⟨sync, sheet, []⟩ := owned
  exact Steps.content? (steps_foldl_echoes wellFormed ownedStart (List.Subset.refl _)) wellFormed
    owned member fun ⟨select, kind⟩ => noEcho select kind

end Questionnaire.Sync

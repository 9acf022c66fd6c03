/-
This file states who owns what in a sheet, and proves that the writes and the taking and giving up
of derived entries keep it so. The entries that are not derived are the controls of the catalog,
each of its kind; every derived entry is the hidden box of exactly one dropdown and named after one
of its options; and what a dropdown is said to have derived is there. An entry can only be added
under a name that nobody has, which is what keeps two dropdowns with colliding names apart.
-/
import Questionnaire.Proofs.Catalog
import Questionnaire.Proofs.Refill

namespace Questionnaire

/-- The content of a kind of control, without its value. -/
def ControlKind.blank : ControlKind → Content
  | .text | .amount _ | .echo _ => .text ""
  | .select options _ => .select "" options
  | .checkbox value _ _ => .checkbox false value

/-- Whether a control is a checkbox. -/
def Control.isBox (control : Control) : Bool :=
  match control.kind with
  | .checkbox _ _ _ => true
  | _ => false

theorem Control.exists_kind_of_isSelect {control : Control} (isSelect : control.isSelect = true) :
    ∃ options echo, control.kind = .select options echo := by
  unfold Control.isSelect at isSelect
  split at isSelect
  next options echo kind => exact ⟨options, echo, kind⟩
  next => cases isSelect

theorem Control.exists_kind_of_isBox {control : Control} (isBox : control.isBox = true) :
    ∃ value amount exclusive, control.kind = .checkbox value amount exclusive := by
  unfold Control.isBox at isBox
  split at isBox
  next value amount exclusive kind => exact ⟨value, amount, exclusive, kind⟩
  next => cases isBox

/-- No select is a box. -/
theorem Control.not_isBox_of_isSelect {control : Control} (isSelect : control.isSelect = true) :
    control.isBox = false := by
  obtain ⟨options, echo, kind⟩ := exists_kind_of_isSelect isSelect
  unfold Control.isBox
  rw [kind]

/-- Whether a name is the one of the derived entry for an option of a dropdown. -/
def Control.Derives (dropdown : Control) (name : String) : Prop :=
  ∃ options echo, dropdown.kind = .select options (some echo) ∧
    ∃ option ∈ options, Sync.derivedName dropdown.name option = some name

/-- Who owns what in a sheet: the catalog its controls, and every dropdown at most one derived
entry, the name of which the map of derived entries gives. -/
structure Owned (catalog : Catalog) (derived : NameMap String) (sheet : Sheet) : Prop where
  control : ∀ control ∈ catalog.controls, ∃ entry, sheet.get? control.name = some entry ∧
    entry.derived = false ∧ entry.content.cleared = control.kind.blank ∧ entry.content.IsChosen
  entry : ∀ name entry, sheet.get? name = some entry → entry.derived = false →
    ∃ control ∈ catalog.controls, control.name = name
  option : ∀ name entry, sheet.get? name = some entry → entry.derived = true →
    entry.hidden = true ∧ (∃ checked value, entry.content = .checkbox checked value) ∧
      ∃ owner, derived.get? owner = some name
  owner : ∀ owner name, derived.get? owner = some name →
    (∃ entry, sheet.get? name = some entry ∧ entry.derived = true) ∧
      ∃ dropdown ∈ catalog.controls, dropdown.name = owner ∧ dropdown.Derives name
  apart : ∀ first second name, derived.get? first = some name → derived.get? second = some name →
    first = second

namespace Owned

variable {catalog : Catalog} {derived : NameMap String} {sheet : Sheet}

/-! ### What ownership says -/

/-- The derived entries are those without a control of their name. -/
theorem derived_iff (owned : Owned catalog derived sheet) {name : String} {entry : Entry}
    (found : sheet.get? name = some entry) :
    entry.derived = true ↔ name ∉ catalog.controls.map Control.name := by
  constructor
  · intro isDerived isControl
    obtain ⟨control, member, rfl⟩ := List.mem_map.mp isControl
    obtain ⟨other, otherFound, notDerived, -⟩ := owned.control control member
    rw [found] at otherFound
    cases otherFound
    rw [isDerived] at notDerived
    cases notDerived
  · intro foreign
    cases isDerived : entry.derived with
    | true => rfl
    | false => exact absurd (List.mem_map.mpr (owned.entry name entry found isDerived)) foreign

/-- Derived entries and controls have different names. -/
theorem not_control (owned : Owned catalog derived sheet) {owner name : String}
    (owns : derived.get? owner = some name) : ∀ control ∈ catalog.controls,
      control.name ≠ name := by
  intro control member same
  obtain ⟨⟨entry, found, isDerived⟩, -⟩ := owned.owner owner name owns
  exact (owned.derived_iff found).mp isDerived (List.mem_map.mpr ⟨control, member, same⟩)

theorem notMem_controls (owned : Owned catalog derived sheet) {owner name : String}
    (owns : derived.get? owner = some name) : name ∉ catalog.controls.map Control.name := by
  intro isControl
  obtain ⟨control, member, named⟩ := List.mem_map.mp isControl
  exact owned.not_control owns control member named

/-- All controls are there. -/
theorem contains_control (owned : Owned catalog derived sheet) {control : Control}
    (member : control ∈ catalog.controls) : sheet.contains control.name = true := by
  obtain ⟨entry, present, -⟩ := owned.control control member
  exact NameMap.contains_iff.mpr ⟨entry, present⟩

/-- Whatever a dropdown has derived is there. -/
theorem contains_derived (owned : Owned catalog derived sheet) {owner name : String}
    (owns : derived.get? owner = some name) : sheet.contains name = true := by
  obtain ⟨⟨entry, present, -⟩, -⟩ := owned.owner owner name owns
  exact NameMap.contains_iff.mpr ⟨entry, present⟩

/-- Beside the controls, exactly what dropdowns have derived is there. -/
theorem contains_iff (owned : Owned catalog derived sheet) {name : String}
    (foreign : name ∉ catalog.controls.map Control.name) :
    sheet.contains name = true ↔ ∃ owner, derived.get? owner = some name := by
  rw [NameMap.contains_iff]
  constructor
  · rintro ⟨entry, found⟩
    exact (owned.option name entry found ((owned.derived_iff found).mpr foreign)).2.2
  · rintro ⟨owner, owns⟩
    exact NameMap.contains_iff.mp (owned.contains_derived owns)

/-- A select holds a choice from the options of its control. -/
theorem select (owned : Owned catalog derived sheet) {control : Control}
    (member : control ∈ catalog.controls) {options : List String} {echo : Option String}
    (kind : control.kind = .select options echo) :
    ∃ choice, sheet.content? control.name = some (.select choice options) ∧
      (choice = "" ∨ Answer.option? options choice = some choice) := by
  obtain ⟨entry, present, -, blank, chosen⟩ := owned.control control member
  rw [kind] at blank
  rw [Sheet.content?_eq, present]
  cases held : entry.content with
  | text _ => rw [held] at blank; cases blank
  | select choice other =>
    rw [held] at blank chosen
    cases blank
    exact ⟨choice, by rw [Option.map_some, held], chosen⟩
  | checkbox _ _ => rw [held] at blank; cases blank

/-- A checkbox holds its own value, checked or not. -/
theorem checkbox (owned : Owned catalog derived sheet) {control : Control}
    (member : control ∈ catalog.controls) {value : String} {amount : Option String}
    {exclusive : Bool} (kind : control.kind = .checkbox value amount exclusive) :
    ∃ checked, sheet.content? control.name = some (.checkbox checked value) := by
  obtain ⟨entry, present, -, blank, -⟩ := owned.control control member
  rw [kind] at blank
  rw [Sheet.content?_eq, present]
  cases held : entry.content with
  | text _ => rw [held] at blank; cases blank
  | select _ _ => rw [held] at blank; cases blank
  | checkbox checked other =>
    rw [held] at blank
    cases blank
    exact ⟨checked, by rw [Option.map_some, held]⟩

/-- A control that is neither a select nor a checkbox holds a text. -/
theorem text (owned : Owned catalog derived sheet) {control : Control}
    (member : control ∈ catalog.controls) (kind : control.kind.blank = .text "") :
    ∃ words, sheet.content? control.name = some (.text words) := by
  obtain ⟨entry, present, -, blank, -⟩ := owned.control control member
  rw [kind] at blank
  rw [Sheet.content?_eq, present]
  cases held : entry.content with
  | text words => exact ⟨words, by rw [Option.map_some, held]⟩
  | select _ _ => rw [held] at blank; cases blank
  | checkbox _ _ => rw [held] at blank; cases blank

/-- Only a checkbox is checked or unchecked. -/
theorem isBox_of_checked? (owned : Owned catalog derived sheet) {control : Control}
    (member : control ∈ catalog.controls) {checked : Bool}
    (holds : sheet.checked? control.name = some checked) : control.isBox = true := by
  obtain ⟨entry, present, -, blank, -⟩ := owned.control control member
  unfold Sheet.checked? Sheet.content? at holds
  rw [present, Option.map_some, Option.bind_some] at holds
  unfold Control.isBox
  cases kind : control.kind with
  | checkbox _ _ _ => rfl
  | text | amount _ | echo _ | select _ _ =>
    rw [kind] at blank
    cases held : entry.content with
    | text _ => rw [held] at holds; cases holds
    | select _ _ => rw [held] at holds; cases holds
    | checkbox _ _ => rw [held] at blank; cases blank

/-- Only a checkbox can be checked or unchecked. -/
theorem isBox_of_setChecked (owned : Owned catalog derived sheet) {control : Control}
    (member : control ∈ catalog.controls) {checked : Bool} {result : Sheet × Bool}
    (written : sheet.setChecked control.name checked = .ok result) : control.isBox = true := by
  obtain ⟨entry, content, present, takes, -⟩ := Sheet.setChecked_eq_ok written
  cases held : entry.content with
  | text _ => rw [held] at takes; cases takes
  | select _ _ => rw [held] at takes; cases takes
  | checkbox old value =>
    have checked : sheet.checked? control.name = some old := by
      unfold Sheet.checked? Sheet.content?
      rw [present, Option.map_some, Option.bind_some, held]
      rfl
    exact owned.isBox_of_checked? member checked

/-! ### Writes -/

/-- Writes change no owner. -/
theorem refilled {after : Sheet} (owned : Owned catalog derived sheet)
    (refilled : Sheet.Refilled sheet after) : Owned catalog derived after := by
  constructor
  case control =>
    intro control member
    obtain ⟨entry, present, notDerived, blank, chosen⟩ := owned.control control member
    obtain ⟨content, found, refills⟩ := refilled.entry _ entry present
    exact ⟨_, found, notDerived, refills.cleared.trans blank, refills.isChosen chosen⟩
  case entry =>
    intro name entry present notDerived
    obtain ⟨old, content, before, rfl, -⟩ := refilled.exists_old present
    exact owned.entry name old before notDerived
  case option =>
    intro name entry present isDerived
    obtain ⟨old, content, before, rfl, refills⟩ := refilled.exists_old present
    obtain ⟨hidden, ⟨checked, value, held⟩, owner⟩ := owned.option name old before isDerived
    refine ⟨hidden, ?_, owner⟩
    have cleared := refills.cleared
    rw [held] at cleared
    cases content with
    | text _ => cases cleared
    | select _ _ => cases cleared
    | checkbox other _ => exact ⟨other, _, rfl⟩
  case owner =>
    intro owner name owns
    obtain ⟨⟨entry, present, isDerived⟩, dropdown⟩ := owned.owner owner name owns
    obtain ⟨content, found, -⟩ := refilled.entry name entry present
    exact ⟨⟨_, found, isDerived⟩, dropdown⟩
  case apart => exact owned.apart

/-- Neither does hiding or showing a control. -/
theorem setHidden (owned : Owned catalog derived sheet) {control : Control}
    (member : control ∈ catalog.controls) (hidden : Bool) :
    Owned catalog derived (sheet.setHidden control.name hidden).1 := by
  obtain ⟨held, heldPresent, heldNotDerived, -⟩ := owned.control control member
  have found : ∀ name, (sheet.setHidden control.name hidden).1.get? name =
      if control.name = name then some { held with hidden } else sheet.get? name := by
    intro name
    rw [Sheet.get?_setHidden]
    split
    next equal => rw [← equal, heldPresent, Option.map_some]
    next => rfl
  constructor
  case control =>
    intro other otherIn
    obtain ⟨entry, present, facts⟩ := owned.control other otherIn
    rw [found]
    split
    next equal =>
      rw [← equal, heldPresent] at present
      cases present
      exact ⟨_, rfl, facts⟩
    next => exact ⟨entry, present, facts⟩
  case entry =>
    intro name entry present notDerived
    rw [found] at present
    split at present
    next equal => exact ⟨control, member, equal⟩
    next => exact owned.entry name entry present notDerived
  case option =>
    intro name entry present isDerived
    rw [found] at present
    split at present
    next =>
      cases present
      rw [heldNotDerived] at isDerived
      cases isDerived
    next => exact owned.option name entry present isDerived
  case owner =>
    intro owner name owns
    rw [found, if_neg (owned.not_control owns control member)]
    exact owned.owner owner name owns
  case apart => exact owned.apart

/-! ### Giving up a derived entry -/

/-- A sheet without the derived entry that a dropdown gives up. -/
theorem erase (owned : Owned catalog derived sheet) {select previous : String}
    (owns : derived.get? select = some previous) :
    Owned catalog (derived.erase select) (sheet.erase previous) := by
  constructor
  case control =>
    intro control member
    rw [NameMap.get?_erase, if_neg (owned.not_control owns control member).symm]
    exact owned.control control member
  case entry =>
    intro name entry present notDerived
    rw [NameMap.get?_erase] at present
    split at present
    next => cases present
    next => exact owned.entry name entry present notDerived
  case option =>
    intro name entry present isDerived
    rw [NameMap.get?_erase] at present
    split at present
    next => cases present
    next other =>
      obtain ⟨hidden, held, owner, ownerOwns⟩ := owned.option name entry present isDerived
      refine ⟨hidden, held, owner, ?_⟩
      rw [NameMap.get?_erase, if_neg]
      · exact ownerOwns
      · rintro rfl
        rw [owns] at ownerOwns
        exact other (Option.some.inj ownerOwns)
  case owner =>
    intro owner name ownerOwns
    rw [NameMap.get?_erase] at ownerOwns
    split at ownerOwns
    next => cases ownerOwns
    next other =>
      obtain ⟨⟨entry, present, isDerived⟩, dropdown⟩ := owned.owner owner name ownerOwns
      refine ⟨⟨entry, ?_, isDerived⟩, dropdown⟩
      rw [NameMap.get?_erase, if_neg]
      · exact present
      · rintro rfl
        exact other (owned.apart _ _ _ owns ownerOwns)
  case apart =>
    intro first second name firstOwns secondOwns
    rw [NameMap.get?_erase] at firstOwns secondOwns
    split at firstOwns
    next => cases firstOwns
    next =>
      split at secondOwns
      next => cases secondOwns
      next => exact owned.apart _ _ _ firstOwns secondOwns

/-! ### Taking a derived entry -/

/-- A sheet with a derived entry under a name that nobody has. -/
theorem insert (owned : Owned catalog derived sheet) {dropdown : Control}
    (member : dropdown ∈ catalog.controls) {name : String} (derives : dropdown.Derives name)
    (free : derived.get? dropdown.name = none) (unused : sheet.get? name = none)
    (choice : String) :
    Owned catalog (derived.insert dropdown.name name)
      (sheet.insert name ⟨.checkbox true choice, true, true⟩) := by
  have other_of_owns : ∀ owner entryName, derived.get? owner = some entryName →
      dropdown.name ≠ owner ∧ name ≠ entryName := by
    intro owner entryName owns
    constructor
    · rintro rfl
      rw [free] at owns
      cases owns
    · rintro rfl
      obtain ⟨⟨entry, present, -⟩, -⟩ := owned.owner _ _ owns
      rw [unused] at present
      cases present
  constructor
  case control =>
    intro control controlIn
    obtain ⟨entry, present, facts⟩ := owned.control control controlIn
    refine ⟨entry, ?_, facts⟩
    rw [NameMap.get?_insert, if_neg]
    · exact present
    · rintro rfl
      rw [unused] at present
      cases present
  case entry =>
    intro other entry present notDerived
    rw [NameMap.get?_insert] at present
    split at present
    next => cases present; cases notDerived
    next => exact owned.entry other entry present notDerived
  case option =>
    intro other entry present isDerived
    rw [NameMap.get?_insert] at present
    split at present
    next equal =>
      cases present
      refine ⟨rfl, ⟨true, choice, rfl⟩, dropdown.name, ?_⟩
      rw [NameMap.get?_insert_self, equal]
    next =>
      obtain ⟨hidden, held, owner, owns⟩ := owned.option other entry present isDerived
      refine ⟨hidden, held, owner, ?_⟩
      rw [NameMap.get?_insert, if_neg (other_of_owns owner other owns).1]
      exact owns
  case owner =>
    intro owner entryName owns
    rw [NameMap.get?_insert] at owns
    split at owns
    next equal =>
      cases owns
      exact ⟨⟨_, NameMap.get?_insert_self _ _ _, rfl⟩, dropdown, member, equal, derives⟩
    next =>
      obtain ⟨⟨entry, present, isDerived⟩, owning⟩ := owned.owner owner entryName owns
      refine ⟨⟨entry, ?_, isDerived⟩, owning⟩
      rw [NameMap.get?_insert, if_neg (other_of_owns owner entryName owns).2]
      exact present
  case apart =>
    intro first second entryName firstOwns secondOwns
    rw [NameMap.get?_insert] at firstOwns secondOwns
    split at firstOwns
    next firstEqual =>
      cases firstOwns
      split at secondOwns
      next secondEqual => rw [← firstEqual, secondEqual]
      next => exact absurd rfl (other_of_owns second _ secondOwns).2
    next =>
      split at secondOwns
      next =>
        cases secondOwns
        exact absurd rfl (other_of_owns first _ firstOwns).2
      next => exact owned.apart first second entryName firstOwns secondOwns

end Owned

/-! ### The first sheet -/

theorem cleared_initialContent (control : Control) :
    (Sheet.initialContent control).cleared = control.kind.blank := by
  unfold Sheet.initialContent
  cases control.kind <;> rfl

theorem isChosen_initialContent (control : Control) :
    (Sheet.initialContent control).IsChosen := by
  unfold Sheet.initialContent
  cases control.kind with
  | select options echo =>
    show _ = "" ∨ _
    cases chosen : Answer.option? options (control.preset.getD "") with
    | none => exact .inl rfl
    | some option => exact .inr (Answer.option?_self chosen)
  | text | checkbox _ _ _ | amount _ | echo _ => trivial

/-- The first sheet of a catalog has one entry for each control, and no other. -/
theorem get?_ofCatalog {catalog : Catalog} (wellFormed : catalog.WellFormed) (name : String) :
    (Sheet.ofCatalog catalog).get? name = (catalog.control? name).map fun control =>
      ⟨Sheet.initialContent control, control.hidden, false⟩ := by
  unfold Sheet.ofCatalog
  rw [NameMap.get?_ofList]
  · unfold Catalog.control?
    induction catalog.controls with
    | nil => rfl
    | cons control rest inductionHypothesis =>
      rw [List.map_cons, NameMap.find]
      by_cases equal : control.name = name
      · rw [if_pos equal, List.find?_cons_of_pos (by simpa using equal)]
        rfl
      · rw [if_neg equal, List.find?_cons_of_neg (by simpa using equal)]
        exact inductionHypothesis
  · rw [List.map_map]
    exact wellFormed.nodup

theorem owned_ofCatalog {catalog : Catalog} (wellFormed : catalog.WellFormed) :
    Owned catalog NameMap.empty (Sheet.ofCatalog catalog) where
  control control member := by
    rw [get?_ofCatalog wellFormed, wellFormed.control?_of_mem member]
    exact ⟨_, rfl, rfl, cleared_initialContent control, isChosen_initialContent control⟩
  entry name entry present _ := by
    rw [get?_ofCatalog wellFormed] at present
    obtain ⟨control, found, -⟩ := Option.map_eq_some_iff.mp present
    exact ⟨control, Catalog.mem_of_control?_eq_some found⟩
  option name entry present isDerived := by
    rw [get?_ofCatalog wellFormed] at present
    obtain ⟨control, -, rfl⟩ := Option.map_eq_some_iff.mp present
    cases isDerived
  owner _ _ owns := by cases owns
  apart _ _ _ owns := by cases owns

end Questionnaire

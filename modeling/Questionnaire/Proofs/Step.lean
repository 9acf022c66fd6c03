/-
This file takes the carrying of a change apart into elementary steps. A step writes a control, shows
or hides one, gives up a derived entry or takes one, or notes something beside the sheet. Whatever
all steps keep, everything that is made of steps keeps: the owners of entries, the report of what
changed, the controls that were not to be written, and the check marks of derived entries.
-/
import Mathlib.Logic.Relation
import Questionnaire.Proofs.Ownership

namespace Questionnaire.Sync

/-! ### Elementary steps -/

/-- An elementary step. It is told which controls it may write and which it may show or hide. -/
inductive Step (catalog : Catalog) (writes shows : Control → Prop) : State → State → Prop where
  | write {state : State} {control : Control} {result : Sheet × Bool}
      (member : control ∈ catalog.controls) (may : writes control)
      (written : Sheet.Write state.sheet control.name result) :
      Step catalog writes shows state (state.note control.name result)
  | reveal {state : State} {control : Control} {hidden : Bool}
      (member : control ∈ catalog.controls) (may : shows control) :
      Step catalog writes shows state
        { state with sheet := (state.sheet.setHidden control.name hidden).1 }
  | release {state : State} {owner name : String}
      (owns : state.sync.derived.get? owner = some name) :
      Step catalog writes shows state
        ({ state with sync.derived := state.sync.derived.erase owner }.note name
          (state.sheet.dropDerived name))
  | acquire {state : State} {dropdown : Control} {name choice : String}
      (member : dropdown ∈ catalog.controls) (derives : dropdown.Derives name)
      (free : state.sync.derived.get? dropdown.name = none)
      (unused : state.sheet.get? name = none) :
      Step catalog writes shows state
        { sync := { state.sync with derived := state.sync.derived.insert dropdown.name name }
          sheet := state.sheet.insert name ⟨.checkbox true choice, true, true⟩
          changed := state.changed ++ [name] }
  | aside {state : State} {inFlight : List Channel} {warnings : List SyncWarning} :
      Step catalog writes shows state
        { state with sync := { state.sync with inFlight, warnings } }

/-- Any number of elementary steps. -/
abbrev Steps (catalog : Catalog) (writes shows : Control → Prop) : State → State → Prop :=
  Relation.ReflTransGen (Step catalog writes shows)

/-- Whether the owners of a state are in order. -/
abbrev State.IsOwned (catalog : Catalog) (state : State) : Prop :=
  Owned catalog state.sync.derived state.sheet

variable {catalog : Catalog} {writes shows : Control → Prop} {before after : State}

/-! ### What every step keeps -/

theorem dropDerived_eq_erase {sheet : Sheet} {derived : NameMap String} {owner name : String}
    (owned : Owned catalog derived sheet) (owns : derived.get? owner = some name) :
    sheet.dropDerived name = (sheet.erase name, true) := by
  obtain ⟨⟨entry, present, isDerived⟩, -⟩ := owned.owner owner name owns
  unfold Sheet.dropDerived
  rw [present, Option.any_some, if_pos isDerived]

theorem Step.isOwned (step : Step catalog writes shows before after)
    (owned : before.IsOwned catalog) : after.IsOwned catalog := by
  cases step with
  | write member may written => exact owned.refilled written.refilled
  | reveal member may => exact owned.setHidden member _
  | release owns =>
    show Owned catalog _ (before.sheet.dropDerived _).1
    rw [dropDerived_eq_erase owned owns]
    exact owned.erase owns
  | acquire member derives free unused => exact owned.insert member derives free unused _
  | aside => exact owned

/-- Whether a state lists, beyond what an earlier one lists, everything in which their sheets
differ. -/
def State.Reports (before after : State) : Prop :=
  ∃ more, after.changed = before.changed ++ more ∧
    Sheet.AgreeOff more before.sheet after.sheet

theorem State.Reports.refl (state : State) : state.Reports state :=
  ⟨[], by simp, .refl _ _⟩

theorem State.Reports.trans {first second third : State} (left : first.Reports second)
    (right : second.Reports third) : first.Reports third := by
  obtain ⟨more, listed, agree⟩ := left
  obtain ⟨last, lastListed, lastAgree⟩ := right
  exact ⟨more ++ last, by rw [lastListed, listed, List.append_assoc], agree.trans lastAgree⟩

theorem agreeOff_dropDerived (sheet : Sheet) (name : String) :
    Sheet.AgreeOff (Sheet.reported name (sheet.dropDerived name).2) sheet
      (sheet.dropDerived name).1 := by
  intro other unlisted
  unfold Sheet.dropDerived at unlisted ⊢
  split
  next derived =>
    rw [if_pos derived] at unlisted
    rw [Sheet.content?_eq, Sheet.content?_eq, NameMap.get?_erase, if_neg]
    exact fun equal => unlisted (List.mem_singleton.mpr equal.symm)
  next => rfl

theorem content?_setHidden (sheet : Sheet) (name other : String) (hidden : Bool) :
    (sheet.setHidden name hidden).1.content? other = sheet.content? other := by
  rw [Sheet.content?_eq, Sheet.content?_eq, Sheet.get?_setHidden]
  split
  next => rw [Option.map_map]; rfl
  next => rfl

theorem note_changed (state : State) (name : String) (result : Sheet × Bool) :
    (state.note name result).changed = state.changed ++ Sheet.reported name result.2 := by
  unfold State.note Sheet.reported
  cases result.2 <;> simp

theorem Step.reports (step : Step catalog writes shows before after) : before.Reports after := by
  cases step with
  | write member may written => exact ⟨_, note_changed before _ _, written.agreeOff⟩
  | reveal member may =>
    exact ⟨[], by simp, fun name _ => (content?_setHidden before.sheet _ name _).symm⟩
  | release owns =>
    exact ⟨_, note_changed _ _ _, agreeOff_dropDerived before.sheet _⟩
  | acquire member derives free unused =>
    refine ⟨[_], rfl, fun name unlisted => ?_⟩
    rw [Sheet.content?_eq, Sheet.content?_eq, NameMap.get?_insert, if_neg]
    exact fun equal => unlisted (List.mem_singleton.mpr equal.symm)
  | aside => exact .refl _

/-- A control that was not to be written holds what it held. -/
theorem Step.content? (step : Step catalog writes shows before after)
    (wellFormed : catalog.WellFormed) (owned : before.IsOwned catalog) {control : Control}
    (member : control ∈ catalog.controls) (mayNot : ¬writes control) :
    after.sheet.content? control.name = before.sheet.content? control.name := by
  cases step with
  | @write written result writtenIn may write =>
    refine (write.agreeOff _ fun listed => mayNot ?_).symm
    rwa [wellFormed.eq_of_name_eq member writtenIn (Sheet.eq_of_mem_reported listed)]
  | reveal => exact content?_setHidden before.sheet _ _ _
  | release owns =>
    show (before.sheet.dropDerived _).1.content? _ = _
    rw [dropDerived_eq_erase owned owns, Sheet.content?_eq, NameMap.get?_erase,
      if_neg (owned.not_control owns control member).symm]
    rfl
  | acquire _ _ _ unused =>
    show Sheet.content? (before.sheet.insert _ _) _ = _
    rw [Sheet.content?_eq, NameMap.get?_insert, if_neg]
    · rfl
    · rintro rfl
      obtain ⟨entry, present, -⟩ := owned.control control member
      rw [unused] at present
      cases present
  | aside => rfl

/-- A control that was not to be shown or hidden is hidden or not as it was. -/
theorem Step.isHidden (step : Step catalog writes shows before after)
    (wellFormed : catalog.WellFormed) (owned : before.IsOwned catalog) {control : Control}
    (member : control ∈ catalog.controls) (mayNot : ¬shows control) :
    after.sheet.isHidden control.name = before.sheet.isHidden control.name := by
  cases step with
  | write _ _ written => exact written.refilled.isHidden control.name
  | @reveal shown hidden shownIn may =>
    show (before.sheet.setHidden _ _).1.isHidden _ = _
    have different : shown.name ≠ control.name := fun equal =>
      mayNot (wellFormed.eq_of_name_eq shownIn member equal ▸ may)
    unfold Sheet.isHidden
    rw [Sheet.get?_setHidden, if_neg different]
  | release owns =>
    show (before.sheet.dropDerived _).1.isHidden _ = _
    rw [dropDerived_eq_erase owned owns]
    unfold Sheet.isHidden
    rw [NameMap.get?_erase, if_neg (owned.not_control owns control member).symm]
  | acquire _ _ _ unused =>
    show Sheet.isHidden (before.sheet.insert _ _) _ = _
    unfold Sheet.isHidden
    rw [NameMap.get?_insert, if_neg]
    rintro rfl
    obtain ⟨entry, present, -⟩ := owned.control control member
    rw [unused] at present
    cases present
  | aside => rfl

variable {among : String → Prop}

/-- Whether all derived entries of a sheet that are among some names are checked. -/
def AllChecked (among : String → Prop) (sheet : Sheet) : Prop :=
  ∀ name entry, among name → sheet.get? name = some entry → entry.derived = true →
    entry.content.checked? = some true

/-- Derived entries that keep what they hold stay checked. -/
theorem AllChecked.refilled {sheet after : Sheet} (checked : AllChecked among sheet)
    (refilled : Sheet.Refilled sheet after)
    (same : ∀ name entry, sheet.get? name = some entry → entry.derived = true →
      sheet.content? name = after.content? name) : AllChecked among after := by
  intro name entry isAmong present isDerived
  obtain ⟨held, content, old, rfl, -⟩ := refilled.exists_old present
  have kept := same name held old isDerived
  rw [Sheet.content?_eq, Sheet.content?_eq, old, present] at kept
  show content.checked? = some true
  rw [show content = held.content from (Option.some.inj kept).symm]
  exact checked name held isAmong old isDerived

/-- Writing a control unchecks no derived entry. -/
theorem AllChecked.write {derived : NameMap String} {sheet : Sheet} {control : Control}
    {result : Sheet × Bool} (checked : AllChecked among sheet) (owned : Owned catalog derived sheet)
    (member : control ∈ catalog.controls) (written : Sheet.Write sheet control.name result) :
    AllChecked among result.1 := by
  refine checked.refilled written.refilled fun name entry present isDerived => ?_
  refine written.agreeOff name fun listed => ?_
  rw [Sheet.eq_of_mem_reported listed] at present
  exact (owned.derived_iff present).mp isDerived (List.mem_map_of_mem member)

theorem AllChecked.setHidden {sheet : Sheet} (checked : AllChecked among sheet) (name : String)
    (hidden : Bool) : AllChecked among (sheet.setHidden name hidden).1 := by
  intro other entry isAmong found isDerived
  rw [Sheet.get?_setHidden] at found
  split at found
  next =>
    obtain ⟨held, present, rfl⟩ := Option.map_eq_some_iff.mp found
    exact checked other held isAmong present isDerived
  next => exact checked other entry isAmong found isDerived

/-- No step unchecks a derived entry: it writes controls, and what it takes is checked. -/
theorem Step.allChecked (step : Step catalog writes shows before after)
    (owned : before.IsOwned catalog) (checked : AllChecked among before.sheet) :
    AllChecked among after.sheet := by
  cases step with
  | write member _ written => exact checked.write owned member written
  | reveal => exact checked.setHidden _ _
  | release owns =>
    show AllChecked among (before.sheet.dropDerived _).1
    rw [dropDerived_eq_erase owned owns]
    intro name entry isAmong present isDerived
    rw [NameMap.get?_erase] at present
    split at present
    next => cases present
    next => exact checked name entry isAmong present isDerived
  | acquire =>
    intro name entry isAmong present isDerived
    rw [NameMap.get?_insert] at present
    split at present
    next => cases present; rfl
    next => exact checked name entry isAmong present isDerived
  | aside => exact checked

/-! ### What many steps keep -/

theorem Steps.isOwned (steps : Steps catalog writes shows before after)
    (owned : before.IsOwned catalog) : after.IsOwned catalog := by
  induction steps with
  | refl => exact owned
  | tail _ step inductionHypothesis => exact step.isOwned inductionHypothesis

theorem Steps.reports (steps : Steps catalog writes shows before after) :
    before.Reports after := by
  induction steps with
  | refl => exact .refl _
  | tail _ step inductionHypothesis => exact inductionHypothesis.trans step.reports

theorem Steps.content? (steps : Steps catalog writes shows before after)
    (wellFormed : catalog.WellFormed) (owned : before.IsOwned catalog) {control : Control}
    (member : control ∈ catalog.controls) (mayNot : ¬writes control) :
    after.sheet.content? control.name = before.sheet.content? control.name := by
  induction steps with
  | refl => rfl
  | tail steps step inductionHypothesis =>
    rw [step.content? wellFormed (isOwned steps owned) member mayNot, inductionHypothesis]

theorem Steps.isHidden (steps : Steps catalog writes shows before after)
    (wellFormed : catalog.WellFormed) (owned : before.IsOwned catalog) {control : Control}
    (member : control ∈ catalog.controls) (mayNot : ¬shows control) :
    after.sheet.isHidden control.name = before.sheet.isHidden control.name := by
  induction steps with
  | refl => rfl
  | tail steps step inductionHypothesis =>
    rw [step.isHidden wellFormed (isOwned steps owned) member mayNot, inductionHypothesis]

theorem Steps.allChecked (steps : Steps catalog writes shows before after)
    (owned : before.IsOwned catalog) (checked : AllChecked among before.sheet) :
    AllChecked among after.sheet := by
  induction steps with
  | refl => exact checked
  | tail steps step inductionHypothesis =>
    exact step.allChecked (isOwned steps owned) inductionHypothesis

end Questionnaire.Sync

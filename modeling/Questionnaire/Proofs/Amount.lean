/-
This file says when an amount is shown. A change that is carried to a box shows or hides its amount
as the box is then checked or not, and nothing else shows or hides an amount. But a box can also be
written without being carried: by a calculation, and by exported values that are taken over. So an
amount follows the state in which its box was last carried, which need not be the state it is in.
-/
import Questionnaire.Proofs.Run

namespace Questionnaire

namespace Sync

variable {catalog : Catalog} {state : State} {origin : String}

/-! ### Carrying a change to a box -/

/-- Whether the amount of a box, if the name is the one of a box with an amount, is hidden exactly
if the box is not checked. -/
def Follows (catalog : Catalog) (name : String) (sheet : Sheet) : Prop :=
  ∀ box ∈ catalog.controls, box.name = name → ∀ amount, box.amount? = some amount →
    sheet.isHidden amount = !(sheet.checked? name == some true)

theorem exists_kind_of_amount? {box : Control} {amount : String}
    (has : box.amount? = some amount) :
    ∃ value exclusive, box.kind = .checkbox value (some amount) exclusive := by
  unfold Control.amount? at has
  split at has
  next value other exclusive kind => exact ⟨value, exclusive, by rw [kind, has]⟩
  next => cases has

theorem attend_of_amount? {box : Control} {amount : String} (has : box.amount? = some amount)
    (state : State) : attend catalog state box =
      followAmount (enforceExclusion catalog state box) box.name amount := by
  obtain ⟨value, exclusive, kind⟩ := exists_kind_of_amount? has
  unfold attend
  simp only [kind]

theorem ne_of_amount? {box part : Control} {amount : String} (has : box.amount? = some amount)
    (kind : part.kind = .amount box.name) : part ≠ box := by
  rintro rfl
  obtain ⟨value, exclusive, isBox⟩ := exists_kind_of_amount? has
  rw [kind] at isBox
  cases isBox

/-- A visited box has its amount follow it. -/
theorem follows_visit (wellFormed : catalog.WellFormed) {sync : Sync} {sheet : Sheet}
    (owned : Owned catalog sync.derived sheet) (name : String) :
    Follows catalog name (visit catalog origin name sync sheet).sheet := by
  rintro box member rfl amount has
  obtain ⟨value, exclusive, kind⟩ := exists_kind_of_amount? has
  obtain ⟨part, partIn, rfl, partKind, -⟩ := wellFormed.paired.amount box member amount has
  have ownedState : State.IsOwned catalog ⟨sync, sheet, []⟩ := owned
  have excludes : Steps catalog (fun _ => True) (fun _ => True) ⟨sync, sheet, []⟩
      (enforceExclusion catalog ⟨sync, sheet, []⟩ box) :=
    steps_enforceExclusion wellFormed ownedState fun _ _ _ => trivial
  have ownedExcluded := Steps.isOwned excludes owned
  have follows : Steps catalog (part = ·) (part = ·)
      (enforceExclusion catalog ⟨sync, sheet, []⟩ box)
      (followAmount (enforceExclusion catalog ⟨sync, sheet, []⟩ box) box.name part.name) :=
    steps_followAmount partIn rfl rfl box.name
  rw [visit_of_isBox wellFormed member (amount?_of_kind kind).2, attend_of_amount? has,
    isHidden_followAmount]
  · rw [Sheet.checked?_congr
      (Steps.content? follows wellFormed ownedExcluded member (ne_of_amount? has partKind))]
  · exact ownedExcluded.contains_control partIn

/-- Visits of other controls leave it so, unless they change the box. -/
theorem follows_visit_other (wellFormed : catalog.WellFormed) {sync : Sync} {sheet : Sheet}
    (owned : Owned catalog sync.derived sheet) {control name : String} (other : name ≠ control)
    (unchanged : name ∉ (visit catalog origin control sync sheet).changed)
    (follows : Follows catalog name sheet) :
    Follows catalog name (visit catalog origin control sync sheet).sheet := by
  rintro box member rfl amount has
  obtain ⟨part, partIn, rfl, partKind, -⟩ := wellFormed.paired.amount box member amount has
  have same := agreeOff_visit wellFormed owned control box.name unchanged
  have hidden := Steps.isHidden (steps_visit wellFormed owned origin control) wellFormed owned
    partIn (by rw [partKind]; rintro ⟨⟩; exact other rfl)
  rw [hidden]
  rw [← Sheet.checked?_congr same]
  exact follows box member rfl part.name has

/-- The amount of every touched box follows it when a change has been carried. -/
theorem follows_propagate (wellFormed : catalog.WellFormed) {sync : Sync} {sheet : Sheet}
    (owned : Owned catalog sync.derived sheet) (origin : String) {name : String}
    (touched : name ∈ (propagate catalog sync sheet origin).changed) :
    Follows catalog name (propagate catalog sync sheet origin).sheet :=
  propagate_settles wellFormed owned origin
    (fun _ _ name owned => follows_visit wellFormed owned name)
    (fun _ _ _ _ owned other unchanged => follows_visit_other wellFormed owned other unchanged)
    name (.inl touched)

end Sync

namespace Session

variable {catalog : Catalog}

/-! ### The state in which a box was last carried -/

/-- Whether a box starts checked. -/
def startsChecked (catalog : Catalog) (box : String) : Bool :=
  (Sheet.ofCatalog catalog).checked? box == some true

/-- Whether a box was checked when it was last carried, after one more operation. -/
def carriedAfter (session : Session) (box : String) (before : Bool) : Operation → Bool
  | .restore _ _ => startsChecked session.catalog box
  | operation =>
    match session.write? operation with
    | some (control, sheet, true) =>
      let wave := Sync.propagate session.catalog session.sync sheet control
      if wave.changed.contains box then wave.sheet.checked? box == some true else before
    | _ => before

/-- Whether a box was checked when it was last carried in a run. One that never was counts as it
starts. -/
def carried (catalog : Catalog) (box : String) (operations : List Operation) : Bool :=
  (operations.foldl
    (fun (state : Session × Bool) operation =>
      (state.1.perform operation, state.1.carriedAfter box state.2 operation))
    (start catalog, startsChecked catalog box)).2

/-! ### What shows and hides an amount -/

theorem isHidden_echoAll (wellFormed : catalog.WellFormed) {sync : Sync} {sheet : Sheet}
    (owned : Owned catalog sync.derived sheet) {part : Control} (member : part ∈ catalog.controls) :
    (Sync.echoAll catalog sync sheet).sheet.isHidden part.name = sheet.isHidden part.name := by
  have steps : Sync.Steps catalog (fun _ => True) (fun _ => False) ⟨sync, sheet, []⟩
      (Sync.echoAll catalog sync sheet) :=
    Sync.steps_echoAll wellFormed owned fun _ _ _ => trivial
  exact Sync.Steps.isHidden steps wellFormed owned member id

theorem isHidden_run (tiers : Tiers) (catalog : Catalog) (sheet : Sheet) (name : String) :
    (Derivation.run tiers catalog sheet).1.isHidden name = sheet.isHidden name :=
  (Sheet.refilled_derivation_run tiers catalog sheet).isHidden name

/-- An amount is hidden at the start exactly if its box is not checked then. -/
theorem isHidden_start (wellFormed : catalog.WellFormed) {box : Control}
    (member : box ∈ catalog.controls) {amount : String} (has : box.amount? = some amount) :
    (start catalog).sheet.isHidden amount = !startsChecked catalog box.name := by
  obtain ⟨part, partIn, rfl, -, hidden⟩ := wellFormed.paired.amount box member amount has
  obtain ⟨value, exclusive, kind⟩ := Sync.exists_kind_of_amount? has
  show (Derivation.run _ _ (Sync.echoAll _ _ _).sheet).1.isHidden _ = _
  rw [isHidden_run, isHidden_echoAll wellFormed (owned_ofCatalog wellFormed) partIn]
  unfold startsChecked Sheet.isHidden Sheet.checked? Sheet.content?
  rw [get?_ofCatalog wellFormed, get?_ofCatalog wellFormed, wellFormed.control?_of_mem partIn,
    wellFormed.control?_of_mem member]
  simp only [Option.map_some, Option.any_some, Option.bind_some, hidden]
  unfold Sheet.initialContent
  simp only [kind]
  show _ = !(some _ == some true)
  cases Answer.isYes (box.preset.getD "") <;> rfl

/-- Taking over exported values neither shows nor hides an amount. -/
theorem IsOwned.isHidden_rehydrate {session : Session} (owned : session.IsOwned)
    (wellFormed : session.catalog.WellFormed) {part : Control}
    (member : part ∈ session.catalog.controls) (snapshot : Snapshot) :
    (session.rehydrate snapshot).1.sheet.isHidden part.name =
      session.sheet.isHidden part.name := by
  have applied := Sheet.refilled_applyAll session.sheet snapshot
  rw [sheet_rehydrate, isHidden_run, isHidden_echoAll wellFormed (owned.refilled applied) member,
    applied.isHidden]

/-- Carrying a change has the amounts of touched boxes follow them, and leaves the others alone. -/
theorem IsOwned.isHidden_carry {session : Session} (owned : session.IsOwned)
    (wellFormed : session.catalog.WellFormed) {control : String} {result : Sheet × Bool}
    (written : Sheet.Write session.sheet control result) {box : Control}
    (member : box ∈ session.catalog.controls) {amount : String}
    (has : box.amount? = some amount) {before : Bool}
    (follows : session.sheet.isHidden amount = !before) :
    let wave := Sync.propagate session.catalog session.sync result.1 control
    (session.carry result.1 control).1.sheet.isHidden amount =
      !(if wave.changed.contains box.name then wave.sheet.checked? box.name == some true
        else before) := by
  intro wave
  have ownedWritten := owned.refilled written.refilled
  obtain ⟨part, partIn, rfl, partKind, -⟩ := wellFormed.paired.amount box member amount has
  have sheets : (session.carry result.1 control).1.sheet.isHidden part.name =
      wave.sheet.isHidden part.name := by
    unfold Session.carry
    simp only
    split
    next => exact isHidden_run _ _ _ _
    next => rfl
  rw [sheets]
  by_cases touched : box.name ∈ wave.changed
  · rw [if_pos (List.contains_iff_mem.mpr touched)]
    exact Sync.follows_propagate wellFormed ownedWritten control touched box member rfl _ has
  · rw [if_neg fun listed => touched (List.contains_iff_mem.mp listed), ← follows,
      ← written.refilled.isHidden part.name]
    exact Sync.isHidden_propagate wellFormed ownedWritten control partIn partKind touched

/-- After every operation, an amount is hidden if and only if its box was unchecked when last
carried. -/
theorem IsOwned.isHidden_perform {session : Session} (owned : session.IsOwned)
    (wellFormed : session.catalog.WellFormed) {box : Control}
    (member : box ∈ session.catalog.controls) {amount : String}
    (has : box.amount? = some amount) {before : Bool}
    (follows : session.sheet.isHidden amount = !before) (operation : Operation) :
    (session.perform operation).sheet.isHidden amount =
      !session.carriedAfter box.name before operation := by
  have edit : (∃ control text, operation = .setValue control text) ∨
      (∃ control checked, operation = .setChecked control checked) →
      (session.perform operation).sheet.isHidden amount =
        !match session.write? operation with
          | some (control, sheet, true) =>
            let wave := Sync.propagate session.catalog session.sync sheet control
            if wave.changed.contains box.name then wave.sheet.checked? box.name == some true
            else before
          | _ => before := by
    intro isEdit
    rw [perform_edit session operation isEdit]
    cases writes : session.write? operation with
    | none => exact follows
    | some write =>
      obtain ⟨control, sheet, changed⟩ := write
      cases changed with
      | false => exact follows
      | true => exact owned.isHidden_carry wellFormed (write_of_write? writes) member has follows
  obtain ⟨part, partIn, named, -⟩ := wellFormed.paired.amount box member amount has
  have rehydrated : ∀ snapshot, (session.rehydrate snapshot).1.sheet.isHidden amount = !before := by
    intro snapshot
    rw [← named, owned.isHidden_rehydrate wellFormed partIn, named, follows]
  cases operation with
  | setValue control text => exact edit (.inl ⟨control, text, rfl⟩)
  | setChecked control checked => exact edit (.inr ⟨control, checked, rfl⟩)
  | restore snapshot navigation =>
    show ((start session.catalog).rehydrate snapshot).1.sheet.isHidden amount = _
    rw [← named, (isOwned_start wellFormed).isHidden_rehydrate wellFormed partIn, named,
      isHidden_start wellFormed member has]
    rfl
  | rehydrate snapshot => exact rehydrated snapshot
  | resume snapshot navigation => exact rehydrated snapshot
  | advance =>
    show (Derivation.run _ _ (Derivation.run _ _ _).1).1.isHidden amount = !before
    rw [isHidden_run, isHidden_run, follows]
  | submit =>
    show (Derivation.run _ _ _).1.isHidden amount = !before
    rw [isHidden_run, follows]
  | withTiers tiers =>
    show (Derivation.run _ _ _).1.isHidden amount = !before
    rw [isHidden_run, follows]
  | retreat => exact follows
  | goTo id => exact follows
  | takeWarnings => exact follows

theorem isHidden_amount (wellFormed : catalog.WellFormed) (operations : List Operation)
    {box : Control} (member : box ∈ catalog.controls) {amount : String}
    (has : box.amount? = some amount) :
    (run catalog operations).sheet.isHidden amount = !carried catalog box.name operations := by
  have reached : ∀ (session : Session) (before : Bool), session.catalog = catalog →
      session.IsOwned → session.sheet.isHidden amount = !before →
      (operations.foldl perform session).sheet.isHidden amount =
        !(operations.foldl
          (fun (state : Session × Bool) operation =>
            (state.1.perform operation, state.1.carriedAfter box.name state.2 operation))
          (session, before)).2 := by
    induction operations with
    | nil => exact fun _ _ _ _ follows => follows
    | cons operation rest inductionHypothesis =>
      intro session before same owned follows
      obtain ⟨sameNext, ownedNext⟩ := (kept_isOwned wellFormed).perform same owned operation
      exact inductionHypothesis _ _ sameNext ownedNext
        (owned.isHidden_perform (same ▸ wellFormed) (same ▸ member) has follows operation)
  exact reached (start catalog) _ rfl (isOwned_start wellFormed)
    (isHidden_start wellFormed member has)

/-- In every session that a run reaches, an amount is hidden exactly if its box was unchecked when
it was last carried. So it is hidden exactly if its box is unchecked, if and only if the box is in
the state in which it was last carried. -/
theorem isHidden_amount_of_run {form : Form} (built : Catalog.build form = .ok catalog)
    (operations : List Operation) (box : Control) (member : box ∈ catalog.controls)
    (amount : String) (has : box.amount? = some amount) :
    let session := run catalog operations
    session.sheet.isHidden amount = !carried catalog box.name operations ∧
    ∃ checked, session.sheet.checked? box.name = some checked ∧
      ((session.sheet.isHidden amount = true ↔ checked = false) ↔
        checked = carried catalog box.name operations) := by
  have wellFormed := Catalog.wellFormed_of_build built
  have hidden := isHidden_amount wellFormed operations member has
  obtain ⟨value, exclusive, kind⟩ := Sync.exists_kind_of_amount? has
  obtain ⟨checked, holds⟩ := (owned_run wellFormed operations).checkbox member kind
  refine ⟨hidden, checked, ?_, ?_⟩
  · unfold Sheet.checked?
    rw [holds]
    rfl
  · rw [hidden]
    cases checked <;> cases carried catalog box.name operations <;> simp

/-- A box that another one excludes is carried, and its amount is hidden with it. -/
theorem isHidden_amount_of_exclusion :
    let operations := [.setChecked "pets_dog" true, .setChecked "pets_none" true]
    let session := run surveyCatalog operations
    session.sheet.checked? "pets_dog" = some false ∧
    carried surveyCatalog "pets_dog" operations = false ∧
    session.sheet.isHidden "pets_dog_amount" = !carried surveyCatalog "pets_dog" operations := by
  have known : ((surveyCatalog.control? "pets_dog").any fun box =>
      box.amount? == some "pets_dog_amount") = true := by decide +kernel
  obtain ⟨box, found, has⟩ := (Option.any_eq_true _ _).mp known
  obtain ⟨member, named⟩ := Catalog.mem_of_control?_eq_some found
  refine ⟨by decide +kernel, by decide +kernel, ?_⟩
  rw [← named]
  exact (isHidden_amount_of_run build_survey _ box member _ (beq_iff_eq.mp has)).1

/-- A box is written without being carried when a session is restored from what it exported itself,
when exported values are taken over, and by a calculation: it is checked then, but its amount stays
hidden. -/
theorem amount_stays_hidden :
    Catalog.build survey = .ok surveyCatalog ∧
    (surveyCatalog.control? "pets_dog").bind Control.amount? = some "pets_dog_amount" ∧
    let edited := run surveyCatalog [.setChecked "pets_dog" true]
    edited.sheet.isHidden "pets_dog_amount" = false ∧
    ∀ operations ∈
      [[.setChecked "pets_dog" true, .restore edited.snapshot edited.navigation],
       [.rehydrate edited.snapshot], [.setValue "remarks" "3"]],
      (run surveyCatalog operations).sheet.checked? "pets_dog" = some true ∧
      (run surveyCatalog operations).sheet.isHidden "pets_dog_amount" = true := by
  refine ⟨build_survey, ?_⟩
  decide +kernel

end Session

end Questionnaire

/-
This file runs operations on sessions, and proves what every run keeps. A run starts a session and
performs operations in any order; an edit that is refused leaves the session as it is. In every
session that a run reaches, the owners of the entries are in order: no control is lost, overwritten
or turned into another kind, and no derived entry is orphaned or claimed twice.
-/
import Questionnaire.Proofs.Drain

namespace Questionnaire

/-- An operation on a session. -/
inductive Operation where
  | setValue (control text : String)
  | setChecked (control : String) (checked : Bool)
  | advance
  | retreat
  | goTo (id : UInt32)
  | submit
  | rehydrate (snapshot : Snapshot)
  | resume (snapshot : Snapshot) (navigation : Navigation)
  | restore (snapshot : Snapshot) (navigation : Navigation)
  | withTiers (tiers : Tiers)
  | takeWarnings

namespace Session

/-! ### Edits -/

/-- The write of a text, of which a checkbox takes whether it means a yes. -/
def writeText (session : Session) (control text : String) : Except Fault (Sheet × Bool) :=
  match session.sheet.checked? control with
  | some _ => session.sheet.setChecked control (Answer.isYes text)
  | none => session.sheet.setText control text

theorem write_of_writeText {session : Session} {control text : String} {result : Sheet × Bool}
    (written : session.writeText control text = .ok result) :
    Sheet.Write session.sheet control result := by
  unfold writeText at written
  split at written
  next => exact Sheet.write_of_setChecked written
  next => exact Sheet.write_of_setText written

/-- The write that an operation makes before anything else, with the control it writes. -/
def write? (session : Session) : Operation → Option (String × Sheet × Bool)
  | .setValue control text => (session.writeText control text).toOption.map (control, ·)
  | .setChecked control checked =>
    (session.sheet.setChecked control checked).toOption.map (control, ·)
  | _ => none

/-- An edit writes its control. -/
theorem write_of_write? {session : Session} {operation : Operation} {control : String}
    {result : Sheet × Bool} (writes : session.write? operation = some (control, result)) :
    Sheet.Write session.sheet control result := by
  have ok : ∀ {written : Except Fault (Sheet × Bool)} {name : String},
      written.toOption.map (name, ·) = some (control, result) →
        name = control ∧ written = .ok result := by
    intro written name equal
    cases written with
    | error fault => cases equal
    | ok other => cases equal; exact ⟨rfl, rfl⟩
  cases operation with
  | setValue name text =>
    obtain ⟨rfl, written⟩ := ok writes
    exact write_of_writeText written
  | setChecked name checked =>
    obtain ⟨rfl, written⟩ := ok writes
    exact Sheet.write_of_setChecked written
  | _ => cases writes

/-- The session that an edit leaves. One that is refused changes nothing. -/
def settle (session : Session) : Except Fault (Session × ChangeReport) → Session
  | .ok (after, _) => after
  | .error _ => session

/-- Performs an operation. -/
def perform (session : Session) : Operation → Session
  | .setValue control text => session.settle (session.setValue control text)
  | .setChecked control checked => session.settle (session.setChecked control checked)
  | .advance => session.advance.1
  | .retreat => session.retreat.1
  | .goTo id => (session.goTo id).1
  | .submit => session.submit
  | .rehydrate snapshot => (session.rehydrate snapshot).1
  | .resume snapshot navigation => (session.resume snapshot navigation).1
  | .restore snapshot navigation => restore session.catalog snapshot navigation
  | .withTiers tiers => session.withTiers tiers
  | .takeWarnings => session.takeWarnings.1

/-- A write that changes its control is carried; one that does not does nothing. -/
theorem settle_afterWrite (session : Session) (control : String)
    (written : Except Fault (Sheet × Bool)) :
    session.settle (written.map (session.afterWrite control)) =
      match written with
      | .ok result => if result.2 then (session.carry result.1 control).1 else session
      | .error _ => session := by
  cases written with
  | error fault => rfl
  | ok result =>
    show (session.afterWrite control result).1 =
      if result.2 then (session.carry result.1 control).1 else session
    unfold afterWrite
    split <;> rfl

/-- An edit either makes no write, and nothing happens, or it makes one, which is carried. -/
theorem perform_edit (session : Session) (operation : Operation)
    (isEdit : (∃ control text, operation = .setValue control text) ∨
      ∃ control checked, operation = .setChecked control checked) :
    session.perform operation =
      match session.write? operation with
      | some (control, result) =>
        if result.2 then (session.carry result.1 control).1 else session
      | none => session := by
  rcases isEdit with ⟨control, text, rfl⟩ | ⟨control, checked, rfl⟩
  · show session.settle ((session.writeText control text).map (session.afterWrite control)) = _
    rw [settle_afterWrite, write?]
    cases session.writeText control text <;> rfl
  · show session.settle ((session.sheet.setChecked control checked).map _) = _
    rw [settle_afterWrite, write?]
    cases session.sheet.setChecked control checked <;> rfl

/-- The session after operations on a new session. -/
def run (catalog : Catalog) (operations : List Operation) : Session :=
  operations.foldl perform (start catalog)

/-! ### What every run keeps -/

theorem catalog_carry (session : Session) (sheet : Sheet) (control : String) :
    (session.carry sheet control).1.catalog = session.catalog := by
  unfold carry
  simp only
  split <;> rfl

theorem sheet_rehydrate (session : Session) (snapshot : Snapshot) :
    (session.rehydrate snapshot).1.sheet =
      (Derivation.run session.tiers session.catalog (Sync.echoAll session.catalog session.sync
        (applyAll session.sheet snapshot).1).sheet).1 := rfl

/-- A session with another position, other warnings and another count. -/
def beside (session : Session) (navigation : Navigation) (warnings : List SyncWarning)
    (finalized : Nat) : Session :=
  { session with navigation, sync.warnings := warnings, finalized }

/-- What holds of a new session of a catalog and is kept by everything that operations do. -/
structure Kept (catalog : Catalog) (keeps : Session → Prop) : Prop where
  start : keeps (start catalog)
  carry : ∀ {session control result}, session.catalog = catalog → keeps session →
    Sheet.Write session.sheet control result → keeps (session.carry result.1 control).1
  recalculate : ∀ {session}, session.catalog = catalog → keeps session → keeps session.recalculate
  rehydrate : ∀ {session} snapshot, session.catalog = catalog → keeps session →
    keeps (session.rehydrate snapshot).1
  withTiers : ∀ {session} tiers, session.catalog = catalog → keeps session →
    keeps (session.withTiers tiers)
  beside : ∀ {session} navigation warnings finalized, session.catalog = catalog → keeps session →
    keeps (session.beside navigation warnings finalized)

variable {catalog : Catalog} {keeps : Session → Prop}

/-- An operation keeps the catalog and whatever everything keeps that it is made of. -/
theorem Kept.perform (kept : Kept catalog keeps) {session : Session}
    (same : session.catalog = catalog) (holds : keeps session) (operation : Operation) :
    (session.perform operation).catalog = catalog ∧ keeps (session.perform operation) := by
  have edit : (∃ control text, operation = .setValue control text) ∨
      (∃ control checked, operation = .setChecked control checked) →
      (session.perform operation).catalog = catalog ∧ keeps (session.perform operation) := by
    intro isEdit
    rw [perform_edit session operation isEdit]
    split
    next control result writes =>
      split
      · exact ⟨by rw [catalog_carry, same], kept.carry same holds (write_of_write? writes)⟩
      · exact ⟨same, holds⟩
    next => exact ⟨same, holds⟩
  cases operation with
  | setValue control text => exact edit (.inl ⟨control, text, rfl⟩)
  | setChecked control checked => exact edit (.inr ⟨control, checked, rfl⟩)
  | advance =>
    have before := kept.recalculate same holds
    obtain ⟨navigation, transition⟩ :=
      session.recalculate.navigation.advance session.catalog session.recalculate.sheet
    refine ⟨same, ?_⟩
    exact kept.recalculate same (kept.beside _ session.recalculate.sync.warnings _ same before)
  | retreat => exact ⟨same, kept.beside _ session.sync.warnings session.finalized same holds⟩
  | goTo id => exact ⟨same, kept.beside _ session.sync.warnings session.finalized same holds⟩
  | submit =>
    exact ⟨same, kept.beside session.recalculate.navigation session.recalculate.sync.warnings _ same
      (kept.recalculate same holds)⟩
  | rehydrate snapshot => exact ⟨same, kept.rehydrate snapshot same holds⟩
  | resume snapshot navigation =>
    exact ⟨same, kept.beside _ (session.rehydrate snapshot).1.sync.warnings
      (session.rehydrate snapshot).1.finalized same (kept.rehydrate snapshot same holds)⟩
  | restore snapshot navigation =>
    unfold Session.perform
    rw [same]
    exact ⟨rfl, kept.beside _ ((Session.start catalog).rehydrate snapshot).1.sync.warnings
      ((Session.start catalog).rehydrate snapshot).1.finalized rfl
      (kept.rehydrate snapshot rfl kept.start)⟩
  | withTiers tiers => exact ⟨same, kept.withTiers tiers same holds⟩
  | takeWarnings => exact ⟨same, kept.beside session.navigation [] session.finalized same holds⟩

/-- Every session that a run reaches has the catalog, and whatever everything keeps. -/
theorem Kept.run (kept : Kept catalog keeps) (operations : List Operation) :
    (run catalog operations).catalog = catalog ∧ keeps (run catalog operations) := by
  have reached : ∀ (session : Session), session.catalog = catalog → keeps session →
      (operations.foldl Session.perform session).catalog = catalog ∧
        keeps (operations.foldl Session.perform session) := by
    induction operations with
    | nil => exact fun session same holds => ⟨same, holds⟩
    | cons operation rest inductionHypothesis =>
      intro session same holds
      obtain ⟨sameNext, holdsNext⟩ := kept.perform same holds operation
      exact inductionHypothesis _ sameNext holdsNext
  exact reached (Session.start catalog) rfl kept.start

theorem catalog_perform (session : Session) (operation : Operation) :
    (session.perform operation).catalog = session.catalog := by
  have kept : Kept session.catalog fun _ => True := by constructor <;> intros <;> trivial
  exact (kept.perform rfl trivial operation).1

theorem catalog_run (catalog : Catalog) (operations : List Operation) :
    (Session.run catalog operations).catalog = catalog := by
  have kept : Kept catalog fun _ => True := by constructor <;> intros <;> trivial
  exact (kept.run operations).1

/-! ### Owners along a run -/

/-- Whether the owners of a session are in order. -/
abbrev IsOwned (session : Session) : Prop :=
  Owned session.catalog session.sync.derived session.sheet

theorem isOwned_start (wellFormed : catalog.WellFormed) : (start catalog).IsOwned :=
  (Sync.owned_echoAll wellFormed (owned_ofCatalog wellFormed)).refilled
    (Sheet.refilled_derivation_run _ _ _)

theorem IsOwned.carry {session : Session} (wellFormed : session.catalog.WellFormed)
    (owned : session.IsOwned) {control : String} {result : Sheet × Bool}
    (written : Sheet.Write session.sheet control result) :
    (session.carry result.1 control).1.IsOwned := by
  have carried := Sync.owned_propagate wellFormed (owned.refilled written.refilled) control
  unfold Session.carry
  simp only
  split
  next => exact carried.refilled (Sheet.refilled_derivation_run _ _ _)
  next => exact carried

theorem IsOwned.rehydrate {session : Session} (wellFormed : session.catalog.WellFormed)
    (owned : session.IsOwned) (snapshot : Snapshot) : (session.rehydrate snapshot).1.IsOwned := by
  have applied := owned.refilled (Sheet.refilled_applyAll session.sheet snapshot)
  exact (Sync.owned_echoAll wellFormed applied).refilled (Sheet.refilled_derivation_run _ _ _)

theorem kept_isOwned (wellFormed : catalog.WellFormed) : Kept catalog IsOwned where
  start := isOwned_start wellFormed
  carry same owned written := owned.carry (same ▸ wellFormed) written
  recalculate _ owned := owned.refilled (Sheet.refilled_derivation_run _ _ _)
  rehydrate snapshot same owned := owned.rehydrate (same ▸ wellFormed) snapshot
  withTiers _ _ owned := owned.refilled (Sheet.refilled_derivation_run _ _ _)
  beside _ _ _ _ owned := owned

theorem owned_run (wellFormed : catalog.WellFormed) (operations : List Operation) :
    Owned catalog (run catalog operations).sync.derived (run catalog operations).sheet := by
  obtain ⟨same, owned⟩ := (kept_isOwned wellFormed).run operations
  rw [IsOwned, same] at owned
  exact owned

/-- In every session that a run reaches, the entries that are not derived are the controls of the
catalog, each with the kind, the options and the value of its control; every derived entry is a
hidden box that one dropdown alone has derived, named after one of its options; and what a dropdown
is said to have derived is there. -/
theorem entries_of_run {form : Form} (built : Catalog.build form = .ok catalog)
    (operations : List Operation) :
    let session := run catalog operations
    (∀ control ∈ catalog.controls, ∃ entry, session.sheet.get? control.name = some entry ∧
      entry.derived = false ∧ entry.content.cleared = control.kind.blank) ∧
    (∀ name entry, session.sheet.get? name = some entry → entry.derived = false →
      ∃ control ∈ catalog.controls, control.name = name) ∧
    (∀ name entry, session.sheet.get? name = some entry → entry.derived = true →
      entry.hidden = true ∧ (∃ checked value, entry.content = .checkbox checked value) ∧
      ∃ dropdown ∈ catalog.controls, session.sync.derived.get? dropdown.name = some name ∧
        (∀ other, session.sync.derived.get? other = some name → other = dropdown.name) ∧
        ∃ options echo, dropdown.kind = .select options (some echo) ∧ ∃ option ∈ options,
          (Slug.ofText option).isEmpty = false ∧
            name = dropdown.name ++ "_" ++ Slug.ofText option) ∧
    (∀ owner name, session.sync.derived.get? owner = some name →
      (∃ entry, session.sheet.get? name = some entry ∧ entry.derived = true) ∧
      ∃ dropdown ∈ catalog.controls, dropdown.name = owner) := by
  have owned := owned_run (Catalog.wellFormed_of_build built) operations
  refine ⟨fun control member => ?_, owned.entry, fun name entry present isDerived => ?_,
    fun owner name owns => ?_⟩
  · obtain ⟨entry, present, notDerived, blank, -⟩ := owned.control control member
    exact ⟨entry, present, notDerived, blank⟩
  · obtain ⟨hidden, held, owner, owns⟩ := owned.option name entry present isDerived
    obtain ⟨-, dropdown, member, rfl, options, echo, kind, option, optionIn, derives⟩ :=
      owned.owner owner name owns
    exact ⟨hidden, held, dropdown, member, owns, fun other otherOwns =>
      owned.apart other _ name otherOwns owns, options, echo, kind, option, optionIn,
      Sync.slug_of_derivedName derives⟩
  · obtain ⟨live, dropdown, member, named, -⟩ := owned.owner owner name owns
    exact ⟨live, dropdown, member, named⟩

/-! ### A form with colliding names -/

/-- A question with nothing attached to it. -/
def plain (id : String) (kind : QuestionKind) (text : String) (options : List Choice) : Question :=
  { id, kind, text, options, description := none, range := none, preset := none, logic := none
    jumps := [], calculations := [] }

/-- A form in which two linked dropdowns can ask for derived entries of one name. One of two boxes
has an amount, and the other excludes it; a question is shown while the first is checked; a hidden
field tells whether the amount is more than two; and more than two remarks check the first box. -/
def survey : Form :=
  { id := "survey", title := "Survey", description := none
    sections :=
      [⟨1, "First",
        [plain "first" .dropdown "A" [⟨"B c", none, false, false⟩, ⟨"Other", none, false, false⟩],
         plain "second" .dropdown "A b" [⟨"C", none, false, false⟩, ⟨"Other", none, false, false⟩],
         plain "pets" .checkboxGroup "Pets"
           [⟨"Dog", none, false, true⟩, ⟨"None", none, true, false⟩],
         { plain "walks" .shortText "Walks" [] with logic := some ⟨[⟨"pets", "Dog"⟩]⟩ }]⟩,
       ⟨2, "Second", [plain "remarks" .shortText "Remarks" []]⟩]
    hiddenFields :=
      [⟨"many", .checkbox, none,
        [⟨none, .checkbox, [⟨none, "pets_dog"⟩], .greater, 2.0, .checked⟩,
         ⟨none, .checkbox, [⟨none, "pets_dog"⟩], .less, 2.0, .unchecked⟩]⟩,
       ⟨"extra", .text, none,
        [⟨some "pets_dog", .checkbox, [⟨none, "remarks"⟩], .greater, 2.0, .checked⟩]⟩]
    links := [⟨"first", "second"⟩] }

theorem survey_isSome : (Catalog.build survey).toOption.isSome = true := by decide +kernel

/-- The catalog of that form. -/
def surveyCatalog : Catalog := (Catalog.build survey).toOption.get survey_isSome

theorem build_survey : Catalog.build survey = .ok surveyCatalog :=
  Catalog.eq_ok_get survey_isSome

/-- Both dropdowns ask for one name, which the first to choose keeps until it chooses again. -/
theorem entries_of_collision :
    let operations := [.setValue "a_b" "C", .setValue "a" "B c", .setValue "a_b" "Other"]
    let session := run surveyCatalog operations
    (run surveyCatalog (operations.take 2)).sync.derived.entries = [("a_b", "a_b_c")] ∧
    session.sync.derived.entries = [("a", "a_other"), ("a_b", "a_b_other")] ∧
    ∃ dropdown ∈ surveyCatalog.controls,
      session.sync.derived.get? dropdown.name = some "a_b_other" ∧
      ∀ other, session.sync.derived.get? other = some "a_b_other" → other = dropdown.name := by
  refine ⟨by decide +kernel, by decide +kernel, ?_⟩
  obtain ⟨-, -, derived, -⟩ := entries_of_run build_survey
    [.setValue "a_b" "C", .setValue "a" "B c", .setValue "a_b" "Other"]
  have present : (run surveyCatalog
      [.setValue "a_b" "C", .setValue "a" "B c", .setValue "a_b" "Other"]).sheet.get? "a_b_other" =
        some ⟨.checkbox true "Other", true, true⟩ := by decide +kernel
  obtain ⟨-, -, dropdown, member, owns, alone, -⟩ := derived "a_b_other" _ present rfl
  exact ⟨dropdown, member, owns, alone⟩

/-! ### Choices -/

/-- In every session that a run reaches, a select holds nothing or an option of its control, just as
it is spelled there, and that is what it exports. -/
theorem choices_of_run {form : Form} (built : Catalog.build form = .ok catalog)
    (operations : List Operation) :
    let session := run catalog operations
    ∀ select ∈ catalog.controls, ∀ options echo, select.kind = .select options echo →
      ∃ choice, session.sheet.content? select.name = some (.select choice options) ∧
        session.snapshot.get? select.name = some choice ∧ (choice = "" ∨ choice ∈ options) := by
  intro session select member options echo kind
  have owned : Owned catalog session.sync.derived session.sheet :=
    owned_run (Catalog.wellFormed_of_build built) operations
  obtain ⟨choice, holds, chosen⟩ := owned.select member kind
  refine ⟨choice, holds, ?_, chosen.imp_right Answer.option?_mem⟩
  show session.sheet.snapshot.get? select.name = some choice
  rw [Sheet.get?_snapshot, holds]
  rfl

/-- A select takes over an option in another spelling, and nothing that is not offered. -/
theorem choices_of_survey :
    let session := run surveyCatalog [.setValue "a" " b C ",
      .rehydrate (NameMap.ofList [("a", "Cat"), ("a_b", " OTHER")])]
    session.sheet.text? "a" = some "B c" ∧
      ∃ choice, session.sheet.content? "a_b" = some (.select choice ["C", "Other"]) ∧
        session.snapshot.get? "a_b" = some choice ∧ (choice = "" ∨ choice ∈ ["C", "Other"]) := by
  have found : surveyCatalog.control? "a_b" = some ⟨"a_b", some "second", "A b",
      .select ["C", "Other"] (some "a_b_selected"), false, none⟩ := by decide +kernel
  exact ⟨by decide +kernel, choices_of_run build_survey [.setValue "a" " b C ",
    .rehydrate (NameMap.ofList [("a", "Cat"), ("a_b", " OTHER")])] _
    (Catalog.mem_of_control?_eq_some found).1 _ _ rfl⟩

end Session

end Questionnaire

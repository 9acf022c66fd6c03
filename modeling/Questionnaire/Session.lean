/-
This file holds sessions, the filling of one form. A change is carried to the controls that depend
on it; then the visibility rules that read a touched control are decided again; and if a touched
control is read by a calculation, all calculations are run and the rules that read what they changed
are decided again. Calculations also run on both sides of an advance.
-/
import Questionnaire.Derivation
import Questionnaire.Expression.Placeholder
import Questionnaire.Navigation
import Questionnaire.Sync
import Questionnaire.Visibility

namespace Questionnaire

/-- A filling of a form. The watched names are those whose change makes the calculations run, and
the count says how often the filling has been handed over as finished. -/
structure Session where
  catalog : Catalog
  sheet : Sheet
  decisions : Visibility.Decisions
  navigation : Navigation
  sync : Sync
  tiers : Tiers
  watched : NameSet
  finalized : Nat

/-- What one change did. -/
structure ChangeReport where
  changed : Bool
  touched : List String
  visibility : List Visibility.Change
  recalculated : List String
  deriving DecidableEq, Repr

/-- The report of a change that changed nothing. -/
def ChangeReport.nothing : ChangeReport := ⟨false, [], [], []⟩

/-- The JSON value of a question that came into view or went out of it. -/
def Visibility.Change.encode (change : Visibility.Change) : Json :=
  .object [("question_id", .text change.question), ("visible", .boolean change.shown)]

/-- The JSON value of a report. -/
def ChangeReport.encode (report : ChangeReport) : Json :=
  .object [("changed", .boolean report.changed), ("recalculated", .texts report.recalculated),
    ("touched", .texts report.touched),
    ("visibility", .array (report.visibility.map Visibility.Change.encode))]

namespace Session

/-! ### Making sessions -/

/-- The names whose change can change a term of a calculation. -/
def watchedNames (tiers : Tiers) (catalog : Catalog) (sheet : Sheet) : NameSet :=
  (catalog.calculations.flatMap fun target => target.rules.flatMap fun rule =>
    rule.terms.flatMap fun term => Reference.watched tiers catalog sheet term.field).foldl
    NameMap.add NameMap.empty

/-- A session at the first section, with presets filled in and calculations run. -/
def start (catalog : Catalog) : Session :=
  let echoed := Sync.echoAll catalog Sync.start (Sheet.ofCatalog catalog)
  let sheet := (Derivation.run Tiers.usual catalog echoed.sheet).1
  { catalog, sheet
    decisions := Visibility.decideAll catalog sheet
    navigation := Navigation.start
    sync := echoed.sync
    tiers := Tiers.usual
    watched := watchedNames Tiers.usual catalog echoed.sheet
    finalized := 0 }

/-- The session with other ways to find what calculations refer to. -/
def withTiers (session : Session) (tiers : Tiers) : Session :=
  let sheet := (Derivation.run tiers session.catalog session.sheet).1
  { session with
    tiers, sheet
    watched := watchedNames tiers session.catalog session.sheet
    decisions := (Visibility.refresh session.catalog sheet session.decisions).1 }

/-! ### Reading -/

/-- The exported values of all controls. -/
def snapshot (session : Session) : Snapshot := session.sheet.snapshot

/-- Whether a question is shown. -/
def shows (session : Session) (question : String) : Bool := session.decisions.shows question

/-- The number that a reference means. -/
def lookup (session : Session) (reference : String) : Float :=
  Reference.value session.tiers session.catalog session.sheet reference

/-- A text with its placeholders replaced by numbers. -/
def substitute (session : Session) (text : String) : String :=
  Expression.substitute session.lookup text

/-! ### Changes -/

/-- Carries a change of a control through the session, and reports it. -/
def carry (session : Session) (sheet : Sheet) (origin : String) : Session × ChangeReport :=
  let catalog := session.catalog
  let wave := Sync.propagate catalog session.sync sheet origin
  let (decisions, changes) :=
    Visibility.notifyAll catalog wave.sheet session.decisions wave.changed
  if wave.changed.any fun name => session.watched.contains name then
    let (sheet, recalculated) := Derivation.run session.tiers catalog wave.sheet
    let (decisions, more) := Visibility.notifyAll catalog sheet decisions recalculated
    ({ session with sheet, decisions, sync := wave.sync },
      ⟨true, wave.changed, changes ++ more, recalculated⟩)
  else
    ({ session with sheet := wave.sheet, decisions, sync := wave.sync },
      ⟨true, wave.changed, changes, []⟩)

/-- Takes over what a write made of the sheet. -/
def afterWrite (session : Session) (control : String) (written : Sheet × Bool) :
    Session × ChangeReport :=
  if written.2 then session.carry written.1 control else (session, .nothing)

/-- Sets a text or a select; a checkbox takes a text that may mean a yes. -/
def setValue (session : Session) (control text : String) :
    Except Fault (Session × ChangeReport) :=
  let written := match session.sheet.checked? control with
    | some _ => session.sheet.setChecked control (Answer.isYes text)
    | none => session.sheet.setText control text
  written.map (session.afterWrite control)

/-- Checks or unchecks a checkbox. -/
def setChecked (session : Session) (control : String) (checked : Bool) :
    Except Fault (Session × ChangeReport) :=
  (session.sheet.setChecked control checked).map (session.afterWrite control)

/-- Runs the calculations, and decides the rules that read what they changed. -/
def recalculate (session : Session) : Session :=
  let (sheet, changed) := Derivation.run session.tiers session.catalog session.sheet
  let (decisions, _) := Visibility.notifyAll session.catalog sheet session.decisions changed
  { session with sheet, decisions }

/-! ### Moving -/

/-- Advances, with the calculations run before and after. Reaching the end finishes the filling. -/
def advance (session : Session) : Session × Transition :=
  let session := session.recalculate
  let (navigation, transition) := session.navigation.advance session.catalog session.sheet
  let finalized := session.finalized + if transition.finishes then 1 else 0
  (recalculate { session with navigation, finalized }, transition)

/-- Goes back. -/
def retreat (session : Session) : Session × Transition :=
  let (navigation, transition) := session.navigation.retreat
  ({ session with navigation }, transition)

/-- Goes to a section. -/
def goTo (session : Session) (id : UInt32) : Session × Transition :=
  let (navigation, transition) := session.navigation.goTo session.catalog id
  ({ session with navigation }, transition)

/-- Finishes the filling, wherever it stands. -/
def submit (session : Session) : Session :=
  let session := session.recalculate
  { session with finalized := session.finalized + 1 }

/-! ### Exported values -/

/-- Writes exported values one by one, and lists the names of those that did not fit. -/
def applyAll (sheet : Sheet) (snapshot : Snapshot) : Sheet × List String :=
  snapshot.entries.foldl
    (fun (sheet, refused) (name, value) =>
      match sheet.applyExported name value with
      | (sheet, true) => (sheet, refused)
      | (sheet, false) => (sheet, refused ++ [name]))
    (sheet, [])

/-- Takes over exported values without carrying them one by one; afterwards the dropdowns are
echoed, the calculations run and all rules decided. Counts the values whose control is not there
even then. -/
def rehydrate (session : Session) (snapshot : Snapshot) : Session × Nat :=
  let catalog := session.catalog
  let (sheet, refused) := applyAll session.sheet snapshot
  let echoed := Sync.echoAll catalog session.sync sheet
  let skipped := (refused.filter fun name => !echoed.sheet.contains name).length
  let sheet := (Derivation.run session.tiers catalog echoed.sheet).1
  let decisions := (Visibility.refresh catalog sheet session.decisions).1
  ({ session with sheet, decisions, sync := echoed.sync }, skipped)

/-- Takes over exported values and a position. -/
def resume (session : Session) (snapshot : Snapshot) (navigation : Navigation) : Session × Nat :=
  let (session, skipped) := session.rehydrate snapshot
  ({ session with navigation := navigation.normalized session.catalog.sectionCount }, skipped)

/-- A session with exported values and a position. -/
def restore (catalog : Catalog) (snapshot : Snapshot) (navigation : Navigation) : Session :=
  ((start catalog).resume snapshot navigation).1

/-- Hands out the warnings held, and holds them no longer. -/
def takeWarnings (session : Session) : Session × List SyncWarning :=
  ({ session with sync.warnings := [] }, session.sync.warnings)

end Session

end Questionnaire

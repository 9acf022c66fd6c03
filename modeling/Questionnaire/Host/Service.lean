/-
This file answers the calls of a host. Every call takes texts and gives a text: the id of the form,
the configuration, what was kept of the session, and what the call is about. The answer is a JSON
object, with the new state to keep where there is one, or with the message of the failure.
-/
import Questionnaire.Host.Config
import Questionnaire.Host.Saved
import Questionnaire.Lint
import Questionnaire.View

namespace Questionnaire.Host

/-! ### Answers -/

/-- The object of a failure. -/
def refusal (failure : Failure) : Json := .object [("error", .text failure.message)]

/-- The text of an answer or of a failure. -/
def respond : Except Failure Json → String
  | .ok answer => answer.compact
  | .error failure => (refusal failure).compact

/-- The object with what to keep of a session and what to show of it, and more members. -/
def envelope (session : Session) (more : List (String × Json)) : Json :=
  .record <|
    [("state", (Saved.ofSession session).encode), ("ui", (View.ofSession session).encode)] ++ more

/-! ### Sessions -/

/-- The session that goes on from the text of what was kept. -/
def resumed (catalog : Catalog) (state : String) : Except Failure Session :=
  ((Saved.ofSource state).map fun saved => saved.resume catalog).mapError .unreadableState

/-- The session of a form and of the text of what was kept. -/
def opened (id config state : String) : Except Failure Session :=
  (catalog id config).bind fun catalog => resumed catalog state

/-- The text that a value is set as. -/
def valueText : Json → String
  | .boolean value => if value then "true" else "false"
  | .text value => value
  | .null => ""
  | other => other.compact

/-- Sets a control, and hands out the warnings of that. -/
def change (session : Session) (control text : String) :
    Except Fault (Session × ChangeReport × List SyncWarning) :=
  (session.setValue control text).map fun (session, report) =>
    let (session, warnings) := session.takeWarnings
    (session, report, warnings)

/-! ### Calls -/

/-- Gives the form itself. -/
def describe (id config : String) : String := respond ((wanted id config).map Form.encode)

/-- Starts a session. -/
def start (id config : String) : String :=
  respond ((opened id config "").map fun session => envelope session [])

/-- Sets a control to the text of a JSON value. -/
def applyChange (id config state control value : String) : String :=
  respond do
    let catalog ← catalog id config
    let value ← match Json.readNormal? value with
      | some value => .ok value
      | none => .error (.unreadableConfig .malformed)
    let session ← resumed catalog state
    let (session, report, warnings) ←
      (change session control (valueText value)).mapError Failure.fault
    return envelope session [("report", report.encode),
      ("warnings", .texts (warnings.map SyncWarning.message))]

/-- Advances, and tells whether that finished the filling. -/
def advance (id config state : String) : String :=
  respond ((opened id config state).map fun session =>
    let (session, transition) := session.advance
    envelope session [("transition", Navigation.encodeTransition transition),
      ("finalized", .boolean (0 < session.finalized))])

/-- Goes back. -/
def retreat (id config state : String) : String :=
  respond ((opened id config state).map fun session =>
    let (session, transition) := session.retreat
    envelope session [("transition", Navigation.encodeTransition transition)])

/-- Finishes the filling, and gives its values. -/
def submit (id config state : String) : String :=
  respond ((opened id config state).map fun session =>
    let session := session.submit
    .object [("status", .text (if 0 < session.finalized then "submitted" else "pending")),
      ("values", Snapshot.encode session.snapshot)])

/-- Shows the session as a text. -/
def renderText (id config state : String) : String :=
  match opened id config state with
  | .ok session => (View.ofSession session).text
  | .error failure => (refusal failure).compact

/-- Shows the session as a JSON value. -/
def renderJson (id config state : String) : String :=
  respond ((opened id config state).map fun session => (View.ofSession session).encode)

/-- Checks the form, even one that no session can be made of. -/
def lint (config : String) : String :=
  respond ((offered config).map fun form => Lint.encode (Lint.check form))

end Questionnaire.Host

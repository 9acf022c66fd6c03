/-
This file holds the dialogue of the wizard, turn by turn. Each turn looks at the session anew: it
asks for the first field of the section that is not handled yet, or advances when there is none. A
section that cannot be left ends the dialogue, as does the end of the form. An answer is set, and
its field counts as handled from then on until another section is entered.
-/
import Questionnaire.Host.Service
import Questionnaire.Wizard.Display
import Questionnaire.Wizard.Input

namespace Questionnaire.Wizard

open Host (Saved)

/-- Where a dialogue stands: what is kept of the session, the fields handled in the section, the
section that was shown last, and whether the form was announced. -/
structure State where
  saved : Saved
  handled : NameSet
  shown : Option Nat
  announced : Bool

/-- The state before the first turn. -/
def State.start (saved : Saved) : State := ⟨saved, NameMap.empty, none, false⟩

/-- Why a dialogue ended early. -/
inductive Failure where
  | unreadableScreen (missing : Missing)
  | closed
  | aborted
  | fault (cause : Fault)

/-- The message of a failure. -/
def Failure.message : Failure → String
  | .unreadableScreen missing => "wizard UI error: " ++ missing.message
  | .closed => "input closed before the form was complete"
  | .aborted => "wizard aborted by user"
  | .fault cause => cause.message

/-- What a turn leads to: another turn, a question, or the end. -/
inductive Next where
  | again (state : State)
  | ask (prompt : Prompt) (state : State)
  | done (result : Except Failure Unit)

/-! ### Turns -/

/-- Leaves a section in which nothing is left to ask. -/
def leave (settings : Settings) (catalog : Catalog) (state : State) : List Output × Next :=
  let (session, transition) := (state.saved.resume catalog).advance
  match transition with
  | .moved _ _ => ([], .again { state with saved := .ofSession session })
  | .unchanged =>
    let session := (state.saved.resume catalog).submit
    (completion settings session.snapshot, .done (.ok ()))

/-- The state in which a section has just been entered, and what is printed on that. -/
def enter (settings : Settings) (view : View) (screen : Screen) (state : State) :
    List Output × State :=
  if state.shown = screen.current then ([], state)
  else
    (sectionHead screen ++ sectionBody settings view,
      { state with shown := screen.current, handled := NameMap.empty })

/-- The turn on a screen. -/
def turnOn (settings : Settings) (catalog : Catalog) (view : View) (screen : Screen)
    (state : State) : List Output × Next :=
  let announcement := if state.announced then [] else header settings screen
  let state := { state with announced := true }
  if screen.complete then
    (announcement ++ completion settings state.saved.values, .done (.ok ()))
  else
    let (entrance, state) := enter settings view screen state
    match screen.nextPrompt? state.handled with
    | some prompt =>
      (announcement ++ entrance ++ promptLines settings prompt ++ [.mark], .ask prompt state)
    | none =>
      let (outputs, next) := leave settings catalog state
      (announcement ++ entrance ++ outputs, next)

/-- A turn: what is printed, and what it leads to. -/
def turn (settings : Settings) (catalog : Catalog) (state : State) : List Output × Next :=
  let view := View.ofSession (state.saved.resume catalog)
  match Screen.decode view.encode with
  | .error missing => ([], .done (.error (.unreadableScreen missing)))
  | .ok screen => turnOn settings catalog view screen state

/-! ### Answers -/

/-- Goes back to the section before. -/
def goBack (catalog : Catalog) (state : State) : List Output × State :=
  let (session, transition) := (state.saved.resume catalog).retreat
  (if transition = .unchanged then [.line "Already at the first section."] else [],
    { state with saved := .ofSession session, shown := none })

/-- Sets a field. -/
def set (catalog : Catalog) (state : State) (name value : String) :
    List Output × Except Failure State :=
  match Host.change (state.saved.resume catalog) name value with
  | .error fault => ([], .error (.fault fault))
  | .ok (session, _, warnings) =>
    (warnings.map fun warning => .aside ("Warning: " ++ warning.message),
      .ok { state with saved := .ofSession session, handled := state.handled.add name })

/-- Takes a line as the answer to a prompt. A line that makes no sense leaves everything as it
is. -/
def answer (catalog : Catalog) (state : State) (prompt : Prompt) (line : String) :
    List Output × Except Failure State :=
  let name := prompt.field.name
  match readInput prompt.field line with
  | .error refusal => ([.aside ("Invalid answer: " ++ refusal.message)], .ok state)
  | .ok .keep => ([], .ok { state with handled := state.handled.add name })
  | .ok .back =>
    let (outputs, state) := goBack catalog state
    (outputs, .ok state)
  | .ok .exit => ([], .error .aborted)
  | .ok input => set catalog state name (input.value?.getD "")

/-! ### Whole dialogues -/

/-- The whole dialogue on given lines, if it ends within as many turns as given. -/
def run (settings : Settings) (catalog : Catalog) :
    Nat → State → List String → Option (List Output × Except Failure Unit)
  | 0, _, _ => none
  | turns + 1, state, lines =>
    match turn settings catalog state with
    | (outputs, .done result) => some (outputs, result)
    | (outputs, .again state) =>
      (run settings catalog turns state lines).map fun (more, result) => (outputs ++ more, result)
    | (outputs, .ask prompt state) =>
      match lines with
      | [] => some (outputs, .error .closed)
      | line :: rest =>
        match answer catalog state prompt line with
        | (replies, .error failure) => some (outputs ++ replies, .error failure)
        | (replies, .ok state) =>
          (run settings catalog turns state rest).map fun (more, result) =>
            (outputs ++ replies ++ more, result)

end Questionnaire.Wizard

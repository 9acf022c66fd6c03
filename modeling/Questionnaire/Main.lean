/-
This file is the program. It reads the files that a command names and carries the command out; for
the wizard it reads a line whenever the dialogue asks for one.
-/
import Questionnaire.CommandLine.Commands

namespace Questionnaire.CommandLine

/-- The fault that an error of the system stands for. Some calls give its number negated. -/
def faultOf (error : IO.Error) : FileFault :=
  let numbered (code : UInt32) := FileFault.ofCode (min code.toNat (-code).toNat)
  match error with
  | .noFileOrDirectory _ code words => numbered code words
  | .permissionDenied _ code words => numbered code words
  | .inappropriateType _ code words => numbered code words
  | .invalidArgument _ code words => numbered code words
  | .resourceExhausted _ code words => numbered code words
  | .hardwareFault code words => numbered code words
  | .otherError code words => numbered code words
  | other => numbered 0 other.toString

/-- Reads a file as a text. -/
def load (path : String) : IO Source := do
  try
    let bytes ← IO.FS.readBinFile path
    return match String.fromUTF8? bytes with
      | some text => .ok text
      | none => .error .notText
  catch error => return .error (faultOf error)

/-- Prints what a command left behind. -/
def present (outcome : Outcome) : IO UInt32 := do
  IO.print outcome.printed
  IO.eprint outcome.complaints
  return outcome.code

/-- Prints what a turn of a dialogue says. -/
def say (outputs : List Wizard.Output) : IO Unit := do
  for output in outputs do
    IO.print output.spoken
    IO.eprint output.whispered
  (← IO.getStdout).flush

/-- Leads a dialogue to its end. -/
partial def converse (settings : Wizard.Settings) (catalog : Catalog) (state : Wizard.State) :
    IO UInt32 := do
  let (outputs, next) := Wizard.turn settings catalog state
  say outputs
  match next with
  | .done result => present (ofDialogue [] result)
  | .again state => converse settings catalog state
  | .ask prompt state =>
    let line ← (← IO.getStdin).getLine
    if line.isEmpty then present (ofDialogue [] (.error .closed))
    else
      let (replies, result) := Wizard.answer catalog state prompt line
      say replies
      match result with
      | .error failure => present (ofDialogue [] (.error failure))
      | .ok state => converse settings catalog state

/-- Carries out a command. -/
def execute : Command → IO UInt32
  | .wizard form values settings => do
    let form ← load form
    let values ← values.mapM load
    match prepare form values with
    | .error failure => present (conclude [] (.error failure))
    | .ok (catalog, state) => converse settings catalog state
  | .validate form => do present (validate (← load form))
  | .controls form => do present (controls (← load form))
  | .formFormat => present formFormat

/-- Carries out the command that the arguments ask for. -/
def start (arguments : List String) : IO UInt32 :=
  match Command.ofArguments arguments with
  | some command => execute command
  | none => present misuse

end Questionnaire.CommandLine

/-- The program. -/
def main (arguments : List String) : IO UInt32 := Questionnaire.CommandLine.start arguments

/-
This file carries out the commands of the command line on the texts of the files they read. A
command that fails ends with the code one and says why; what it printed before stays.
-/
import Questionnaire.CommandLine.Arguments
import Questionnaire.CommandLine.FileFault
import Questionnaire.Form.Format
import Questionnaire.Wizard.Dialogue

namespace Questionnaire.CommandLine

/-! ### Failures -/

/-- The text of a file, or why there is none. -/
abbrev Source := Except FileFault String

/-- Why a command failed. -/
inductive Failure where
  | file (cause : FileFault)
  | unreadable (reason : Json.DecodeError)
  | fault (cause : Fault)
  | message (words : String)

/-- How a command shows its failure. -/
def Failure.shown : Failure → String
  | .file cause => cause.shown
  | .unreadable reason => (Fault.unreadableForm reason).shown
  | .fault cause => cause.shown
  | .message words => Text.quoted words

/-! ### Outcomes -/

/-- What a command leaves behind: its code, and what it printed and complained of. -/
structure Outcome where
  code : UInt32
  printed : String
  complaints : String
  deriving DecidableEq, Repr

/-- Lines as one text. -/
def unlines (lines : List String) : String := String.join (lines.map (· ++ "\n"))

/-- The line that a failed command ends with. -/
def errorLine (failure : Failure) : String := "Error: " ++ failure.shown ++ "\n"

/-- The outcome of a command that prints lines and may fail. -/
def conclude (lines : List String) : Except Failure Unit → Outcome
  | .ok () => ⟨0, unlines lines, ""⟩
  | .error failure => ⟨1, unlines lines, errorLine failure⟩

/-- The form of a file. -/
def formOf (source : Source) : Except Failure Form :=
  match source with
  | .error cause => .error (.file cause)
  | .ok text => (Form.ofSource text).mapError fun reason => .fault (.unreadableForm reason)

/-! ### Checking -/

/-- The line of an issue. -/
def issueLine (issue : Lint.Issue) : String :=
  let place := (issue.question.orElse fun _ => issue.path).getD "<form>"
  "  [" ++ issue.problem.severity.word ++ "] " ++ issue.problem.code ++ " " ++ place ++ " - " ++
    issue.problem.message

/-- Checks a form. -/
def validate (source : Source) : Outcome :=
  match formOf source with
  | .error failure => conclude [] (.error failure)
  | .ok form =>
    let issues := Lint.check form
    let valid := Lint.isValid issues
    conclude
      (("Validation result: " ++ if valid then "valid" else "invalid") :: issues.map issueLine)
      (if valid then .ok () else .error (.message "validation failed"))

/-! ### Listing -/

/-- The line of a question. -/
def questionLine (entry : QuestionEntry) : String :=
  entry.id ++ " [" ++ entry.kind.label ++ "] section " ++ Text.numeral entry.sectionId.toNat ++
    ": " ++ String.intercalate ", " entry.controls

/-- The line of the controls that belong to no question, if there are some. -/
def hiddenLine (catalog : Catalog) : List String :=
  match (catalog.controls.filter fun control => control.question.isNone).map (·.name) with
  | [] => []
  | names => ["hidden fields: " ++ String.intercalate ", " names]

/-- Lists the controls of a form. -/
def controls (source : Source) : Outcome :=
  match (formOf source).bind fun form => (Catalog.build form).mapError Failure.fault with
  | .error failure => conclude [] (.error failure)
  | .ok catalog => conclude (catalog.questions.map questionLine ++ hiddenLine catalog) (.ok ())

/-- Prints the format of forms. -/
def formFormat : Outcome := conclude [Form.Format.form.indented] (.ok ())

/-! ### Filling -/

/-- The values of a file to start from. -/
def valuesOf (source : Source) : Except Failure Snapshot :=
  match source with
  | .error cause => .error (.file cause)
  | .ok text => (Json.decodeSource Snapshot.decode text).mapError .unreadable

/-- What the dialogue starts from: the session that a host starts, or the values of a file. -/
def initial (catalog : Catalog) : Option Snapshot → Host.Saved
  | none => .ofSession (Host.Saved.blank.resume catalog)
  | some values => { Host.Saved.blank with values }

/-- The catalog of a form and the state before the first turn of the dialogue. -/
def prepare (form : Source) (values : Option Source) : Except Failure (Catalog × Wizard.State) := do
  let form ← formOf form
  let values ← values.mapM valuesOf
  let catalog ← (Catalog.build form).mapError fun cause => Failure.message cause.message
  return (catalog, .start (initial catalog values))

/-- The outcome of a dialogue. -/
def ofDialogue (outputs : List Wizard.Output) (result : Except Wizard.Failure Unit) : Outcome :=
  let printed := String.join (outputs.map Wizard.Output.spoken)
  let complaints := String.join (outputs.map Wizard.Output.whispered)
  match result with
  | .ok () => ⟨0, printed, complaints⟩
  | .error failure => ⟨1, printed, complaints ++ errorLine (.message failure.message)⟩

/-- Fills a form in a dialogue on given lines, if that ends within as many turns as given. -/
def wizard (settings : Wizard.Settings) (turns : Nat) (lines : List String) (form : Source)
    (values : Option Source) : Option Outcome :=
  match prepare form values with
  | .error failure => some (conclude [] (.error failure))
  | .ok (catalog, state) =>
    (Wizard.run settings catalog turns state lines).map fun (outputs, result) =>
      ofDialogue outputs result

/-! ### Commands -/

/-- Carries out a command on files and lines. A dialogue gets as many turns as given. -/
def Command.perform (files : String → Source) (turns : Nat) (lines : List String) :
    Command → Option Outcome
  | .wizard form values settings =>
    CommandLine.wizard settings turns lines (files form) (values.map files)
  | .validate form => some (CommandLine.validate (files form))
  | .controls form => some (CommandLine.controls (files form))
  | .formFormat => some CommandLine.formFormat

/-- The outcome of arguments that are no command. -/
def misuse : Outcome :=
  ⟨2, "", unlines ["Usage: form-wizard [--verbose] <wizard|validate|controls|json-schema>"]⟩

end Questionnaire.CommandLine

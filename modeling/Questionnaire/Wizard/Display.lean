/-
This file holds what the wizard prints: the title of the form, the section that is entered, the
prompts, and at the end the values, as bytes and if wanted as JSON.
-/
import Questionnaire.Snapshot
import Questionnaire.View
import Questionnaire.Wizard.Screen

namespace Questionnaire.Wizard

/-- How a section is shown when it is entered. -/
inductive Format where
  | text
  | json
  deriving DecidableEq, Repr

/-- How much is printed. -/
structure Settings where
  verbose : Bool
  valuesJson : Bool
  format : Format
  deriving DecidableEq, Repr

/-- Something printed: a line of the dialogue, the mark after which an answer is typed, or a line
beside the dialogue. -/
inductive Output where
  | line (text : String)
  | mark
  | aside (text : String)
  deriving DecidableEq, Repr

/-- The mark after which an answer is typed. -/
def answerMark : String := "> "

/-- What stands in the dialogue. -/
def Output.spoken : Output → String
  | .line words => words ++ "\n"
  | .mark => answerMark
  | .aside _ => ""

/-- What stands beside the dialogue. -/
def Output.whispered : Output → String
  | .aside words => words ++ "\n"
  | .line _ | .mark => ""

/-! ### The form and its sections -/

/-- The lines before the first section. -/
def header (settings : Settings) (screen : Screen) : List Output :=
  .line ("Form: " ++ screen.title) ::
    if settings.verbose then (screen.help.map fun help => .line ("Help: " ++ help)).toList else []

/-- The lines on entering a section. -/
def sectionHead (screen : Screen) : List Output :=
  let title := screen.sectionTitle.getD ""
  let place := match screen.current with
    | some id =>
      "== Section " ++ Text.numeral id ++ "/" ++ Text.numeral screen.total ++ ": " ++ title
    | none => "== " ++ title
  .line place ::
    if screen.prompts.isEmpty then [.line "Nothing to answer in this section."] else []

/-- The section as a whole, in the wanted format. -/
def sectionBody (settings : Settings) (view : View) : List Output :=
  match settings.format with
  | .json => [.line view.encode.indented]
  | .text => if settings.verbose then [.line view.text] else []

/-! ### Prompts -/

/-- What a field expects, in parentheses. -/
def hint (field : Field) : Option String :=
  match field.kind with
  | .checkbox => some "(y/n)"
  | .amount => some "(amount)"
  | .select => field.options.map fun options => "(" ++ String.intercalate " / " options ++ ")"
  | .text | .echo => none

/-- The line of a prompt: the question, the field if it is called otherwise, what it expects and
what it holds. -/
def promptLine (prompt : Prompt) : String :=
  let field := prompt.field
  (if field.label = prompt.title then field.label else prompt.title ++ ": " ++ field.label) ++
    (match hint field with
      | some hint => " " ++ hint
      | none => "") ++
    if field.value.isEmpty then "" else " [" ++ field.value ++ "]"

/-- The lines of a prompt. -/
def promptLines (settings : Settings) (prompt : Prompt) : List Output :=
  .line (promptLine prompt) ::
    if settings.verbose then
      (prompt.description.map Output.line).toList ++
        (prompt.field.options.map fun options =>
          .line ("Choices: " ++ String.intercalate ", " options)).toList
    else []

/-! ### The end -/

/-- The lines at the end. -/
def completion (settings : Settings) (values : Snapshot) : List Output :=
  [.line "Form complete.", .line ("Values (CBOR hex): " ++ Cbor.hex (Snapshot.toCbor values))] ++
    if settings.valuesJson then [.line (Snapshot.encode values).indented] else []

end Questionnaire.Wizard

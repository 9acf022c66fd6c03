/-
This file holds the questions of a form and their options.
-/
import Questionnaire.Form.Rule

namespace Questionnaire

/-- The kinds of questions. -/
inductive QuestionKind where
  | shortText
  | paragraph
  | money
  | date
  | dateRange
  | email
  | phone
  | singleChoice
  | dropdown
  | checkboxGroup
  | textboxSet
  | numberedDropdown
  deriving DecidableEq, Repr

namespace QuestionKind

/-- The word for a kind of question. -/
def label : QuestionKind → String
  | .shortText => "short-text"
  | .paragraph => "paragraph"
  | .money => "money"
  | .date => "date"
  | .dateRange => "date-range"
  | .email => "email"
  | .phone => "phone"
  | .singleChoice => "single-choice"
  | .dropdown => "dropdown"
  | .checkboxGroup => "checkbox-group"
  | .textboxSet => "repeated-textbox-set"
  | .numberedDropdown => "numbered-dropdown"

/-- All kinds of questions. -/
def all : List QuestionKind :=
  [.shortText, .paragraph, .money, .date, .dateRange, .email, .phone, .singleChoice, .dropdown,
    .checkboxGroup, .textboxSet, .numberedDropdown]

/-- Whether a kind is answered by one select control. -/
def isSelect : QuestionKind → Bool
  | .singleChoice | .dropdown | .numberedDropdown => true
  | _ => false

/-- Whether a kind is a select whose choice is also exported in hidden controls. -/
def isDropdown : QuestionKind → Bool
  | .dropdown | .numberedDropdown => true
  | _ => false

/-- Whether a kind makes use of options. -/
def hasOptions : QuestionKind → Bool
  | .singleChoice | .dropdown | .checkboxGroup | .textboxSet => true
  | _ => false

end QuestionKind

/-- An option to choose, or one textbox of a set. Its control is named after the given name or
after its label; the exclusive option excludes all others, and an amount can be asked for while the
option is checked. -/
structure Choice where
  label : String
  name : Option String
  exclusive : Bool
  amount : Bool
  deriving DecidableEq, Repr

/-- The bounds of a numbered dropdown, both included. -/
structure NumberRange where
  least : Int64
  greatest : Int64
  deriving DecidableEq

/-- The numerals from the least to the greatest number of a range. -/
def NumberRange.labels (range : NumberRange) : List String :=
  let least := range.least.toInt
  (List.range (range.greatest.toInt - least + 1).toNat).map fun step : Nat =>
    Text.signedNumeral (least + step)

/-- A question. -/
structure Question where
  id : String
  kind : QuestionKind
  text : String
  description : Option String
  options : List Choice
  range : Option NumberRange
  preset : Option String
  logic : Option VisibilityLogic
  jumps : List Jump
  calculations : List Calculation

/-- The labels that a select of the question offers. -/
def Question.choices (question : Question) : List String :=
  match question.kind, question.range with
  | .numberedDropdown, some range => range.labels
  | _, _ => question.options.map (·.label)

end Questionnaire

/-
This file writes forms as JSON values. The members of every object stand in the order of their
names, and a field that holds what its absence means is left out.
-/
import Questionnaire.Form.Schema
import Questionnaire.Json.Value

namespace Questionnaire

namespace Json

/-- A member for a text, if there is one. -/
def memberIfSome (name : String) : Option String → List (String × Json)
  | none => []
  | some value => [(name, .text value)]

/-- A member for a list, if it is not empty. -/
def memberIfAny {α : Type} (name : String) (encode : α → Json) :
    List α → List (String × Json)
  | [] => []
  | values => [(name, .array (values.map encode))]

/-- A member for a flag, if it is set. -/
def memberIfTrue (name : String) (flag : Bool) : List (String × Json) :=
  if flag then [(name, .boolean true)] else []

/-- A float as a number; what is not finite has no number. -/
def ofFloat (value : Float) : Json :=
  if value.isFinite then .number (.float value) else .null

end Json

open Json

/-- The JSON value of a condition. -/
def Condition.encode (condition : Condition) : Json :=
  .object [("answer", .text condition.answer), ("question", .text condition.question)]

/-- The JSON value of visibility logic. -/
def VisibilityLogic.encode (logic : VisibilityLogic) : Json :=
  .object [("conditions", .array (logic.conditions.map Condition.encode))]

/-- The JSON value of a jump target. -/
def JumpTarget.encode : JumpTarget → Json
  | .section id => .nat id.toNat
  | .marker word => .text word

/-- The JSON value of a jump. -/
def Jump.encode (jump : Jump) : Json :=
  .object [("target", jump.target.encode), ("trigger", .text jump.trigger)]

/-- The word for the kind of a target. -/
def TargetKind.word : TargetKind → String
  | .checkbox => "checkbox"
  | .text => "text"

/-- The JSON value of a term. -/
def Term.encode (term : Term) : Json :=
  .object <| [("field", .text term.field)] ++
    memberIfSome "op" (term.operator.map fun operator => String.ofList [operator.symbol])

/-- The sign of a comparison. -/
def Comparison.symbol : Comparison → String
  | .equal => "="
  | .less => "<"
  | .greater => ">"

/-- The JSON value of an outcome. -/
def Outcome.encode : Outcome → Json
  | .checked => .object [("kind", .text "checked")]
  | .unchecked => .object [("kind", .text "unchecked")]
  | .text value => .object [("kind", .text "text"), ("value", .text value)]

/-- The JSON value of a calculation. -/
def Calculation.encode (calculation : Calculation) : Json :=
  .object <|
    [("compare", .text calculation.comparison.symbol), ("outcome", calculation.outcome.encode)] ++
    memberIfSome "target" calculation.target ++
    [("target_kind", .text calculation.targetKind.word),
      ("terms", .array (calculation.terms.map Term.encode)),
      ("threshold", ofFloat calculation.threshold)]

/-- The JSON value of an option. -/
def Choice.encode (choice : Choice) : Json :=
  .object <| memberIfTrue "amount" choice.amount ++ memberIfTrue "exclusive" choice.exclusive ++
    [("label", .text choice.label)] ++ memberIfSome "name" choice.name

/-- The JSON value of a range. -/
def NumberRange.encode (range : NumberRange) : Json :=
  .object [("max", .number (.integer range.greatest.toInt)),
    ("min", .number (.integer range.least.toInt))]

/-- The JSON value of a question. -/
def Question.encode (question : Question) : Json :=
  .object <| memberIfSome "default_value" question.preset ++
    memberIfSome "description" question.description ++
    [("id", .text question.id)] ++
    memberIfAny "jump" Jump.encode question.jumps ++
    (question.logic.map fun logic => ("logic", logic.encode)).toList ++
    memberIfAny "options" Choice.encode question.options ++
    memberIfAny "pdf_logic" Calculation.encode question.calculations ++
    (question.range.map fun range => ("range", range.encode)).toList ++
    [("text", .text question.text), ("type", .text question.kind.label)]

/-- The JSON value of a section. -/
def FormSection.encode (part : FormSection) : Json :=
  .object [("id", .nat part.id.toNat), ("name", .text part.name),
    ("questions", .array (part.questions.map Question.encode))]

/-- The JSON value of a hidden field. -/
def HiddenField.encode (field : HiddenField) : Json :=
  .object <| memberIfSome "default_value" field.preset ++
    memberIfAny "hidden_logic" Calculation.encode field.calculations ++
    [("kind", .text field.kind.word), ("name", .text field.name)]

/-- The JSON value of a link. -/
def Link.encode (link : Link) : Json :=
  .object [("a", .text link.first), ("b", .text link.second)]

/-- The JSON value of a form. -/
def Form.encode (form : Form) : Json :=
  .object <| memberIfSome "description" form.description ++
    memberIfAny "hidden_fields" HiddenField.encode form.hiddenFields ++
    [("id", .text form.id)] ++
    memberIfAny "linking" Link.encode form.links ++
    [("sections", .array (form.sections.map FormSection.encode)), ("title", .text form.title)]

end Questionnaire

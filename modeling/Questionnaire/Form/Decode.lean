/-
This file reads forms from JSON values. Every record names its fields in declaration order, with
what stands for a field that is left out; operators and comparisons have more than one spelling.
-/
import Questionnaire.Form.Encode
import Questionnaire.Json.Decode

namespace Questionnaire

open Json

/-! ### Visibility and jumps -/

/-- The fields of a condition. -/
def Condition.slots : List (Slot Condition) :=
  [.required "question" asText fun value record => { record with question := value },
    .required "answer" asText fun value record => { record with answer := value }]

/-- Reads a condition. -/
def Condition.decode : Decoder Condition := asRecord "struct Condition" slots ⟨"", ""⟩

/-- The fields of visibility logic. -/
def VisibilityLogic.slots : List (Slot VisibilityLogic) :=
  [.defaulted "conditions" (asList Condition.decode) fun value _ => ⟨value⟩]

/-- Reads visibility logic. -/
def VisibilityLogic.decode : Decoder VisibilityLogic :=
  asRecord "struct VisibilityLogic" slots ⟨[]⟩

/-- Reads a jump target: a number of 32 bits, or a text. -/
def JumpTarget.decode : Decoder JumpTarget
  | .number (.integer value) =>
    if 0 ≤ value ∧ value < UInt32.size then .ok (.section (UInt32.ofNat value.toNat))
    else .error (.noVariant "JumpTarget")
  | .text value => .ok (.marker value)
  | _ => .error (.noVariant "JumpTarget")

/-- The fields of a jump. -/
def Jump.slots : List (Slot Jump) :=
  [.required "trigger" asText fun value record => { record with trigger := value },
    .required "target" JumpTarget.decode fun value record => { record with target := value }]

/-- Reads a jump. -/
def Jump.decode : Decoder Jump := asRecord "struct JumpSpec" slots ⟨"", .marker ""⟩

/-! ### Calculations -/

/-- The words for the kinds of targets. -/
def TargetKind.words : List (String × TargetKind) :=
  [("checkbox", .checkbox), ("text", .text)]

/-- Reads the kind of a target. -/
def TargetKind.decode : Decoder TargetKind := asVariant words

/-- The spellings of the operators. -/
def Expression.Operator.spellings : List (String × Expression.Operator) :=
  [("+", .add), ("-", .subtract), ("−", .subtract), ("*", .multiply), ("x", .multiply),
    ("×", .multiply), ("/", .divide), ("÷", .divide)]

/-- Reads an operator. -/
def Expression.Operator.decode : Decoder Expression.Operator := asVariant spellings

/-- The fields of a term. -/
def Term.slots : List (Slot Term) :=
  [.defaulted "op" (asOption Expression.Operator.decode) fun value record =>
      { record with operator := value },
    .required "field" asText fun value record => { record with field := value }]

/-- Reads a term. -/
def Term.decode : Decoder Term := asRecord "struct Term" slots ⟨none, ""⟩

/-- The spellings of the comparisons. -/
def Comparison.spellings : List (String × Comparison) :=
  [("=", .equal), ("==", .equal), ("<", .less), (">", .greater)]

/-- Reads a comparison. -/
def Comparison.decode : Decoder Comparison := asVariant spellings

/-- The kinds of outcomes. -/
inductive Outcome.Tag where
  | checked
  | unchecked
  | text

/-- The words for the kinds of outcomes. -/
def Outcome.tags : List (String × Outcome.Tag) :=
  [("checked", .checked), ("unchecked", .unchecked), ("text", .text)]

/-- Reads the kind of an outcome. -/
def Outcome.decodeTag : Decoder Outcome.Tag
  | .text name => variantOf tags name
  | other => .error (unfit "variant identifier" other)

/-- Takes the kind of an outcome out of its members. -/
def Outcome.takeTag : List (String × Json) → Option Outcome.Tag → List (String × Json) →
    Except DecodeError (Outcome.Tag × List (String × Json))
  | [], some tag, others => .ok (tag, others)
  | [], none, _ => .error (.missingField "kind")
  | (name, value) :: rest, tag, others =>
    if name == "kind" then
      match tag with
      | some _ => .error (.duplicateField "kind")
      | none => do
        let tag ← decodeTag value
        takeTag rest (some tag) others
    else takeTag rest tag (others ++ [(name, value)])

/-- The outcome of a kind with the members beside it. -/
def Outcome.ofMembers (members : List (String × Json)) : Outcome.Tag → Except DecodeError Outcome
  | .checked => .ok .checked
  | .unchecked => .ok .unchecked
  | .text =>
    (Json.ofMembers [.required "value" asText fun value _ => value] "" members).map .text

/-- The outcome of a kind with the elements after it. -/
def Outcome.ofElements (elements : List Json) : Outcome.Tag → Except DecodeError Outcome
  | .checked => if elements.isEmpty then .ok .checked else .error (tooLong 0)
  | .unchecked => if elements.isEmpty then .ok .unchecked else .error (tooLong 0)
  | .text =>
    match elements with
    | [] => .error (.wrongLength 0 "struct variant Outcome::Text with 1 element")
    | value :: rest => do
      let value ← asText value
      if rest.isEmpty then .ok (.text value) else .error (tooLong 1)
where
  /-- The error for more elements than the kind has room for. -/
  tooLong (room : Nat) : DecodeError :=
    .wrongLength elements.length (describeCount room ++ " in sequence")

/-- Reads an outcome: an object in which one member tells the kind, or an array that starts with
the kind. All of it is read before the kind is known. -/
def Outcome.decode (value : Json) : Except DecodeError Outcome :=
  if !value.isReadable then .error .malformed
  else match value with
    | .object members => do
      let (tag, others) ← takeTag members none []
      ofMembers others tag
    | .array [] => .error (.missingField "kind")
    | .array (first :: rest) => do
      let tag ← decodeTag first
      ofElements rest tag
    | other => .error (unfit "internally tagged enum Outcome" other)

/-- The fields of a calculation. -/
def Calculation.slots : List (Slot Calculation) :=
  [.defaulted "target" (asOption asText) fun value record => { record with target := value },
    .defaulted "target_kind" TargetKind.decode fun value record =>
      { record with targetKind := value },
    .defaulted "terms" (asList Term.decode) fun value record => { record with terms := value },
    .required "compare" Comparison.decode fun value record => { record with comparison := value },
    .required "threshold" asFloat fun value record => { record with threshold := value },
    .required "outcome" Outcome.decode fun value record => { record with outcome := value }]

/-- The calculation whose fields are all left out. -/
def Calculation.blank : Calculation := ⟨none, .text, [], .equal, 0.0, .checked⟩

/-- Reads a calculation. -/
def Calculation.decode : Decoder Calculation := asRecord "struct CalculationRule" slots blank

/-! ### Questions -/

/-- The words for the kinds of questions. -/
def QuestionKind.words : List (String × QuestionKind) := all.map fun kind => (kind.label, kind)

/-- Reads the kind of a question. -/
def QuestionKind.decode : Decoder QuestionKind := asVariant words

/-- The fields of an option. -/
def Choice.slots : List (Slot Choice) :=
  [.required "label" asText fun value record => { record with label := value },
    .defaulted "name" (asOption asText) fun value record => { record with name := value },
    .defaulted "exclusive" asBoolean fun value record => { record with exclusive := value },
    .defaulted "amount" asBoolean fun value record => { record with amount := value }]

/-- Reads an option. -/
def Choice.decode : Decoder Choice := asRecord "struct OptionSpec" slots ⟨"", none, false, false⟩

/-- The fields of a range. -/
def NumberRange.slots : List (Slot NumberRange) :=
  [.required "min" asInt64 fun value record => { record with least := value },
    .required "max" asInt64 fun value record => { record with greatest := value }]

/-- Reads a range. -/
def NumberRange.decode : Decoder NumberRange := asRecord "struct NumberRange" slots ⟨0, 0⟩

/-- The fields of a question. -/
def Question.slots : List (Slot Question) :=
  [.required "id" asText fun value record => { record with id := value },
    .required "type" QuestionKind.decode fun value record => { record with kind := value },
    .required "text" asText fun value record => { record with text := value },
    .defaulted "description" (asOption asText) fun value record =>
      { record with description := value },
    .defaulted "options" (asList Choice.decode) fun value record =>
      { record with options := value },
    .defaulted "range" (asOption NumberRange.decode) fun value record =>
      { record with range := value },
    .defaulted "default_value" (asOption asText) fun value record =>
      { record with preset := value },
    .defaulted "logic" (asOption VisibilityLogic.decode) fun value record =>
      { record with logic := value },
    .defaulted "jump" (asList Jump.decode) fun value record => { record with jumps := value },
    .defaulted "pdf_logic" (asList Calculation.decode) fun value record =>
      { record with calculations := value }]

/-- The question whose fields are all left out. -/
def Question.blank : Question := ⟨"", .shortText, "", none, [], none, none, none, [], []⟩

/-- Reads a question. -/
def Question.decode : Decoder Question := asRecord "struct QuestionSpec" slots blank

/-! ### Forms -/

/-- The fields of a section. -/
def FormSection.slots : List (Slot FormSection) :=
  [.required "id" asWord32 fun value record => { record with id := value },
    .required "name" asText fun value record => { record with name := value },
    .defaulted "questions" (asList Question.decode) fun value record =>
      { record with questions := value }]

/-- Reads a section. -/
def FormSection.decode : Decoder FormSection := asRecord "struct SectionSpec" slots ⟨0, "", []⟩

/-- The fields of a hidden field. -/
def HiddenField.slots : List (Slot HiddenField) :=
  [.required "name" asText fun value record => { record with name := value },
    .defaulted "kind" TargetKind.decode fun value record => { record with kind := value },
    .defaulted "default_value" (asOption asText) fun value record =>
      { record with preset := value },
    .defaulted "hidden_logic" (asList Calculation.decode) fun value record =>
      { record with calculations := value }]

/-- Reads a hidden field. -/
def HiddenField.decode : Decoder HiddenField :=
  asRecord "struct HiddenFieldSpec" slots ⟨"", .text, none, []⟩

/-- The fields of a link. -/
def Link.slots : List (Slot Link) :=
  [.required "a" asText fun value record => { record with first := value },
    .required "b" asText fun value record => { record with second := value }]

/-- Reads a link. -/
def Link.decode : Decoder Link := asRecord "struct LinkedPair" slots ⟨"", ""⟩

/-- The fields of a form. -/
def Form.slots : List (Slot Form) :=
  [.required "id" asText fun value record => { record with id := value },
    .required "title" asText fun value record => { record with title := value },
    .defaulted "description" (asOption asText) fun value record =>
      { record with description := value },
    .required "sections" (asList FormSection.decode) fun value record =>
      { record with sections := value },
    .defaulted "hidden_fields" (asList HiddenField.decode) fun value record =>
      { record with hiddenFields := value },
    .defaulted "linking" (asList Link.decode) fun value record => { record with links := value }]

/-- Reads a form. -/
def Form.decode : Decoder Form := asRecord "struct FormSchema" slots ⟨"", "", none, [], [], []⟩

/-- Reads the text of a form. -/
def Form.ofSource (source : String) : Except DecodeError Form := decodeSource Form.decode source

end Questionnaire

/-
This file describes the format of forms as a JSON Schema, for editors and checkers that know that
language. The members of a description stand in the order in which such descriptions are read: what
it is about, its type, and then the details of the type.
-/
import Questionnaire.Form.Decode

namespace Questionnaire.Form.Format

/-- A description of values, as the members of its object. -/
abbrev Description := List (String × Json)

/-! ### Parts of descriptions -/

/-- A description with words on its meaning. -/
def about (words : String) (description : Description) : Description :=
  ("description", .text words) :: description

/-- The values of a type of JSON. -/
def typed (type : String) : Description := [("type", .text type)]

/-- Texts. -/
def text : Description := typed "string"

/-- Texts or null. -/
def optionalText : Description := [("type", .texts ["string", "null"])]

/-- Whole numbers of a machine format. -/
def integer (format : String) : Description := typed "integer" ++ [("format", .text format)]

/-- Whole numbers from zero on of 32 bits. -/
def word32 : Description := integer "uint32" ++ [("minimum", .nat 0)]

/-- The values described under a name. -/
def named (name : String) : Description := [("$ref", .text ("#/$defs/" ++ name))]

/-- Lists of what is described under a name. -/
def listOf (name : String) : Description := typed "array" ++ [("items", .object (named name))]

/-- Lists that are empty where they are left out. -/
def listOrEmpty (name : String) : Description :=
  typed "array" ++ [("default", .array []), ("items", .object (named name))]

/-- Some words. -/
def oneWordOf (words : List String) : Description := text ++ [("enum", .texts words)]

/-- One word. -/
def word (word : String) : Description := text ++ [("const", .text word)]

/-- The values that one of several descriptions fits. -/
def anyOf (descriptions : List Description) : Description :=
  [("anyOf", .array (descriptions.map .object))]

/-- What is described under a name, or null. -/
def optional (name : String) : Description := anyOf [named name, typed "null"]

/-- Objects with the given members, of which some have to be there. -/
def record (members : List (String × Description)) (required : List String) : Description :=
  typed "object" ++
    [("properties", .object (members.map fun member => (member.1, .object member.2)))] ++
    if required.isEmpty then [] else [("required", .texts required)]

/-! ### Rules -/

/-- The format of operators. -/
def operator : Description :=
  about "Arithmetic operator shared by calculation terms and inline expressions." <|
    oneWordOf ["+", "-", "*", "/"]

/-- The format of comparisons. -/
def comparison : Description := oneWordOf ["=", "<", ">"]

/-- The format of the kinds of targets. -/
def targetKind : Description := oneWordOf ["checkbox", "text"]

/-- The kind of a target, text where it is left out. -/
def targetKindOrText : Description := named "TargetKind" ++ [("default", .text "text")]

/-- The format of terms. -/
def term : Description :=
  record [("field", text), ("op", about "Absent on the first term." (optional "ArithOp"))] ["field"]

/-- The format of outcomes. -/
def outcome : Description :=
  about "Value written to the target when a rule's comparison holds."
    [("oneOf", .array [
      .object (record [("kind", word "checked")] ["kind"]),
      .object (record [("kind", word "unchecked")] ["kind"]),
      .object (about
        "Literal text; `##total##` is replaced by the accumulator with two decimals."
        (record [("kind", word "text"), ("value", text)] ["kind", "value"]))])]

/-- The format of calculations. -/
def calculation : Description :=
  about ("Derived-field rule: fold the terms, compare against the threshold, and on\n" ++
      "success write the outcome into `target`.") <|
    record
      [("compare", named "CompareOp"), ("outcome", named "Outcome"),
        ("target", about "Implied by the enclosing hidden field when omitted there."
          optionalText),
        ("target_kind", targetKindOrText), ("terms", listOrEmpty "Term"),
        ("threshold", typed "number" ++ [("format", .text "double")])]
      ["compare", "threshold", "outcome"]

/-- The format of conditions. -/
def condition : Description :=
  about "One `(source question, expected answer)` pair of a visibility rule." <|
    record [("answer", text), ("question", text)] ["question", "answer"]

/-- The format of visibility logic. -/
def visibilityLogic : Description :=
  about "Conditions combined by logical OR." <|
    record [("conditions", listOrEmpty "Condition")] []

/-- The format of jump targets. -/
def jumpTarget : Description :=
  about "Destination of a jump: a section number or a marker such as `\"end\"`." <|
    anyOf [word32, text]

/-- The format of jumps. -/
def jump : Description :=
  about ("A jump declared on a question: when its answer equals `trigger`, advancing\n" ++
      "from the question's section goes to `target`.") <|
    record [("target", named "JumpTarget"), ("trigger", text)] ["trigger", "target"]

/-! ### Questions -/

/-- The format of the kinds of questions. -/
def questionKind : Description :=
  about "Supported question kinds." <| oneWordOf (QuestionKind.all.map QuestionKind.label)

/-- The format of options. -/
def choice : Description :=
  about "One selectable option (or one textbox of a repeated set)." <|
    record
      [("amount", about "Attaches a numeric amount sub-field shown while the option is checked."
          (typed "boolean")),
        ("exclusive", about "The \"none of the above\" option of a checkbox group."
          (typed "boolean")),
        ("label", text),
        ("name", about
          "Raw control name chosen at authoring time; empty means derive from the label."
          optionalText)]
      ["label"]

/-- The format of ranges. -/
def numberRange : Description :=
  about "Inclusive bounds of a numbered dropdown." <|
    record [("max", integer "int64"), ("min", integer "int64")] ["min", "max"]

/-- The format of questions. -/
def question : Description :=
  about "Definition for a single question." <|
    record
      [("default_value", optionalText), ("description", optionalText), ("id", text),
        ("jump", listOf "JumpSpec"), ("logic", optional "VisibilityLogic"),
        ("options", listOf "OptionSpec"), ("pdf_logic", listOf "CalculationRule"),
        ("range", optional "NumberRange"), ("text", text), ("type", named "QuestionType")]
      ["id", "type", "text"]

/-! ### Forms -/

/-- The format of sections. -/
def formSection : Description :=
  about "A numbered group of questions shown together." <|
    record
      [("id", about "1-based, dense across the form." word32), ("name", text),
        ("questions", listOrEmpty "QuestionSpec")]
      ["id", "name"]

/-- The format of hidden fields. -/
def hiddenField : Description :=
  about ("A form-level control that is never filled by the user; its value comes\n" ++
      "from its calculation rules.") <|
    record
      [("default_value", optionalText), ("hidden_logic", listOf "CalculationRule"),
        ("kind", targetKindOrText), ("name", text)]
      ["name"]

/-- The format of links. -/
def link : Description :=
  about ("Two dropdown-like controls kept in sync by value. Either side may name a\n" ++
      "generated control or the id of a choice question.") <|
    record [("a", text), ("b", text)] ["a", "b"]

/-- The descriptions that others name. -/
def definitions : List (String × Description) :=
  [("ArithOp", operator), ("CalculationRule", calculation), ("CompareOp", comparison),
    ("Condition", condition), ("HiddenFieldSpec", hiddenField), ("JumpSpec", jump),
    ("JumpTarget", jumpTarget), ("LinkedPair", link), ("NumberRange", numberRange),
    ("OptionSpec", choice), ("Outcome", outcome), ("QuestionSpec", question),
    ("QuestionType", questionKind), ("SectionSpec", formSection), ("TargetKind", targetKind),
    ("Term", term), ("VisibilityLogic", visibilityLogic)]

/-- The format of forms. -/
def form : Json :=
  .object <|
    [("$schema", .text "https://json-schema.org/draft/2020-12/schema"),
      ("title", .text "FormSchema")] ++
    about "Top-level questionnaire definition as produced by the authoring step."
      (record
        [("description", optionalText), ("hidden_fields", listOf "HiddenFieldSpec"), ("id", text),
          ("linking", listOf "LinkedPair"), ("sections", listOf "SectionSpec"), ("title", text)]
        ["id", "title", "sections"]) ++
    [("$defs", .object (definitions.map fun entry => (entry.1, .object entry.2)))]

end Questionnaire.Form.Format

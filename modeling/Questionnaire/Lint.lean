/-
This file checks a form for what would go wrong or be left out when it is filled. An error keeps the
form from having a catalog or makes a part of it unreachable; a warning names what is tolerated.
The check looks at the form itself and makes no catalog.
-/
import Questionnaire.Form.Schema
import Questionnaire.Json.Value
import Questionnaire.Slug.Registry
import Questionnaire.Text.Quoted

namespace Questionnaire.Lint

/-- How bad a problem is. -/
inductive Severity where
  | error
  | warning
  deriving DecidableEq, Repr

/-- The word for a severity. -/
def Severity.word : Severity → String
  | .error => "error"
  | .warning => "warning"

/-- What is wrong. -/
inductive Problem where
  | noSections
  | sectionNumbering (count : Nat)
  | duplicateQuestion (id : String)
  | missingOptions (kind : QuestionKind)
  | exclusiveOutsideGroup
  | amountOutsideGroup
  | missingRange
  | emptyRange (range : NumberRange)
  | unknownSource (reference : String)
  | forwardReference (source : String)
  | unknownTarget (target : JumpTarget)
  | targetOutOfRange (target : UInt32) (count : Nat)
  | ownSection (id : UInt32)
  | unknownTrigger (trigger : String)
  | calculationWithoutTarget
  | emptyCalculation
  | unnamedHiddenField
  | invalidLink (side : String)
  deriving DecidableEq

namespace Problem

/-- The code of a problem. -/
def code : Problem → String
  | .noSections => "no_sections"
  | .sectionNumbering _ => "section_numbering"
  | .duplicateQuestion _ => "duplicate_question"
  | .missingOptions _ => "missing_options"
  | .exclusiveOutsideGroup => "exclusive_outside_checkbox_group"
  | .amountOutsideGroup => "amount_outside_checkbox_group"
  | .missingRange => "missing_range"
  | .emptyRange _ => "invalid_range"
  | .unknownSource _ => "unknown_visibility_source"
  | .forwardReference _ => "forward_reference"
  | .unknownTarget _ => "unknown_jump_target"
  | .targetOutOfRange _ _ => "jump_target_out_of_range"
  | .ownSection _ => "jump_to_own_section"
  | .unknownTrigger _ => "unknown_jump_trigger"
  | .calculationWithoutTarget => "calculation_without_target"
  | .emptyCalculation => "empty_calculation"
  | .unnamedHiddenField => "unnamed_hidden_field"
  | .invalidLink _ => "invalid_link"

/-- The severity of a problem. -/
def severity : Problem → Severity
  | .noSections | .sectionNumbering _ | .duplicateQuestion _ | .emptyRange _ | .unknownSource _
  | .unknownTarget _ | .targetOutOfRange _ _ | .unnamedHiddenField | .invalidLink _ => .error
  | .missingOptions _ | .exclusiveOutsideGroup | .amountOutsideGroup | .missingRange
  | .forwardReference _ | .ownSection _ | .unknownTrigger _ | .calculationWithoutTarget
  | .emptyCalculation => .warning

/-- How a message shows a jump target. -/
def showTarget : JumpTarget → String
  | .section id => "Section(" ++ Text.numeral id.toNat ++ ")"
  | .marker text => "Marker(" ++ Text.quoted text ++ ")"

/-- The message of a problem. -/
def message : Problem → String
  | .noSections => "form has no sections"
  | .sectionNumbering count =>
    "section ids must run 1..=" ++ Text.numeral count ++ " without gaps or repeats"
  | .duplicateQuestion id => "question id '" ++ id ++ "' is declared more than once"
  | .missingOptions kind => kind.label ++ " question has no options"
  | .exclusiveOutsideGroup => "only checkbox-group options can be exclusive"
  | .amountOutsideGroup => "only checkbox-group options can carry an amount"
  | .missingRange => "numbered dropdown has no range"
  | .emptyRange range =>
    "range " ++ Text.signedNumeral range.least.toInt ++ "..=" ++
      Text.signedNumeral range.greatest.toInt ++ " is empty"
  | .unknownSource reference => "visibility source '" ++ reference ++ "' does not exist"
  | .forwardReference source =>
    "visibility source '" ++ source ++ "' is declared later in the form"
  | .unknownTarget target =>
    "jump target " ++ showTarget target ++ " is neither a section number nor 'end'"
  | .targetOutOfRange target count =>
    "jump target section " ++ Text.numeral target.toNat ++ " is outside 1..=" ++
      Text.numeral count
  | .ownSection id => "jump from section " ++ Text.numeral id.toNat ++ " targets itself"
  | .unknownTrigger trigger =>
    "jump trigger '" ++ trigger ++ "' is not one of the question's options"
  | .calculationWithoutTarget => "calculation rule names no target and will be skipped"
  | .emptyCalculation => "calculation rule has no terms and will be skipped"
  | .unnamedHiddenField => "hidden field without a name"
  | .invalidLink side => "linked control '" ++ side ++ "' is not a select question"

end Problem

/-- A problem, with the question that has it and the place where it is. -/
structure Issue where
  problem : Problem
  question : Option String
  path : Option String
  deriving DecidableEq

/-! ### Looking questions up -/

/-- The questions of a form with the numbers of their sections, in the order of those numbers. -/
def ordered (form : Form) : List (UInt32 × Question) :=
  form.questions.mergeSort fun first second => first.1 ≤ second.1

/-- The slugs of the questions, in order. Only the first question of an id gets one. -/
def slugsOf (questions : List (UInt32 × Question)) : Slug.Registry :=
  questions.foldl (fun registry entry => (registry.assign entry.2.id entry.2.text).1)
    Slug.Registry.empty

/-- The question of an id, or else of a slug. -/
def findQuestion (form : Form) (registry : Slug.Registry) (reference : String) :
    Option Question :=
  match form.question? reference with
  | some question => some question
  | none => (registry.questionFor reference).bind form.question?

/-! ### The checks -/

/-- The problems of the numbers of the sections. -/
def checkSections (form : Form) : List Issue :=
  let count := form.sections.length
  let ids := form.sections.map fun part => part.id.toNat
  let wanted := List.range' 1 count
  if count = 0 then [⟨.noSections, none, some "/sections"⟩]
  else if ids.all wanted.contains && wanted.all ids.contains then []
  else [⟨.sectionNumbering count, none, some "/sections"⟩]

/-- The problems of ids that are given again. -/
def checkIds (seen : List String) : List (UInt32 × Question) → List Issue
  | [] => []
  | (_, question) :: rest =>
    if seen.contains question.id then
      ⟨.duplicateQuestion question.id, some question.id, none⟩ :: checkIds seen rest
    else checkIds (question.id :: seen) rest

/-- The problems of the options and the range of a question. -/
def checkOptions (question : Question) : List Issue :=
  let place := some ("/" ++ question.id ++ "/options")
  let whenever (bad : Bool) (problem : Problem) (path : Option String) : List Issue :=
    if bad then [⟨problem, some question.id, path⟩] else []
  let outside := question.kind != .checkboxGroup
  whenever (question.kind.hasOptions && question.options.isEmpty)
      (.missingOptions question.kind) place ++
    whenever (outside && question.options.any (·.exclusive)) .exclusiveOutsideGroup place ++
    whenever (outside && question.options.any (·.amount)) .amountOutsideGroup place ++
    if question.kind == .numberedDropdown then
      let place := some ("/" ++ question.id ++ "/range")
      match question.range with
      | none => [⟨.missingRange, some question.id, place⟩]
      | some range =>
        whenever (decide (range.greatest.toInt < range.least.toInt)) (.emptyRange range) place
    else []

/-- A place in a list of a question. -/
def placeIn (question : Question) (list : String) (position : Nat) : String :=
  "/" ++ question.id ++ "/" ++ list ++ "/" ++ Text.numeral position

/-- The problem of the source of a condition of the question at a position. -/
def checkCondition (find : String → Option Question) (positionOf : String → Option Nat)
    (order : Nat) (condition : Condition) : Option Problem :=
  match find condition.question with
  | none => some (.unknownSource condition.question)
  | some source =>
    if (positionOf source.id).any fun position => decide (order < position) then
      some (.forwardReference source.id)
    else none

/-- The problems of the conditions of a question. -/
def checkLogic (find : String → Option Question) (positionOf : String → Option Nat) (order : Nat)
    (question : Question) : List Issue :=
  match question.logic with
  | none => []
  | some logic =>
    logic.conditions.zipIdx.filterMap fun (condition, slot) =>
      (checkCondition find positionOf order condition).map fun problem =>
        ⟨problem, some question.id, some (placeIn question "logic/conditions" slot)⟩

/-- The problem of the target of a jump from a section. -/
def checkTarget (count : Nat) (sectionId : UInt32) (target : JumpTarget) : Option Problem :=
  match target.destination with
  | none => some (.unknownTarget target)
  | some (.section id) =>
    if id.toNat = 0 ∨ count < id.toNat then some (.targetOutOfRange id count)
    else if id = sectionId then some (.ownSection sectionId)
    else none
  | some .finish => none

/-- The problem of a trigger that no option of the question can give. -/
def checkTrigger (question : Question) (trigger : String) : Option Problem :=
  let choices := question.choices
  if choices.isEmpty || choices.any fun choice => Text.sameAscii choice (Text.trim trigger) then
    none
  else some (.unknownTrigger trigger)

/-- The problems of the jumps of a question. -/
def checkJumps (count : Nat) (sectionId : UInt32) (question : Question) : List Issue :=
  question.jumps.zipIdx.flatMap fun (jump, slot) =>
    ((checkTarget count sectionId jump.target).toList ++
      (checkTrigger question jump.trigger).toList).map fun problem =>
        ⟨problem, some question.id, some (placeIn question "jump" slot)⟩

/-- The problems of the calculations of a question. -/
def checkCalculations (question : Question) : List Issue :=
  question.calculations.zipIdx.flatMap fun (rule, slot) =>
    let place := some (placeIn question "pdf_logic" slot)
    (if rule.target.isNone then
        [⟨.calculationWithoutTarget, some question.id, place⟩]
      else []) ++
      if rule.terms.isEmpty then [⟨.emptyCalculation, some question.id, place⟩] else []

/-- The problems of a hidden field. -/
def checkHiddenField (field : HiddenField) : List Issue :=
  (if (Text.trim field.name).isEmpty then [⟨.unnamedHiddenField, none, some "/hidden_fields"⟩]
    else []) ++
    field.calculations.zipIdx.filterMap fun (rule, slot) =>
      if rule.terms.isEmpty then
        some ⟨.emptyCalculation, none,
          some ("/hidden_fields/" ++ field.name ++ "/hidden_logic/" ++ Text.numeral slot)⟩
      else none

/-- The problems of the sides of a link. -/
def checkLink (find : String → Option Question) (link : Link) (slot : Nat) : List Issue :=
  [link.first, link.second].filterMap fun side =>
    if (find side).any fun question => question.kind.isSelect then none
    else some ⟨.invalidLink side, none, some ("/linking/" ++ Text.numeral slot)⟩

/-- All problems of a form. -/
def check (form : Form) : List Issue :=
  let questions := ordered form
  let find := findQuestion form (slugsOf questions)
  let positionOf (id : String) : Option Nat := questions.findIdx? fun entry => entry.2.id == id
  let count := form.sections.length
  checkSections form ++ checkIds [] questions ++
    (questions.zipIdx.flatMap fun ((sectionId, question), order) =>
      checkOptions question ++ checkLogic find positionOf order question ++
        checkJumps count sectionId question ++ checkCalculations question) ++
    form.hiddenFields.flatMap checkHiddenField ++
    form.links.zipIdx.flatMap fun (link, slot) => checkLink find link slot

/-- Whether none of the problems is an error. -/
def isValid (issues : List Issue) : Bool :=
  !issues.any fun issue => issue.problem.severity == .error

/-! ### Texts -/

/-- The JSON value of an issue. -/
def Issue.encode (issue : Issue) : Json :=
  .object [("code", .text issue.problem.code), ("message", .text issue.problem.message),
    ("path", Json.textOrNull issue.path), ("question_id", Json.textOrNull issue.question),
    ("severity", .text issue.problem.severity.word)]

/-- The JSON value of a report. -/
def encode (issues : List Issue) : Json :=
  .object [("issues", .array (issues.map Issue.encode)), ("valid", .boolean (isValid issues))]

end Questionnaire.Lint

/-
This file makes the catalog of a form. The numbers of the sections have to run from one without
gaps, and no id may be given to two questions. Everything else that makes no sense is left out: a
rule without terms or target, a hidden field without a name of its own, a link whose sides are not
two selects.
-/
import Questionnaire.Catalog.Basic
import Questionnaire.Catalog.Layout
import Questionnaire.Fault
import Questionnaire.Form.Decode

namespace Questionnaire.Catalog

/-! ### Sections and slugs -/

/-- Puts a section before the first one of a greater or the same number. -/
def placeSection (part : FormSection) : List FormSection → List FormSection
  | [] => [part]
  | head :: rest =>
    if part.id ≤ head.id then part :: head :: rest else head :: placeSection part rest

/-- The form with its sections in the order of their numbers. -/
def inOrder (form : Form) : Form :=
  { form with sections := form.sections.foldr placeSection [] }

/-- The number of sections, if their numbers are those from one to it. -/
def countSections (form : Form) : Except Fault UInt32 :=
  let count := form.sections.length
  let found := form.sections.map (·.id)
  if count = 0 then .error (.noSections form.id)
  else if (inOrder form).sections.map (·.id.toNat) = List.range' 1 count then
    .ok (UInt32.ofNat count)
  else .error (.sectionNumbering count found)

/-- Gives every question a slug, in order. The ids given so far tell a repetition. -/
def assignSlugs (seen : List String) (registry : Slug.Registry) :
    List Question → Except Fault Slug.Registry
  | [] => .ok registry
  | question :: rest =>
    if seen.contains question.id then .error (.duplicateQuestion question.id)
    else assignSlugs (question.id :: seen) (registry.assign question.id question.text).1 rest

/-! ### Questions and controls -/

/-- The entry of a question with the given controls. -/
def entryOf (registry : Slug.Registry) (sectionId : UInt32) (question : Question)
    (controls : List Control) : QuestionEntry :=
  { id := question.id
    slug := registry.slugOf question.id
    kind := question.kind
    sectionId
    answers := (controls.filter Control.isAnswer).map (·.name)
    controls := controls.map (·.name) }

/-- Lays out questions one after the other; the names laid out so far are taken. -/
def layQuestions (registry : Slug.Registry) (taken : List String) :
    List (UInt32 × Question) → List (QuestionEntry × List Control)
  | [] => []
  | (sectionId, question) :: rest =>
    let controls := Layout.ofQuestion registry taken question
    (entryOf registry sectionId question controls, controls) ::
      layQuestions registry (controls.map (·.name) ++ taken) rest

/-! ### Visibility and jumps -/

/-- The visibility rule of a question that has conditions. -/
def ruleOf (question : Question) : Option VisibilityRule :=
  match question.logic with
  | some ⟨condition :: rest⟩ => some ⟨question.id, condition :: rest⟩
  | _ => none

/-- Notes that a rule reads a control. -/
def noteReader (position : Nat) (dependents : NameMap (List Nat)) (control : String) :
    NameMap (List Nat) :=
  let readers := (dependents.get? control).getD []
  if readers.contains position then dependents
  else dependents.insert control (readers ++ [position])

/-- The controls that a condition reads: the answer of its question. -/
def sourcesOf (catalog : Catalog) (condition : Condition) : List String :=
  match catalog.resolve? condition.question with
  | some entry => entry.answers
  | none => []

/-- The readers of every control. -/
def readersOf (catalog : Catalog) (rules : List VisibilityRule) : NameMap (List Nat) :=
  rules.zipIdx.foldl
    (fun dependents (rule, position) =>
      (rule.conditions.flatMap catalog.sourcesOf).foldl (noteReader position) dependents)
    NameMap.empty

/-- The jumps of a question. -/
def jumpRules (sectionId : UInt32) (question : Question) : List JumpRule :=
  question.jumps.map fun jump => ⟨sectionId, question.id, question.kind, jump.trigger, jump.target⟩

/-! ### Calculations -/

/-- The calculations of a hidden field, each with its target: its own, or else the field. -/
def ofHiddenField (field : HiddenField) : List (String × Calculation) :=
  field.calculations.map fun rule => (rule.target.getD field.name, rule)

/-- The calculations of a question that name their target. -/
def ofQuestion (question : Question) : List (String × Calculation) :=
  question.calculations.filterMap fun rule => rule.target.map fun target => (target, rule)

/-- The calculations of a form with their targets: those of hidden fields first. -/
def declaredCalculations (form : Form) : List (String × Calculation) :=
  form.hiddenFields.flatMap ofHiddenField ++
    form.questions.flatMap fun entry => ofQuestion entry.2

/-- Adds a calculation to the table of a target, which it starts if there is none. -/
def addCalculation (target : String) (rule : Calculation) :
    List CalculationTarget → List CalculationTarget
  | [] => [⟨target, [rule]⟩]
  | head :: rest =>
    if head.target == target then { head with rules := head.rules ++ [rule] } :: rest
    else head :: addCalculation target rule rest

/-- The table of calculations: those that have terms, by target, in the order in which the targets
come up first. -/
def tabulate (declared : List (String × Calculation)) : List CalculationTarget :=
  (declared.filter fun entry => !entry.2.terms.isEmpty).foldl
    (fun table (target, rule) => addCalculation target { rule with target := some target } table) []

/-! ### Links -/

/-- The select that a side of a link names: a select itself, or the one that answers a question. -/
def select? (catalog : Catalog) (reference : String) : Option String :=
  let isSelect (name : String) : Bool := (catalog.control? name).any Control.isSelect
  if isSelect reference then some reference
  else ((catalog.resolve? reference).bind fun entry => entry.answers.head?).filter isSelect

/-- The channel of a link between two different selects. -/
def channel? (catalog : Catalog) (link : Link) : Option Channel :=
  match catalog.select? link.first, catalog.select? link.second with
  | some first, some second => if first == second then none else some (.between first second)
  | _, _ => none

/-- The channels of links, each of them once. -/
def channels (catalog : Catalog) (links : List Link) : List Channel :=
  (links.filterMap catalog.channel?).foldl
    (fun found channel => if found.contains channel then found else found ++ [channel]) []

/-! ### The catalog -/

/-- The catalog of questions, controls and jumps, before anything that refers to them. -/
def layout (form : Form) (count : UInt32) (registry : Slug.Registry) : Catalog :=
  let laid := layQuestions registry [] form.questions
  let controls := laid.flatMap (·.2)
  { form
    sectionCount := count
    slugs := registry
    questions := laid.map (·.1)
    controls := controls ++ Layout.ofHiddenFields (controls.map (·.name)) form.hiddenFields
    rules := form.questions.filterMap fun entry => ruleOf entry.2
    dependents := NameMap.empty
    jumps := form.questions.flatMap fun entry => jumpRules entry.1 entry.2
    calculations := tabulate (declaredCalculations form)
    links := [] }

/-- The catalog of a form. -/
def build (form : Form) : Except Fault Catalog := do
  let count ← countSections form
  let form := inOrder form
  let registry ← assignSlugs [] Slug.Registry.empty (form.questions.map (·.2))
  let catalog := layout form count registry
  return { catalog with
    dependents := catalog.readersOf catalog.rules
    links := catalog.channels form.links }

/-- The catalog of the text of a form. -/
def ofSource (source : String) : Except Fault Catalog :=
  match Form.ofSource source with
  | .ok form => build form
  | .error reason => .error (.unreadableForm reason)

end Questionnaire.Catalog

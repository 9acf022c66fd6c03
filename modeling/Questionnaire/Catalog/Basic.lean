/-
This file holds catalogs. A catalog is made of a form once, and every filling of the form looks
things up in it: the slugs, the controls, the rules of the four families, and for every control the
visibility rules that read it.
-/
import Questionnaire.Catalog.Control
import Questionnaire.Form.Schema
import Questionnaire.Slug.Registry

namespace Questionnaire

/-- A question with its slug, its section, the controls of its answer and all its controls. -/
structure QuestionEntry where
  id : String
  slug : String
  kind : QuestionKind
  sectionId : UInt32
  answers : List String
  controls : List String
  deriving DecidableEq, Repr

/-- The conditions under which a question is shown. -/
structure VisibilityRule where
  question : String
  conditions : List Condition
  deriving DecidableEq, Repr

/-- A jump with its question and section. -/
structure JumpRule where
  sectionId : UInt32
  question : String
  kind : QuestionKind
  trigger : String
  target : JumpTarget
  deriving DecidableEq, Repr

/-- The calculations that write one target, in order. -/
structure CalculationTarget where
  target : String
  rules : List Calculation

/-- A pair of linked selects. The smaller name stands first, so that the pair has one form. -/
structure Channel where
  low : String
  high : String
  deriving DecidableEq, Repr

namespace Channel

/-- The channel between two selects. -/
def between (first second : String) : Channel :=
  if second < first then ⟨second, first⟩ else ⟨first, second⟩

/-- Whether a control is a side of the channel. -/
def touches (channel : Channel) (control : String) : Bool :=
  channel.low == control || channel.high == control

/-- The side across from a control. -/
def across (channel : Channel) (control : String) : String :=
  if channel.low == control then channel.high else channel.low

end Channel

/-- What is looked up while a form is filled. The sections of the form are in the order of their
numbers, and the lists are in the order of declaration. -/
structure Catalog where
  form : Form
  sectionCount : UInt32
  slugs : Slug.Registry
  questions : List QuestionEntry
  controls : List Control
  rules : List VisibilityRule
  dependents : NameMap (List Nat)
  jumps : List JumpRule
  calculations : List CalculationTarget
  links : List Channel

namespace Catalog

/-- The section of a number. -/
def section? (catalog : Catalog) (id : UInt32) : Option FormSection :=
  catalog.form.sections.find? fun part => part.id == id

/-- The question of an id. -/
def question? (catalog : Catalog) (id : String) : Option QuestionEntry :=
  catalog.questions.find? fun entry => entry.id == id

/-- The question of an id, or else of a slug. -/
def resolve? (catalog : Catalog) (reference : String) : Option QuestionEntry :=
  match catalog.question? reference with
  | some entry => some entry
  | none => (catalog.slugs.questionFor reference).bind catalog.question?

/-- The control of a name. -/
def control? (catalog : Catalog) (name : String) : Option Control :=
  catalog.controls.find? fun control => control.name == name

/-- The visibility rule of a question. -/
def rule? (catalog : Catalog) (question : String) : Option VisibilityRule :=
  catalog.rules.find? fun rule => rule.question == question

/-- The positions of the visibility rules that read a control. -/
def dependentsOf (catalog : Catalog) (control : String) : List Nat :=
  (catalog.dependents.get? control).getD []

/-- The jumps of a section, in order. -/
def jumpsOf (catalog : Catalog) (sectionId : UInt32) : List JumpRule :=
  catalog.jumps.filter fun jump => jump.sectionId == sectionId

/-- The channels of a control, in order. -/
def channelsOf (catalog : Catalog) (control : String) : List Channel :=
  catalog.links.filter fun channel => channel.touches control

end Catalog

end Questionnaire

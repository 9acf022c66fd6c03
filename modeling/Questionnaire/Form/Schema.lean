/-
This file holds forms as their authors write them: sections of questions, hidden fields that only
calculations fill, and pairs of selects that are kept in step.
-/
import Questionnaire.Form.Question

namespace Questionnaire

/-- A numbered group of questions that are shown together. -/
structure FormSection where
  id : UInt32
  name : String
  questions : List Question

/-- A control that is never shown and gets its value from calculations. -/
structure HiddenField where
  name : String
  kind : TargetKind
  preset : Option String
  calculations : List Calculation

/-- Two selects, or questions answered by one, that take over each other's choice. -/
structure Link where
  first : String
  second : String
  deriving DecidableEq, Repr

/-- A form. -/
structure Form where
  id : String
  title : String
  description : Option String
  sections : List FormSection
  hiddenFields : List HiddenField
  links : List Link

namespace Form

/-- The questions with the numbers of their sections, in the order of the form. -/
def questions (form : Form) : List (UInt32 × Question) :=
  form.sections.flatMap fun part => part.questions.map fun question => (part.id, question)

/-- The first question with an id. -/
def question? (form : Form) (id : String) : Option Question :=
  (form.questions.find? fun entry => entry.2.id == id).map (·.2)

end Form

end Questionnaire

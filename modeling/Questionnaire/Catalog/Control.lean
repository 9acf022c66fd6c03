/-
This file holds the controls that questions and hidden fields are filled in through. A select of a
dropdown has an echo, a hidden control with its choice; a checkbox may have an amount, a control
that is shown while it is checked.
-/

namespace Questionnaire

/-- What a control is, with what its kind needs. -/
inductive ControlKind where
  | text
  | select (options : List String) (echo : Option String)
  | checkbox (value : String) (amount : Option String) (exclusive : Bool)
  | amount (parent : String)
  | echo (select : String)
  deriving DecidableEq, Repr

/-- The word for a kind of control. -/
def ControlKind.label : ControlKind → String
  | .text => "text"
  | .select _ _ => "select"
  | .checkbox _ _ _ => "checkbox"
  | .amount _ => "amount"
  | .echo _ => "mirror"

/-- A control. One without a question belongs to the form itself. -/
structure Control where
  name : String
  question : Option String
  label : String
  kind : ControlKind
  hidden : Bool
  preset : Option String
  deriving DecidableEq, Repr

namespace Control

/-- Whether a control carries the answer of a question, and is no part of another control. -/
def isAnswer (control : Control) : Bool :=
  control.question.isSome &&
    match control.kind with
    | .text | .select _ _ | .checkbox _ _ _ => true
    | .amount _ | .echo _ => false

/-- The amount of a checkbox that has one. -/
def amount? (control : Control) : Option String :=
  match control.kind with
  | .checkbox _ amount _ => amount
  | _ => none

/-- Whether a control is an option that excludes all others. -/
def isExclusive (control : Control) : Bool :=
  match control.kind with
  | .checkbox _ _ exclusive => exclusive
  | _ => false

/-- Whether a control is a select. -/
def isSelect (control : Control) : Bool :=
  match control.kind with
  | .select _ _ => true
  | _ => false

end Control

end Questionnaire

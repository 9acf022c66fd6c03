/-
This file holds the rules that an author attaches to a form: when a question is shown, where an
answer makes the filler jump, and what is calculated.
-/
import Questionnaire.Decimal.Printer
import Questionnaire.Expression.Operator
import Questionnaire.Text.Blank
import Questionnaire.Text.Lower
import Questionnaire.Text.Numeral
import Questionnaire.Text.Replace

namespace Questionnaire

/-! ### Visibility -/

/-- A question that is read, and the answer expected of it. -/
structure Condition where
  question : String
  answer : String
  deriving DecidableEq, Repr

/-- Conditions of which one has to hold. -/
structure VisibilityLogic where
  conditions : List Condition
  deriving DecidableEq, Repr

/-! ### Jumps -/

/-- Where a jump is said to lead: the number of a section, or a marker. -/
inductive JumpTarget where
  | section (id : UInt32)
  | marker (text : String)
  deriving DecidableEq, Repr

/-- Where a jump leads: to a section or to the end of the form. -/
inductive Destination where
  | section (id : UInt32)
  | finish
  deriving DecidableEq, Repr

/-- A marker is the word for the end, or the numeral of a section; any other is not understood. -/
def JumpTarget.destination : JumpTarget → Option Destination
  | .section id => some (.section id)
  | .marker text =>
    let word := Text.trim text
    if Text.sameAscii word "end" then some .finish
    else (Text.readNatural (UInt32.size - 1) word.toList).map fun id => .section (UInt32.ofNat id)

/-- A jump to a target when the question's answer is the trigger. -/
structure Jump where
  trigger : String
  target : JumpTarget
  deriving DecidableEq, Repr

/-! ### Calculations -/

/-- The kind of control that a calculation writes. -/
inductive TargetKind where
  | checkbox
  | text
  deriving DecidableEq, Repr

/-- A field that a calculation reads, with the operator before it; the first has none. -/
structure Term where
  operator : Option Expression.Operator
  field : String
  deriving DecidableEq, Repr

/-- How a total is compared with a threshold. -/
inductive Comparison where
  | equal
  | less
  | greater
  deriving DecidableEq, Repr

/-- The distance below which two numbers count as equal. -/
def Comparison.tolerance : Float := Decimal.nearest false 1 1000000

/-- Whether a comparison holds of a value and a threshold. -/
def Comparison.holds (comparison : Comparison) (value threshold : Float) : Bool :=
  match comparison with
  | .equal => (value - threshold).abs < tolerance
  | .less => value < threshold
  | .greater => threshold < value

/-- What a calculation writes. -/
inductive Outcome where
  | checked
  | unchecked
  | text (value : String)
  deriving DecidableEq, Repr

/-- The marker that stands for the total in the text of an outcome. -/
def Outcome.totalMarker : String := "##total##"

/-- The text of an outcome: the total stands in it with two places. -/
def Outcome.render (outcome : Outcome) (total : Float) : String :=
  match outcome with
  | .checked => "true"
  | .unchecked => "false"
  | .text value => Text.replaceMarker totalMarker (Decimal.fixed 2 total) value

/-- A calculation: its terms are folded, the total is compared with the threshold, and if that holds
the outcome is written to the target. -/
structure Calculation where
  target : Option String
  targetKind : TargetKind
  terms : List Term
  comparison : Comparison
  threshold : Float
  outcome : Outcome

end Questionnaire

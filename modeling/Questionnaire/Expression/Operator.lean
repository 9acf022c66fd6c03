/-
This file holds the arithmetic that calculation rules and inline expressions share. There is no
precedence, a division by zero gives zero, and so does every result that is not finite.
-/

namespace Questionnaire.Expression

/-- The four operators. -/
inductive Operator where
  | add
  | subtract
  | multiply
  | divide
  deriving DecidableEq, Repr

namespace Operator

/-- The operator that a character stands for. -/
def ofChar? : Char → Option Operator
  | '+' => some .add
  | '-' => some .subtract
  | '−' => some .subtract
  | '*' => some .multiply
  | '×' => some .multiply
  | '/' => some .divide
  | '÷' => some .divide
  | _ => none

/-- The character in which an operator is written. -/
def symbol : Operator → Char
  | .add => '+'
  | .subtract => '-'
  | .multiply => '*'
  | .divide => '/'

theorem ofChar?_symbol (operator : Operator) : ofChar? operator.symbol = some operator := by
  cases operator <;> rfl

/-- A number as it is if it is finite, and zero otherwise. -/
def settle (value : Float) : Float := if value.isFinite then value else 0.0

/-- Applies an operator to an accumulated number and the next one. -/
def apply (operator : Operator) (accumulated next : Float) : Float :=
  match operator with
  | .add => settle (accumulated + next)
  | .subtract => settle (accumulated - next)
  | .multiply => settle (accumulated * next)
  | .divide => if next == 0.0 then 0.0 else settle (accumulated / next)

/-- Applies operators with their numbers to a first number, strictly from left to right. -/
def fold (first : Float) (rest : List (Operator × Float)) : Float :=
  rest.foldl (fun accumulated step => step.1.apply accumulated step.2) first

theorem isFinite_settle (value : Float) : (settle value).isFinite = true := by
  unfold settle
  split
  · assumption
  · decide

/-- No operator gives a number that is not finite. -/
theorem isFinite_apply (operator : Operator) (accumulated next : Float) :
    (operator.apply accumulated next).isFinite = true := by
  cases operator <;> simp only [apply, isFinite_settle]
  split
  · decide
  · exact isFinite_settle _

end Operator

end Questionnaire.Expression

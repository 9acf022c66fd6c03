/-
This file evaluates tokens from left to right with the arithmetic of the calculation rules. Operands
that are numerals stand for themselves, and all others are put to a lookup. The names put to it are
recorded, in order.
-/
import Questionnaire.Decimal.Printer
import Questionnaire.Decimal.Reader
import Questionnaire.Expression.Token

namespace Questionnaire.Expression

/-- The state of an evaluation: the number so far, the operator that waits for an operand, whether
that operand is negated, and the names put to the lookup. -/
structure Tally where
  total : Option Float
  pending : Option Operator
  negated : Bool
  asked : List String

namespace Tally

/-- The state before the first token. -/
def start : Tally := ⟨none, none, false, []⟩

/-- Takes an operator. A minus after another operator negates the next operand, and any further
operator replaces the one that waits. -/
def takeOperator (tally : Tally) (operator : Operator) : Tally :=
  match tally.pending with
  | none => { tally with pending := some operator }
  | some _ =>
    if operator = .subtract ∧ tally.negated = false then { tally with negated := true }
    else { tally with pending := some operator, negated := false }

/-- Takes an operand with its number. An operand that no operator waits for is added. -/
def takeNumber (tally : Tally) (number : Float) : Tally :=
  let signed := if tally.negated then -number else number
  { tally with
    total := some ((tally.pending.getD .add).apply (tally.total.getD 0.0) signed)
    pending := none
    negated := false }

/-- Takes a token. -/
def step (lookup : String → Float) (tally : Tally) : Token → Tally
  | .operator operator => tally.takeOperator operator
  | .operand text =>
    match Decimal.readFinite? text.toList with
    | some number => tally.takeNumber number
    | none => { tally.takeNumber (lookup text) with asked := tally.asked ++ [text] }

/-- The number of an evaluation; without any operand it is zero. An operator that still waits
counts for nothing. -/
def value (tally : Tally) : Float := tally.total.getD 0.0

end Tally

/-- Evaluates tokens, with the record of what was asked. -/
def tallyTokens (lookup : String → Float) (tokens : List Token) : Tally :=
  tokens.foldl (Tally.step lookup) Tally.start

/-- Evaluates an expression, with the record of what was asked. -/
def tally (lookup : String → Float) (expression : String) : Tally :=
  tallyTokens lookup (tokens expression)

/-- The number of an expression. -/
def evaluate (lookup : String → Float) (expression : String) : Float :=
  (tally lookup expression).value

/-- A number as it stands in a text: zero has no sign, and neither has what is no number. -/
def numberText (value : Float) : String :=
  if value == 0.0 || !value.isFinite then "0" else Decimal.plain value

end Questionnaire.Expression

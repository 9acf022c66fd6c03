/-
This file cuts an inline expression into tokens: every operator character is a token, and so is each
stretch between them that is more than blanks, without the blanks around it.
-/
import Questionnaire.Expression.Operator
import Questionnaire.Text.Blank

namespace Questionnaire.Expression

/-- A part of an expression. -/
inductive Token where
  | operand (text : String)
  | operator (operator : Operator)
  deriving DecidableEq, Repr

/-- The token of a stretch between operators; a blank stretch has none. -/
def operandTokens (stretch : List Char) : List Token :=
  match Text.trimList stretch with
  | [] => []
  | trimmed => [.operand (String.ofList trimmed)]

/-- The tokens of the characters after a stretch without operators. -/
def tokensAfter (stretch : List Char) : List Char → List Token
  | [] => operandTokens stretch
  | character :: rest =>
    match Operator.ofChar? character with
    | some operator => operandTokens stretch ++ .operator operator :: tokensAfter [] rest
    | none => tokensAfter (stretch ++ [character]) rest

/-- The tokens of an expression. -/
def tokens (expression : String) : List Token := tokensAfter [] expression.toList

end Questionnaire.Expression

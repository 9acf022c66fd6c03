/-
This file replaces the expressions that stand in a text between two double dollar signs by their
numbers. The text is first cut into pieces, from left to right: an opening mark, the shortest
content up to the next mark, and so on after it. A mark without a partner is ordinary text.
-/
import Questionnaire.Expression.Tally

namespace Questionnaire.Expression

/-- A piece of a text with placeholders. -/
inductive Piece where
  | plain (characters : List Char)
  | hole (content : List Char)
  deriving DecidableEq, Repr

/-- What stands before the first mark of two dollar signs, and what after it. -/
def cut : List Char → Option (List Char × List Char)
  | [] => none
  | '$' :: '$' :: rest => some ([], rest)
  | character :: rest => (cut rest).map fun parts => (character :: parts.1, parts.2)

theorem length_of_cut {characters before after : List Char}
    (found : cut characters = some (before, after)) :
    after.length < characters.length := by
  induction characters using cut.induct generalizing before after with
  | case1 => simp [cut] at found
  | case2 rest =>
    simp only [cut, Option.some.injEq, Prod.mk.injEq] at found
    rw [← found.2]
    simp only [List.length_cons]
    omega
  | case3 character rest notMark inductionHypothesis =>
    rw [cut.eq_3 _ _ notMark] at found
    obtain ⟨parts, inner, equal⟩ := Option.map_eq_some_iff.mp found
    cases parts with
    | mk first second =>
      cases equal
      have := inductionHypothesis inner
      simp only [List.length_cons]
      omega

/-- The pieces of a text. -/
def pieces (characters : List Char) : List Piece :=
  match _opened : cut characters with
  | none => [.plain characters]
  | some (before, inside) =>
    match _closed : cut inside with
    | none => [.plain characters]
    | some (content, after) => .plain before :: .hole content :: pieces after
termination_by characters.length
decreasing_by
  have := length_of_cut _opened
  have := length_of_cut _closed
  omega

/-- The characters that a piece becomes. -/
def Piece.fill (lookup : String → Float) : Piece → List Char
  | .plain characters => characters
  | .hole content => (numberText (evaluate lookup (String.ofList content))).toList

/-- The names that a piece puts to the lookup. -/
def Piece.asked (lookup : String → Float) : Piece → List String
  | .plain _ => []
  | .hole content => (tally lookup (String.ofList content)).asked

/-- The text with its placeholders replaced by their numbers. -/
def substitute (lookup : String → Float) (text : String) : String :=
  String.ofList ((pieces text.toList).flatMap (Piece.fill lookup))

/-- The names that a substitution puts to the lookup, in order. -/
def substituteAsked (lookup : String → Float) (text : String) : List String :=
  (pieces text.toList).flatMap (Piece.asked lookup)

end Questionnaire.Expression

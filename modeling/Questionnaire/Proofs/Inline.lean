/-
This file compares the two places where the terms of a calculation can stand. A rule folds the
numbers of its terms; an inline expression is read character by character, and its tokens are taken
one after the other from nothing on. Where the terms are written as an expression, in any operator
characters and with any blanks around the fields, both put the same fields to the lookup, in the
same order and each once, and both give the same number. The expression starts by adding the first
number to zero, which only the sign of a zero shows.
-/
import Questionnaire.Proofs.Arithmetic
import Questionnaire.Proofs.Location
import Questionnaire.Proofs.Tokens

namespace Questionnaire.Expression

/-! ### Written terms -/

/-- Whether a text is put to the lookup where it stands in an expression: it is an operand, and no
numeral of a finite number. -/
structure IsAsked (text : String) : Prop extends IsOperand text where
  noNumber : Decimal.readFinite? text.toList = none

instance : DecidablePred IsAsked := fun text =>
  decidable_of_iff (IsOperand text ∧ (Decimal.readFinite? text.toList).isNone = true)
    ⟨fun both => ⟨both.1, Option.isNone_iff_eq_none.mp both.2⟩,
      fun asked => ⟨asked.toIsOperand, Option.isNone_iff_eq_none.mpr asked.noNumber⟩⟩

/-- Whether characters are those of a text with blanks around them, or none. -/
def IsSpaced (text : String) (characters : List Char) : Prop :=
  ∃ before after, (∀ character ∈ before, Text.isBlank character = true) ∧
    (∀ character ∈ after, Text.isBlank character = true) ∧
    characters = before ++ text.toList ++ after

/-- Whether characters are those of terms that come after others: a character for the operator, and
the field. -/
inductive SpelledAfter : List Term → List Char → Prop
  | nil : SpelledAfter [] []
  | cons {term : Term} {symbol : Char} {spaced : List Char} {terms : List Term}
      {rest : List Char} (isSymbol : Operator.ofChar? symbol = some (term.operator.getD .add))
      (field : IsSpaced term.field spaced) (others : SpelledAfter terms rest) :
      SpelledAfter (term :: terms) (symbol :: (spaced ++ rest))

/-- Whether characters are those of terms. Before the first term there is no operator. -/
inductive Spelled : List Term → List Char → Prop
  | terms {first : Term} {spaced : List Char} {terms : List Term} {rest : List Char}
      (field : IsSpaced first.field spaced) (others : SpelledAfter terms rest) :
      Spelled (first :: terms) (spaced ++ rest)

/-- The tokens of terms that come after others. -/
def laterTokens (terms : List Term) : List Token :=
  terms.flatMap fun term => [.operator (term.operator.getD .add), .operand term.field]

/-- No operator is written in a blank. -/
theorem ofChar?_of_isBlank {character : Char} (blank : Text.isBlank character = true) :
    Operator.ofChar? character = none := by
  unfold Operator.ofChar?
  split
  case h_8 => rfl
  all_goals exact absurd blank (by decide)

section Spaced

variable {text : String} {spaced : List Char} (isSpaced : IsSpaced text spaced)
  (operand : IsOperand text)

include isSpaced operand

theorem IsSpaced.free : ∀ character ∈ spaced, Operator.ofChar? character = none := by
  obtain ⟨before, after, blankBefore, blankAfter, rfl⟩ := isSpaced
  refine List.forall_mem_append.mpr ⟨List.forall_mem_append.mpr ⟨?_, operand.free⟩, ?_⟩
  · exact fun character member => ofChar?_of_isBlank (blankBefore character member)
  · exact fun character member => ofChar?_of_isBlank (blankAfter character member)

theorem IsSpaced.operandTokens_eq : operandTokens spaced = [.operand text] := by
  obtain ⟨before, after, blankBefore, blankAfter, rfl⟩ := isSpaced
  refine operandTokens_of_trimList operand ?_
  rw [Text.trimList_append blankBefore blankAfter, operand.trimList_toList]

end Spaced

/-- The field before the terms, which is still to be ended, is ended by the first operator. -/
theorem SpelledAfter.tokensAfter_eq {terms : List Term} {characters : List Char}
    (spelled : SpelledAfter terms characters) (operands : ∀ term ∈ terms, IsOperand term.field)
    (stretch : List Char) :
    tokensAfter stretch characters = operandTokens stretch ++ laterTokens terms := by
  induction spelled generalizing stretch with
  | nil => exact (List.append_nil _).symm
  | cons isSymbol field others inductionHypothesis =>
    obtain ⟨operand, operands⟩ := List.forall_mem_cons.mp operands
    simp only [tokensAfter, isSymbol]
    rw [tokensAfter_free_append (field.free operand), List.nil_append,
      inductionHypothesis operands, field.operandTokens_eq operand]
    rfl

theorem SpelledAfter.tokens_eq {first : Term} {terms : List Term} {spaced rest : List Char}
    (others : SpelledAfter terms rest) (field : IsSpaced first.field spaced)
    (operands : ∀ term ∈ first :: terms, IsOperand term.field) :
    tokensAfter [] (spaced ++ rest) = .operand first.field :: laterTokens terms := by
  obtain ⟨operand, operands⟩ := List.forall_mem_cons.mp operands
  rw [tokensAfter_free_append (field.free operand), List.nil_append,
    others.tokensAfter_eq operands, field.operandTokens_eq operand]
  rfl

/-! ### Taken terms -/

variable (lookup : String → Float)

/-- The steps of an evaluation, with the operators and the numbers that they apply. -/
def steps (terms : List Term) : List (Operator × Float) :=
  terms.map fun term => (term.operator.getD .add, lookup term.field)

theorem step_operand {text : String} (noNumber : Decimal.readFinite? text.toList = none)
    (tally : Tally) : tally.step lookup (.operand text) =
      { tally.takeNumber (lookup text) with asked := tally.asked ++ [text] } := by
  rw [Tally.step, noNumber]

/-- Between two terms no operator waits, and each term takes one step of the fold. -/
theorem foldl_laterTokens {terms : List Term} (asked : ∀ term ∈ terms, IsAsked term.field)
    (number : Float) (names : List String) :
    (laterTokens terms).foldl (Tally.step lookup) ⟨some number, none, false, names⟩ =
      ⟨some (Operator.fold number (steps lookup terms)), none, false,
        names ++ terms.map Term.field⟩ := by
  induction terms generalizing number names with
  | nil => rw [List.map_nil, List.append_nil]; rfl
  | cons term terms inductionHypothesis =>
    obtain ⟨first, others⟩ := List.forall_mem_cons.mp asked
    let operator := term.operator.getD .add
    have taken : Tally.step lookup
        (Tally.step lookup ⟨some number, none, false, names⟩ (.operator operator))
          (.operand term.field) =
        ⟨some (operator.apply number (lookup term.field)), none, false, names ++ [term.field]⟩ := by
      rw [step_operand lookup first.noNumber]
      rfl
    calc (laterTokens (term :: terms)).foldl (Tally.step lookup) ⟨some number, none, false, names⟩
        = (laterTokens terms).foldl (Tally.step lookup)
            ⟨some (operator.apply number (lookup term.field)), none, false,
              names ++ [term.field]⟩ := by rw [← taken]; rfl
      _ = _ := by rw [inductionHypothesis others, List.append_assoc]; rfl

theorem tallyTokens_terms {first : Term} {terms : List Term}
    (asked : ∀ term ∈ first :: terms, IsAsked term.field) :
    tallyTokens lookup (.operand first.field :: laterTokens terms) =
      ⟨some (Operator.fold (Operator.add.apply 0.0 (lookup first.field)) (steps lookup terms)),
        none, false, (first :: terms).map Term.field⟩ := by
  obtain ⟨firstAsked, others⟩ := List.forall_mem_cons.mp asked
  rw [tallyTokens, List.foldl_cons, step_operand lookup firstAsked.noNumber]
  exact foldl_laterTokens lookup others _ _

/-- Terms that are written as an expression have the same number in it as in a rule, and the fields
are put to the lookup in their order, each as often as it stands there. -/
theorem evaluate_beq_total (tiers : Tiers) (catalog : Catalog) (sheet : Sheet) {terms : List Term}
    {expression : String} (asked : ∀ term ∈ terms, IsAsked term.field)
    (spelled : Spelled terms expression.toList) :
    (evaluate (Reference.value tiers catalog sheet) expression ==
        Derivation.total tiers catalog sheet terms) = true ∧
      (tally (Reference.value tiers catalog sheet) expression).asked = terms.map Term.field := by
  generalize characters : expression.toList = written at spelled
  cases spelled with
  | @terms first spaced terms rest field others =>
    have isTokens : tokens expression = .operand first.field :: laterTokens terms := by
      rw [tokens, characters]
      exact others.tokens_eq field fun term member => (asked term member).toIsOperand
    have taken := tallyTokens_terms (Reference.value tiers catalog sheet) asked
    rw [← isTokens] at taken
    rw [evaluate, tally, taken]
    exact ⟨Operator.fold_congr (Operator.apply_add_zero (Reference.isFinite_value ..)) _, rfl⟩

/-- Every operator can be written in any of its characters, a term without one is added, and the
word for the infinity is no numeral of a finite number. -/
theorem evaluate_beq_total_of_pets :
    let sheet := (Session.run Session.surveyCatalog
      [.setChecked "pets_dog" true, .setValue "pets_dog_amount" "12.5",
        .setValue "remarks" "3"]).sheet
    let lookup := Reference.value Tiers.usual Session.surveyCatalog sheet
    let terms : List Term :=
      [⟨none, "Remarks"⟩, ⟨some .multiply, "pets_dog"⟩, ⟨some .subtract, "question pets"⟩,
        ⟨none, "inf"⟩]
    let expression := " Remarks ×pets_dog\u2003−\tquestion pets+inf"
    (evaluate lookup expression ==
        Derivation.total Tiers.usual Session.surveyCatalog sheet terms) = true ∧
      (tally lookup expression).asked = ["Remarks", "pets_dog", "question pets", "inf"] := by
  intro sheet lookup terms expression
  have asked : ∀ term ∈ terms, IsAsked term.field :=
    List.forall_mem_cons.mpr ⟨by decide +kernel, List.forall_mem_cons.mpr ⟨by decide +kernel,
      List.forall_mem_cons.mpr ⟨by decide +kernel,
        List.forall_mem_singleton.mpr (by decide +kernel)⟩⟩⟩
  have spaced : ∀ (text : String) (before after : List Char),
      (before ++ after).all Text.isBlank = true →
        IsSpaced text (before ++ text.toList ++ after) := fun text before after blank =>
    have each := List.forall_mem_append.mp (List.all_eq_true.mp blank)
    ⟨before, after, each.1, each.2, rfl⟩
  have characters : expression.toList =
      ([' '] ++ "Remarks".toList ++ [' ']) ++ '×' :: (([] ++ "pets_dog".toList ++ ['\u2003']) ++
        '−' :: ((['\t'] ++ "question pets".toList ++ []) ++
          '+' :: (([] ++ "inf".toList ++ []) ++ []))) := by decide +kernel
  have spelled : Spelled terms expression.toList := by
    rw [characters]
    exact .terms (spaced "Remarks" [' '] [' '] (by decide))
      (.cons rfl (spaced "pets_dog" [] ['\u2003'] (by decide))
        (.cons rfl (spaced "question pets" ['\t'] [] (by decide))
          (.cons rfl (spaced "inf" [] [] (by decide)) .nil)))
  exact evaluate_beq_total Tiers.usual Session.surveyCatalog sheet asked spelled

end Questionnaire.Expression

/-
This file is about the arithmetic that calculations and inline expressions share. No number that is
not finite leaves it: texts are read as finite numbers only, and every operator gives a finite one
whatever it is applied to. Numbers are compared as numbers, so a zero is equal to the zero of the
other sign. These are the only two that are equal without being the same, and no operator gives
different numbers for them.
-/
import Mathlib
import Questionnaire.Derivation
import Questionnaire.Expression.Tally

namespace Questionnaire

namespace Expression

open Float.Model Float.Model.UnpackedFloat

/-! ### Equal numbers -/

theorem beq_self_of_isFinite {value : Float} (finite : value.isFinite = true) :
    (value == value) = true := by
  refine Float.beq_self_iff.mpr ?_
  rintro rfl
  exact absurd finite (by decide)

/-- A float is made of its parts. -/
theorem eq_of_unpack {value : Float} {parts : UnpackedFloat}
    (unpacked : value.toModel.unpack = parts) : value = .ofModel (Float.Model.pack parts) := by
  rw [← unpacked]
  exact (Float.ofBits_toBits value).symm

/-! ### Zero and another number -/

section Zero

variable {zero next : Float} {zeroSign sign : Sign} {significand : Nat} {exponent : Int}
  {positive : 0 < significand} (isZero : zero.toModel.unpack = .zero zeroSign)
  (parts : next.toModel.unpack = .finite sign significand exponent positive)

include isZero parts

theorem zero_add_of_parts : zero + next = next := by
  show Float.ofModel (.pack (UnpackedFloat.add _ zero.toModel.unpack next.toModel.unpack)) = next
  rw [isZero, parts]
  exact (eq_of_unpack parts).symm

theorem zero_sub_of_parts : zero - next = -next := by
  show Float.ofModel (.pack (UnpackedFloat.sub _ zero.toModel.unpack next.toModel.unpack)) =
    Float.ofModel (.pack next.toModel.unpack.neg)
  rw [isZero, parts]
  rfl

theorem zero_mul_of_parts : zero * next = .ofModel (.pack (.zero (zeroSign * sign))) := by
  show Float.ofModel (.pack (UnpackedFloat.mul _ zero.toModel.unpack next.toModel.unpack)) = _
  rw [isZero, parts]
  rfl

theorem zero_div_of_parts : zero / next = .ofModel (.pack (.zero (zeroSign / sign))) := by
  show Float.ofModel (.pack (UnpackedFloat.div _ zero.toModel.unpack next.toModel.unpack)) = _
  rw [isZero, parts]
  rfl

end Zero

namespace Operator

theorem settle_of_isFinite {value : Float} (finite : value.isFinite = true) :
    settle value = value := if_pos finite

/-- Adding a finite number to zero gives that number; the negative zero becomes the other one. -/
theorem apply_add_zero {value : Float} (finite : value.isFinite = true) :
    (Operator.add.apply 0.0 value == value) = true := by
  cases parts : value.toModel.unpack with
  | zero sign =>
    rw [eq_of_unpack parts]
    cases sign <;> decide
  | finite sign significand exponent positive =>
    rw [apply, zero_add_of_parts rfl parts, settle_of_isFinite finite]
    exact beq_self_of_isFinite finite
  | infinity | notANumber =>
    have finite : value.toModel.unpack.isFinite = true := finite
    rw [parts] at finite
    cases finite

theorem settle_zeros (first second : Sign) :
    (settle (.ofModel (.pack (.zero first))) == settle (.ofModel (.pack (.zero second)))) =
      true := by
  cases first <;> cases second <;> decide

/-- The two zeros are not told apart. Added to a number other than zero they leave it, and times
such a number or divided by it they are zeros. -/
theorem apply_zero_zero (operator : Operator) (next : Float) :
    (operator.apply 0 next == operator.apply (-0) next) = true := by
  cases parts : next.toModel.unpack with
  | zero sign | infinity sign =>
    rw [eq_of_unpack parts]
    cases operator <;> cases sign <;> decide
  | notANumber =>
    rw [eq_of_unpack parts]
    cases operator <;> decide
  | finite sign significand exponent positive =>
    have zero : (0 : Float).toModel.unpack = .zero .positive := rfl
    have negativeZero : (-0 : Float).toModel.unpack = .zero .negative := rfl
    cases operator with
    | add =>
      rw [apply, apply, zero_add_of_parts zero parts, zero_add_of_parts negativeZero parts]
      exact beq_self_of_isFinite (isFinite_settle _)
    | subtract =>
      rw [apply, apply, zero_sub_of_parts zero parts, zero_sub_of_parts negativeZero parts]
      exact beq_self_of_isFinite (isFinite_settle _)
    | multiply =>
      rw [apply, apply, zero_mul_of_parts zero parts, zero_mul_of_parts negativeZero parts]
      exact settle_zeros _ _
    | divide =>
      rw [apply, apply, zero_div_of_parts zero parts, zero_div_of_parts negativeZero parts]
      split
      next => rfl
      next => exact settle_zeros _ _

/-- Equal numbers so far give equal numbers. -/
theorem apply_congr (operator : Operator) {first second : Float} (same : (first == second) = true)
    (next : Float) : (operator.apply first next == operator.apply second next) = true := by
  obtain ⟨-, -, rfl | ⟨rfl, rfl⟩ | ⟨rfl, rfl⟩⟩ := Float.beq_iff_ne_nan_and_eq.mp same
  · exact beq_self_of_isFinite (isFinite_apply operator first next)
  · exact apply_zero_zero operator next
  · exact BEq.symm (apply_zero_zero operator next)

theorem fold_congr {first second : Float} (same : (first == second) = true)
    (rest : List (Operator × Float)) : (fold first rest == fold second rest) = true := by
  induction rest generalizing first second with
  | nil => exact same
  | cons step rest inductionHypothesis => exact inductionHypothesis (apply_congr step.1 same step.2)

/-! ### Finite numbers -/

theorem isFinite_fold {first : Float} (finite : first.isFinite = true)
    (rest : List (Operator × Float)) : (fold first rest).isFinite = true := by
  induction rest generalizing first with
  | nil => exact finite
  | cons step rest inductionHypothesis =>
    exact inductionHypothesis (isFinite_apply step.1 first step.2)

end Operator

/-- Whether the number so far of an evaluation, if it has one, is finite. -/
def Tally.Finite (tally : Tally) : Prop := ∀ number ∈ tally.total, number.isFinite = true

/-- An operand leaves a result of an operator, even where its own number is not finite. -/
theorem Tally.finite_takeNumber (tally : Tally) (number : Float) :
    (tally.takeNumber number).Finite := by
  rintro _ ⟨⟩
  exact Operator.isFinite_apply _ _ _

theorem Tally.Finite.step {tally : Tally} (finite : tally.Finite) (lookup : String → Float)
    (token : Token) : (tally.step lookup token).Finite := by
  cases token with
  | operator operator =>
    have kept : (tally.takeOperator operator).total = tally.total := by
      unfold Tally.takeOperator
      split
      next => rfl
      next => split <;> rfl
    show ∀ number ∈ (tally.takeOperator operator).total, number.isFinite = true
    rw [kept]
    exact finite
  | operand text =>
    unfold Tally.step
    simp only
    split <;> exact tally.finite_takeNumber _

theorem finite_tallyTokens (lookup : String → Float) (list : List Token) :
    (tallyTokens lookup list).Finite :=
  List.foldlRecOn list (Tally.step lookup) (nofun : Tally.start.Finite)
    fun _ finite token _ => finite.step lookup token

/-- Every expression has a finite number, whatever its operands are looked up as. -/
theorem isFinite_evaluate (lookup : String → Float) (expression : String) :
    (evaluate lookup expression).isFinite = true := by
  have finite := finite_tallyTokens lookup (tokens expression)
  show ((tallyTokens lookup (tokens expression)).total.getD 0.0).isFinite = true
  cases total : (tallyTokens lookup (tokens expression)).total with
  | none => decide
  | some number => exact finite number total

end Expression

theorem Decimal.isFinite_of_readFinite? {characters : List Char} {number : Float}
    (read : readFinite? characters = some number) : number.isFinite = true :=
  (Option.filter_eq_some_iff.mp read).2

namespace Reference

theorem isFinite_numberOf (sheet : Sheet) (name : String) :
    (numberOf sheet name).isFinite = true := by
  unfold numberOf
  cases read : (sheet.text? name).bind Answer.number? with
  | none => decide
  | some number =>
    obtain ⟨text, -, isNumber⟩ := Option.bind_eq_some_iff.mp read
    exact Decimal.isFinite_of_readFinite? isNumber

theorem isFinite_number (catalog : Catalog) (sheet : Sheet) (name : String) :
    (number catalog sheet name).isFinite = true := by
  unfold number
  split
  next => decide
  next =>
    split
    next amount _ => exact isFinite_numberOf sheet amount
    next => decide
  next => exact isFinite_numberOf sheet name

/-- Every reference means a finite number, in whatever ways it is located. -/
theorem isFinite_value (tiers : Tiers) (catalog : Catalog) (sheet : Sheet) (reference : String) :
    (value tiers catalog sheet reference).isFinite = true := by
  unfold value
  split
  next name _ => exact isFinite_number catalog sheet name
  next => decide

end Reference

/-- Every list of terms has a finite total. -/
theorem Derivation.isFinite_total (tiers : Tiers) (catalog : Catalog) (sheet : Sheet)
    (terms : List Term) : (total tiers catalog sheet terms).isFinite = true := by
  cases terms with
  | nil =>
    have zero : (0.0 : Float).isFinite = true := by decide
    exact zero
  | cons first rest =>
    exact Expression.Operator.isFinite_fold
      (Reference.isFinite_value tiers catalog sheet first.field) _

end Questionnaire

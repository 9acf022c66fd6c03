/-
This file proves that the numbers of a text are finite. A number is written by its digits, so it is
the float nearest to a word, scaled by a power of ten. A product that is not finite has no value,
and dividing by ten or more keeps within the range: the exponent of the quotient stays below that of
the infinity, also where rounding makes the significand longer.
-/
import Questionnaire.Proofs.Printing

namespace Questionnaire.Decimal

open Float.Model Float.Model.UnpackedFloat

/-! ### The parts of a float -/

/-- Whether a float in its parts is within the range of the finite ones. -/
def WithinRange : UnpackedFloat → Prop
  | .zero _ => True
  | .finite _ _ exponent _ => exponent ≤ 971
  | _ => False

/-- Whether a float in its parts is finite, with a significand of at most 53 bits. -/
def Bounded : UnpackedFloat → Prop
  | .zero _ => True
  | .finite _ significand exponent _ => significand < 2 ^ 53 ∧ exponent ≤ 971
  | _ => False

theorem unpack_of_top {bits : BitVec 64} (top : @unpackExponent Format.binary64 bits = -1#11) :
    (∃ sign, UnpackedFloat.unpack Format.binary64 bits = .infinity sign) ∨
      UnpackedFloat.unpack Format.binary64 bits = .notANumber := by
  unfold UnpackedFloat.unpack
  dsimp only
  rw [if_pos top]
  by_cases zero : @unpackMantissa Format.binary64 bits = 0#52
  · rw [if_pos zero]
    exact .inl ⟨_, rfl⟩
  · rw [if_neg zero]
    exact .inr rfl

theorem bounded_unpack {bits : BitVec 64}
    (notTop : @unpackExponent Format.binary64 bits ≠ -1#11) :
    Bounded (UnpackedFloat.unpack Format.binary64 bits) := by
  have small : (@unpackExponent Format.binary64 bits).toNat < 2048 := BitVec.isLt _
  have other : (@unpackExponent Format.binary64 bits).toNat ≠ 2047 := fun equal =>
    notTop (BitVec.eq_of_toNat_eq equal)
  have low : ((@unpackExponent Format.binary64 bits).toNat : Int) - (1023 + 52) ≤ 971 := by omega
  unfold UnpackedFloat.unpack
  dsimp only
  rw [if_neg notTop]
  by_cases subnormal : @unpackExponent Format.binary64 bits = 0#11
  · rw [if_pos subnormal]
    by_cases zero : @unpackMantissa Format.binary64 bits = 0#52
    · rw [dif_pos zero]
      trivial
    · rw [dif_neg zero, subnormal]
      have short : (@unpackMantissa Format.binary64 bits).toNat < 2 ^ 52 := BitVec.isLt _
      exact ⟨Nat.lt_trans short (by decide), by decide⟩
  · rw [if_neg subnormal]
    exact ⟨BitVec.isLt _, low⟩

theorem Bounded.withinRange {parts : UnpackedFloat} (bounded : Bounded parts) :
    WithinRange parts := by
  cases parts with
  | finite => exact bounded.2
  | _ => exact bounded

theorem withinRange_unpack {bits : BitVec 64}
    (notTop : @unpackExponent Format.binary64 bits ≠ -1#11) :
    WithinRange (UnpackedFloat.unpack Format.binary64 bits) := (bounded_unpack notTop).withinRange

theorem unpackExponent_pack {parts : UnpackedFloat} (within : WithinRange parts) :
    @unpackExponent Format.binary64 (UnpackedFloat.pack Format.binary64 parts) ≠ -1#11 := by
  cases parts with
  | infinity => cases within
  | notANumber => cases within
  | zero sign =>
    show @unpackExponent Format.binary64 (packComponents Format.binary64 sign 0 0) ≠ -1#11
    rw [unpackExponent_packComponents]
    decide
  | finite sign significand exponent positive =>
    obtain ⟨biased, equal, small⟩ : ∃ biased, (exponent + (Format.binary64.exponentBias : Nat) +
        (Format.binary64.mantissaBitsWithoutImplicit : Nat)).toNat = biased ∧ biased ≤ 2046 := by
      refine ⟨_, rfl, ?_⟩
      show (exponent + 1023 + 52).toNat ≤ 2046
      have within : exponent ≤ 971 := within
      omega
    have finite : ¬2 ^ Format.binary64.exponentBits ≤ biased + 1 := by
      show ¬2048 ≤ biased + 1
      omega
    have packed : UnpackedFloat.pack Format.binary64 (.finite sign significand exponent positive) =
        if significand.log2 + 1 = Format.binary64.mantissaBits then
          packComponents Format.binary64 sign (BitVec.ofNat _ biased) (BitVec.ofNat _ significand)
        else packComponents Format.binary64 sign 0 (BitVec.ofNat _ significand) := by
      rw [← equal] at finite ⊢
      exact if_neg finite
    rw [packed]
    split <;> rw [unpackExponent_packComponents]
    · intro top
      have value := congrArg BitVec.toNat top
      rw [BitVec.toNat_ofNat, Nat.mod_eq_of_lt (Nat.lt_of_le_of_lt small (by decide))] at value
      have top : (-1#11).toNat = 2047 := by decide
      omega
    · decide

/-- A float within the range is finite once it is packed. -/
theorem isFinite_pack {parts : UnpackedFloat} (within : WithinRange parts) :
    (Float.ofModel (Float.Model.pack parts)).isFinite = true := by
  have again := withinRange_unpack (unpackExponent_pack within)
  show (UnpackedFloat.unpack Format.binary64
    (UnpackedFloat.pack Format.binary64 parts)).isFinite = true
  cases parts : UnpackedFloat.unpack Format.binary64 (UnpackedFloat.pack Format.binary64 parts) with
  | infinity => rw [parts] at again; cases again
  | notANumber => rw [parts] at again; cases again
  | zero => rfl
  | finite => rfl

/-- The parts of a finite float are within the range. -/
theorem withinRange_of_isFinite {value : Float} (finite : value.isFinite = true) :
    WithinRange value.toModel.unpack := by
  refine withinRange_unpack fun top => ?_
  have finite : (UnpackedFloat.unpack Format.binary64 value.toModel.toBits.toBitVec).isFinite =
    true := finite
  rcases unpack_of_top top with ⟨sign, parts⟩ | parts
  · rw [parts] at finite
    cases finite
  · rw [parts] at finite
    cases finite

/-- A significand has at most 53 bits. -/
theorem log2_of_unpack {value : Float} {sign : Sign} {significand : Nat} {exponent : Int}
    {positive : 0 < significand}
    (parts : value.toModel.unpack = .finite sign significand exponent positive) :
    significand.log2 ≤ 52 := by
  have parts : UnpackedFloat.unpack Format.binary64 value.toModel.toBits.toBitVec =
    .finite sign significand exponent positive := parts
  have small : significand < 2 ^ 53 := by
    by_cases top : @unpackExponent Format.binary64 value.toModel.toBits.toBitVec = -1#11
    · rcases unpack_of_top top with ⟨_, other⟩ | other <;> cases parts.symm.trans other
    · have bounded := bounded_unpack top
      rw [parts] at bounded
      exact bounded.1
  have := (Nat.log2_lt (Nat.ne_of_gt positive)).mpr small
  omega

theorem isFinite_ofBits {bits : UInt64}
    (finite : @unpackExponent Format.binary64 bits.toBitVec ≠ -1#11) :
    (Float.ofBits bits).isFinite = true :=
  isFinite_pack (withinRange_unpack finite)

theorem isFinite_neg {value : Float} (finite : value.isFinite = true) :
    (-value).isFinite = true := by
  have within := withinRange_of_isFinite finite
  refine isFinite_pack ?_
  cases parts : value.toModel.unpack with
  | infinity => rw [parts] at within; cases within
  | notANumber => rw [parts] at within; cases within
  | zero => trivial
  | finite => rw [parts] at within; exact within

/-! ### Quotients of floats -/

theorem targetExponent_eq (total : Int) :
    Format.binary64.targetExponent total = max (total - 53) (-1074) := rfl

theorem mantissa_shift_le (extended : ExtendedMantissa) (count : Nat) :
    (extended >>> count).mantissa ≤ extended.mantissa := by
  induction count with
  | zero => exact Nat.le_refl _
  | succ count inductionHypothesis => exact Nat.le_trans (Nat.div_le_self _ 2) inductionHypothesis

theorem roundedMantissa_le (extended : ExtendedMantissa) :
    extended.roundedMantissa ≤ extended.mantissa + 1 := by
  obtain ⟨mantissa, round, sticky⟩ := extended
  cases round <;> cases sticky <;>
    simp only [ExtendedMantissa.roundedMantissa, ExtendedMantissa.accuracy,
      Accuracy.roundToNearestEven] <;> omega

theorem shiftToTargetExponent_snd (significand : Nat) (exponent : Int) (accuracy : Accuracy) :
    (shiftToTargetExponent Format.binary64 significand exponent accuracy).2 =
      max exponent (max (significand.log2 + 1 + exponent - 53) (-1074)) := by
  simp only [shiftToTargetExponent, shiftToExponent, targetExponent_eq, totalExponent]
  omega

theorem shiftToTargetExponent_fst (significand : Nat) (exponent : Int) (accuracy : Accuracy) :
    (shiftToTargetExponent Format.binary64 significand exponent accuracy).1.mantissa ≤
      significand := by
  have start : (ExtendedMantissa.ofMantissaAndAccuracy significand accuracy).mantissa =
      significand := by
    unfold ExtendedMantissa.ofMantissaAndAccuracy
    split <;> rfl
  exact Nat.le_trans (mantissa_shift_le _ _) (Nat.le_of_eq start)

/-- Rounding makes an exponent greater by three at most, where the significand is not too long. -/
theorem withinRange_round {significand : Nat} {exponent : Int} (sign : Sign) (accuracy : Accuracy)
    (small : significand < 2 ^ 54) (low : exponent ≤ 968) :
    WithinRange (roundWithAccuracy Format.binary64 sign significand exponent accuracy) := by
  have log2_le : ∀ {value bits : Nat}, value < 2 ^ (bits + 1) → value.log2 ≤ bits := by
    intro value bits below
    by_cases zero : value = 0
    · rw [zero]
      exact Nat.zero_le _
    · have := (Nat.log2_lt zero).mpr below
      omega
  have first := shiftToTargetExponent_snd significand exponent accuracy
  have shifted := shiftToTargetExponent_fst significand exponent accuracy
  have rounded :=
    roundedMantissa_le (shiftToTargetExponent Format.binary64 significand exponent accuracy).1
  have second := shiftToTargetExponent_snd
    (shiftToTargetExponent Format.binary64 significand exponent accuracy).1.roundedMantissa
    (shiftToTargetExponent Format.binary64 significand exponent accuracy).2 .exact
  have firstLog : significand.log2 ≤ 53 := log2_le small
  have secondLog : (shiftToTargetExponent Format.binary64 significand exponent
      accuracy).1.roundedMantissa.log2 ≤ 54 := log2_le (by omega)
  unfold roundWithAccuracy
  dsimp only
  by_cases vanishes : (shiftToTargetExponent Format.binary64
      (shiftToTargetExponent Format.binary64 significand exponent accuracy).1.roundedMantissa
      (shiftToTargetExponent Format.binary64 significand exponent accuracy).2 .exact).1.mantissa = 0
  · rw [dif_pos vanishes]
    trivial
  · rw [dif_neg vanishes]
    show (shiftToTargetExponent _ _ _ _).2 ≤ 971
    omega

/-- Whether a float is finite and its magnitude at least eight. -/
def isLarge (value : Float) : Bool :=
  match value.toModel.unpack with
  | .finite _ significand exponent _ => 4 ≤ totalExponent significand exponent
  | _ => false

/-- A finite float divided by a large one is finite. -/
theorem isFinite_div {value divisor : Float} (finite : value.isFinite = true)
    (large : isLarge divisor = true) : (value / divisor).isFinite = true := by
  have within := withinRange_of_isFinite finite
  obtain ⟨sign, significand, exponent, positive, parts, large⟩ :
      ∃ sign significand exponent positive,
        divisor.toModel.unpack = .finite sign significand exponent positive ∧
          4 ≤ totalExponent significand exponent := by
    unfold isLarge at large
    cases parts : divisor.toModel.unpack with
    | finite sign significand exponent positive =>
      rw [parts] at large
      exact ⟨sign, significand, exponent, positive, rfl, of_decide_eq_true large⟩
    | _ => rw [parts] at large; cases large
  refine isFinite_pack ?_
  rw [parts]
  cases valueParts : value.toModel.unpack with
  | infinity => rw [valueParts] at within; cases within
  | notANumber => rw [valueParts] at within; cases within
  | zero => trivial
  | finite valueSign valueSignificand valueExponent valuePositive =>
    rw [valueParts] at within
    have bits := log2_of_unpack valueParts
    have within : valueExponent ≤ 971 := within
    simp only [totalExponent] at large
    show WithinRange (roundWithAccuracy _ _
      (divCore Format.binary64 valueSignificand valueExponent significand exponent).1
      (divCore Format.binary64 valueSignificand valueExponent significand exponent).2.1 _)
    simp only [divCore, targetExponent_eq, totalExponent]
    refine withinRange_round _ _ ?_ (by omega)
    rw [Nat.div_lt_iff_lt_mul positive, Nat.shiftLeft_eq]
    generalize shift : (valueExponent - exponent - _ : Int).toNat = places
    have enough : valueSignificand.log2 + 1 + places ≤ 54 + significand.log2 := by omega
    calc valueSignificand * 2 ^ places
        < 2 ^ (valueSignificand.log2 + 1) * 2 ^ places :=
          Nat.mul_lt_mul_of_pos_right Nat.lt_log2_self (Nat.two_pow_pos _)
      _ = 2 ^ (valueSignificand.log2 + 1 + places) := (Nat.pow_add ..).symm
      _ ≤ 2 ^ (54 + significand.log2) := Nat.pow_le_pow_right (by decide) enough
      _ = 2 ^ 54 * 2 ^ significand.log2 := Nat.pow_add ..
      _ ≤ 2 ^ 54 * significand :=
          Nat.mul_le_mul_left _ (Nat.log2_self_le (Nat.ne_of_gt positive))

/-! ### Nearest floats -/

/-- Bits below those of the infinity, with or without the sign, are those of a finite float. -/
theorem isFinite_bits {bits : Nat} (small : bits < infinityBits) (negative : Bool) :
    (Float.ofBits (UInt64.ofNat (bits + if negative then signBit else 0))).isFinite = true := by
  refine isFinite_ofBits fun top => ?_
  have value := congrArg BitVec.toNat top
  have small : bits < 2047 * 2 ^ 52 := small
  have exponent : ∀ sum, sum < 2 ^ 64 → (@unpackExponent Format.binary64
      (UInt64.ofNat sum).toBitVec).toNat = sum / 2 ^ 52 % 2 ^ 11 := by
    intro sum fits
    simp only [unpackExponent, BitVec.extractLsb, BitVec.toNat_cast, BitVec.extractLsb'_toNat]
    rw [Nat.shiftRight_eq_div_pow]
    show (sum % 2 ^ 64) / 2 ^ 52 % 2 ^ 11 = _
    rw [Nat.mod_eq_of_lt fits]
  have top : (-1#11).toNat = 2047 := by decide
  cases negative with
  | false =>
    rw [exponent _ (by simp; omega)] at value
    simp at value
    omega
  | true =>
    have sign : (if true then signBit else 0) = 2 ^ 63 := by decide
    rw [sign, exponent _ (by omega)] at value
    omega

theorem roundQuotient_le (tie : Tie) (numerator denominator : Nat) :
    roundQuotient tie numerator denominator ≤ numerator / denominator + 1 := by
  unfold roundQuotient
  cases tie <;> grind

theorem nearestBits_lt {numerator : Nat} (word : numerator < 2 ^ 64) :
    nearestBits numerator 1 < infinityBits := by
  unfold nearestBits
  split
  next => decide
  next nonzero =>
    have positive : numerator ≠ 0 := by simpa using nonzero
    have bits : numerator.log2 < 64 := (Nat.log2_lt positive).mpr word
    have one : Nat.log2 1 = 0 := by decide
    simp only [one]
    generalize step : (if 1 <<< (((numerator.log2 : Int) - (0 : Nat)).toNat) ≤
      numerator <<< (-((numerator.log2 : Int) - (0 : Nat))).toNat then
        (numerator.log2 : Int) - (0 : Nat) else (numerator.log2 : Int) - (0 : Nat) - 1) = top
    have close : (numerator.log2 : Int) - 1 ≤ top ∧ top ≤ numerator.log2 := by
      split at step <;> omega
    have exponent : max (top - 52) leastExponent = top - 52 := by
      show max (top - 52) (-1074) = top - 52
      omega
    rw [exponent]
    have rounded := roundQuotient_le .toEven (numerator <<< (-(top - 52)).toNat)
      (1 <<< (top - 52).toNat)
    have quotient : numerator <<< (-(top - 52)).toNat / 1 <<< (top - 52).toNat < 2 ^ 54 := by
      rw [Nat.shiftLeft_eq, Nat.shiftLeft_eq, Nat.one_mul,
        Nat.div_lt_iff_lt_mul (Nat.two_pow_pos _)]
      calc numerator * 2 ^ (-(top - 52)).toNat
          < 2 ^ (numerator.log2 + 1) * 2 ^ (-(top - 52)).toNat :=
            Nat.mul_lt_mul_of_pos_right Nat.lt_log2_self (Nat.two_pow_pos _)
        _ = 2 ^ (numerator.log2 + 1 + (-(top - 52)).toNat) := (Nat.pow_add ..).symm
        _ ≤ 2 ^ (54 + (top - 52).toNat) := Nat.pow_le_pow_right (by decide) (by omega)
        _ = 2 ^ 54 * 2 ^ (top - 52).toNat := Nat.pow_add ..
    have places : (top - 52 - leastExponent).toNat ≤ 1085 := by
      show (top - 52 - -1074).toNat ≤ 1085
      omega
    refine Nat.lt_of_le_of_lt (Nat.min_le_left _ _) ?_
    have scaled : (top - 52 - leastExponent).toNat * hiddenBit ≤ 1085 * 2 ^ 52 :=
      Nat.mul_le_mul_right _ places
    show _ < 2047 * 2 ^ 52
    omega

/-- The float nearest to a word is finite. -/
theorem isFinite_nearest (negative : Bool) {numerator : Nat} (word : numerator < 2 ^ 64) :
    (nearest negative numerator 1).isFinite = true :=
  isFinite_bits (nearestBits_lt word) negative

end Questionnaire.Decimal

namespace Questionnaire.Json

/-! ### Numbers of a text -/

theorem takeDigits_le (digits : List Char) {start : Nat} (count : Nat)
    (word : start ≤ greatestWord) : (takeDigits start count digits).1 ≤ greatestWord := by
  induction digits generalizing start count with
  | nil => exact word
  | cons digit digits inductionHypothesis =>
    rw [takeDigits]
    split
    next fits => exact inductionHypothesis (count + 1) fits
    next => exact word

theorem isLarge_power :
    ∀ exponent < 309, 0 < exponent → Decimal.isLarge (power exponent) = true := by
  decide +kernel

/-- What a significand is scaled to is finite. -/
theorem isFinite_scale {significand : Nat} {exponent : Int} {value : Float}
    (word : significand ≤ greatestWord) (scaled : scale significand exponent = some value) :
    value.isFinite = true := by
  have start : (Decimal.nearest false significand 1).isFinite = true :=
    Decimal.isFinite_nearest false (Nat.lt_of_le_of_lt word (by decide))
  unfold scale at scaled
  split at scaled
  next =>
    split at scaled
    next =>
      simp only at scaled
      split at scaled
      next finite => cases scaled; exact finite
      next => cases scaled
    next =>
      split at scaled
      next => cases scaled; exact start
      next => cases scaled
  next =>
    split at scaled
    next =>
      cases scaled
      exact Decimal.isFinite_div start (isLarge_power _ (by omega) (by omega))
    next =>
      split at scaled
      next =>
        cases scaled
        refine Decimal.isFinite_div (Decimal.isFinite_div start ?_)
          (isLarge_power _ (by omega) (by omega))
        exact isLarge_power 308 (by decide) (by decide)
      next => cases scaled; decide +kernel

/-- Values whose floats are finite and whose whole numbers are words, with a sign or none. -/
inductive Finite : Json → Prop where
  | null : Finite .null
  | boolean (value : Bool) : Finite (.boolean value)
  | integer {value : Int} (word : value.natAbs ≤ greatestWord) : Finite (.number (.integer value))
  | float {value : Float} (finite : value.isFinite = true) : Finite (.number (.float value))
  | text (value : String) : Finite (.text value)
  | array {elements : List Json} (each : ∀ element ∈ elements, Finite element) :
    Finite (.array elements)
  | object {members : List (String × Json)} (each : ∀ member ∈ members, Finite member.2) :
    Finite (.object members)
  | unreadable : Finite .unreadable

theorem finite_literal (literal : Literal) : literal.value.Finite := by
  have whole := takeDigits_le literal.whole 0 (Nat.zero_le greatestWord)
  unfold Literal.value
  simp only
  split
  next => exact .integer whole
  next => exact .integer (by rw [Int.natAbs_neg]; exact whole)
  next =>
    have all := takeDigits_le literal.fraction 0 whole
    split
    next value scaled =>
      have finite := isFinite_scale all scaled
      refine .float ?_
      split
      · exact Decimal.isFinite_neg finite
      · exact finite
    next => exact .unreadable

theorem finite_numberAfter {negative : Bool} {unsigned rest : List Char} {value : Json}
    (read : numberAfter negative unsigned = some (value, rest)) : value.Finite := by
  unfold numberAfter at read
  simp only at read
  split at read
  next => cases read
  next =>
    obtain ⟨⟨fraction, beyond⟩, -, read⟩ := Option.bind_eq_some_iff.mp read
    obtain ⟨⟨exponent, last⟩, -, equal⟩ := Option.map_eq_some_iff.mp read
    cases equal
    exact finite_literal _

theorem finite_readNumber {characters rest : List Char} {value : Json}
    (read : readNumber characters = some (value, rest)) : value.Finite := by
  by_cases minus : characters.head? = some '-'
  · obtain ⟨unsigned, rfl⟩ := List.head?_eq_some_iff.mp minus
    rw [readNumber_minus] at read
    exact finite_numberAfter read
  · rw [readNumber_unsigned minus] at read
    exact finite_numberAfter read

theorem finite_arrayValue (room : Nat) {elements : List Json}
    (each : ∀ element ∈ elements, Finite element) : (arrayValue room elements).Finite := by
  unfold arrayValue
  split
  · exact .unreadable
  · exact .array each

theorem finite_objectValue (room : Nat) {members : List (Held × Json)}
    (each : ∀ member ∈ members, Finite member.2) : (objectValue room members).Finite := by
  unfold objectValue
  split
  · exact .unreadable
  · refine .object fun member isMember => ?_
    obtain ⟨held, isHeld, rfl⟩ := List.mem_map.mp isMember
    exact each held isHeld

/-- Whether everything that is read in so many steps is finite: values, the elements of arrays and
the members of objects. -/
structure FiniteReads (steps : Nat) : Prop where
  value : ∀ {room characters value rest}, readValue steps room characters = some (value, rest) →
    value.Finite
  elements : ∀ {room characters elements rest},
    readElements steps room characters = some (elements, rest) →
      ∀ element ∈ elements, Finite element
  members : ∀ {room characters members rest},
    readMembers steps room characters = some (members, rest) →
      ∀ member ∈ members, Finite member.2

section

variable {steps room : Nat} {characters rest : List Char}

theorem FiniteReads.readValue_succ {value : Json} (finite : FiniteReads steps)
    (read : readValue (steps + 1) room characters = some (value, rest)) : value.Finite := by
  rw [readValue.eq_def] at read
  simp only at read
  split at read
  next => cases read; exact .null
  next => cases read; exact .boolean _
  next => cases read; exact .boolean _
  next =>
    obtain ⟨⟨held, rest⟩, -, equal⟩ := Option.map_eq_some_iff.mp read
    cases equal
    cases held with
    | none => exact .unreadable
    | some characters => exact .text _
  next =>
    split at read
    next => cases read; exact finite_arrayValue _ (List.forall_mem_nil _)
    next =>
      obtain ⟨⟨held, rest⟩, readsHeld, equal⟩ := Option.map_eq_some_iff.mp read
      cases equal
      exact finite_arrayValue _ (finite.elements readsHeld)
  next =>
    split at read
    next => cases read; exact finite_objectValue _ (List.forall_mem_nil _)
    next =>
      obtain ⟨⟨held, rest⟩, readsHeld, equal⟩ := Option.map_eq_some_iff.mp read
      cases equal
      exact finite_objectValue _ (finite.members readsHeld)
  next => exact finite_readNumber read

theorem FiniteReads.readElements_succ {elements : List Json} (finite : FiniteReads steps)
    (read : readElements (steps + 1) room characters = some (elements, rest)) :
    ∀ element ∈ elements, Finite element := by
  rw [readElements] at read
  obtain ⟨⟨element, after⟩, first, read⟩ := Option.bind_eq_some_iff.mp read
  simp only at read
  split at read
  next =>
    obtain ⟨⟨others, rest⟩, readsOthers, equal⟩ := Option.map_eq_some_iff.mp read
    cases equal
    exact List.forall_mem_cons.mpr ⟨finite.value first, finite.elements readsOthers⟩
  next => cases read; exact List.forall_mem_singleton.mpr (finite.value first)
  next => cases read

theorem FiniteReads.readMembers_succ {members : List (Option (List Char) × Json)}
    (finite : FiniteReads steps)
    (read : readMembers (steps + 1) room characters = some (members, rest)) :
    ∀ member ∈ members, Finite member.2 := by
  rw [readMembers] at read
  split at read
  next =>
    obtain ⟨⟨name, after⟩, -, read⟩ := Option.bind_eq_some_iff.mp read
    simp only at read
    split at read
    next =>
      obtain ⟨⟨value, after⟩, first, read⟩ := Option.bind_eq_some_iff.mp read
      simp only at read
      split at read
      next =>
        obtain ⟨⟨others, rest⟩, readsOthers, equal⟩ := Option.map_eq_some_iff.mp read
        cases equal
        exact List.forall_mem_cons.mpr ⟨finite.value first, finite.members readsOthers⟩
      next => cases read; exact List.forall_mem_singleton.mpr (finite.value first)
      next => cases read
    next => cases read
  next => cases read

end

theorem finiteReads (steps : Nat) : FiniteReads steps := by
  induction steps with
  | zero => exact ⟨nofun, nofun, nofun⟩
  | succ steps inductionHypothesis =>
    exact ⟨inductionHypothesis.readValue_succ, inductionHypothesis.readElements_succ,
      inductionHypothesis.readMembers_succ⟩

/-- What a text is read as is finite. -/
theorem finite_of_read {source : String} {value : Json} (read : read? source = some value) :
    value.Finite := by
  unfold read? at read
  simp only at read
  split at read
  next result rest readsValue =>
    split at read
    next => cases read; exact (finiteReads _).value readsValue
    next => cases read
  next => cases read

end Questionnaire.Json

/-
This file ties the floats to exact arithmetic: the value of a finite float as a natural number times
a power of two, and the float nearest to a quotient of natural numbers.
-/

namespace Questionnaire.Decimal

/-- Which way a value goes that lies halfway between two neighbours. -/
inductive Tie where
  | toEven
  | up
  deriving DecidableEq

/-- The quotient of two natural numbers rounded to the nearest one. -/
def roundQuotient (tie : Tie) (numerator denominator : Nat) : Nat :=
  let quotient := numerator / denominator
  let remainder := numerator % denominator
  if 2 * remainder < denominator then quotient
  else if denominator < 2 * remainder then quotient + 1
  else match tie with
    | .toEven => if quotient % 2 == 0 then quotient else quotient + 1
    | .up => quotient + 1

/-- The magnitude of a finite float, as a significand times a power of two. -/
structure Binary where
  significand : Nat
  exponent : Int
  deriving DecidableEq

/-- The least exponent of a binary float. -/
def leastExponent : Int := -1074

/-- The bit that stands before the fraction of a float in its significand. -/
def hiddenBit : Nat := 1 <<< 52

/-- The bit that tells the sign of a float. -/
def signBit : Nat := 1 <<< 63

/-- The magnitude of the float with the given bits, which are those of a finite one. -/
def Binary.ofBits (bits : UInt64) : Binary :=
  let biased : Nat := bits.toNat / hiddenBit % 2048
  let fraction : Nat := bits.toNat % hiddenBit
  if biased == 0 then ⟨fraction, leastExponent⟩ else ⟨hiddenBit + fraction, (biased : Int) - 1075⟩

/-- Whether the sign bit of a float is set. -/
def isNegative (value : Float) : Bool := signBit ≤ value.toBits.toNat

/-- The bits of the positive infinity. -/
def infinityBits : Nat := 2047 * hiddenBit

/-- The bits of the float nearest to a quotient, with ties to the even significand. A quotient
beyond the greatest float by half a step or more gives those of the infinity. -/
def nearestBits (numerator denominator : Nat) : Nat :=
  if numerator == 0 then 0
  else
    let guess : Int := (numerator.log2 : Int) - denominator.log2
    let reached := denominator <<< guess.toNat ≤ numerator <<< (-guess).toNat
    let top := if reached then guess else guess - 1
    let exponent := max (top - 52) leastExponent
    let significand := roundQuotient .toEven (numerator <<< (-exponent).toNat)
      (denominator <<< exponent.toNat)
    min (significand + (exponent - leastExponent).toNat * hiddenBit) infinityBits

/-- The float nearest to a quotient, with a sign. -/
def nearest (negative : Bool) (numerator denominator : Nat) : Float :=
  Float.ofBits (UInt64.ofNat (nearestBits numerator denominator + if negative then signBit else 0))

end Questionnaire.Decimal

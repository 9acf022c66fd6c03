/-
This file holds the choice of the fewest decimal digits that read back as a given float, and of two
such choices the nearer one. The choice compares exact numbers: every float is a decimal number
with finitely many digits, and so are the ends of the interval of numbers that round to it.
-/
import Questionnaire.Decimal.Binary
import Questionnaire.Text.Numeral

namespace Questionnaire.Decimal

/-- A natural number times a power of ten. -/
structure Scaled where
  digits : Nat
  exponent : Int
  deriving DecidableEq

/-- The numbers that round to a float, as multiples of one power of ten: the float itself, the ends
of the interval, and whether the ends belong to it. -/
structure Interval where
  value : Nat
  low : Nat
  high : Nat
  closed : Bool
  exponent : Int

/-- The interval of a magnitude. Below a power of two the next float is only half as far away, and
the ends round to the float exactly when its significand is even. -/
def Binary.interval (binary : Binary) : Interval :=
  let quarter := binary.exponent - 2
  let unit := Nat.pow 5 (-quarter).toNat <<< quarter.toNat
  let narrow := binary.significand == hiddenBit && leastExponent < binary.exponent
  { value := 4 * binary.significand * unit
    low := (4 * binary.significand - if narrow then 1 else 2) * unit
    high := (4 * binary.significand + 2) * unit
    closed := binary.significand % 2 == 0
    exponent := -((-quarter).toNat : Int) }

/-- Whether a number lies in the interval. -/
def Interval.holds (interval : Interval) (number : Nat) : Bool :=
  if interval.closed then interval.low ≤ number && number ≤ interval.high
  else interval.low < number && number < interval.high

/-- The neighbour of the value on a grid that lies in the interval; of two the nearer one. -/
def Interval.onGrid (interval : Interval) (tie : Tie) (grid : Nat) : Option Nat :=
  let below := interval.value / grid
  match interval.holds (below * grid), interval.holds ((below + 1) * grid) with
  | true, true => some (roundQuotient tie interval.value grid)
  | true, false => some below
  | false, true => some (below + 1)
  | false, false => none

/-- Searches grids from the given count of digits on, as many as there are tries. When none has a
number of the interval the value itself is taken. -/
def Interval.search (interval : Interval) (tie : Tie) (length : Nat) : Nat → Nat → Scaled
  | 0, _ => ⟨interval.value, interval.exponent⟩
  | tries + 1, count =>
    match interval.onGrid tie (Nat.pow 10 (length - count)) with
    | some digits => ⟨digits, interval.exponent + (length - count : Nat)⟩
    | none => interval.search tie length tries (count + 1)

/-- Moves the zeros at the end of the digits into the exponent, at most as many as given. -/
def Scaled.strip (scaled : Scaled) : Nat → Scaled
  | 0 => scaled
  | bound + 1 =>
    if scaled.digits != 0 && scaled.digits % 10 == 0 then
      Scaled.strip ⟨scaled.digits / 10, scaled.exponent + 1⟩ bound
    else scaled

/-- The fewest digits that read back as the magnitude of a finite float other than zero. -/
def shortest (tie : Tie) (value : Float) : Scaled :=
  let interval := (Binary.ofBits value.toBits).interval
  let length := (Nat.toDigits 10 interval.value).length
  let found := interval.search tie length 17 1
  found.strip (Nat.toDigits 10 found.digits).length

end Questionnaire.Decimal

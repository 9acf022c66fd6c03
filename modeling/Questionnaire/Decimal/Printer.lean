/-
This file holds the written forms of floats: the plain form, which never has an exponent, the form
with a set number of places, and the form of numbers in data texts.
-/
import Questionnaire.Decimal.Shortest

namespace Questionnaire.Decimal

/-- Digits with a point after the given count of them, padded with zeros where the point lies
outside of them. A number without a fraction has no point. -/
def Scaled.positional (scaled : Scaled) : String :=
  let digits := Nat.toDigits 10 scaled.digits
  let point := digits.length + scaled.exponent
  String.ofList <|
    if 0 ≤ scaled.exponent then digits ++ List.replicate scaled.exponent.toNat '0'
    else if 0 < point then digits.take point.toNat ++ '.' :: digits.drop point.toNat
    else '0' :: '.' :: (List.replicate (-point).toNat '0' ++ digits)

/-- Digits with a point after the first one and the power of ten that they are multiplied by. The
sign of the exponent is always written. -/
def Scaled.scientific (scaled : Scaled) : String :=
  let digits := Nat.toDigits 10 scaled.digits
  let power := digits.length + scaled.exponent - 1
  let tail := digits.drop 1
  let fraction := if tail.isEmpty then [] else '.' :: tail
  let sign := if power < 0 then "-" else "+"
  String.ofList (digits.take 1 ++ fraction) ++ "e" ++ sign ++ Text.numeral power.natAbs

/-- The minus sign of a float. -/
def sign (value : Float) : String := if isNegative value then "-" else ""

/-- The names of the values that have no digits. -/
def special (value : Float) : String :=
  if value.isNaN then "NaN" else sign value ++ "inf"

/-- The plain form of a float: the fewest digits that read back, a tie going up, without an
exponent whatever the size. -/
def plain (value : Float) : String :=
  if !value.isFinite then special value
  else if value == 0 then sign value ++ "0"
  else sign value ++ (shortest .up value).positional

/-- The form of a float in data texts: the fewest digits that read back, a tie going to the even
digit. From 0.00001 to below 10^16 it is positional and a whole number keeps one zero after the
point; beyond it has an exponent. -/
def dataForm (value : Float) : String :=
  if !value.isFinite then "null"
  else if value == 0 then sign value ++ "0.0"
  else
    let scaled := shortest .toEven value
    let power := (Nat.toDigits 10 scaled.digits).length + scaled.exponent - 1
    if -5 ≤ power && power ≤ 15 then
      sign value ++ scaled.positional ++ if 0 ≤ scaled.exponent then ".0" else ""
    else sign value ++ scaled.scientific

/-- The form of a float with a set number of places, one at least. The exact value is rounded, and
a tie goes to the even digit. -/
def fixed (places : Nat) (value : Float) : String :=
  if !value.isFinite then special value
  else
    let binary := Binary.ofBits value.toBits
    let rounded := roundQuotient .toEven
      ((binary.significand * Nat.pow 10 places) <<< binary.exponent.toNat)
      (1 <<< (-binary.exponent).toNat)
    let digits := Nat.toDigits 10 rounded
    let padded := List.replicate (places + 1 - digits.length) '0' ++ digits
    let whole := padded.length - places
    sign value ++ String.ofList (padded.take whole ++ '.' :: padded.drop whole)

end Questionnaire.Decimal

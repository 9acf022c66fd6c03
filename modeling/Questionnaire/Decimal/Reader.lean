/-
This file reads a decimal numeral as the float nearest to it. A numeral has a sign or none, digits
with or without a point, and an exponent or none; the words for infinity and for no number are
read too.
-/
import Questionnaire.Decimal.Binary
import Questionnaire.Text.Numeral

namespace Questionnaire.Decimal

/-- The float nearest to digits times a power of ten. An exponent so large or so small that the
digits cannot matter is not multiplied out. -/
def ofScaled (negative : Bool) (digits : Nat) (exponent : Int) : Float :=
  let length : Int := (Nat.toDigits 10 digits).length
  if digits == 0 || length + exponent < -330 then nearest negative 0 1
  else if 310 < length + exponent then nearest negative (Nat.pow 10 310) 1
  else nearest negative (digits * Nat.pow 10 exponent.toNat) (Nat.pow 10 (-exponent).toNat)

/-- A sign at the start of characters: whether it is a minus, and what follows it. -/
def takeSign : List Char → Bool × List Char
  | '-' :: rest => (true, rest)
  | '+' :: rest => (false, rest)
  | all => (false, all)

/-- The exponent at the end of a numeral; without one it is zero. -/
def readExponent : List Char → Option Int
  | [] => some 0
  | mark :: rest =>
    if mark == 'e' || mark == 'E' then
      let (negative, digits) := takeSign rest
      if digits.isEmpty || !digits.all Char.isDigit then none
      else some (if negative then -(Text.digitsValue digits : Int) else Text.digitsValue digits)
    else none

/-- The digits after a point, if one comes first, and what follows them. -/
def takeFraction : List Char → List Char × List Char
  | '.' :: rest => (rest.takeWhile Char.isDigit, rest.dropWhile Char.isDigit)
  | all => ([], all)

/-- Reads a numeral without a sign. -/
def readUnsigned (negative : Bool) (characters : List Char) : Option Float :=
  let word := characters.map Char.toLower
  if word == ['i', 'n', 'f'] || word == ['i', 'n', 'f', 'i', 'n', 'i', 't', 'y'] then
    some (nearest negative (Nat.pow 10 310) 1)
  else if word == ['n', 'a', 'n'] then some (0.0 / 0.0)
  else
    let whole := characters.takeWhile Char.isDigit
    let (fraction, rest) := takeFraction (characters.dropWhile Char.isDigit)
    if whole.isEmpty && fraction.isEmpty then none
    else (readExponent rest).map fun exponent =>
      ofScaled negative (Text.digitsValue (whole ++ fraction)) (exponent - fraction.length)

/-- Reads a numeral as a float. -/
def read? (characters : List Char) : Option Float :=
  let (negative, rest) := takeSign characters
  readUnsigned negative rest

/-- Reads a numeral as a finite float. -/
def readFinite? (characters : List Char) : Option Float :=
  (read? characters).filter Float.isFinite

end Questionnaire.Decimal

/-
This file holds decimal numerals: the digits of a number, and the reading of digits back.
-/

namespace Questionnaire.Text

/-- The decimal numeral of a natural number. -/
def numeral (value : Nat) : String := String.ofList (Nat.toDigits 10 value)

/-- The decimal numeral of an integer, with a minus before the digits of a negative one. -/
def signedNumeral : Int → String
  | .ofNat value => numeral value
  | .negSucc value => "-" ++ numeral (value + 1)

/-- The value of an ASCII digit. -/
def digitValue (character : Char) : Nat := character.toNat - 48

/-- The number that a list of ASCII digits stands for. -/
def digitsValue (digits : List Char) : Nat :=
  digits.foldl (fun value digit => 10 * value + digitValue digit) 0

/-- The number that an unsigned text of ASCII digits, with at most a plus before them, stands for,
if it is at most the given greatest number. -/
def readNatural (greatest : Nat) (characters : List Char) : Option Nat :=
  let digits := match characters with
    | '+' :: rest => rest
    | all => all
  if digits.isEmpty || !digits.all Char.isDigit then none
  else if digitsValue digits ≤ greatest then some (digitsValue digits) else none

/-- Digits are read as the number that they stand for, if that is not too great. -/
theorem readNatural_digits {digits : List Char} (filled : digits ≠ [])
    (areDigits : ∀ digit ∈ digits, digit.isDigit = true) (greatest : Nat) :
    readNatural greatest digits =
      if digitsValue digits ≤ greatest then some (digitsValue digits) else none := by
  have notEmpty : digits.isEmpty = false := List.isEmpty_eq_false_iff.mpr filled
  have all : digits.all Char.isDigit = true := List.all_eq_true.mpr areDigits
  unfold readNatural
  simp only
  split
  next rest =>
    have isDigit := areDigits '+' List.mem_cons_self
    exact absurd isDigit (by decide)
  next => simp only [notEmpty, all, Bool.not_true, Bool.or_self, Bool.false_eq_true, if_false]

/-- What is read is a numeral, with at most a plus before it, that is not too great. -/
theorem readNatural_eq_some_iff {greatest : Nat} {characters : List Char} {value : Nat} :
    readNatural greatest characters = some value ↔
      ∃ sign digits, characters = sign ++ digits ∧ (sign = [] ∨ sign = ['+']) ∧ digits ≠ [] ∧
        (∀ digit ∈ digits, digit.isDigit = true) ∧ digitsValue digits ≤ greatest ∧
        digitsValue digits = value := by
  have read : ∀ digits : List Char,
      (if digits.isEmpty || !digits.all Char.isDigit then none
        else if digitsValue digits ≤ greatest then some (digitsValue digits) else none) =
          some value ↔
      digits ≠ [] ∧ (∀ digit ∈ digits, digit.isDigit = true) ∧ digitsValue digits ≤ greatest ∧
        digitsValue digits = value := by
    intro digits
    rw [Option.ite_none_left_eq_some, Option.ite_none_right_eq_some, Option.some.injEq]
    simp [and_assoc]
  constructor
  · intro found
    unfold readNatural at found
    simp only at found
    split at found
    next rest => exact ⟨['+'], rest, rfl, .inr rfl, (read rest).mp found⟩
    next => exact ⟨[], characters, rfl, .inl rfl, (read characters).mp found⟩
  · rintro ⟨sign, digits, rfl, rfl | rfl, numeral⟩
    · obtain ⟨filled, areDigits, small, rfl⟩ := numeral
      rw [List.nil_append, readNatural_digits filled areDigits, if_pos small]
    · exact (read digits).mpr numeral

end Questionnaire.Text

/-
This file holds the quoted form in which reports show a text: between double quotes, with the quote,
the backslash and everything that would not be seen written as escapes.
-/
import Questionnaire.Text.EscapeTable
import Questionnaire.Text.Lower

namespace Questionnaire.Text

/-- The hexadecimal numeral of a number with at least the given count of digits. -/
def hexNumeral (places value : Nat) : List Char :=
  let digits := Nat.toDigits 16 value
  List.replicate (places - digits.length) '0' ++ digits

/-- One character as it stands between the quotes. -/
def quoteCharacter (character : Char) : List Char :=
  if character == '"' then ['\\', '"']
  else if character == '\\' then ['\\', '\\']
  else if character == '\n' then ['\\', 'n']
  else if character == '\r' then ['\\', 'r']
  else if character == '\t' then ['\\', 't']
  else if character == '\x00' then ['\\', '0']
  else if inRanges hiddenRanges character.toNat then
    ['\\', 'u', '\x7b'] ++ hexNumeral 1 character.toNat ++ ['\x7d']
  else [character]

/-- The quoted form of a text. -/
def quoted (text : String) : String :=
  String.ofList (['"'] ++ text.toList.flatMap quoteCharacter ++ ['"'])

end Questionnaire.Text

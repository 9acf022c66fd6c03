/-
This file holds what counts as blank, which is the Unicode property White_Space, and the removal of
the blanks around a text.
-/

namespace Questionnaire.Text

/-- Whether a character has the property White_Space. -/
def isBlank (character : Char) : Bool :=
  let code := character.toNat
  (9 ≤ code && code ≤ 13) || code == 0x20 || code == 0x85 || code == 0xA0 || code == 0x1680 ||
    (0x2000 ≤ code && code ≤ 0x200A) || code == 0x2028 || code == 0x2029 || code == 0x202F ||
    code == 0x205F || code == 0x3000

/-- The characters from the first one that is not blank on. -/
def trimLeft (characters : List Char) : List Char := characters.dropWhile isBlank

/-- The characters up to the last one that is not blank. -/
def trimRight (characters : List Char) : List Char :=
  (characters.reverse.dropWhile isBlank).reverse

/-- The characters without the blanks around them. -/
def trimList (characters : List Char) : List Char := trimRight (trimLeft characters)

/-- The text without the blanks around it. -/
def trim (text : String) : String := String.ofList (trimList text.toList)

end Questionnaire.Text

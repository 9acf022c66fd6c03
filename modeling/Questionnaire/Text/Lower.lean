/-
This file holds lower case. The full mapping follows the Unicode character database: one character
becomes one, but for the dotted capital I, which becomes two, and the capital sigma, whose small
letter depends on its place in the word. The mapping of ASCII letters alone is what option labels
and markers are compared by.
-/
import Questionnaire.Text.CaseTable

namespace Questionnaire.Text

/-! ### The properties behind the final sigma -/

/-- Whether a code point lies in one of the ranges. -/
def inRanges (ranges : List (Nat × Nat)) (code : Nat) : Bool :=
  ranges.any fun range => range.1 ≤ code && code ≤ range.2

/-- Whether the first character that is not passed over has a case. -/
def nextIsCased (characters : List Char) : Bool :=
  match characters.dropWhile fun character => inRanges caseIgnorableRanges character.toNat with
  | [] => false
  | character :: _ => inRanges casedRanges character.toNat

/-! ### The mapping -/

/-- The small letter of a capital, and any other character as it is. -/
def lowerSimple (character : Char) : Char :=
  let code := character.toNat
  match capitalRanges.find? fun range => range.first ≤ code && code ≤ range.last with
  | none => character
  | some range =>
    if (code - range.first) % range.step == 0 then Char.ofNat (code + range.shift).toNat
    else character

/-- The lower case of one character, given the characters before it, nearest first, and those
after it. A capital sigma at the end of a word takes its final form. -/
def lowerAt (before : List Char) (character : Char) (after : List Char) : List Char :=
  if character.toNat < 128 then [character.toLower]
  else if character == 'İ' then ['i', '\u0307']
  else if character == 'Σ' then
    if nextIsCased before && !nextIsCased after then ['ς'] else ['σ']
  else [lowerSimple character]

/-- The lower case of the characters after a stretch that is given in reverse. -/
def lowerAfter (before : List Char) : List Char → List Char
  | [] => []
  | character :: after =>
    lowerAt before character after ++ lowerAfter (character :: before) after

/-- The lower case of a list of characters. -/
def lowerList (characters : List Char) : List Char := lowerAfter [] characters

/-- The lower case of a text. -/
def lower (text : String) : String := String.ofList (lowerList text.toList)

/-! ### ASCII letters alone -/

/-- The text with its ASCII capitals made small and all else as it is. -/
def lowerAscii (text : String) : String := String.ofList (text.toList.map Char.toLower)

/-- Whether two texts differ at most in the case of ASCII letters. -/
def sameAscii (left right : String) : Bool :=
  left.toList.map Char.toLower == right.toList.map Char.toLower

end Questionnaire.Text

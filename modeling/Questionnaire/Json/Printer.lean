/-
This file writes JSON values as texts: the compact form without any blank, and the form with one
member or element a line, indented by two spaces a level.
-/
import Questionnaire.Decimal.Printer
import Questionnaire.Json.Value
import Questionnaire.Text.Quoted

namespace Questionnaire.Json

/-- One character as it stands in a JSON text: quotes, backslashes and control characters are
escaped, all else stands for itself. -/
def escapeCharacter (character : Char) : List Char :=
  if character == '"' then ['\\', '"']
  else if character == '\\' then ['\\', '\\']
  else if character == '\n' then ['\\', 'n']
  else if character == '\r' then ['\\', 'r']
  else if character == '\t' then ['\\', 't']
  else if character == '\x08' then ['\\', 'b']
  else if character == '\x0c' then ['\\', 'f']
  else if character.toNat < 32 then ['\\', 'u'] ++ Text.hexNumeral 4 character.toNat
  else [character]

/-- A text between quotes. -/
def printText (value : String) : List Char :=
  '"' :: (value.toList.flatMap escapeCharacter ++ ['"'])

/-- A number. -/
def printNumber : Number → List Char
  | .integer value => (Text.signedNumeral value).toList
  | .float value => (Decimal.dataForm value).toList

mutual

/-- The compact form of a value. -/
def print : Json → List Char
  | .null => ['n', 'u', 'l', 'l']
  | .boolean true => ['t', 'r', 'u', 'e']
  | .boolean false => ['f', 'a', 'l', 's', 'e']
  | .number value => printNumber value
  | .text value => printText value
  | .array elements => '[' :: (printElements elements ++ [']'])
  | .object members => '\x7b' :: (printMembers members ++ ['\x7d'])
  | .unreadable => ['n', 'u', 'l', 'l']

/-- The elements of an array, divided by commas. -/
def printElements : List Json → List Char
  | [] => []
  | [element] => print element
  | element :: rest => print element ++ ',' :: printElements rest

/-- The members of an object, divided by commas. -/
def printMembers : List (String × Json) → List Char
  | [] => []
  | [(name, value)] => printText name ++ ':' :: print value
  | (name, value) :: rest => printText name ++ ':' :: (print value ++ ',' :: printMembers rest)

end

/-- The compact text of a value. -/
def compact (value : Json) : String := String.ofList (print value)

/-- A line end and the indentation of a level. -/
def newLine (level : Nat) : List Char := '\n' :: List.replicate (2 * level) ' '

mutual

/-- The indented form of a value that stands at a level. -/
def printIndented (level : Nat) : Json → List Char
  | .array [] => ['[', ']']
  | .array elements =>
    '[' :: (indentElements (level + 1) elements ++ newLine level ++ [']'])
  | .object [] => ['\x7b', '\x7d']
  | .object members =>
    '\x7b' :: (indentMembers (level + 1) members ++ newLine level ++ ['\x7d'])
  | other => print other

/-- The elements of an array, each on a line of its own. -/
def indentElements (level : Nat) : List Json → List Char
  | [] => []
  | [element] => newLine level ++ printIndented level element
  | element :: rest =>
    newLine level ++ printIndented level element ++ ',' :: indentElements level rest

/-- The members of an object, each on a line of its own. -/
def indentMembers (level : Nat) : List (String × Json) → List Char
  | [] => []
  | [(name, value)] =>
    newLine level ++ printText name ++ ':' :: ' ' :: printIndented level value
  | (name, value) :: rest =>
    newLine level ++ printText name ++ ':' :: ' ' :: printIndented level value ++
      ',' :: indentMembers level rest

end

/-- The indented text of a value. -/
def indented (value : Json) : String := String.ofList (printIndented 0 value)

end Questionnaire.Json

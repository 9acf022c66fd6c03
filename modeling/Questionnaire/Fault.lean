/-
This file holds the faults that end an operation, each with its cause, its message and the form in
which a failed command shows it.
-/
import Questionnaire.Json.Decode

namespace Questionnaire

/-- Why an operation on a form failed. -/
inductive Fault where
  | unreadableForm (reason : Json.DecodeError)
  | noSections (form : String)
  | sectionNumbering (expected : Nat) (found : List UInt32)
  | duplicateQuestion (id : String)
  | unknownControl (control : String)
  | wrongKind (control actual : String)
  | unknownOption (control value : String)

namespace Fault

/-- Numbers of sections between square brackets. -/
def listed (ids : List UInt32) : String :=
  "[" ++ String.intercalate ", " (ids.map fun id => Text.numeral id.toNat) ++ "]"

/-- The message of a fault. -/
def message : Fault → String
  | .unreadableForm reason => "failed to parse form schema: " ++ reason.message
  | .noSections form => "form '" ++ form ++ "' has no sections"
  | .sectionNumbering expected found =>
    "section ids must run 1..=" ++ Text.numeral expected ++ " without gaps, found " ++ listed found
  | .duplicateQuestion id => "question id '" ++ id ++ "' is declared more than once"
  | .unknownControl control => "unknown control '" ++ control ++ "'"
  | .wrongKind control actual => "control '" ++ control ++ "' is a " ++ actual ++ " control"
  | .unknownOption control value => "'" ++ value ++ "' is not an option of '" ++ control ++ "'"

/-- The form in which a failed command shows a fault: its name and its parts. -/
def shown : Fault → String
  | .unreadableForm _ => "<json>"
  | .noSections form => "NoSections(" ++ Text.quoted form ++ ")"
  | .sectionNumbering expected found =>
    "SectionNumbering \x7b expected: " ++ Text.numeral expected ++ ", found: " ++ listed found ++
      " \x7d"
  | .duplicateQuestion id => "DuplicateQuestion(" ++ Text.quoted id ++ ")"
  | .unknownControl control => "UnknownControl(" ++ Text.quoted control ++ ")"
  | .wrongKind control actual =>
    "KindMismatch \x7b control: " ++ Text.quoted control ++ ", actual: " ++ Text.quoted actual ++
      " \x7d"
  | .unknownOption control value =>
    "UnknownOption \x7b control: " ++ Text.quoted control ++ ", value: " ++ Text.quoted value ++
      " \x7d"

end Fault

end Questionnaire

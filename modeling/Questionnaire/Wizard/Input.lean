/-
This file reads lines as the answers to prompts. A blank line keeps the value, and three words are
commands at any prompt; every other line has to make sense for the field.
-/
import Questionnaire.Text.Lower
import Questionnaire.Text.Numeral
import Questionnaire.Wizard.Screen
import Questionnaire.Text.Blank

namespace Questionnaire.Wizard

/-- What a line means. -/
inductive Input where
  | keep
  | back
  | exit
  | check (checked : Bool)
  | write (value : String)
  deriving DecidableEq, Repr

/-- Why a line makes no sense for a field. -/
inductive Refusal where
  | noFlag (line : String)
  | noOption (line : String) (options : List String)
  deriving DecidableEq, Repr

/-- The message of a refusal. -/
def Refusal.message : Refusal → String
  | .noFlag line => "'" ++ line ++ "' is not yes or no"
  | .noOption line options =>
    "'" ++ line ++ "' is not one of: " ++ String.intercalate ", " options

/-- The command of a word in lower case. -/
def command? (word : String) : Option Input :=
  if word == "" then some .keep
  else if word == "back" then some .back
  else if word == "exit" || word == "quit" then some .exit
  else none

/-- The words for a checked box. -/
def checkWords : List String := ["y", "yes", "true", "1", "x"]

/-- The words for an unchecked box. -/
def uncheckWords : List String := ["n", "no", "false", "0"]

/-- Reads a word in lower case as the state of a checkbox. -/
def readFlag (word : String) : Except Refusal Input :=
  if checkWords.contains word then .ok (.check true)
  else if uncheckWords.contains word then .ok (.check false)
  else .error (.noFlag word)

/-- The option of a select that a line means: the first that differs from it at most in the case of
ASCII letters and in blanks around it, or else the one of that number, counted from one. -/
def pick? (options : List String) (line : String) : Option String :=
  match options.find? fun option => Text.sameAscii (Text.trim option) line with
  | some option => some option
  | none =>
    (Text.readNatural (UInt64.size - 1) line.toList).bind fun position =>
      if position = 0 then none else options[position - 1]?

/-- Reads a line as a choice. -/
def readChoice (options : List String) (line : String) : Except Refusal Input :=
  match pick? options line with
  | some option => .ok (.write option)
  | none => .error (.noOption line options)

/-- Reads a line as the answer to the prompt for a field. -/
def readInput (field : Field) (line : String) : Except Refusal Input :=
  let line := Text.trim line
  let word := Text.lower line
  match command? word with
  | some input => .ok input
  | none =>
    match field.kind with
    | .checkbox => readFlag word
    | .select => readChoice (field.options.getD []) line
    | .text | .amount | .echo => .ok (.write line)

/-- The text that a line sets a control to, unless it is a command. -/
def Input.value? : Input → Option String
  | .check checked => some (if checked then "true" else "false")
  | .write value => some value
  | .keep | .back | .exit => none

end Questionnaire.Wizard

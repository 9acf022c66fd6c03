/-
This file holds the reasons why a file cannot be read as a text. The system numbers its own reasons;
a file that is handed out may still hold bytes that are no text.
-/
import Questionnaire.Text.Numeral
import Questionnaire.Text.Quoted

namespace Questionnaire.CommandLine

/-- Why a file could not be read as a text. -/
inductive FileFault where
  | system (code : Nat) (kind words : String)
  | notText
  deriving DecidableEq, Repr

namespace FileFault

/-! ### Reasons of the system -/

/-- There is no file of the name. -/
def missing : FileFault := .system 2 "NotFound" "No such file or directory"

/-- The file is not to be read by the program. -/
def denied : FileFault := .system 13 "PermissionDenied" "Permission denied"

/-- A path goes on behind a file. -/
def notDirectory : FileFault := .system 20 "NotADirectory" "Not a directory"

/-- A path leads to a directory. -/
def directory : FileFault := .system 21 "IsADirectory" "Is a directory"

/-- A name or a path has too many bytes. -/
def longName : FileFault := .system 36 "InvalidFilename" "File name too long"

/-- A path is a circle of links. -/
def loop : FileFault := .system 40 "FilesystemLoop" "Too many levels of symbolic links"

/-- The number of a reason of the system. -/
def code? : FileFault → Option Nat
  | .system code _ _ => some code
  | .notText => none

/-- The reason of the given number. One without a kind of its own has the given words. -/
def ofCode (code : Nat) (words : String) : FileFault :=
  ([missing, denied, notDirectory, directory, longName, loop].find? (·.code? == some code)).getD
    (.system code "Uncategorized" words)

/-! ### Texts -/

/-- How a failed command shows the fault of a file. -/
def shown : FileFault → String
  | .system code kind words =>
    "Os \x7b code: " ++ Text.numeral code ++ ", kind: " ++ kind ++ ", message: " ++
      Text.quoted words ++ " \x7d"
  | .notText => "Error \x7b kind: InvalidData, message: \"stream did not contain valid UTF-8\" \x7d"

end FileFault

end Questionnaire.CommandLine

/-
This file holds how texts are read as answers: when two answers are the same, which expected answers
stand for any, which texts count as a yes, which as a number, and which option a text chooses.
-/
import Questionnaire.Decimal.Reader
import Questionnaire.Text.Blank
import Questionnaire.Text.Lower

namespace Questionnaire.Answer

/-- Whether a recorded answer is the expected one: blanks around them and case do not count. -/
def same (actual expected : String) : Bool :=
  Text.lower (Text.trim actual) == Text.lower (Text.trim expected)

/-- The expected answers that stand for every answer that is not empty. -/
def wildcards : List String := ["any text", "any amount", "any date"]

/-- Whether an expected answer stands for every answer that is not empty. -/
def isWildcard (expected : String) : Bool := wildcards.any (Text.sameAscii (Text.trim expected))

/-- The words for a checked box. -/
def yesWords : List String := ["true", "yes", "y", "on", "1", "checked"]

/-- Whether a text means a checked box. -/
def isYes (text : String) : Bool := yesWords.contains (Text.lowerAscii (Text.trim text))

/-- The characters that may stand in a number for the reader's sake. -/
def isDecoration (character : Char) : Bool :=
  character == '$' || character == ',' || character == ' ' || character == '\u00a0'

/-- The finite number that a text stands for, in spite of blanks, currency signs and commas. -/
def number? (text : String) : Option Float :=
  Decimal.readFinite? ((Text.trimList text.toList).filter fun character => !isDecoration character)

/-- The option that a text chooses: the one equal to it, or else the first that differs only in the
case of ASCII letters. A blank text chooses none. -/
def option? (options : List String) (text : String) : Option String :=
  let wanted := Text.trim text
  if wanted.isEmpty then none
  else
    match options.find? (· == wanted) with
    | some option => some option
    | none => options.find? fun option => Text.sameAscii option wanted

end Questionnaire.Answer

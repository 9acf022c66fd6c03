/-
This file holds slugs, the identifiers made from free text: the text in lower case, every run of
other characters than the letters a to z and the digits turned into one underscore, and the outer
underscores left off.
-/
import Questionnaire.Text.Lower

namespace Questionnaire.Slug

/-- The characters that a slug keeps: the small ASCII letters and the digits. -/
def isKept (character : Char) : Bool := character.isLower || character.isDigit

/-- Keeps the kept characters and writes one underscore for every run of others. The flag tells
that the run before the characters has its underscore already. -/
def squash (inRun : Bool) : List Char → List Char
  | [] => []
  | character :: rest =>
    if isKept character then character :: squash false rest
    else if inRun then squash true rest
    else '_' :: squash true rest

/-- The characters without the underscores around them. -/
def strip (characters : List Char) : List Char :=
  ((characters.dropWhile (· == '_')).reverse.dropWhile (· == '_')).reverse

/-- The form of a text that keeps an outer underscore for a run at its start or end. -/
def untrimmed (text : String) : String :=
  String.ofList (squash false (Text.lowerList text.toList))

/-- The slug of a text. It is empty if the text in lower case has no ASCII letter and no digit. -/
def ofText (text : String) : String :=
  String.ofList (strip (squash false (Text.lowerList text.toList)))

/-- The slug of a question whose text has none: it is made from the question's id. -/
def fallback (id : String) : String :=
  let slug := ofText id
  if slug.isEmpty then "question" else "question_" ++ slug

end Questionnaire.Slug

/-
This file holds the choice of a name that is not taken yet: the wanted name itself, or the first of
its numbered forms, which count from two.
-/
import Questionnaire.Text.Numeral

namespace Questionnaire.FreshName

/-- The forms of a name: the first one is the name itself, each later one carries its number. -/
def numbered (base : String) (count : Nat) : String :=
  if count < 2 then base else base ++ "_" ++ Text.numeral count

/-- The first form from the given count on that is not taken, after at most the given number of
refusals. -/
def seek (taken : List String) (base : String) : Nat → Nat → String
  | 0, count => numbered base count
  | refusals + 1, count =>
    if taken.contains (numbered base count) then seek taken base refusals (count + 1)
    else numbered base count

/-- The first form of a name that is not taken. Among one more form than there are taken names
there is always one. -/
def fresh (taken : List String) (base : String) : String := seek taken base taken.length 1

end Questionnaire.FreshName

/-
This file replaces a marker in a text wherever it stands, from left to right and without overlap.
-/

namespace Questionnaire.Text

/-- The characters with every marker replaced, after the given count of characters that still
belong to a marker already replaced. -/
def replaceAfter (marker replacement : List Char) : Nat → List Char → List Char
  | _, [] => []
  | skip + 1, _ :: rest => replaceAfter marker replacement skip rest
  | 0, character :: rest =>
    if marker.isPrefixOf (character :: rest) then
      replacement ++ replaceAfter marker replacement (marker.length - 1) rest
    else character :: replaceAfter marker replacement 0 rest

/-- The text with every marker replaced. The marker has at least one character. -/
def replaceMarker (marker replacement text : String) : String :=
  String.ofList (replaceAfter marker.toList replacement.toList 0 text.toList)

end Questionnaire.Text

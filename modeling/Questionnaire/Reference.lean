/-
This file finds the control that a reference in a calculation or an inline expression means, and
reads controls as numbers. A session may be given any ways to find one. Three are usual: by the very
name, by a text or id that leads to it, and by the shorthand that counts controls. The ways are
tried in the order of a list, and the first one that finds a control decides.
-/
import Questionnaire.Sheet.Basic
import Questionnaire.Text.Digit

namespace Questionnaire

/-- A way to find a control: the word for it, and the control that it finds for a reference, if it
finds one. -/
structure Tier where
  label : String
  find : Catalog → Sheet → String → Option String

/-- The ways to try, in order. -/
abbrev Tiers := List Tier

namespace Reference

/-! ### By name -/

/-- The control of exactly this name. -/
def byDirectName (sheet : Sheet) (reference : String) : Option String :=
  if sheet.contains reference then some reference else none

/-- The first control of the answer to the question that a reference names, itself or by its slug,
if the control is live. -/
def byQuestion (catalog : Catalog) (sheet : Sheet) (reference slug : String) : Option String :=
  let question := match catalog.resolve? reference with
    | some entry => some entry
    | none => catalog.resolve? slug
  (question.bind fun entry => entry.answers.head?).filter fun name => sheet.contains name

/-- The control that is named by the slug of a reference; or that answers the question it names; or
whose name differs from it only in the case of ASCII letters. -/
def byName (catalog : Catalog) (sheet : Sheet) (reference : String) : Option String :=
  let slug := Slug.ofText reference
  if !slug.isEmpty && sheet.contains slug then some slug
  else
    match byQuestion catalog sheet reference slug with
    | some name => some name
    | none => sheet.names.find? fun name => Text.sameAscii name reference

/-! ### By shorthand -/

/-- The small letter that a character stands for where case does not count. The long s and the
Kelvin sign count as the letters s and k. -/
def foldCase (character : Char) : Char :=
  if character == 'ſ' then 's' else if character == '\u212a' then 'k' else character.toLower

/-- Whether a character is an ASCII letter or digit where case does not count. -/
def isWordCharacter (character : Char) : Bool := (foldCase character).isAlphanum

/-- What follows a word at the start of characters. -/
def afterWord : List Char → List Char → Option (List Char)
  | [], rest => some rest
  | _ :: _, [] => none
  | letter :: word, character :: rest =>
    if foldCase character == letter then afterWord word rest else none

/-- Whether a character divides the parts of a shorthand. -/
def isDivider (character : Char) : Bool := character == '_' || character == '-'

/-- The characters without a divider at their start. -/
def skipDivider : List Char → List Char
  | [] => []
  | character :: rest => if isDivider character then rest else character :: rest

/-- The number of a part, if its digits are those of a 64-bit word; and one otherwise. -/
def partNumber (digits : List Char) : Nat :=
  (Text.readNatural (UInt64.size - 1) digits).getD 1

/-- A part of a shorthand, a divider and a word before digits, and what follows it. Where the part
is not there its number is one. -/
def takePart (word characters : List Char) : Nat × List Char :=
  match characters with
  | [] => (1, [])
  | divider :: rest =>
    if !isDivider divider then (1, characters)
    else
      match afterWord word rest with
      | none => (1, characters)
      | some rest =>
        let counted := skipDivider rest
        let digits := counted.takeWhile Text.isAnyDigit
        if digits.isEmpty then (1, characters)
        else (partNumber digits, counted.dropWhile Text.isAnyDigit)

/-- A shorthand: a question, the number of one of its controls, and the number of a field of it. -/
structure Shorthand where
  question : String
  entry : Nat
  field : Nat
  deriving DecidableEq, Repr

/-- Reads a shorthand: the word for a question with its id or slug, then an entry and then a field,
each of which may be left out. -/
def readShorthand (reference : String) : Option Shorthand :=
  (afterWord ['q', 'u', 'e', 's', 't', 'i', 'o', 'n'] reference.toList).bind fun rest =>
    let named := skipDivider rest
    let question := named.takeWhile isWordCharacter
    let (entry, rest) := takePart ['e', 'n', 't', 'r', 'y'] (named.dropWhile isWordCharacter)
    let (field, rest) := takePart ['f', 'i', 'e', 'l', 'd'] rest
    if question.isEmpty || !rest.isEmpty then none
    else some ⟨String.ofList question, entry, field⟩

/-- The field of a control: the first is the control itself, the second its amount. -/
def fieldOf (catalog : Catalog) (control : String) : Nat → Option String
  | 1 => some control
  | 2 => (catalog.control? control).bind Control.amount?
  | _ => none

/-- The live control that a shorthand counts out. -/
def byShorthand (catalog : Catalog) (sheet : Sheet) (reference : String) : Option String :=
  (readShorthand reference).bind fun shorthand =>
    (catalog.resolve? shorthand.question).bind fun question =>
      if shorthand.entry = 0 then none
      else (question.answers[shorthand.entry - 1]?).bind fun control =>
        (fieldOf catalog control shorthand.field).filter fun name => sheet.contains name

/-! ### By all ways -/

end Reference

/-- The way by the very name. -/
def Tier.direct : Tier := ⟨"direct", fun _ sheet => Reference.byDirectName sheet⟩

/-- The way by a text or id that leads to the control. -/
def Tier.name : Tier := ⟨"name", Reference.byName⟩

/-- The way by the shorthand that counts controls. -/
def Tier.shorthand : Tier := ⟨"shorthand", Reference.byShorthand⟩

/-- The three ways in their usual order. -/
def Tiers.usual : Tiers := [.direct, .name, .shorthand]

namespace Reference

/-- What one way finds. -/
def byTier (catalog : Catalog) (sheet : Sheet) (reference : String) (tier : Tier) :
    Option String :=
  tier.find catalog sheet reference

/-- The first way that finds a control for a reference, with the control. Blanks around the
reference do not count, and a blank one means nothing. -/
def locate (tiers : Tiers) (catalog : Catalog) (sheet : Sheet) (reference : String) :
    Option (Tier × String) :=
  let trimmed := Text.trim reference
  if trimmed.isEmpty then none
  else tiers.findSome? fun tier => (byTier catalog sheet trimmed tier).map fun name => (tier, name)

/-! ### Numbers -/

/-- The number of a text; one that is no number counts as zero. -/
def numberOf (sheet : Sheet) (name : String) : Float :=
  ((sheet.text? name).bind Answer.number?).getD 0.0

/-- A control as a number. A checked box is its amount if it has one, and otherwise one. -/
def number (catalog : Catalog) (sheet : Sheet) (name : String) : Float :=
  match sheet.checked? name with
  | some false => 0.0
  | some true =>
    match (catalog.control? name).bind Control.amount? with
    | some amount => numberOf sheet amount
    | none => 1.0
  | none => numberOf sheet name

/-- The number that a reference means; one that means no control is zero. -/
def value (tiers : Tiers) (catalog : Catalog) (sheet : Sheet) (reference : String) : Float :=
  match locate tiers catalog sheet reference with
  | some (_, name) => number catalog sheet name
  | none => 0.0

/-- The controls whose change can change the number of a reference: the one of its name, the one it
means, and the amount of that one. -/
def watched (tiers : Tiers) (catalog : Catalog) (sheet : Sheet) (reference : String) :
    List String :=
  Text.trim reference ::
    match locate tiers catalog sheet reference with
    | some (_, name) => ((catalog.control? name).bind Control.amount?).toList ++ [name]
    | none => []

end Reference

end Questionnaire

/-
This file reads JSON texts. Only the grammar can make a reading fail; what the grammar admits but no
value answers to is read as unreadable. Whole numbers keep their exact value within the 64-bit
ranges, and all other numbers become floats.
-/
import Questionnaire.Decimal.Binary
import Questionnaire.Json.Value
import Questionnaire.Text.Numeral

namespace Questionnaire.Json

/-! ### Blanks -/

/-- The blanks of the grammar. -/
def isGap (character : Char) : Bool :=
  character == ' ' || character == '\n' || character == '\t' || character == '\r'

/-- The characters from the first one that is no blank on. -/
def skipGap (characters : List Char) : List Char := characters.dropWhile isGap

/-! ### Numbers -/

/-- The greatest 64-bit word. -/
def greatestWord : Nat := UInt64.size - 1

/-- Takes digits into a significand as long as it stays a 64-bit word, and counts them. -/
def takeDigits (significand count : Nat) : List Char → Nat × Nat
  | [] => (significand, count)
  | digit :: rest =>
    let next := 10 * significand + Text.digitValue digit
    if next ≤ greatestWord then takeDigits next (count + 1) rest else (significand, count)

/-- The float nearest to a power of ten. -/
def power (exponent : Nat) : Float := Decimal.nearest false (Nat.pow 10 exponent) 1

/-- A significand times a power of ten, computed by one multiplication or division of floats, or
two divisions where one power cannot be written. A product beyond the floats has no value, and what
two divisions leave too large is zero. -/
def scale (significand : Nat) (exponent : Int) : Option Float :=
  let start := Decimal.nearest false significand 1
  if 0 ≤ exponent then
    if exponent ≤ 308 then
      let product := start * power exponent.toNat
      if product.isFinite then some product else none
    else if significand == 0 then some start
    else none
  else if -308 ≤ exponent then some (start / power (-exponent).toNat)
  else if -616 ≤ exponent then some (start / power 308 / power (-exponent - 308).toNat)
  else some 0.0

/-- The parts of a number's text. -/
structure Literal where
  negative : Bool
  whole : List Char
  fraction : List Char
  exponent : Option Int

/-- The value of a number's text. A whole number within the 64-bit ranges is exact. All others take
as many digits as fit a 64-bit word. -/
def Literal.value (literal : Literal) : Json :=
  let (significand, count) := takeDigits 0 0 literal.whole
  let fits := count == literal.whole.length
  match literal.fraction, literal.exponent, fits && !literal.negative,
      fits && literal.negative && 0 < significand && significand ≤ Int64.minValue.toInt.natAbs with
  | [], none, true, _ => .number (.integer significand)
  | [], none, _, true => .number (.integer (-(significand : Int)))
  | fraction, exponent, _, _ =>
    let (all, places) := takeDigits significand 0 fraction
    let shift : Int := (literal.whole.length - count : Nat) - (places : Int) + exponent.getD 0
    match scale all shift with
    | some value => .number (.float (if literal.negative then -value else value))
    | none => .unreadable

/-- The digits at the start of characters and what follows them. -/
def spanDigits (characters : List Char) : List Char × List Char :=
  (characters.takeWhile Char.isDigit, characters.dropWhile Char.isDigit)

/-- A fraction, if a point comes next. A point without digits is an error. -/
def readFraction : List Char → Option (List Char × List Char)
  | '.' :: rest =>
    let (digits, after) := spanDigits rest
    if digits.isEmpty then none else some (digits, after)
  | all => some ([], all)

/-- An exponent, if its mark comes next. A mark without digits is an error. -/
def readPower : List Char → Option (Option Int × List Char)
  | [] => some (none, [])
  | mark :: rest =>
    if mark == 'e' || mark == 'E' then
      let (negative, unsigned) := match rest with
        | '-' :: after => (true, after)
        | '+' :: after => (false, after)
        | after => (false, after)
      let (digits, after) := spanDigits unsigned
      if digits.isEmpty then none
      else
        let magnitude : Int := Text.digitsValue digits
        some (some (if negative then -magnitude else magnitude), after)
    else some (none, mark :: rest)

/-- A number. Its whole part is a zero or starts with another digit. -/
def readNumber (characters : List Char) : Option (Json × List Char) :=
  let (negative, unsigned) := match characters with
    | '-' :: rest => (true, rest)
    | all => (false, all)
  let (whole, rest) := spanDigits unsigned
  if whole.isEmpty || (whole.head? == some '0' && 1 < whole.length) then none
  else
    (readFraction rest).bind fun (fraction, rest) =>
      (readPower rest).map fun (exponent, rest) =>
        ((Literal.mk negative whole fraction exponent).value, rest)

/-! ### Texts -/

/-- The value of a hexadecimal digit. -/
def hexValue? (character : Char) : Option Nat :=
  if character.isDigit then some (character.toNat - 48)
  else if 'a' ≤ character && character ≤ 'f' then some (character.toNat - 87)
  else if 'A' ≤ character && character ≤ 'F' then some (character.toNat - 55)
  else none

/-- The value of four hexadecimal digits. -/
def hexUnit? (first second third fourth : Char) : Option Nat := do
  let first ← hexValue? first
  let second ← hexValue? second
  let third ← hexValue? third
  let fourth ← hexValue? fourth
  return 4096 * first + 256 * second + 16 * third + fourth

/-- The character of an escape with a single letter. -/
def simpleEscape? : Char → Option Char
  | '"' => some '"'
  | '\\' => some '\\'
  | '/' => some '/'
  | 'b' => some '\x08'
  | 'f' => some '\x0c'
  | 'n' => some '\n'
  | 'r' => some '\r'
  | 't' => some '\t'
  | _ => none

/-- What a text holds: its characters, or nothing if half of a surrogate pair stands in it. -/
abbrev Held := Option (List Char)

/-- A piece of a text: a character, or the 16-bit unit of a numbered escape. -/
inductive Piece where
  | character (value : Char)
  | unit (value : Nat)

/-- The pieces of a text after its opening quote, up to the closing one. -/
def readPieces : List Char → Option (List Piece × List Char)
  | [] => none
  | '"' :: rest => some ([], rest)
  | '\\' :: 'u' :: first :: second :: third :: fourth :: rest =>
    (hexUnit? first second third fourth).bind fun value =>
      (readPieces rest).map fun (pieces, rest) => (.unit value :: pieces, rest)
  | '\\' :: letter :: rest =>
    (simpleEscape? letter).bind fun value =>
      (readPieces rest).map fun (pieces, rest) => (.character value :: pieces, rest)
  | value :: rest =>
    if value == '\\' || value.toNat < 32 then none
    else (readPieces rest).map fun (pieces, rest) => (.character value :: pieces, rest)

/-- Whether a unit is the first half of a surrogate pair. -/
def isHighHalf (value : Nat) : Bool := 0xD800 ≤ value && value ≤ 0xDBFF

/-- Whether a unit is the second half of a surrogate pair. -/
def isLowHalf (value : Nat) : Bool := 0xDC00 ≤ value && value ≤ 0xDFFF

/-- The characters of pieces: two units that make a surrogate pair are one character. -/
def joinPieces : List Piece → Held
  | [] => some []
  | .character value :: rest => (joinPieces rest).map (value :: ·)
  | .unit high :: .unit low :: rest =>
    if isHighHalf high && isLowHalf low then
      (joinPieces rest).map (Char.ofNat (0x10000 + (high - 0xD800) * 0x400 + (low - 0xDC00)) :: ·)
    else if isHighHalf high || isLowHalf high then none
    else (joinPieces (.unit low :: rest)).map (Char.ofNat high :: ·)
  | .unit value :: rest =>
    if isHighHalf value || isLowHalf value then none
    else (joinPieces rest).map (Char.ofNat value :: ·)

/-- The rest of a text after its opening quote. -/
def readText (characters : List Char) : Option (Held × List Char) :=
  (readPieces characters).map fun (pieces, rest) => (joinPieces pieces, rest)

/-! ### Values -/

/-- An array, unless something in it keeps it from being read or it lies too deep. -/
def arrayValue (room : Nat) (elements : List Json) : Json :=
  if room == 0 then .unreadable else .array elements

/-- An object, unless the name of a member cannot be read or it lies too deep. -/
def objectValue (room : Nat) (members : List (Held × Json)) : Json :=
  if room == 0 || members.any (·.1.isNone) then .unreadable
  else .object (members.map fun member => (String.ofList (member.1.getD []), member.2))

mutual

/-- A value, within the given number of steps and with room for so many levels of nesting. -/
def readValue : Nat → Nat → List Char → Option (Json × List Char)
  | 0, _, _ => none
  | steps + 1, room, characters =>
    match characters with
    | 'n' :: 'u' :: 'l' :: 'l' :: rest => some (.null, rest)
    | 't' :: 'r' :: 'u' :: 'e' :: rest => some (.boolean true, rest)
    | 'f' :: 'a' :: 'l' :: 's' :: 'e' :: rest => some (.boolean false, rest)
    | '"' :: rest =>
      (readText rest).map fun (held, rest) =>
        (match held with
          | some characters => .text (String.ofList characters)
          | none => .unreadable, rest)
    | '[' :: rest =>
      match skipGap rest with
      | ']' :: rest => some (arrayValue room [], rest)
      | rest =>
        (readElements steps (room - 1) rest).map fun (elements, rest) =>
          (arrayValue room elements, rest)
    | '\x7b' :: rest =>
      match skipGap rest with
      | '\x7d' :: rest => some (objectValue room [], rest)
      | rest =>
        (readMembers steps (room - 1) rest).map fun (members, rest) =>
          (objectValue room members, rest)
    | all => readNumber all

/-- The elements of an array that has some, up to its closing bracket. -/
def readElements : Nat → Nat → List Char → Option (List Json × List Char)
  | 0, _, _ => none
  | steps + 1, room, characters =>
    (readValue steps room (skipGap characters)).bind fun (element, rest) =>
      match skipGap rest with
      | ',' :: rest =>
        (readElements steps room rest).map fun (elements, rest) => (element :: elements, rest)
      | ']' :: rest => some ([element], rest)
      | _ => none

/-- The members of an object that has some, up to its closing brace. -/
def readMembers : Nat → Nat → List Char → Option (List (Held × Json) × List Char)
  | 0, _, _ => none
  | steps + 1, room, characters =>
    match skipGap characters with
    | '"' :: rest =>
      (readText rest).bind fun (name, rest) =>
        match skipGap rest with
        | ':' :: rest =>
          (readValue steps room (skipGap rest)).bind fun (value, rest) =>
            match skipGap rest with
            | ',' :: rest =>
              (readMembers steps room rest).map fun (members, rest) =>
                ((name, value) :: members, rest)
            | '\x7d' :: rest => some ([(name, value)], rest)
            | _ => none
        | _ => none
    | _ => none

end

/-- How many levels of nesting a value may have. -/
def greatestDepth : Nat := 127

/-- Reads a text as a value. Every step takes a character, so the length of the text bounds the
number of steps. -/
def read? (source : String) : Option Json :=
  let characters := source.toList
  match readValue (2 * characters.length + 2) greatestDepth (skipGap characters) with
  | some (value, rest) => if (skipGap rest).isEmpty then some value else none
  | none => none

/-- Reads a text as a value all of whose parts can be read, in normal form. -/
def readNormal? (source : String) : Option Json :=
  ((read? source).filter isReadable).map normal

end Questionnaire.Json

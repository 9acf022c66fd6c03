/-
This file decodes JSON values into typed ones. A decoder stops at the first thing that does not
fit, in the order of the text, and says what it found and what it wanted. A record is written as an
object or as an array of its fields in declaration order; members that no field asks for are passed
over, and a field given twice is refused.
-/
import Questionnaire.Decimal.Printer
import Questionnaire.Json.Reader
import Questionnaire.Text.Quoted

namespace Questionnaire.Json

/-! ### Errors -/

/-- What a decoder came upon. -/
inductive Found where
  | null
  | boolean (value : Bool)
  | integer (value : Int)
  | float (value : Float)
  | text (value : String)
  | sequence
  | map
  | unitVariant

/-- Why a text or value was refused. -/
inductive DecodeError where
  | malformed
  | expectedValue
  | trailing
  | wrongType (found : Found) (expected : String)
  | wrongValue (found : Int) (expected : String)
  | wrongLength (length : Nat) (expected : String)
  | missingField (name : String)
  | duplicateField (name : String)
  | unknownVariant (name : String) (known : List String)
  | noVariant (type : String)

/-- How an error names what was found. -/
def Found.describe : Found → String
  | .null => "null"
  | .boolean value => if value then "boolean `true`" else "boolean `false`"
  | .integer value => "integer `" ++ Text.signedNumeral value ++ "`"
  | .float value => "floating point `" ++ Decimal.dataForm value ++ "`"
  | .text value => "string " ++ Text.quoted value
  | .sequence => "sequence"
  | .map => "map"
  | .unitVariant => "unit variant"

/-- The variants that were possible, as an error lists them. -/
def describeVariants (known : List String) : String :=
  let marked := known.map fun name => "`" ++ name ++ "`"
  match marked with
  | [first, second] => first ++ " or " ++ second
  | all => "one of " ++ String.intercalate ", " all

/-- The text of an error. -/
def DecodeError.message : DecodeError → String
  | .malformed => "<json syntax>"
  | .expectedValue => "expected value"
  | .trailing => "trailing characters"
  | .wrongType found expected =>
    "invalid type: " ++ found.describe ++ ", expected " ++ expected
  | .wrongValue found expected =>
    "invalid value: " ++ (Found.integer found).describe ++ ", expected " ++ expected
  | .wrongLength length expected =>
    "invalid length " ++ Text.numeral length ++ ", expected " ++ expected
  | .missingField name => "missing field `" ++ name ++ "`"
  | .duplicateField name => "duplicate field `" ++ name ++ "`"
  | .unknownVariant name known =>
    "unknown variant `" ++ name ++ "`, expected " ++ describeVariants known
  | .noVariant type => "data did not match any variant of untagged enum " ++ type

/-- A partial function from values, with the reason where it has no result. -/
abbrev Decoder (α : Type) := Json → Except DecodeError α

/-- The error for a value of another kind than the expected one. -/
def unfit (expected : String) : Json → DecodeError
  | .null => .wrongType .null expected
  | .boolean value => .wrongType (.boolean value) expected
  | .number (.integer value) => .wrongType (.integer value) expected
  | .number (.float value) => .wrongType (.float value) expected
  | .text value => .wrongType (.text value) expected
  | .array _ => .wrongType .sequence expected
  | .object _ => .wrongType .map expected
  | .unreadable => .malformed

/-! ### Plain values -/

/-- A text. -/
def asText : Decoder String
  | .text value => .ok value
  | other => .error (unfit "a string" other)

/-- A truth value. -/
def asBoolean : Decoder Bool
  | .boolean value => .ok value
  | other => .error (unfit "a boolean" other)

/-- A whole number from zero to below 2^32. -/
def asWord32 : Decoder UInt32
  | .number (.integer value) =>
    if 0 ≤ value ∧ value < UInt32.size then .ok (UInt32.ofNat value.toNat)
    else .error (.wrongValue value "u32")
  | other => .error (unfit "u32" other)

/-- A whole number from -2^63 to below 2^63. -/
def asInt64 : Decoder Int64
  | .number (.integer value) =>
    if Int64.minValue.toInt ≤ value ∧ value ≤ Int64.maxValue.toInt then .ok (Int64.ofInt value)
    else .error (.wrongValue value "i64")
  | other => .error (unfit "i64" other)

/-- A number as a float; a whole one gives the nearest float. -/
def asFloat : Decoder Float
  | .number (.float value) => .ok value
  | .number (.integer value) => .ok (Decimal.nearest (decide (value < 0)) value.natAbs 1)
  | other => .error (unfit "f64" other)

/-! ### Lists, options and maps -/

/-- Decodes every element of a list. -/
def decodeAll {α : Type} (decode : Decoder α) : List Json → Except DecodeError (List α)
  | [] => .ok []
  | element :: rest => do
    let value ← decode element
    let values ← decodeAll decode rest
    return value :: values

/-- A list. -/
def asList {α : Type} (decode : Decoder α) : Decoder (List α)
  | .array elements => decodeAll decode elements
  | other => .error (unfit "a sequence" other)

/-- A value that may be null. -/
def asOption {α : Type} (decode : Decoder α) : Decoder (Option α)
  | .null => .ok none
  | other => (decode other).map some

/-- Decodes the members of a map into it; the last of several with one name counts. -/
def decodeEntries {α : Type} (decode : Decoder α) (map : NameMap α) :
    List (String × Json) → Except DecodeError (NameMap α)
  | [] => .ok map
  | (name, value) :: rest => do
    let value ← decode value
    decodeEntries decode (map.insert name value) rest

/-- A map from names. -/
def asMap {α : Type} (decode : Decoder α) : Decoder (NameMap α)
  | .object members => decodeEntries decode NameMap.empty members
  | other => .error (unfit "a map" other)

/-! ### Variants -/

/-- The variant of a name. -/
def variantOf {α : Type} (known : List (String × α)) (name : String) : Except DecodeError α :=
  match known.find? fun entry => entry.1 == name with
  | some entry => .ok entry.2
  | none => .error (.unknownVariant name (known.map (·.1)))

/-- A variant without content: its name, or an object with its name before null. -/
def asVariant {α : Type} (known : List (String × α)) : Decoder α
  | .text name => variantOf known name
  | .object ((name, content) :: rest) => do
    let variant ← variantOf known name
    match content with
    | .null => if rest.isEmpty then .ok variant else .error .expectedValue
    | other => .error (unfit "unit" other)
  | .unreadable => .error .malformed
  | _ => .error .expectedValue

/-! ### Records -/

/-- A field of a record: its name, whether it may be left out, and how its value is put in. -/
structure Slot (σ : Type) where
  name : String
  optional : Bool
  fill : Json → σ → Except DecodeError σ

/-- A field that has to be there. -/
def Slot.required {σ α : Type} (name : String) (decode : Decoder α) (put : α → σ → σ) : Slot σ :=
  ⟨name, false, fun value record => (decode value).map fun content => put content record⟩

/-- A field that keeps the content of the blank record where it is left out. -/
def Slot.defaulted {σ α : Type} (name : String) (decode : Decoder α) (put : α → σ → σ) : Slot σ :=
  ⟨name, true, fun value record => (decode value).map fun content => put content record⟩

/-- Puts the members of an object into a record, in the order of the text. The names seen so far
are kept to tell a repetition. -/
def fillMembers {σ : Type} (slots : List (Slot σ)) :
    List (String × Json) → List String → σ → Except DecodeError (List String × σ)
  | [], seen, record => .ok (seen, record)
  | (name, value) :: rest, seen, record =>
    match slots.find? fun slot => slot.name == name with
    | none => fillMembers slots rest seen record
    | some slot =>
      if seen.contains name then .error (.duplicateField name)
      else do
        let record ← slot.fill value record
        fillMembers slots rest (name :: seen) record

/-- Puts the elements of an array into a record, one field after the other. -/
def fillElements {σ : Type} (expected : String) :
    List (Slot σ) → List Json → Nat → σ → Except DecodeError σ
  | [], [], _, record => .ok record
  | [], _ :: _, _, _ => .error .trailing
  | slot :: slots, value :: rest, count, record => do
    let record ← slot.fill value record
    fillElements expected slots rest (count + 1) record
  | slot :: slots, [], count, record =>
    if slot.optional then fillElements expected slots [] (count + 1) record
    else .error (.wrongLength count expected)

/-- The words for a count of elements. -/
def describeCount (count : Nat) : String :=
  Text.numeral count ++ if count == 1 then " element" else " elements"

/-- The record that an object's members make of the blank one. -/
def ofMembers {σ : Type} (slots : List (Slot σ)) (blank : σ) (members : List (String × Json)) :
    Except DecodeError σ := do
  let (seen, record) ← fillMembers slots members [] blank
  match slots.find? fun slot => !slot.optional && !seen.contains slot.name with
  | some slot => .error (.missingField slot.name)
  | none => .ok record

/-- A record of the given type, made from the blank one. -/
def asRecord {σ : Type} (type : String) (slots : List (Slot σ)) (blank : σ) : Decoder σ
  | .object members => ofMembers slots blank members
  | .array elements =>
    fillElements (type ++ " with " ++ describeCount slots.length) slots elements 0 blank
  | other => .error (unfit type other)

/-! ### Texts -/

/-- Decodes a text. Where something in it cannot be read at all, every other complaint gives way
to that. -/
def decodeSource {α : Type} (decode : Decoder α) (source : String) : Except DecodeError α :=
  match read? source with
  | none => .error .malformed
  | some value =>
    match decode value with
    | .ok content => .ok content
    | .error reason => .error (if value.isReadable then reason else .malformed)

end Questionnaire.Json

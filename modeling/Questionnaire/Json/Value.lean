/-
This file holds the values of JSON texts. An object keeps its members in the order of the text and
with repetitions; the normal form sorts them by name and lets the last of a name count.
-/
import Questionnaire.NameMap

namespace Questionnaire

/-- A number of a JSON text: a whole one within the 64-bit ranges, or a float. -/
inductive Number where
  | integer (value : Int)
  | float (value : Float)

/-- A JSON value. A part of a text may be well formed and still have no value, such as a number
beyond the floats or half of a surrogate pair; it is kept as unreadable, because it does no harm
where nobody reads it. -/
inductive Json where
  | null
  | boolean (value : Bool)
  | number (value : Number)
  | text (value : String)
  | array (elements : List Json)
  | object (members : List (String × Json))
  | unreadable

namespace Json

instance : Inhabited Json := ⟨.null⟩

/-- A whole number as a JSON value. -/
def nat (value : Nat) : Json := .number (.integer value)

/-- A text, or null where there is none. -/
def textOrNull : Option String → Json
  | none => .null
  | some value => .text value

/-- A list of texts as a JSON value. -/
def texts (values : List String) : Json := .array (values.map .text)

/-- The object with the given members, sorted by name. -/
def record (members : List (String × Json)) : Json := .object (NameMap.ofList members).entries

/-- The value of a member of an object. -/
def member? (name : String) : Json → Option Json
  | .object members => NameMap.find name members
  | _ => none

/-- The text of a text value. -/
def text? : Json → Option String
  | .text value => some value
  | _ => none

/-- The truth value of a boolean. -/
def boolean? : Json → Option Bool
  | .boolean value => some value
  | _ => none

/-- The elements of an array. -/
def array? : Json → Option (List Json)
  | .array elements => some elements
  | _ => none

/-- A natural number. -/
def nat? : Json → Option Nat
  | .number (.integer (.ofNat value)) => some value
  | _ => none

mutual

/-- Whether every part of the value can be read. -/
def isReadable : Json → Bool
  | .array elements => elementsReadable elements
  | .object members => membersReadable members
  | .unreadable => false
  | _ => true

/-- Whether every part of every element can be read. -/
def elementsReadable : List Json → Bool
  | [] => true
  | element :: rest => isReadable element && elementsReadable rest

/-- Whether every part of every member can be read. -/
def membersReadable : List (String × Json) → Bool
  | [] => true
  | (_, value) :: rest => isReadable value && membersReadable rest

end

mutual

/-- The value with the members of all its objects sorted by name, of each name the last one. -/
def normal : Json → Json
  | .array elements => .array (normalElements elements)
  | .object members => record (normalMembers members)
  | other => other

/-- The elements in normal form. -/
def normalElements : List Json → List Json
  | [] => []
  | element :: rest => normal element :: normalElements rest

/-- The members with their values in normal form. -/
def normalMembers : List (String × Json) → List (String × Json)
  | [] => []
  | (name, value) :: rest => (name, normal value) :: normalMembers rest

end

end Json

end Questionnaire

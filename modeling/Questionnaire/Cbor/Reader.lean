/-
This file reads maps from texts to texts out of bytes. It takes more than is written: lengths in
wider heads than they need, texts and maps whose length is left open, texts that are declared as
mere bytes, and tags before any value, which say nothing here. Tags and maps may lie in one another
only so deep.
-/
import Questionnaire.Cbor.Head
import Questionnaire.NameMap

namespace Questionnaire.Cbor

/-- How many tags and maps may lie in one another. -/
def greatestDepth : Nat := 127

/-- The first head that is no tag, with the room that the tags before it leave. -/
def readTagged : Nat → Bytes → Option (Head × Nat × Bytes)
  | 0, bytes =>
    (readHead bytes).bind fun (head, rest) =>
      if head.major != .tag then some (head, 0, rest) else none
  | room + 1, bytes =>
    (readHead bytes).bind fun (head, rest) =>
      if head.major != .tag then some (head, room + 1, rest)
      else if head.number.isSome then readTagged room rest
      else none

/-- The pieces of a text of open length up to its end, as one. Each piece is of the kind of the text
and has a length; every step takes a byte, so their number bounds the steps. -/
def readPieces (major : Major) : Nat → Bytes → Option (Bytes × Bytes)
  | 0, _ => none
  | steps + 1, bytes => do
    let (head, rest) ← readHead bytes
    if head = ⟨.simple, none⟩ then return ([], rest)
    else if head.major != major then none
    else
      let length ← head.number
      let (piece, rest) ← takeBytes length rest
      let (pieces, rest) ← readPieces major steps rest
      return (piece ++ pieces, rest)

/-- The bytes of a text after its head. -/
def readContent (head : Head) (bytes : Bytes) : Option (Bytes × Bytes) :=
  if head.major = .text ∨ head.major = .bytes then
    match head.number with
    | some length => takeBytes length bytes
    | none => readPieces head.major bytes.length bytes
  else none

/-- A text. Its bytes have to be well-formed UTF-8. -/
def readText (room : Nat) (bytes : Bytes) : Option (String × Bytes) := do
  let (head, _, rest) ← readTagged room bytes
  let (content, rest) ← readContent head rest
  let text ← String.fromUTF8? content.toByteArray
  return (text, rest)

/-- An entry, put into a map; of several entries with one name the last one counts. -/
def readEntry (room : Nat) (map : NameMap String) (bytes : Bytes) :
    Option (NameMap String × Bytes) := do
  let (name, rest) ← readText room bytes
  let (value, rest) ← readText room rest
  return (map.insert name value, rest)

/-- As many entries as given. -/
def readEntries (room : Nat) : Nat → NameMap String → Bytes → Option (NameMap String × Bytes)
  | 0, map, bytes => some (map, bytes)
  | count + 1, map, bytes =>
    match readEntry room map bytes with
    | some (map, rest) => readEntries room count map rest
    | none => none

/-- The entries of a map of open size up to its end. Every step takes a byte, so their number bounds
the steps. -/
def readOpenEntries (room : Nat) : Nat → NameMap String → Bytes → Option (NameMap String × Bytes)
  | 0, _, _ => none
  | steps + 1, map, bytes =>
    if bytes.head? = some stop then some (map, bytes.tail)
    else
      match readEntry room map bytes with
      | some (map, rest) => readOpenEntries room steps map rest
      | none => none

/-- A map with nothing after it. -/
def readMap? (bytes : Bytes) : Option (NameMap String) := do
  let (head, room, rest) ← readTagged greatestDepth bytes
  if head.major != .map || room = 0 then none
  else
    let (map, rest) ← match head.number with
      | some size => readEntries (room - 1) size NameMap.empty rest
      | none => readOpenEntries (room - 1) rest.length NameMap.empty rest
    if rest.isEmpty then return map else none

end Questionnaire.Cbor

/-
This file holds the heads of binary values. A head tells the kind of a value and a number, which is
the length of a text or the size of a map. The number is written in as few bytes as it needs, and
read in any of the widths; a head may also leave it open.
-/

namespace Questionnaire.Cbor

/-- Bytes in the order in which they are written. -/
abbrev Bytes := List UInt8

/-- The kinds of values. -/
inductive Major where
  | natural
  | negative
  | bytes
  | text
  | array
  | map
  | tag
  | simple
  deriving DecidableEq, Repr

namespace Major

/-- The number of a kind, which stands in the upper three bits of a head. -/
def code : Major → Nat
  | .natural => 0
  | .negative => 1
  | .bytes => 2
  | .text => 3
  | .array => 4
  | .map => 5
  | .tag => 6
  | .simple => 7

/-- The kind of a number below eight. -/
def ofCode : Nat → Major
  | 0 => .natural
  | 1 => .negative
  | 2 => .bytes
  | 3 => .text
  | 4 => .array
  | 5 => .map
  | 6 => .tag
  | _ => .simple

end Major

/-- A head: the kind of a value and its number, unless that is left open. -/
structure Head where
  major : Major
  number : Option Nat
  deriving DecidableEq, Repr

/-! ### Writing -/

/-- A number in the given count of bytes, the greatest byte first. -/
def bigEndian : Nat → Nat → Bytes
  | 0, _ => []
  | count + 1, value => UInt8.ofNat (value >>> (8 * count)) :: bigEndian count value

/-- The byte of a kind with the lower five bits given. -/
def firstByte (major : Major) (low : Nat) : UInt8 := UInt8.ofNat (32 * major.code + low)

/-- The head of a kind and a number below 2^64, in as few bytes as possible. -/
def writeHead (major : Major) (value : Nat) : Bytes :=
  if value < 24 then [firstByte major value]
  else if value < UInt8.size then firstByte major 24 :: bigEndian 1 value
  else if value < UInt16.size then firstByte major 25 :: bigEndian 2 value
  else if value < UInt32.size then firstByte major 26 :: bigEndian 4 value
  else firstByte major 27 :: bigEndian 8 value

/-! ### Reading -/

/-- The first bytes, if there are as many as given, and those after them. -/
def takeBytes (count : Nat) (bytes : Bytes) : Option (Bytes × Bytes) :=
  if bytes.length < count then none else some (bytes.take count, bytes.drop count)

/-- The number that bytes stand for, the greatest byte first. -/
def ofBigEndian (bytes : Bytes) : Nat :=
  bytes.foldl (fun value byte => 256 * value + byte.toNat) 0

/-- A number in the given count of bytes. -/
def readNumber (count : Nat) (bytes : Bytes) : Option (Nat × Bytes) :=
  (takeBytes count bytes).map fun (digits, rest) => (ofBigEndian digits, rest)

/-- The byte that ends what was left open; as a head it is a simple value without a number. -/
def stop : UInt8 := 0xff

/-- A head. Of the lower five bits of its first byte, those below 24 are the number itself, the next
four say how many bytes it takes, and the last leaves it open; the others have no meaning. -/
def readHead : Bytes → Option (Head × Bytes)
  | [] => none
  | first :: rest =>
    let major := Major.ofCode (first.toNat / 32)
    let numbered (count : Nat) : Option (Head × Bytes) :=
      (readNumber count rest).map fun (value, rest) => (⟨major, some value⟩, rest)
    match first.toNat % 32 with
    | 24 => numbered 1
    | 25 => numbered 2
    | 26 => numbered 4
    | 27 => numbered 8
    | 28 | 29 | 30 => none
    | 31 => some (⟨major, none⟩, rest)
    | low => some (⟨major, some low⟩, rest)

end Questionnaire.Cbor

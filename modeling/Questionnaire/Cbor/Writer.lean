/-
This file writes maps from texts to texts as bytes: the size of the map, and then every name with
its value in the order of the names, each text after its length.
-/
import Questionnaire.Cbor.Head
import Questionnaire.NameMap
import Questionnaire.Text.Quoted

namespace Questionnaire.Cbor

/-- The bytes of a text in UTF-8. -/
def utf8 (text : String) : Bytes := text.toByteArray.data.toList

/-- A text after its length. -/
def writeText (text : String) : Bytes :=
  let bytes := utf8 text
  writeHead .text bytes.length ++ bytes

/-- An entry of a map. -/
def writeEntry (entry : String × String) : Bytes := writeText entry.1 ++ writeText entry.2

/-- A map after its size. -/
def writeMap (map : NameMap String) : Bytes :=
  writeHead .map map.size ++ map.entries.flatMap writeEntry

/-- Bytes as hexadecimal digits, two for each. -/
def hex (bytes : Bytes) : String :=
  String.ofList (bytes.flatMap fun byte => Text.hexNumeral 2 byte.toNat)

end Questionnaire.Cbor

/-
This file writes and reads exported values, as JSON and as bytes.
-/
import Questionnaire.Cbor.Reader
import Questionnaire.Cbor.Writer
import Questionnaire.Json.Decode
import Questionnaire.Json.Printer
import Questionnaire.Sheet.Basic

namespace Questionnaire.Snapshot

/-- The JSON value of exported values. -/
def encode (snapshot : Snapshot) : Json :=
  .object (snapshot.entries.map fun entry => (entry.1, .text entry.2))

/-- Reads exported values. -/
def decode : Json.Decoder Snapshot := Json.asMap Json.asText

/-- The exported values as bytes. -/
def toCbor (snapshot : Snapshot) : Cbor.Bytes := Cbor.writeMap snapshot

/-- Reads exported values from bytes. -/
def ofCbor? (bytes : Cbor.Bytes) : Option Snapshot := Cbor.readMap? bytes

end Questionnaire.Snapshot

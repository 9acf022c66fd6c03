/-
This file holds what a host keeps of a session from call to call: the exported values and the
position. A session is made of it anew for every call.
-/
import Questionnaire.Session
import Questionnaire.Snapshot

namespace Questionnaire.Host

/-- The exported values and the position of a session. -/
structure Saved where
  values : Snapshot
  navigation : Navigation
  deriving DecidableEq

namespace Saved

/-- No values, and the first section. -/
def blank : Saved := ⟨NameMap.empty, Navigation.start⟩

/-- What is kept of a session. -/
def ofSession (session : Session) : Saved := ⟨session.snapshot, session.navigation⟩

/-- The session that goes on from what was kept. -/
def resume (saved : Saved) (catalog : Catalog) : Session :=
  Session.restore catalog saved.values saved.navigation

/-! ### Texts -/

/-- The JSON value of what is kept. -/
def encode (saved : Saved) : Json :=
  .object [("navigation", saved.navigation.encode), ("values", Snapshot.encode saved.values)]

/-- The fields of what is kept. -/
def slots : List (Json.Slot Saved) :=
  [.defaulted "values" Snapshot.decode fun value record => { record with values := value },
    .defaulted "navigation" Navigation.decode fun value record =>
      { record with navigation := value }]

/-- Reads what was kept. -/
def decode : Json.Decoder Saved := Json.asRecord "struct SessionState" slots blank

/-- Reads the text of what was kept; a blank one stands for nothing kept so far. -/
def ofSource (source : String) : Except Json.DecodeError Saved :=
  if (Text.trim source).isEmpty then .ok blank else Json.decodeSource decode source

end Saved

end Questionnaire.Host

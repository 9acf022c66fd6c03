/-
This file holds the configuration of a host, which is the text of the form it offers, and the
failures of its calls.
-/
import Questionnaire.Catalog.Build
import Questionnaire.Host.Household

namespace Questionnaire.Host

/-! ### Failures -/

/-- Why a call failed. -/
inductive Failure where
  | unreadableConfig (reason : Json.DecodeError)
  | unreadableState (reason : Json.DecodeError)
  | unavailable (form : String)
  | fault (cause : Fault)

/-- The message of a failure. -/
def Failure.message : Failure → String
  | .unreadableConfig reason => "failed to parse config/" ++ reason.message
  | .unreadableState reason => "failed to parse session state: " ++ reason.message
  | .unavailable form => "form '" ++ form ++ "' is not available"
  | .fault cause => cause.message

/-! ### The configuration -/

/-- A configuration. A host that is given no form offers the household form. -/
structure Config where
  source : Option String

namespace Config

/-- The fields of a configuration. -/
def slots : List (Json.Slot Config) :=
  [.defaulted "form_schema_json" (Json.asOption Json.asText) fun value _ => ⟨value⟩]

/-- Reads a configuration. -/
def decode : Json.Decoder Config := Json.asRecord "struct ComponentConfig" slots ⟨none⟩

/-- Reads the text of a configuration; a blank one gives no form. -/
def ofSource (source : String) : Except Json.DecodeError Config :=
  if (Text.trim source).isEmpty then .ok ⟨none⟩ else Json.decodeSource decode source

/-- The form of a configuration. -/
def form (config : Config) : Except Json.DecodeError Form :=
  match config.source with
  | some source => Form.ofSource source
  | none => .ok Household.form

end Config

/-- The form that the text of a configuration offers. -/
def offered (config : String) : Except Failure Form :=
  ((Config.ofSource config).bind Config.form).mapError .unreadableConfig

/-- The offered form, if it has the wanted id. -/
def wanted (id config : String) : Except Failure Form :=
  (offered config).bind fun form =>
    if form.id = id then .ok form else .error (.unavailable id)

/-- The catalog of the wanted form. -/
def catalog (id config : String) : Except Failure Catalog :=
  (wanted id config).bind fun form => (Catalog.build form).mapError .fault

end Questionnaire.Host

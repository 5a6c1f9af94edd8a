import DeliveryDesk.Decimal.Shortest
import DeliveryDesk.Settings.Format
import DeliveryDesk.Text.Whole

/-!
# Preferences and settings

`Preferences` are what an operator stores: up to four values, each of which may be missing.
`set` checks a value before it is stored and stores it in canonical form. `Settings` are what
a command works with: every value comes from the command line if it is given there, else from
the preferences, else from the built-in defaults.
-/

namespace DeliveryDesk

/-- Stored preferences. -/
structure Preferences where
  apiUrl : Option String := none
  outputFormat : Option String := none
  timeoutSeconds : Option UInt64 := none
  defaultEventType : Option String := none
deriving DecidableEq, Repr, Inhabited

/-- The names of the preferences. -/
inductive PreferenceKey where
  | apiUrl
  | outputFormat
  | timeoutSeconds
  | defaultEventType
deriving DecidableEq, Repr

namespace PreferenceKey

/-- All keys in the order in which they are listed and stored. -/
def all : List PreferenceKey := [.apiUrl, .outputFormat, .timeoutSeconds, .defaultEventType]

/-- The written name of a key. -/
def name : PreferenceKey → String
  | .apiUrl => "api_url"
  | .outputFormat => "output_format"
  | .timeoutSeconds => "timeout_seconds"
  | .defaultEventType => "default_event_type"

/-- The key with a name. -/
def named? (s : String) : Option PreferenceKey := all.find? (·.name == s)

end PreferenceKey

/-- Why preferences cannot be used or changed. -/
inductive SettingsFault where
  | unknownKey (key : String)
  | notHttp
  | unknownFormat (text : String)
  | notANumber (text : String) (cause : Text.WholeFault)
  | zeroTimeout
  /-- A stored timeout must fit 63 bits. -/
  | unstorableTimeout
deriving DecidableEq, Repr

namespace SettingsFault

/-- The text of a fault. -/
def message : SettingsFault → String
  | .unknownKey key =>
    "Unknown configuration key '" ++ key ++ "' (expected one of: " ++
      Text.join ", " (PreferenceKey.all.map PreferenceKey.name) ++ ")"
  | .notHttp => "api_url must be an http:// or https:// URL"
  | .unknownFormat text => OutputFormat.unknownMessage text
  | .notANumber text _ => "timeout_seconds must be a number, got '" ++ text ++ "'"
  | .zeroTimeout => "timeout_seconds must be greater than zero"
  | .unstorableTimeout => "out-of-range value for u64 type"

/-- What led to a fault. -/
def causes : SettingsFault → List String
  | .notANumber _ cause => [cause.message]
  | _ => []

end SettingsFault

/-- The largest number of 64 bits. -/
def maxWord64 : Nat := Nat.pow 2 64 - 1

namespace Preferences

/-- The value of a key as text. -/
def value? (p : Preferences) : PreferenceKey → Option String
  | .apiUrl => p.apiUrl
  | .outputFormat => p.outputFormat
  | .timeoutSeconds => p.timeoutSeconds.map fun t => decimalText t.toNat
  | .defaultEventType => p.defaultEventType

/-- The value of the key with a name. -/
def get (p : Preferences) (key : String) : Except SettingsFault (Option String) :=
  match PreferenceKey.named? key with
  | some k => .ok (p.value? k)
  | none => .error (.unknownKey key)

/-- Whether an address names a scheme of the web. -/
def isWebAddress (s : String) : Bool :=
  "http://".toList.isPrefixOf s.toList || "https://".toList.isPrefixOf s.toList

/-- Stores a trimmed value in canonical form. A blank event type is no event type. -/
def store (p : Preferences) (key : PreferenceKey) (value : String) :
    Except SettingsFault Preferences :=
  match key with
  | .apiUrl => if isWebAddress value then .ok { p with apiUrl := some value } else .error .notHttp
  | .outputFormat =>
    match OutputFormat.parse? value with
    | some format => .ok { p with outputFormat := some format.name }
    | none => .error (.unknownFormat value)
  | .timeoutSeconds =>
    match Text.readWhole maxWord64 value.toList with
    | .error cause => .error (.notANumber value cause)
    | .ok 0 => .error .zeroTimeout
    | .ok n => .ok { p with timeoutSeconds := some (UInt64.ofNat n) }
  | .defaultEventType =>
    .ok { p with defaultEventType := if value.isEmpty then none else some value }

/-- Sets the key with a name. -/
def set (p : Preferences) (key value : String) : Except SettingsFault Preferences :=
  match PreferenceKey.named? key with
  | some k => p.store k (Text.trim value)
  | none => .error (.unknownKey key)

end Preferences

/-- The service's address unless another one is given. -/
def defaultApiUrl : String := "http://localhost:8000/api/v1"

/-- The timeout in seconds unless another one is given. -/
def defaultTimeoutSeconds : UInt64 := 30

/-- What the command line and the environment say. -/
structure Overrides where
  apiUrl : Option String := none
  format : Option OutputFormat := none
  timeoutSeconds : Option UInt64 := none
deriving DecidableEq, Repr

/-- What a command works with. -/
structure Settings where
  apiUrl : String
  format : OutputFormat
  timeoutSeconds : UInt64
  defaultEventType : Option String
deriving DecidableEq, Repr

/-- The format a command writes in. Only the preferences can hold a name that is unknown. -/
def Preferences.effectiveFormat (p : Preferences) (o : Overrides) :
    Except SettingsFault OutputFormat :=
  match o.format, p.outputFormat with
  | some format, _ => .ok format
  | none, some stored =>
    match OutputFormat.parse? stored with
    | some format => .ok format
    | none => .error (.unknownFormat stored)
  | none, none => .ok .text

/-- The settings that follow from the preferences and what overrides them. -/
def Preferences.resolve (p : Preferences) (o : Overrides) : Except SettingsFault Settings := do
  let format ← p.effectiveFormat o
  return {
    apiUrl := (o.apiUrl.orElse fun _ => p.apiUrl).getD defaultApiUrl
    format
    timeoutSeconds :=
      (o.timeoutSeconds.orElse fun _ => p.timeoutSeconds).getD defaultTimeoutSeconds
    defaultEventType := p.defaultEventType }

end DeliveryDesk

import DeliveryDesk.Settings.Basic
import DeliveryDesk.Toml.Reading
import DeliveryDesk.Unicode.Visible

/-!
# Preferences as a settings document

Preferences are stored as a document with one line per value that is set. Reading takes any
settings document: keys that are no preferences do not matter, but a preference must have a
value of its own kind. Integers of settings documents have 64 bits and a sign, so a larger
timeout cannot be written.
-/

namespace DeliveryDesk

/-- The layout of floating-point numbers in messages: always with a point and without an
exponent. -/
def plainLayout : DigitLayout :=
  { minPositional := Binary64.minExponent, maxPositional := 309, plusSign := false }

/-- A floating-point number as it is told in a message. -/
def FloatValue.told : FloatValue → String
  | finite x => plainLayout.text x
  | infinite negative => if negative then "-inf" else "inf"
  | notANumber => "NaN"

/-- What a value is, as it is told in a message. -/
def Toml.told : Toml → String
  | string s => "string " ++ Unicode.shown s
  | integer i => "integer " ++ setOff (integerText i)
  | boolean b => "boolean " ++ setOff (if b then "true" else "false")
  | float x => "floating point " ++ setOff x.told
  | moment | table _ _ => "map"
  | array _ | tables _ => "sequence"

namespace Preferences

/-- What is said about a value of the wrong kind. -/
def wrongKind (value : Toml) (expected : String) : String :=
  "invalid type: " ++ value.told ++ ", expected " ++ expected

/-- The text that a value is. -/
def textOf : Toml → Except String String
  | .string s => .ok s
  | value => .error (wrongKind value "a string")

/-- The number that a value is. -/
def numberOf : Toml → Except String UInt64
  | .integer i =>
    if 0 ≤ i then .ok (UInt64.ofNat i.toNat)
    else .error ("invalid value: " ++ (Toml.integer i).told ++ ", expected u64")
  | value => .error (wrongKind value "u64")

/-- The preferences with the value of a key as it stands in a document. -/
def take (p : Preferences) (key : PreferenceKey) (value : Toml) : Except String Preferences :=
  match key with
  | .apiUrl => (textOf value).map fun s => { p with apiUrl := some s }
  | .outputFormat => (textOf value).map fun s => { p with outputFormat := some s }
  | .timeoutSeconds => (numberOf value).map fun t => { p with timeoutSeconds := some t }
  | .defaultEventType => (textOf value).map fun s => { p with defaultEventType := some s }

/-- The preferences with an entry of a document, if it is one. -/
def takeEntry (d : Toml.Document) (p : Preferences) (entry : String × Toml) :
    Except Toml.Mistake Preferences :=
  match PreferenceKey.named? entry.1 with
  | none => .ok p
  | some key => (p.take key entry.2).mapError fun message => ⟨d.place entry.1, message⟩

/-- The preferences that a document holds. -/
def ofDocument (d : Toml.Document) : Except Toml.Mistake Preferences :=
  d.entries.foldlM (takeEntry d) {}

/-- Reads a document. What is wrong with it is told in a report. -/
def parse (s : String) : Except String Preferences :=
  ((Toml.parse s).bind ofDocument).mapError (·.report s.toList)

/-- The line that stores a value, or nothing if there is no value. -/
def lineOf (key : PreferenceKey) : Option String → String
  | none => ""
  | some value => key.name ++ " = " ++ value ++ "\n"

/-- The first timeout that is too large to store. -/
def storableBound : Nat := Nat.pow 2 63

/-- The document that stores the preferences. -/
def document (p : Preferences) : Except SettingsFault String :=
  if p.timeoutSeconds.any fun t => storableBound ≤ t.toNat then .error .unstorableTimeout
  else
    .ok <|
      lineOf .apiUrl (p.apiUrl.map Toml.quoted) ++
      lineOf .outputFormat (p.outputFormat.map Toml.quoted) ++
      lineOf .timeoutSeconds (p.timeoutSeconds.map fun t => decimalText t.toNat) ++
      lineOf .defaultEventType (p.defaultEventType.map Toml.quoted)

end Preferences

end DeliveryDesk

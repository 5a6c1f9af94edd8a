import DeliveryDesk.Time.Calendar
import DeliveryDesk.Text.Blank

/-!
# Reading timestamps

The service writes timestamps in two ways. With an offset (`internetTime?`) every field has
its fixed number of digits and nothing stands before or after the text. Without one
(`localTime?`) reading is lenient: blanks may precede every number, the year may carry a
sign and then have any number of digits, and the other fields may have one digit.
-/

namespace DeliveryDesk.Time

open Text

/-- The value of a decimal digit. -/
def digitValue? (c : Char) : Option Nat :=
  if '0' ≤ c ∧ c ≤ '9' then some (c.toNat - '0'.toNat) else none

/-- Whether a character is a decimal digit. -/
def isDigit (c : Char) : Bool := (digitValue? c).isSome

/-- The number that decimal digits denote. -/
def numberOf (ds : List Char) : Nat :=
  ds.foldl (fun n c => n * 10 + (digitValue? c).getD 0) 0

/-- Splits off the digits at the start, at most `most` of them. -/
def takeDigits : (most : Nat) → List Char → List Char × List Char
  | most + 1, c :: cs =>
    if isDigit c then let (ds, rest) := takeDigits most cs; (c :: ds, rest) else ([], c :: cs)
  | _, cs => ([], cs)

/-- A number of at least one and at most `most` digits. -/
def number? (most : Nat) (cs : List Char) : Option (Nat × List Char) :=
  match takeDigits most cs with
  | ([], _) => none
  | (ds, rest) => some (numberOf ds, rest)

/-- A number of exactly `count` digits. -/
def exactly? (count : Nat) (cs : List Char) : Option (Nat × List Char) :=
  let (ds, rest) := takeDigits count cs
  if ds.length = count then some (numberOf ds, rest) else none

/-- One given character. -/
def symbol? (c : Char) : List Char → Option (List Char)
  | d :: rest => if d = c then some rest else none
  | [] => none

/-- One character that is allowed. -/
def oneOf? (allowed : Char → Bool) : List Char → Option (List Char)
  | c :: rest => if allowed c then some rest else none
  | [] => none

/-- An optional fraction of a second, which has at least one digit behind its point. -/
def fraction? : List Char → Option (List Char)
  | '.' :: rest =>
    match takeDigits rest.length rest with
    | ([], _) => none
    | (_, rest) => some rest
  | cs => some cs

/-- A date and a time with the separators between them, each number read by its own rule. -/
def fields? (year two : List Char → Option (Nat × List Char))
    (sign : Int) (separator : Char → Bool) (cs : List Char) :
    Option (CivilTime × List Char) := do
  let (y, cs) ← year cs
  let (m, cs) ← two (← symbol? '-' cs)
  let (d, cs) ← two (← symbol? '-' cs)
  let (hour, cs) ← two (← oneOf? separator cs)
  let (minute, cs) ← two (← symbol? ':' cs)
  let (second, cs) ← two (← symbol? ':' cs)
  let cs ← fraction? cs
  return ({ date := ⟨sign * y, m, d⟩, hour, minute, second }, cs)

/-- The minus sign of typography, which is accepted in an offset. -/
def typographicMinus : Char := '\u2212'

/-- The size of an offset in seconds: hours and minutes of two digits each. -/
def offsetSize? (cs : List Char) : Option Int := do
  let (h, cs) ← exactly? 2 cs
  let (m, cs) ← exactly? 2 (← symbol? ':' cs)
  if h < 24 ∧ m < 60 ∧ cs.isEmpty then return h * 3600 + m * 60 else none

/-- An offset from universal time that ends the text. -/
def offset? : List Char → Option Int
  | ['Z'] => some 0
  | ['z'] => some 0
  | c :: rest =>
    if c = '+' then offsetSize? rest
    else if c = '-' ∨ c = typographicMinus then (offsetSize? rest).map (-·)
    else none
  | [] => none

/-- A timestamp with an offset: the time it writes and the offset in seconds. -/
def internetTime? (cs : List Char) : Option (CivilTime × Int) := do
  let (t, cs) ← fields? (exactly? 4) (exactly? 2) 1 (fun c => c = 'T' ∨ c = 't' ∨ c = ' ') cs
  let offset ← offset? cs
  if t.isValid then return (t, offset) else none

/-- The years that the lenient form may name. -/
def leastYear : Int := -262143

/-- The last of the years that the lenient form may name. -/
def greatestYear : Int := 262142

/-- A number of any length. -/
def anyNumber? (cs : List Char) : Option (Nat × List Char) := number? cs.length cs

/-- A number of at most two digits behind optional blanks. -/
def lenientTwo? (cs : List Char) : Option (Nat × List Char) := number? 2 (trimStart cs)

/-- The fields of a timestamp without an offset, from the sign of the year on. -/
def localFields? : List Char → Option (CivilTime × List Char)
  | '-' :: cs => fields? anyNumber? lenientTwo? (-1) (fun c => c = 'T') cs
  | '+' :: cs => fields? anyNumber? lenientTwo? 1 (fun c => c = 'T') cs
  | cs => fields? (number? 4) lenientTwo? 1 (fun c => c = 'T') cs

/-- A timestamp without an offset. -/
def localTime? (cs : List Char) : Option CivilTime := do
  let (t, rest) ← localFields? (trimStart cs)
  if rest.isEmpty ∧ t.isValid ∧ leastYear ≤ t.date.year ∧ t.date.year ≤ greatestYear
  then return t else none

end DeliveryDesk.Time

import DeliveryDesk.Decimal.Binary64
import DeliveryDesk.Time.Calendar
import DeliveryDesk.Toml.Basic
import DeliveryDesk.Toml.Quoted

/-!
# Unquoted values of settings documents

Numbers and moments are written without quotes. `numberOrMoment` tries a moment first, then a
floating-point number, then an integer; each of them reads as far as it can, and what follows
must be looked at elsewhere. Underscores may stand between digits. Integers must fit 64 signed
bits, and finite numbers must not be too large.
-/

namespace DeliveryDesk.Toml

open Reader

/-! ## Digits -/

/-- What is said where a digit should stand. -/
def aDigit : List String := ["digit"]

/-- Digits with single underscores between them, behind the first digit. -/
def moreDigits (p : Char → Bool) : Reader (List Char)
  | [] => .ok ([], [])
  | ['_'] => .error { rest := [], notes := { expected := aDigit }, final := true }
  | '_' :: c :: rest =>
    if p c then andRest c (moreDigits p rest)
    else .error { rest := c :: rest, notes := { expected := aDigit }, final := true }
  | c :: rest => if p c then andRest c (moreDigits p rest) else .ok ([], c :: rest)

/-- One or more digits with single underscores between them. -/
def digits (p : Char → Bool) : Reader (List Char) := do
  let c ← one p
  return c :: (← moreDigits p)

/-- Whether a character is a sign. -/
def isSign (c : Char) : Bool := c == '+' || c == '-'

/-- Whether a minus sign stands here; a plus sign may stand in its place. -/
def minus : Reader Bool := do
  return (← maybe (one isSign)) == some '-'

/-- Whether a number is negative, and its digits, of which the first one is no zero unless it
stands alone. -/
def decimal : Reader (Bool × List Char) := named "integer" do
  let negative ← minus
  let c ← one Char.isDigit
  if c = '0' then return (negative, ['0'])
  else return (negative, c :: (← moreDigits Char.isDigit))

/-- The number that digits of a base denote. -/
def valueOf (base : Nat) (ds : List Char) : Nat := (Text.numberIn? base ds).getD 0

/-! ## Integers -/

/-- An integer, if it fits 64 signed bits. -/
def bounded (i : Int) : Except String Toml :=
  if i < -(Nat.pow 2 63 : Int) then .error "number too small to fit in target type"
  else if (Nat.pow 2 63 : Int) ≤ i then .error "number too large to fit in target type"
  else .ok (.integer i)

/-- The name of an integer in a base other than ten. -/
def baseLabel : Nat → String
  | 16 => "hexadecimal integer"
  | 8 => "octal integer"
  | _ => "binary integer"

/-- An integer in a base other than ten, announced by a zero and a letter. It has no sign. -/
def prefixed (letter : Char) (base : Nat) : Reader Toml := surely <|
  checked (named (baseLabel base) do
      chars ['0', letter]
      digits fun c => (Text.digitIn? base c).isSome)
    fun ds => bounded (valueOf base ds)

/-- An integer in decimal digits. -/
def decimalInteger : Reader Toml := fun cs =>
  match decimal cs with
  | .error s => .error s
  | .ok ((negative, ds), rest) =>
    let n : Int := valueOf 10 ds
    match bounded (if negative then -n else n) with
    | .ok i => .ok (i, rest)
    | .error cause => .error { rest := cs, notes := { cause := some cause }, final := true }

/-- An integer. -/
def integerValue : Reader Toml := do
  match ← remaining with
  | '0' :: 'x' :: _ => prefixed 'x' 16
  | '0' :: 'o' :: _ => prefixed 'o' 8
  | '0' :: 'b' :: _ => prefixed 'b' 2
  | _ => decimalInteger

/-! ## Floating-point numbers -/

/-- An exponent larger than every exponent that matters for numbers with as many digits as
can be written. -/
def clampExponent (digits n : Nat) : Nat := min n (digits + 400)

/-- The parts of a written floating-point number. -/
structure FloatText where
  negative : Bool
  whole : List Char
  places : List Char := []
  negativeExponent : Bool := false
  exponent : List Char := []

/-- The number nearest to a written one, if it is not too large. -/
def FloatText.value? (t : FloatText) : Option Binary64 :=
  let digits := t.whole ++ t.places
  let size := clampExponent digits.length (valueOf 10 t.exponent)
  let shift : Int := (if t.negativeExponent then -(size : Int) else size) - t.places.length
  let n := valueOf 10 digits
  let magnitude :=
    if 0 ≤ shift then Binary64.roundRatio (n * Nat.pow 10 shift.toNat) 1
    else Binary64.roundRatio n (Nat.pow 10 (-shift).toNat)
  magnitude.map (·.withSign t.negative)

/-- What the value of a written number is. A positive one that is too large has none. -/
def FloatText.float? (t : FloatText) : Option FloatValue :=
  match t.value? with
  | some x => some (.finite x)
  | none => if t.negative then some (.infinite true) else none

/-- An exponent: whether it is negative, and its digits. -/
def exponent : Reader (Bool × List Char) := do
  let _ ← one fun c => c == 'e' || c == 'E'
  let negative ← minus
  return (negative, ← surely (digits Char.isDigit))

/-- Decimal places behind their point. -/
def places : Reader (List Char) := do
  char '.'
  expecting aDigit (surely (digits Char.isDigit))

/-- A number with decimal places, an exponent, or both. -/
def floatText : Reader FloatText := do
  let (negative, whole) ← decimal
  match ← maybe exponent with
  | some (negativeExponent, exponent) => return { negative, whole, negativeExponent, exponent }
  | none =>
    let places ← places
    match ← maybe exponent with
    | some (negativeExponent, exponent) =>
      return { negative, whole, places, negativeExponent, exponent }
    | none => return { negative, whole, places }

/-- A finite number. -/
def finiteFloat : Reader Toml := fun cs =>
  match floatText cs with
  | .error s => .error s
  | .ok (t, rest) =>
    match t.float? with
    | some x => .ok (.float x, rest)
    | none => .error { rest := cs, final := true }

/-- The number beyond all others, without its sign. -/
def infinite (negative : Bool) : Reader Toml := do
  chars "inf".toList
  return .float (.infinite negative)

/-- What is no number. -/
def notANumber : Reader Toml := do
  chars "nan".toList
  return .float .notANumber

/-- A floating-point number. -/
def floatValue : Reader Toml := named "floating-point number" <|
  orTry finiteFloat do
    let negative ← minus
    orTry (infinite negative) notANumber

/-! ## Moments -/

/-- A number of a given number of digits between two others. -/
def numberWithin (count low high : Nat) : Reader Nat :=
  checked (exactly count Char.isDigit) fun ds =>
    let n := valueOf 10 ds
    if low ≤ n ∧ n ≤ high then .ok n else .error outOfRange

/-- A date: a year of four digits, a month and a day that the month has. -/
def date : Reader Unit := do
  let year ← numberWithin 4 0 9999
  char '-'
  surely do
    let month ← numberWithin 2 1 12
    char '-'
    let _ ← checked (numberWithin 2 1 31) fun day =>
      if (Time.Date.mk year month day).isValid then .ok () else .error outOfRange

/-- A fraction of a second. -/
def fraction : Reader Unit := do
  char '.'
  let _ ← one Char.isDigit
  let _ ← many Char.isDigit

/-- A time of day with seconds, up to a leap second, and maybe a fraction of a second. -/
def time : Reader Unit := do
  let _ ← numberWithin 2 0 23
  char ':'
  surely do
    let _ ← numberWithin 2 0 59
    char ':'
    let _ ← numberWithin 2 0 60
    let _ ← maybe fraction

/-- A distance from Greenwich. -/
def offset : Reader Unit := named "time offset" do
  let c ← one fun c => c == 'Z' || c == 'z' || isSign c
  if isSign c then
    surely do
      let _ ← numberWithin 2 0 23
      char ':'
      let _ ← numberWithin 2 0 59

/-- A time of day behind a date, maybe with an offset. -/
def timeOfDate : Reader Unit := do
  let _ ← one fun c => c == 'T' || c == 't' || c == ' '
  time
  let _ ← maybe offset

/-- A date with or without a time of day. -/
def dateTime : Reader Unit := named "date-time" do
  date
  let _ ← maybe timeOfDate

/-- A moment. -/
def momentValue : Reader Toml := do
  orTry dateTime (named "time" time)
  return .moment

/-- A number or a moment. -/
def numberOrMoment : Reader Toml := orTry momentValue (orTry floatValue integerValue)

end DeliveryDesk.Toml

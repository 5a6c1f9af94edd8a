import DeliveryDesk.Json.Basic
import DeliveryDesk.Json.Raw

/-!
# What a JSON text means

`Json.parse?` reads a whole text as a free-form value. Integers stay integers as long as
they fit 64 bits (unsigned, or signed below zero); everything else is a floating-point
number, and a number too large for one makes the text unreadable. Half a surrogate pair and
malformed bytes inside a string are refused. Values may be nested `maxDepth` deep.

A floating-point number is read by taking as many leading digits as fit 64 bits and scaling
their rounded value by a power of ten, so for long digit strings the result may differ from
the nearest number in the last place.
-/

namespace DeliveryDesk

open Text

/-- How deeply arrays and objects may be nested. -/
def maxDepth : Nat := 127

/-- The largest unsigned 64-bit integer. -/
def maxUnsigned64 : Nat := Nat.pow 2 64 - 1

/-- The largest magnitude of a negative 64-bit integer. -/
def maxMagnitude64 : Nat := Nat.pow 2 63

namespace RawNumber

/-- The largest exponent that is read digit by digit. -/
def maxExponentDigits : Nat := Nat.pow 2 31 - 1

/-- Appends digits to a number as long as it fits 64 bits; the digits that are left over. -/
def absorb (n : Nat) : List Nat → Nat × List Nat
  | [] => (n, [])
  | d :: ds =>
    if n * 10 + d ≤ maxUnsigned64 then absorb (n * 10 + d) ds else (n, d :: ds)

/-- The number that digits denote. -/
def ofDigits (ds : List Nat) : Nat := ds.foldl (fun n d => n * 10 + d) 0

/-- The floating-point number `± significand * 10 ^ exponent` after applying a written
exponent. An exponent beyond `maxExponentDigits` gives zero, or nothing where a number other
than zero would grow. -/
def scaled (negative : Bool) (significand : Nat) (exponent : Int) :
    Option (Bool × List Nat) → Option Binary64
  | none => Binary64.ofDecimal negative significand exponent
  | some (minus, ds) =>
    let e := ofDigits ds
    if maxExponentDigits < e then
      if significand ≠ 0 ∧ minus = false then none else some (Binary64.zero negative)
    else
      Binary64.ofDecimal negative significand (if minus then exponent - e else exponent + e)

/-- The number that is written, if it is representable. -/
def value? (n : RawNumber) : Option JsonNumber :=
  let (significand, dropped) := absorb 0 n.whole
  match n.fraction, n.exponent with
  | none, none =>
    if dropped.isEmpty then
      if n.negative = false then some (.int significand)
      else if 0 < significand ∧ significand ≤ maxMagnitude64 then some (.int (-significand))
      else (Binary64.ofDecimal true significand 0).map .float
    else (Binary64.ofDecimal n.negative significand dropped.length).map .float
  | fraction, exponent =>
    let places := fraction.getD []
    let (significand, unused) := absorb significand places
    let scale : Int := (dropped.length : Int) - ((places.length - unused.length : Nat) : Int)
    (scaled n.negative significand scale exponent).map .float

end RawNumber

namespace RawJson

/-- The characters of a string. A unit of the upper surrogate range must be followed by one
of the lower range, with which it makes one character. -/
def characters? : List StringPart → Option (List Char)
  | [] => some []
  | .char c :: rest => (characters? rest).map (c :: ·)
  | .malformed :: _ => none
  | .unit u :: rest =>
    if 0xDC00 ≤ u ∧ u < 0xE000 then none
    else if 0xD800 ≤ u ∧ u < 0xDC00 then
      match rest with
      | .unit v :: rest =>
        if 0xDC00 ≤ v ∧ v < 0xE000 then
          (characters? rest).map
            (Char.ofNat (0x10000 + (u - 0xD800) * 0x400 + (v - 0xDC00)) :: ·)
        else none
      | _ => none
    else (characters? rest).map (Char.ofNat u :: ·)

/-- The text of a string, if it is well formed. -/
def textOf? (parts : List StringPart) : Option String :=
  (characters? parts).map String.ofList

mutual

/-- The free-form value a tree stands for, if it is nested at most `depth` deep. -/
def toJson? (depth : Nat) : RawJson → Option Json
  | .null => some .null
  | .bool b => some (.bool b)
  | .number n => n.value?.map .number
  | .string parts => (textOf? parts).map .string
  | .array items =>
    match depth with
    | 0 => none
    | depth + 1 => (toJsonItems? depth items).map .array
  | .object members =>
    match depth with
    | 0 => none
    | depth + 1 => (toJsonMembers? depth members).map Json.ofMembers

/-- The values of the items of an array. -/
def toJsonItems? (depth : Nat) : List RawJson → Option (List Json)
  | [] => some []
  | x :: xs => do
    let v ← toJson? depth x
    let vs ← toJsonItems? depth xs
    return v :: vs

/-- The members of an object, in the order in which they are written. -/
def toJsonMembers? (depth : Nat) :
    List (List StringPart × RawJson) → Option (List (String × Json))
  | [] => some []
  | (k, x) :: rest => do
    let key ← textOf? k
    let v ← toJson? depth x
    let vs ← toJsonMembers? depth rest
    return (key, v) :: vs

end

end RawJson

namespace Json

/-- Reads symbols as one free-form value. -/
def ofSymbols? (s : List Symbol) : Option Json :=
  (RawJson.read? s).bind (·.toJson? maxDepth)

/-- Reads a text as one free-form value. -/
def parse? (s : String) : Option Json := ofSymbols? (symbols s)

/-- Reads a body as one free-form value. -/
def ofBytes? (bytes : List UInt8) : Option Json := ofSymbols? (decodeUtf8 bytes)

end Json

end DeliveryDesk

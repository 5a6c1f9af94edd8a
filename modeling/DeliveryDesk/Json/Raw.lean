import DeliveryDesk.Text.Utf8

/-!
# JSON texts as they are written

`RawJson` is the tree of a JSON text before anything in it is interpreted: numbers are
still digits, strings still hold their escapes, repeated members are all there. A reader of
a record interprets only the members it knows, so a text can be well formed here and still
hold, in a member nobody asks for, a number too large to represent or half a surrogate
pair.

`RawJson.read?` accepts exactly one value with optional blanks around it. It runs on a
counter that every nested call lowers; the counter it starts with, twice the length of the
text, is enough because between two calls at least one character is consumed.
-/

namespace DeliveryDesk

open Text

/-- A piece of a string: a character (written plainly or by a short escape), a 16-bit unit
written as four hexadecimal digits, or a malformed byte. -/
inductive StringPart where
  | char (c : Char)
  | unit (u : Nat)
  | malformed
deriving DecidableEq, Repr

/-- A number as it is written. -/
structure RawNumber where
  negative : Bool
  whole : List Nat
  fraction : Option (List Nat)
  /-- The sign (`true` for a minus) and the digits of the exponent. -/
  exponent : Option (Bool × List Nat)
deriving DecidableEq, Repr

/-- A JSON value as it is written. -/
inductive RawJson where
  | null
  | bool (b : Bool)
  | number (n : RawNumber)
  | string (parts : List StringPart)
  | array (items : List RawJson)
  | object (members : List (List StringPart × RawJson))
deriving Repr

namespace RawJson

/-- The blanks allowed between tokens: space, tab, line feed, carriage return. -/
def isSpace : Symbol → Bool
  | some c => c == ' ' || c == '\t' || c == '\n' || c == '\r'
  | none => false

/-- The input without leading blanks. -/
def skipSpace (s : List Symbol) : List Symbol := s.dropWhile isSpace

/-- The value of a decimal digit. -/
def digit? : Symbol → Option Nat
  | some c => if '0' ≤ c ∧ c ≤ '9' then some (c.toNat - '0'.toNat) else none
  | none => none

/-- The value of a hexadecimal digit, of either case. -/
def hexDigit? : Symbol → Option Nat
  | some c =>
    if '0' ≤ c ∧ c ≤ '9' then some (c.toNat - '0'.toNat)
    else if 'a' ≤ c ∧ c ≤ 'f' then some (c.toNat - 'a'.toNat + 10)
    else if 'A' ≤ c ∧ c ≤ 'F' then some (c.toNat - 'A'.toNat + 10)
    else none
  | none => none

/-- The digits at the start of the input, and what follows them. -/
def digits : List Symbol → List Nat × List Symbol
  | [] => ([], [])
  | c :: rest =>
    match digit? c with
    | some d => let (ds, rest') := digits rest; (d :: ds, rest')
    | none => ([], c :: rest)

/-- At least one digit. -/
def digits1 (s : List Symbol) : Option (List Nat × List Symbol) :=
  match digits s with
  | ([], _) => none
  | r => some r

/-- The whole part of a number: a lone zero, or digits that start with another one. -/
def whole? (s : List Symbol) : Option (List Nat × List Symbol) :=
  match digits s with
  | ([], _) => none
  | ([0], rest) => some ([0], rest)
  | (0 :: _, _) => none
  | r => some r

/-- The fraction of a number, if a point comes next. -/
def fraction? : List Symbol → Option (Option (List Nat) × List Symbol)
  | some '.' :: rest => (digits1 rest).map fun (ds, rest') => (some ds, rest')
  | s => some (none, s)

/-- The digits of an exponent behind an optional sign. -/
def exponentDigits? : List Symbol → Option (Option (Bool × List Nat) × List Symbol)
  | some '-' :: rest => (digits1 rest).map fun (ds, rest') => (some (true, ds), rest')
  | some '+' :: rest => (digits1 rest).map fun (ds, rest') => (some (false, ds), rest')
  | s => (digits1 s).map fun (ds, rest') => (some (false, ds), rest')

/-- The exponent of a number, if one comes next. -/
def exponent? : List Symbol → Option (Option (Bool × List Nat) × List Symbol)
  | some 'e' :: rest => exponentDigits? rest
  | some 'E' :: rest => exponentDigits? rest
  | s => some (none, s)

/-- A number whose sign has been read. -/
def unsigned? (negative : Bool) (s : List Symbol) : Option (RawJson × List Symbol) := do
  let (whole, s) ← whole? s
  let (fraction, s) ← fraction? s
  let (exponent, s) ← exponent? s
  return (.number { negative, whole, fraction, exponent }, s)

/-- The character that a short escape stands for. -/
def shortEscape? : Char → Option Char
  | '"' => some '"'
  | '\\' => some '\\'
  | '/' => some '/'
  | 'b' => some '\x08'
  | 'f' => some '\x0c'
  | 'n' => some '\n'
  | 'r' => some '\r'
  | 't' => some '\t'
  | _ => none

/-- The rest of a string behind its opening quote, up to and past the closing one. Control
characters below the space must be escaped. -/
def stringParts : List Symbol → Option (List StringPart × List Symbol)
  | [] => none
  | some '"' :: rest => some ([], rest)
  | some '\\' :: some 'u' :: a :: b :: c :: d :: rest => do
    let a ← hexDigit? a
    let b ← hexDigit? b
    let c ← hexDigit? c
    let d ← hexDigit? d
    let (parts, rest) ← stringParts rest
    return (.unit (((a * 16 + b) * 16 + c) * 16 + d) :: parts, rest)
  | some '\\' :: some e :: rest => do
    let c ← shortEscape? e
    let (parts, rest) ← stringParts rest
    return (.char c :: parts, rest)
  | some '\\' :: _ => none
  | some c :: rest =>
    if c.toNat < 0x20 then none
    else (stringParts rest).map fun (parts, rest') => (.char c :: parts, rest')
  | none :: rest =>
    (stringParts rest).map fun (parts, rest') => (.malformed :: parts, rest')

mutual

/-- One value, and what follows it. -/
def value? : (fuel : Nat) → List Symbol → Option (RawJson × List Symbol)
  | 0, _ => none
  | fuel + 1, s =>
    match skipSpace s with
    | some 'n' :: some 'u' :: some 'l' :: some 'l' :: rest => some (.null, rest)
    | some 't' :: some 'r' :: some 'u' :: some 'e' :: rest => some (.bool true, rest)
    | some 'f' :: some 'a' :: some 'l' :: some 's' :: some 'e' :: rest =>
      some (.bool false, rest)
    | some '"' :: rest => (stringParts rest).map fun (parts, rest') => (.string parts, rest')
    | some '[' :: rest =>
      match skipSpace rest with
      | some ']' :: rest' => some (.array [], rest')
      | _ => (items? fuel rest).map fun (xs, rest') => (.array xs, rest')
    | some '{' :: rest =>
      match skipSpace rest with
      | some '}' :: rest' => some (.object [], rest')
      | _ => (members? fuel rest).map fun (ms, rest') => (.object ms, rest')
    | some '-' :: rest => unsigned? true rest
    | s' => unsigned? false s'

/-- The items of an array from the next one on, past the closing bracket. -/
def items? : (fuel : Nat) → List Symbol → Option (List RawJson × List Symbol)
  | 0, _ => none
  | fuel + 1, s =>
    match value? fuel s with
    | none => none
    | some (x, rest) =>
      match skipSpace rest with
      | some ',' :: rest' => (items? fuel rest').map fun (xs, r) => (x :: xs, r)
      | some ']' :: rest' => some ([x], rest')
      | _ => none

/-- The members of an object from the next one on, past the closing brace. -/
def members? : (fuel : Nat) → List Symbol →
    Option (List (List StringPart × RawJson) × List Symbol)
  | 0, _ => none
  | fuel + 1, s =>
    match skipSpace s with
    | some '"' :: rest =>
      match stringParts rest with
      | none => none
      | some (key, rest) =>
        match skipSpace rest with
        | some ':' :: rest =>
          match value? fuel rest with
          | none => none
          | some (v, rest) =>
            match skipSpace rest with
            | some ',' :: rest' =>
              (members? fuel rest').map fun (ms, r) => ((key, v) :: ms, r)
            | some '}' :: rest' => some ([(key, v)], rest')
            | _ => none
        | _ => none
    | _ => none

end

/-- Reads a text that holds one value and nothing else but blanks. -/
def read? (s : List Symbol) : Option RawJson :=
  match value? (2 * s.length + 2) s with
  | some (x, rest) => if (skipSpace rest).isEmpty then some x else none
  | none => none

end RawJson

end DeliveryDesk

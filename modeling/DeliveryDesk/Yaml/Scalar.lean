import DeliveryDesk.Decimal.Binary64
import DeliveryDesk.Json.Printing
import DeliveryDesk.Text.Digit

/-!
# Scalars of YAML documents

A text is written plainly where a reader takes it for the same text. A text that would be read
as something else, a number or a truth value, stands between apostrophes; so does one with
blanks at an end or characters that mean something where they stand. A text with line feeds
is a block of lines, and a text with characters that cannot be shown stands between double
quotes with escapes.
-/

namespace DeliveryDesk.Yaml

open Text (numberIn? digitIn? upperHex)

/-! ## What a reader takes a text for -/

/-- Whether a text is read as null. -/
def isNull (s : String) : Bool := ["", "~", "null", "Null", "NULL"].contains s

/-- Whether a text is read as a truth value. -/
def isBoolean (s : String) : Bool :=
  ["true", "True", "TRUE", "false", "False", "FALSE"].contains s

/-- A text without one sign in front. -/
def dropSign : List Char → List Char
  | '+' :: rest => rest
  | '-' :: rest => rest
  | cs => cs

/-- Whether a text is digits with zeros in front. Such a text is no number. -/
def hasLeadingZeros (cs : List Char) : Bool :=
  match dropSign cs with
  | '0' :: d :: rest => (d :: rest).all Char.isDigit
  | _ => false

/-- Digits of a base that denote a number of at most `limit`. -/
def isBounded (base limit : Nat) (ds : List Char) : Bool :=
  !ds.isEmpty && (numberIn? base ds).any (· ≤ limit)

/-- The largest number that is read as a positive integer. -/
def maxPositive : Nat := Nat.pow 2 128 - 1

/-- The magnitude of the smallest number that is read as a negative integer. -/
def maxNegative : Nat := Nat.pow 2 127

/-- Whether digits behind the mark of a base are an integer. -/
def isMarkedInteger (limit : Nat) : List Char → Bool
  | '0' :: 'x' :: ds => isBounded 16 limit ds
  | '0' :: 'o' :: ds => isBounded 8 limit ds
  | '0' :: 'b' :: ds => isBounded 2 limit ds
  | _ => false

/-- Whether a text is read as an integer. -/
def isInteger (cs : List Char) : Bool :=
  match cs with
  | '-' :: rest => isMarkedInteger maxNegative rest || decimal maxNegative rest
  | '+' :: rest => isMarkedInteger maxPositive rest || decimal maxPositive rest
  | _ => isMarkedInteger maxPositive cs || decimal maxPositive cs
where
  /-- Whether digits without zeros in front are an integer. -/
  decimal (limit : Nat) (ds : List Char) : Bool := !hasLeadingZeros cs && isBounded 10 limit ds

/-- Whether digits, with a point among them and an exponent behind them, denote a number that
is not too large. -/
def isFinite (cs : List Char) : Bool :=
  let mantissa := cs.takeWhile fun c => c != 'e' && c != 'E'
  let power := cs.drop mantissa.length
  let whole := mantissa.takeWhile (· != '.')
  let places := (mantissa.drop whole.length).drop 1
  let digits := whole ++ places
  let exponent? : Option Int :=
    match power with
    | [] => some 0
    | _ :: signed =>
      let ds := dropSign signed
      if ds.isEmpty then none
      else
        (numberIn? 10 ds).map fun n =>
          let n := min n (digits.length + 400)
          if signed.head? = some '-' then -(n : Int) else n
  match numberIn? 10 digits, exponent? with
  | some value, some exponent =>
    let shift : Int := exponent - places.length
    !digits.isEmpty &&
      (if 0 ≤ shift then Binary64.roundRatio (value * Nat.pow 10 shift.toNat) 1
        else Binary64.roundRatio value (Nat.pow 10 (-shift).toNat)).isSome
  | _, _ => false

/-- Whether a text is read as a floating-point number. -/
def isFloat (s : String) : Bool :=
  [".inf", ".Inf", ".INF", "+.inf", "+.Inf", "+.INF", "-.inf", "-.Inf", "-.INF", ".nan",
    ".NaN", ".NAN"].contains s || isFinite (dropSign s.toList)

/-- Whether a reader would take a plain text for something else. -/
def isAmbiguous (s : String) : Bool :=
  isNull s || isBoolean s || isInteger s.toList || isFloat s || hasLeadingZeros s.toList

/-! ## Which characters stand where -/

/-- Whether a character breaks a line. -/
def isBreak (c : Char) : Bool :=
  c == '\n' || c == '\r' || c == '\u0085' || c == '\u2028' || c == '\u2029'

/-- Whether a character can be shown. -/
def isPrintable (c : Char) : Bool :=
  let n := c.toNat
  n == 0x0A || (0x20 ≤ n && n ≤ 0x7E) ||
    (0xA0 ≤ n && n != 0xFEFF && n != 0xFFFE && n != 0xFFFF)

/-- Whether nothing, a blank or a line break comes next. -/
def isGapNext : List Char → Bool
  | [] => true
  | c :: _ => c == ' ' || c == '\t' || c == '\x00' || isBreak c

/-- Whether a character at the start of a text means something there. -/
def isStartIndicator (c : Char) (rest : List Char) : Bool :=
  ['#', ',', '[', ']', '\x7b', '\x7d', '&', '*', '!', '|', '>', '\x27', '"', '%', '@',
    '\x60'].contains c ||
    (['?', ':', '-'].contains c && isGapNext rest)

/-- Whether a character behind the first one means something where it stands. `gap` tells
whether a blank comes right before. -/
def hasInnerIndicator (gap : Bool) : List Char → Bool
  | [] => false
  | c :: rest =>
    (c == ':' && isGapNext rest) || (c == '#' && gap) ||
      hasInnerIndicator (isGapNext [c]) rest

/-- Whether some character of a text means something where it stands. -/
def hasIndicator (cs : List Char) : Bool :=
  match cs with
  | [] => false
  | c :: rest =>
    ['-', '-', '-'].isPrefixOf cs || ['.', '.', '.'].isPrefixOf cs ||
      isStartIndicator c rest || hasInnerIndicator (isGapNext [c]) rest

/-- Whether one kind of character is followed by another one somewhere. -/
def follows (first second : Char → Bool) : List Char → Bool
  | a :: b :: rest => (first a && second b) || follows first second (b :: rest)
  | _ => false

/-- Whether a character is a space. -/
def isSpace (c : Char) : Bool := c == ' '

/-- Whether a text can be written without quotes on one line. -/
def allowsPlain (cs : List Char) : Bool :=
  !(cs.head?.any isSpace) && !(cs.getLast?.any isSpace) && !cs.any isBreak &&
    !hasIndicator cs

/-- Whether every character of a text keeps its place when the text is laid out in lines. -/
def allowsLines (cs : List Char) : Bool :=
  cs.all isPrintable && !follows isSpace isBreak cs

/-! ## Written forms -/

/-- The short escapes between double quotes. -/
def shortEscapes : List (Char × Char) :=
  [('\x00', '0'), ('\x07', 'a'), ('\x08', 'b'), ('\t', 't'), ('\n', 'n'), ('\x0b', 'v'),
    ('\x0c', 'f'), ('\r', 'r'), ('\x1b', 'e'), ('"', '"'), ('\\', '\\'), ('\u0085', 'N'),
    ('\u00a0', '_'), ('\u2028', 'L'), ('\u2029', 'P')]

/-- A character between double quotes. -/
def escapeChar (c : Char) : List Char :=
  if isPrintable c && !isBreak c && c != '"' && c != '\\' then [c]
  else
    match shortEscapes.lookup c with
    | some e => ['\\', e]
    | none =>
      if c.toNat ≤ 0xFF then '\\' :: 'x' :: upperHex 2 c.toNat
      else if c.toNat ≤ 0xFFFF then '\\' :: 'u' :: upperHex 4 c.toNat
      else '\\' :: 'U' :: upperHex 8 c.toNat

/-- A text between double quotes. -/
def doubleQuoted (cs : List Char) : List Char := '"' :: (cs.flatMap escapeChar ++ ['"'])

/-- Blanks up to a column. -/
def pad (indent : Nat) : List Char := List.replicate indent ' '

/-- Characters with the indentation behind every line break that is followed by something
else. `fresh` tells whether a line break comes right before. -/
def indented (indent : Nat) (fresh : Bool) : List Char → List Char
  | [] => []
  | c :: rest =>
    if isBreak c then c :: indented indent true rest
    else (if fresh then pad indent else []) ++ c :: indented indent false rest

/-- A text between apostrophes. An apostrophe is doubled. -/
def singleQuoted (indent : Nat) (cs : List Char) : List Char :=
  let body := indented indent false (cs.flatMap fun c => if c = '\x27' then [c, c] else [c])
  let close := if cs.getLast?.any isBreak then pad indent else []
  '\x27' :: (body ++ close ++ ['\x27'])

/-- What the head of a block says about the line breaks at its end: nothing about a single
one, a minus if there is none, a plus if there are more or nothing else. -/
def chomping (cs : List Char) : List Char :=
  match cs.reverse with
  | [] => ['-']
  | [c] => if isBreak c then ['+'] else ['-']
  | c :: d :: _ => if isBreak c then if isBreak d then ['+'] else [] else ['-']

/-- A text as a block of lines. A text that starts with a blank or a line break has its
indentation announced. -/
def block (indent : Nat) (cs : List Char) : List Char :=
  let hint := if cs.head?.any fun c => isSpace c || isBreak c then ['2'] else []
  '|' :: (hint ++ chomping cs ++ '\n' :: indented indent true cs)

/-- The written form of a text; further lines are indented. -/
def textChars (indent : Nat) (s : String) : List Char :=
  let cs := s.toList
  if cs.contains '\n' then
    if allowsLines cs && !(cs.getLast?.any isSpace) then block indent cs else doubleQuoted cs
  else if !allowsLines cs || follows isBreak isSpace cs then doubleQuoted cs
  else if isAmbiguous s || !allowsPlain cs then singleQuoted indent cs
  else cs

/-- Floating-point numbers are laid out as in JSON, without a plus sign. -/
def floatLayout : DigitLayout := ⟨-5, 15, false⟩

/-- The text of a number. -/
def numberText : JsonNumber → String
  | .int i => integerText i
  | .float x => floatLayout.text x

end DeliveryDesk.Yaml

import DeliveryDesk.Text.Digit
import DeliveryDesk.Toml.Reader

/-!
# Strings of settings documents

A string stands between quotes of one of two kinds, single or tripled. Between double quotes
a backslash starts an escape; between apostrophes every character stands for itself. Only the
tripled forms may span lines, and a line break right behind their opening quotes is not part
of the text.

Reading: `basicText`, `literalText`, `longBasicText` and `longLiteralText` read on behind the
opening quotes, past the closing ones. Writing: `quoted` takes the first form that needs
no escapes, and escapes where there is none.
-/

namespace DeliveryDesk.Toml

open Reader

/-- Whether a character may stand for itself on a line: tabs may, other control characters
may not. -/
def isPlain (c : Char) : Bool :=
  c == '\t' || (0x20 ≤ c.toNat && c.toNat != 0x7F)

/-- Whether a character is a blank within a line. -/
def isInlineBlank (c : Char) : Bool := c == ' ' || c == '\t'

/-- The rest of a line without leading blanks. -/
def skipBlanks (cs : List Char) : List Char := cs.dropWhile isInlineBlank

/-! ## Escapes -/

/-- The character that a short escape stands for. -/
def escaped? : Char → Option Char
  | 'b' => some '\x08'
  | 't' => some '\t'
  | 'n' => some '\n'
  | 'f' => some '\x0c'
  | 'r' => some '\r'
  | '"' => some '"'
  | '\\' => some '\\'
  | _ => none

/-- What can stand behind a backslash. -/
def escapeMarks : List String := ["b", "f", "n", "r", "t", "u", "U", "\\", "\""].map setOff

/-- What is said of a character that does not exist. -/
def outOfRange : String := "value is out of range"

/-- The name of an escape by a code point. -/
def hexLabel (count : Nat) : String :=
  "unicode " ++ Nat.repr count ++ "-digit hex code"

/-- The character whose code point is written in a given number of hexadecimal digits. -/
def hexChar (count : Nat) : Reader Char :=
  surely <| named (hexLabel count) <| checked (exactly count Text.isHexDigit) fun ds =>
    match Text.numberIn? 16 ds with
    | some n =>
      if n < 0xD800 ∨ (0xE000 ≤ n ∧ n < 0x110000) then .ok (Char.ofNat n) else .error outOfRange
    | none => .error outOfRange

/-- The stop at a character that does not make an escape. It is told behind the character, if
that is one byte long. -/
def badEscape (c : Char) (rest : List Char) : Stop :=
  { rest := if c.toNat < 0x80 then rest else c :: rest
    notes := { label := some "escape sequence", expected := escapeMarks }
    final := true }

/-- The character that an escape stands for, behind its backslash. -/
def escape : Reader Char
  | [] => .error { rest := [] }
  | 'u' :: rest => hexChar 4 rest
  | 'U' :: rest => hexChar 8 rest
  | c :: rest =>
    match escaped? c with
    | some x => .ok (x, rest)
    | none => .error (badEscape c rest)

/-! ## Reading -/

/-- The stop at what cannot continue a string. -/
def badString (label : String) (rest : List Char) : Stop :=
  { rest, notes := { label := some label }, final := true }

/-- Puts a character in front of a text that has been read. -/
def andRest (c : Char) (r : Except Stop (List Char × List Char)) :
    Except Stop (List Char × List Char) :=
  r.map fun (text, rest) => (c :: text, rest)

/-- The name of a text between double quotes. -/
def basicLabel : String := "basic string"

/-- A text between double quotes, behind the opening one. -/
def basicText : Reader (List Char)
  | [] => .error (badString basicLabel [])
  | '"' :: rest => .ok ([], rest)
  | ['\\'] => .error (badString basicLabel ['\\'])
  | '\\' :: 'u' :: a :: b :: c :: d :: rest =>
    match hexChar 4 (a :: b :: c :: d :: rest) with
    | .ok (x, _) => andRest x (basicText rest)
    | .error s => .error s
  | '\\' :: 'U' :: a :: b :: c :: d :: e :: f :: g :: h :: rest =>
    match hexChar 8 (a :: b :: c :: d :: e :: f :: g :: h :: rest) with
    | .ok (x, _) => andRest x (basicText rest)
    | .error s => .error s
  | '\\' :: e :: rest =>
    match escape (e :: rest) with
    | .ok (x, _) => andRest x (basicText rest)
    | .error s => .error s
  | c :: rest =>
    if isPlain c then andRest c (basicText rest) else .error (badString basicLabel (c :: rest))

/-- The name of a text between apostrophes. -/
def literalLabel : String := "literal string"

/-- A text between apostrophes, behind the opening one. -/
def literalText : Reader (List Char)
  | [] => .error (badString literalLabel [])
  | '\x27' :: rest => .ok ([], rest)
  | c :: rest =>
    if isPlain c then andRest c (literalText rest)
    else .error (badString literalLabel (c :: rest))

/-- Whether a line ends here. -/
def atLineBreak : List Char → Bool
  | '\n' :: _ => true
  | '\r' :: '\n' :: _ => true
  | _ => false

/-- Whether a text with quotes of a kind can go on here with something else than a quote. -/
def goesOn (q : Char) (cs : List Char) : Bool :=
  atLineBreak cs ||
    match cs with
    | c :: rest => c != q && isPlain c && (q != '"' || c != '\\' || !rest.isEmpty)
    | [] => false

/-- Whether one or two quotes stand here, and the text goes on behind them. -/
def quotesGoOn (q : Char) : List Char → Bool
  | a :: b :: rest => a == q && (goesOn q (b :: rest) || (b == q && goesOn q rest))
  | _ => false

/-- The name of a text between tripled double quotes. -/
def longBasicLabel : String := "multiline basic string"

/-- A text between tripled double quotes. A backslash at the end of a line swallows all blanks
and line breaks up to the next character; `swallow` is set while this happens. Up to two
quotes may stand right before the closing ones. -/
def longBasicText (swallow : Bool) : Reader (List Char)
  | [] => .error (badString longBasicLabel [])
  | '\r' :: '\n' :: rest =>
    if swallow then longBasicText true rest else andRest '\n' (longBasicText false rest)
  | '\n' :: rest =>
    if swallow then longBasicText true rest else andRest '\n' (longBasicText false rest)
  | '"' :: '"' :: '"' :: '"' :: '"' :: rest => .ok (['"', '"'], rest)
  | '"' :: '"' :: '"' :: '"' :: rest => .ok (['"'], rest)
  | '"' :: '"' :: '"' :: rest => .ok ([], rest)
  | '\\' :: 'u' :: a :: b :: c :: d :: rest =>
    match hexChar 4 (a :: b :: c :: d :: rest) with
    | .ok (x, _) => andRest x (longBasicText false rest)
    | .error s => .error s
  | '\\' :: 'U' :: a :: b :: c :: d :: e :: f :: g :: h :: rest =>
    match hexChar 8 (a :: b :: c :: d :: e :: f :: g :: h :: rest) with
    | .ok (x, _) => andRest x (longBasicText false rest)
    | .error s => .error s
  | '\\' :: e :: rest =>
    if atLineBreak (skipBlanks (e :: rest)) then longBasicText true (e :: rest)
    else
      match escape (e :: rest) with
      | .ok (x, _) => andRest x (longBasicText false rest)
      | .error s => .error s
  | c :: rest =>
    if swallow ∧ isInlineBlank c then longBasicText true rest
    else if c = '"' ∧ !quotesGoOn '"' (c :: rest) then
      .error (badString longBasicLabel (c :: rest))
    else if isPlain c ∧ (c ≠ '\\' ∨ !rest.isEmpty) then andRest c (longBasicText false rest)
    else .error (badString longBasicLabel (c :: rest))

/-- The name of a text between tripled apostrophes. -/
def longLiteralLabel : String := "multiline literal string"

/-- A text between tripled apostrophes. -/
def longLiteralText : Reader (List Char)
  | [] => .error (badString longLiteralLabel [])
  | '\r' :: '\n' :: rest => andRest '\n' (longLiteralText rest)
  | '\n' :: rest => andRest '\n' (longLiteralText rest)
  | '\x27' :: '\x27' :: '\x27' :: '\x27' :: '\x27' :: rest => .ok (['\x27', '\x27'], rest)
  | '\x27' :: '\x27' :: '\x27' :: '\x27' :: rest => .ok (['\x27'], rest)
  | '\x27' :: '\x27' :: '\x27' :: rest => .ok ([], rest)
  | c :: rest =>
    if c = '\x27' ∧ !quotesGoOn '\x27' (c :: rest) then
      .error (badString longLiteralLabel (c :: rest))
    else if isPlain c then andRest c (longLiteralText rest)
    else .error (badString longLiteralLabel (c :: rest))

/-- The input behind a line break, if it starts with one. -/
def dropLineBreak : List Char → List Char
  | '\n' :: rest => rest
  | '\r' :: '\n' :: rest => rest
  | rest => rest

/-- A string of any form. -/
def text : Reader String
  | '"' :: '"' :: '"' :: rest => finish (longBasicText false (dropLineBreak rest))
  | '"' :: rest => finish (basicText rest)
  | '\x27' :: '\x27' :: '\x27' :: rest => finish (longLiteralText (dropLineBreak rest))
  | '\x27' :: rest => finish (literalText rest)
  | cs => .error { rest := cs }
where
  /-- The characters that were read, as a text. -/
  finish (r : Except Stop (List Char × List Char)) : Except Stop (String × List Char) :=
    r.map fun (text, rest) => (String.ofList text, rest)

/-! ## Writing -/

/-- Whether a text needs an escape in every form: it holds a control character other than tab
and line feed. -/
def needsEscape (cs : List Char) : Bool :=
  cs.any fun c => !isPlain c && c != '\n'

/-- Whether some character occurs three times in a row. -/
def hasTriple (q : Char) : List Char → Bool
  | a :: b :: c :: rest => (a == q && b == q && c == q) || hasTriple q (b :: c :: rest)
  | _ => false

/-- A character between double quotes. -/
def escapeChar (c : Char) : List Char :=
  if c = '"' then ['\\', '"']
  else if c = '\\' then ['\\', '\\']
  else if c = '\x08' then ['\\', 'b']
  else if c = '\t' then ['\\', 't']
  else if c = '\n' then ['\\', 'n']
  else if c = '\x0c' then ['\\', 'f']
  else if c = '\r' then ['\\', 'r']
  else if isPlain c then [c]
  else '\\' :: 'u' :: Text.upperHex 4 c.toNat

/-- The characters between tripled double quotes. Line feeds stand for themselves, and so do
double quotes, up to two in a row; `run` counts the ones right before. -/
def longEscape (run : Nat) : List Char → List Char
  | [] => []
  | '"' :: rest =>
    if run < 2 then '"' :: longEscape (run + 1) rest else '\\' :: '"' :: longEscape 0 rest
  | '\n' :: rest => '\n' :: longEscape 0 rest
  | c :: rest => escapeChar c ++ longEscape 0 rest

/-- A text between single quotes of a kind. -/
def between (q : Char) (body : List Char) : List Char := q :: (body ++ [q])

/-- A text between tripled quotes of a kind. A text with line breaks starts on a line of its
own. -/
def betweenLong (q : Char) (breaks : Bool) (body : List Char) : List Char :=
  [q, q, q] ++ (if breaks then ['\n'] else []) ++ body ++ [q, q, q]

/-- Whether a text is a line without escapes between double quotes. -/
def fitsBasic (cs : List Char) : Bool :=
  !needsEscape cs && !cs.contains '\n' && !cs.contains '\\' && !cs.contains '"'

/-- Whether a text is a line without escapes between apostrophes. -/
def fitsLiteral (cs : List Char) : Bool :=
  !needsEscape cs && !cs.contains '\n' && !cs.contains '\x27'

/-- The written form of a text: plainly between double quotes, plainly between apostrophes,
the same with tripled quotes, or escaped, whichever is possible first. -/
def quotedChars (cs : List Char) : List Char :=
  let breaks := cs.contains '\n'
  let escapes := needsEscape cs
  if fitsBasic cs then between '"' (cs.flatMap escapeChar)
  else if fitsLiteral cs then between '\x27' cs
  else if !escapes && !cs.contains '\\' && !hasTriple '"' cs then
    betweenLong '"' breaks (longEscape 0 cs)
  else if !escapes && !hasTriple '\x27' cs then betweenLong '\x27' breaks cs
  else if breaks then betweenLong '"' breaks (longEscape 0 cs)
  else between '"' (cs.flatMap escapeChar)

/-- The written form of a text. -/
def quoted (s : String) : String := String.ofList (quotedChars s.toList)

/-- Whether a character may occur in a key without quotes. -/
def isBareChar (c : Char) : Bool := c.isAlphanum || c == '-' || c == '_'

/-- The written form of a key: without quotes if possible, else on one line. -/
def keyText (key : String) : String :=
  let cs := key.toList
  if cs ≠ [] ∧ cs.all isBareChar then key
  else if !fitsBasic cs && fitsLiteral cs then String.ofList (between '\x27' cs)
  else String.ofList (between '"' (cs.flatMap escapeChar))

end DeliveryDesk.Toml

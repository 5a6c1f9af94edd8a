import DeliveryDesk.Json.Basic
import DeliveryDesk.Decimal.Shortest

/-!
# Writing JSON

A value has two written forms: `compact`, without any blanks, and `pretty`, with one item or
member per line and two blanks of indentation per level. Members are written in the order
in which the object holds them.
-/

namespace DeliveryDesk.Json

/-- Floating-point numbers are positional while their decimal exponent lies between -5 and
15, and have a signed exponent otherwise. -/
def floatLayout : DigitLayout := ⟨-5, 15, true⟩

/-- The text of a number. -/
def numberText : JsonNumber → String
  | .int i => integerText i
  | .float x => floatLayout.text x

/-- The hexadecimal digit of a number below sixteen, in lower case. -/
def hexDigit (n : Nat) : Char :=
  if n < 10 then Char.ofNat (48 + n) else Char.ofNat (87 + n)

/-- A character inside a string. Quotes, backslashes and control characters are escaped. -/
def escapeChar (c : Char) : List Char :=
  if c = '"' then ['\\', '"']
  else if c = '\\' then ['\\', '\\']
  else if c = '\n' then ['\\', 'n']
  else if c = '\r' then ['\\', 'r']
  else if c = '\t' then ['\\', 't']
  else if c = '\x08' then ['\\', 'b']
  else if c = '\x0c' then ['\\', 'f']
  else if c.toNat < 0x20 then
    ['\\', 'u', '0', '0', hexDigit (c.toNat / 16), hexDigit (c.toNat % 16)]
  else [c]

/-- A string between quotes. -/
def quoted (s : String) : List Char :=
  '"' :: (s.toList.flatMap escapeChar ++ ['"'])

mutual

/-- The characters of the form without blanks. -/
def compactChars : Json → List Char
  | .null => "null".toList
  | .bool true => "true".toList
  | .bool false => "false".toList
  | .number n => (numberText n).toList
  | .string s => quoted s
  | .array items => '[' :: compactItems items
  | .object members => '{' :: compactMembers members

/-- The items of an array and the closing bracket. -/
def compactItems : List Json → List Char
  | [] => [']']
  | [x] => compactChars x ++ [']']
  | x :: xs => compactChars x ++ ',' :: compactItems xs

/-- The members of an object and the closing brace. -/
def compactMembers : List (String × Json) → List Char
  | [] => ['}']
  | [(k, x)] => quoted k ++ ':' :: (compactChars x ++ ['}'])
  | (k, x) :: rest => quoted k ++ ':' :: (compactChars x ++ ',' :: compactMembers rest)

end

/-- A line break and the indentation of a level. -/
def newline (level : Nat) : List Char := '\n' :: List.replicate (2 * level) ' '

mutual

/-- The characters of the indented form of a value at a level. -/
def prettyChars (level : Nat) : Json → List Char
  | .array [] => ['[', ']']
  | .object [] => ['{', '}']
  | .array items => '[' :: prettyItems (level + 1) items ++ newline level ++ [']']
  | .object members => '{' :: prettyMembers (level + 1) members ++ newline level ++ ['}']
  | .null => "null".toList
  | .bool true => "true".toList
  | .bool false => "false".toList
  | .number n => (numberText n).toList
  | .string s => quoted s

/-- The items of an array, each on its own line. -/
def prettyItems (level : Nat) : List Json → List Char
  | [] => []
  | [x] => newline level ++ prettyChars level x
  | x :: xs => newline level ++ prettyChars level x ++ ',' :: prettyItems level xs

/-- The members of an object, each on its own line. -/
def prettyMembers (level : Nat) : List (String × Json) → List Char
  | [] => []
  | [(k, x)] => newline level ++ quoted k ++ ':' :: ' ' :: prettyChars level x
  | (k, x) :: rest =>
    newline level ++ quoted k ++ ':' :: ' ' :: prettyChars level x ++
      ',' :: prettyMembers level rest

end

/-- The form without blanks. -/
def compact (j : Json) : String := String.ofList j.compactChars

/-- The indented form. -/
def pretty (j : Json) : String := String.ofList (j.prettyChars 0)

end DeliveryDesk.Json

import DeliveryDesk.Yaml.Scalar

/-!
# Writing YAML

A document is laid out in lines: the items of a sequence behind dashes, the entries of a
mapping behind their keys, what belongs to an item or entry indented by two columns. A
sequence that is the value of a key is not indented any further. Empty sequences and mappings
stay on the line they belong to. A key that is longer than `maxSimpleKey` bytes or spans lines
stands behind a question mark, and its value on a line of its own.
-/

namespace DeliveryDesk.Yaml

/-- The greatest length in bytes of a key that shares a line with its value. -/
def maxSimpleKey : Nat := 128

/-- Whether a key shares a line with its value. -/
def isSimpleKey (key : String) : Bool :=
  !key.toList.any isBreak && key.utf8ByteSize ≤ maxSimpleKey

/-- Where a value stands. -/
inductive Place where
  /-- The whole document. -/
  | whole
  /-- Behind a mark on a line that has only marks so far. -/
  | afterMark
  /-- Behind a key on the same line. -/
  | afterKey
deriving DecidableEq, Repr

/-- Starts a new line, unless the text has just ended one. -/
def endLine (written : List Char) : List Char :=
  if written.getLast?.any isBreak then written else written ++ ['\n']

/-- A scalar behind whatever stands before it. -/
def placed (place : Place) (text : List Char) : List Char :=
  match place with
  | .whole => text
  | _ => ' ' :: text

/-- The first line of a collection that is laid out from column `indent`. Behind a mark it goes
on with the line, otherwise it starts one. -/
def openLines (place : Place) (indent : Nat) (lines : List Char) : List Char :=
  match place with
  | .whole => lines
  | .afterMark => ' ' :: lines.drop indent
  | .afterKey => '\n' :: lines

/-- The column at which the lines of a sequence start. -/
def sequenceColumn (place : Place) (column : Nat) : Nat :=
  match place with
  | .afterMark => column + 2
  | _ => column

/-- The column at which the lines of a mapping start. -/
def mappingColumn (place : Place) (column : Nat) : Nat :=
  match place with
  | .whole => column
  | _ => column + 2

mutual

/-- A value at a place; the collection it belongs to is laid out from `column`. -/
def valueChars (place : Place) (column : Nat) : Json → List Char
  | .null => placed place "null".toList
  | .bool true => placed place "true".toList
  | .bool false => placed place "false".toList
  | .number n => placed place (numberText n).toList
  | .string s => placed place (textChars (column + 2) s)
  | .array [] => placed place "[]".toList
  | .object [] => placed place "\x7b\x7d".toList
  | .array items =>
    let column := sequenceColumn place column
    openLines place column (itemLines column items)
  | .object members =>
    let column := mappingColumn place column
    openLines place column (entryLines column members)

/-- The items of a sequence, each behind a dash. -/
def itemLines (column : Nat) : List Json → List Char
  | [] => []
  | x :: xs =>
    pad column ++ '-' :: endLine (valueChars .afterMark column x) ++ itemLines column xs

/-- The entries of a mapping, each behind its key. -/
def entryLines (column : Nat) : List (String × Json) → List Char
  | [] => []
  | (key, x) :: rest =>
    let keyText := textChars (column + 2) key
    let entry :=
      if isSimpleKey key then
        keyText ++ ':' :: endLine (valueChars .afterKey column x)
      else
        '?' :: ' ' :: endLine keyText ++ pad column ++
          ':' :: endLine (valueChars .afterMark column x)
    pad column ++ entry ++ entryLines column rest

end

/-- The document of a value. -/
def document (j : Json) : String := String.ofList (endLine (valueChars .whole 0 j))

end DeliveryDesk.Yaml

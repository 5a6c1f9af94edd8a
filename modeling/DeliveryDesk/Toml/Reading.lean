import DeliveryDesk.Toml.Value

/-!
# Reading settings documents

A document is a list of lines: a header in brackets opens a table, a header in doubled
brackets opens one more table of an array, and every other line that is not blank gives a key
of the open table a value. A byte order mark in front of the document is skipped.

Every line is read into a `Draft`. A draft also keeps where the values of the outermost table
stand, so that a reader of settings can tell where a value of the wrong kind is. A table
stands at its header, and if it has none where its name first occurs in a key.
-/

namespace DeliveryDesk.Toml

open Reader

/-- A settings document: the entries of its outermost table, and where they stand. -/
structure Document where
  entries : Entries := []
  places : List (String × Extent) := []
deriving Repr

/-- Where the value of a key stands. -/
def Document.place (d : Document) (key : String) : Extent :=
  (d.places.lookup key).getD { start := [], stop := [] }

/-- A document that is being read, and the header of the open table. -/
structure Draft extends Document where
  header : List String := []
deriving Repr

/-! ## Places -/

/-- The places of keys. -/
abbrev Places := List (String × Extent)

/-- Notes where a key stands. -/
def Places.note (key : String) (place : Extent) (places : Places) : Places :=
  (key, place) :: places

/-- Notes where a key stands unless this is known. -/
def Places.noteFirst (key : String) (place : Extent) (places : Places) : Places :=
  if (places.lookup key).isSome then places else (key, place) :: places

/-- Extends the place of a key up to the end of another place. -/
def Places.extend (key : String) (place : Extent) (places : Places) : Places :=
  match places.lookup key with
  | some known => (key, { known with stop := place.stop }) :: places
  | none => places

/-! ## What a line does -/

/-- Gives a key of the open table a value that stands at a place. -/
def Draft.assign (d : Draft) (key : Key) (value : Toml) (place : Extent) :
    Except KeyClash Draft := do
  let entries ← insertUnder d.header key.path key.last value d.entries
  let places :=
    match d.header, key.path with
    | [], [] => Places.note key.last place d.places
    | [], first :: _ => Places.noteFirst first key.place d.places
    | [opened], _ => Places.extend opened place d.places
    | _, _ => d.places
  return { d with entries, places }

/-- Opens a table by a header that stands at a place. -/
def Draft.openTable (d : Draft) (key : Key) (place : Extent) : Except KeyClash Draft := do
  let entries ← Toml.openTable key.path key.last d.entries
  let places :=
    match key.path with
    | [] => Places.note key.last place d.places
    | first :: _ => Places.noteFirst first key.place d.places
  return { header := key.path ++ [key.last], entries, places }

/-- Opens one more table of an array by a header that stands at a place. -/
def Draft.openItem (d : Draft) (key : Key) (place : Extent) : Except KeyClash Draft := do
  let entries ← Toml.openItem key.path key.last d.entries
  let places :=
    match key.path with
    | [] => Places.extend key.last place (Places.noteFirst key.last place d.places)
    | first :: _ => Places.noteFirst first key.place d.places
  return { header := key.path ++ [key.last], entries, places }

/-! ## Lines -/

/-- A comment, if there is one. -/
def comment : Reader Unit := fun
  | '#' :: rest => .ok ((), rest.dropWhile isPlain)
  | cs => .ok ((), cs)

/-- The end of a line, behind blanks and maybe a comment. -/
def lineEnd : Reader Unit := do
  blanks
  comment
  if !(← remaining).isEmpty then lineBreak

/-- The end of a line that is not blank. -/
def fullLineEnd : Reader Unit := expecting ["newline", setOff "#"] lineEnd

/-- A header between brackets, and its place. -/
def header (opening close : String) : Reader (Key × Extent) := do
  let header ← located do
    chars opening.toList
    let k ← key
    expecting [setOff ".", setOff close] (chars close.toList)
    return k
  fullLineEnd
  return header

/-- A line that opens a table. -/
def headerLine (d : Draft) : Reader Draft := surely <| named "table header" do
  match ← remaining with
  | ['['] => stop
  | '[' :: '[' :: _ =>
    checked (header "[[" "]]") fun (k, place) => (d.openItem k place).mapError KeyClash.message
  | _ => checked (header "[" "]") fun (k, place) => (d.openTable k place).mapError KeyClash.message

/-- A line that gives a key a value. -/
def entryLine (d : Draft) : Reader Draft := surely <|
  checked (do
      let k ← key
      equalsSign
      blanks
      let (v, place) ← located value
      fullLineEnd
      return (k, v, place))
    fun (k, v, place) => (d.assign k v place).mapError KeyClash.message

/-- A line of any kind. There is none at the end of the document. -/
def anyLine (d : Draft) : Reader Draft := do
  match ← remaining with
  | [] => stop
  | '#' :: _ => surely (do lineEnd; return d)
  | '[' :: _ => headerLine d
  | '\n' :: _ => lineBreak; return d
  | '\r' :: _ => lineBreak; return d
  | _ => entryLine d

/-- A line, and the blanks in front of the next one. -/
def line (d : Draft) : Reader Draft := do
  let d ← anyLine d
  blanks
  return d

/-- All lines. `most` is a number of lines that is large enough. -/
def lines : (most : Nat) → Draft → Reader Draft
  | 0, d => return d
  | most + 1, d => do
    match ← maybe (line d) with
    | none => return d
    | some d => lines most d

/-- The mark that may stand in front of a document. -/
def byteOrderMark : Char := '\uFEFF'

/-- A document. -/
def document : Reader Draft := do
  let _ ← maybe (char byteOrderMark)
  blanks
  let d ← lines (← remaining).length {}
  if (← remaining).isEmpty then return d else stop

/-- Reads a document. -/
def parse (s : String) : Except Mistake Document :=
  match document s.toList with
  | .ok (d, _) => .ok d.toDocument
  | .error stop => .error stop.mistake

end DeliveryDesk.Toml

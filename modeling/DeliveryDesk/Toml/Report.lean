import DeliveryDesk.Decimal.Shortest
import DeliveryDesk.Text.Blank
import DeliveryDesk.Toml.Basic
import DeliveryDesk.Toml.Quoted

/-!
# Reports about settings documents

What is wrong with a document is reported together with the line where it is wrong and with
carets below the characters that are meant. Lines and columns are counted from one. Columns are
characters, but bytes up to a character beyond ASCII, and carets are always as many as the
meant characters have bytes, within the line.
-/

namespace DeliveryDesk.Toml

open Text

/-- A stretch of a document, as what is left of the document at its start and behind its end. -/
structure Extent where
  start : List Char
  stop : List Char
deriving DecidableEq, Repr

/-- What is wrong with a document, and where. -/
structure Mistake where
  extent : Extent
  message : String
deriving DecidableEq, Repr

/-! ## Messages -/

/-- The text of notes. -/
def Notes.message (n : Notes) : String :=
  let label := n.label.toList.map ("invalid " ++ ·)
  let expected := if n.expected.isEmpty then [] else ["expected " ++ join ", " n.expected]
  join "\n" (label ++ expected ++ n.cause.toList)

/-- The text of a clash. Keys of headers are shown as they are written. -/
def KeyClash.message : KeyClash → String
  | taken key none => "duplicate key " ++ setOff key
  | taken key (some parent) => within key parent
  | takenByHeader key parent => within (keyText key) parent
  | notATable path kind =>
    "dotted key " ++ setOff (join "." path) ++ " attempted to extend non-table type " ++
      "(" ++ kind ++ ")"
where
  /-- The text about a key that is taken in a table. -/
  within (key : String) (parent : List String) : String :=
    let place := if parent.isEmpty then "document root" else "table " ++ setOff (join "." parent)
    "duplicate key " ++ setOff key ++ " in " ++ place

/-- The mistake where reading stopped. It is about the character that stands there. -/
def Stop.mistake (s : Stop) : Mistake :=
  { extent := { start := s.rest, stop := s.rest.drop 1 }, message := s.notes.message }

/-! ## Places -/

/-- The number of bytes of a text. -/
def bytes (cs : List Char) : Nat := cs.foldl (fun n c => n + c.utf8Size) 0

/-- A line and a column, both counted from zero. -/
structure Position where
  line : Nat
  column : Nat
deriving DecidableEq, Repr

/-- Where a document goes on with given characters. The end of the document is one column
behind its last character, even if this is a line break. -/
def position (document rest : List Char) : Position :=
  let before := document.take (document.length - rest.length)
  match rest with
  | [] =>
    let before := before.dropLast
    { line := breaks before, column := (onLine before).length + 1 }
  | c :: _ =>
    let line := onLine before
    { line := breaks before, column := if c.toNat < 0x80 then line.length else bytes line }
where
  /-- The number of line breaks. -/
  breaks (cs : List Char) : Nat := cs.foldl (fun n c => if c = '\n' then n + 1 else n) 0
  /-- The characters behind the last line break, in reverse. -/
  onLine (cs : List Char) : List Char := cs.reverse.takeWhile (· != '\n')

/-! ## Reports -/

/-- Blanks. -/
def spaces (n : Nat) : String := String.ofList (List.replicate n ' ')

/-- The report of a mistake in a document. -/
def Mistake.report (document : List Char) (m : Mistake) : String :=
  let place := position document m.extent.start
  let number := decimalText (place.line + 1)
  let content := (splitAt '\n' document).getD place.line []
  let size := min (bytes m.extent.start - bytes m.extent.stop) (bytes content - place.column)
  let margin := spaces (number.length + 1) ++ "|"
  join "\n" [
    "TOML parse error at line " ++ number ++ ", column " ++ decimalText (place.column + 1),
    margin,
    number ++ " | " ++ String.ofList content,
    margin ++ spaces (place.column + 1) ++ String.ofList (List.replicate (max 1 size) '^'),
    m.message,
    ""]

end DeliveryDesk.Toml

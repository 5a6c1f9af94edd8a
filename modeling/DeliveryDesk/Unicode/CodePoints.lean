import DeliveryDesk.Text.Blank
import DeliveryDesk.Text.Digit

/-!
# Sets of code points

Many rules about text depend on a property that Unicode gives to some characters. A property is
kept here as the set of its code points, a list of closed ranges in increasing order, and
written down as a table: code points in hexadecimal digits with blanks between them, the two
ends of a range with a hyphen between them.
-/

namespace DeliveryDesk.Unicode

open Text

/-- The entries of a table: what stands between blanks. -/
def entries (table : String) : List (List Char) :=
  (splitAt ' ' (table.toList.map fun c => if isBlank c then ' ' else c)).filter (· != [])

/-- The number in hexadecimal digits; zero if there is none. -/
def hexNumber (cs : List Char) : Nat := (numberIn? 16 cs).getD 0

/-- The ends of a range. A single code point is both. -/
def rangeOf (entry : List Char) : Nat × Nat :=
  match splitAt '-' entry with
  | [low, high] => (hexNumber low, hexNumber high)
  | _ => (hexNumber entry, hexNumber entry)

/-- A set of code points, as closed ranges in increasing order. -/
structure CodePoints where
  ranges : List (Nat × Nat)
deriving DecidableEq, Repr

namespace CodePoints

/-- The set that a table lists. -/
def ofTable (table : String) : CodePoints := ⟨(entries table).map rangeOf⟩

/-- Whether a number lies in one of some closed ranges in increasing order. -/
def inRanges (n : Nat) : List (Nat × Nat) → Bool
  | [] => false
  | (low, high) :: rest => if n < low then false else n ≤ high || inRanges n rest

/-- Whether a set holds a code point. -/
def contains (s : CodePoints) (n : Nat) : Bool := inRanges n s.ranges

/-- Whether a set holds a character. -/
def has (s : CodePoints) (c : Char) : Bool := s.contains c.toNat

end CodePoints

end DeliveryDesk.Unicode

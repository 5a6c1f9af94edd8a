import DeliveryDesk.Unicode.CodePoints

/-!
# Maps on code points

A map gives some code points an image, which is a list of code points. Like a set it is written
down as a table. An entry names code points, then the image of the first one behind an angle
bracket. With a hyphen between two code points all from the first to the last are meant, with a
slash every second one, and their images go on in the same way. Behind an equals sign the image
is the same for all.
-/

namespace DeliveryDesk.Unicode

open Text

/-- Some code points at one distance from each other, and their images. -/
structure Run where
  low : Nat
  high : Nat
  step : Nat
  /-- The image of the lowest one. -/
  image : List Nat
  /-- Whether the others have the same image. -/
  same : Bool
deriving DecidableEq, Repr

namespace Run

/-- The run whose code points and image are given. -/
def of (points image : List Char) (same : Bool) : Run :=
  let image := (splitAt '+' image).map hexNumber
  match splitAt '/' points with
  | [low, high] => { low := hexNumber low, high := hexNumber high, step := 2, image, same }
  | _ =>
    let (low, high) := rangeOf points
    { low, high, step := 1, image, same }

/-- The run of an entry. -/
def ofEntry (entry : List Char) : Run :=
  match splitAt '>' entry, splitAt '=' entry with
  | [points, image], _ => of points image false
  | _, [points, image] => of points image true
  | _, _ => of entry [] true

/-- The image of a code point of the run. -/
def get? (r : Run) (n : Nat) : Option (List Nat) :=
  if r.low ≤ n ∧ n ≤ r.high ∧ (n - r.low) % r.step = 0 then
    some (if r.same then r.image else r.image.map (· + (n - r.low)))
  else none

end Run

/-- A map on code points: its runs, in the order of their lowest code points. -/
structure Mapping where
  runs : List Run
deriving DecidableEq, Repr

namespace Mapping

/-- The map that a table describes. -/
def ofTable (table : String) : Mapping := ⟨(entries table).map Run.ofEntry⟩

/-- The image of a code point under the first run that has it. -/
def lookup (n : Nat) : List Run → Option (List Nat)
  | [] => none
  | r :: rest => if n < r.low then none else (r.get? n).orElse fun _ => lookup n rest

/-- The image of a code point. -/
def get? (m : Mapping) (n : Nat) : Option (List Nat) := lookup n m.runs

/-- The code point that stands alone and whose image is the given one. -/
def origin? (m : Mapping) (image : List Nat) : Option Nat :=
  (m.runs.find? fun r => r.low == r.high && r.image == image).map (·.low)

end Mapping

end DeliveryDesk.Unicode

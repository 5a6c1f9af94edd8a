import DeliveryDesk.Unicode.DecompositionTable

/-!
# Canonical forms

Some characters can be written in one piece or as a letter with marks, and marks that do not
meet can stand in either order. `decompose` writes every character in pieces, `reorder` puts the
marks in order, `compose` puts pieces together again, and `normalize`, which does all of it,
gives the same for all spellings of a text.
-/

namespace DeliveryDesk.Unicode

/-! ## Syllables

The syllables of Hangul are numbered by their first, middle and last parts. -/

/-- The first syllable. -/
def firstSyllable : Nat := 0xAC00

/-- One past the last syllable. -/
def endSyllables : Nat := 0xD7A4

/-- The code points in front of the first middle part, of the first last part, and the first
first part. -/
def firstLead : Nat := 0x1100
def firstVowel : Nat := 0x1161
def beforeTrail : Nat := 0x11A7

/-- The parts of a syllable. -/
def syllableParts (n : Nat) : List Nat :=
  let index := n - firstSyllable
  [firstLead + index / 588, firstVowel + index % 588 / 28] ++
    if index % 28 = 0 then [] else [beforeTrail + index % 28]

/-- The syllable that begins with two code points. -/
def syllable? (a b : Nat) : Option Nat :=
  if firstLead ≤ a ∧ a < firstLead + 19 ∧ firstVowel ≤ b ∧ b < firstVowel + 21 then
    some (firstSyllable + ((a - firstLead) * 21 + (b - firstVowel)) * 28)
  else if firstSyllable ≤ a ∧ a < endSyllables ∧ (a - firstSyllable) % 28 = 0 ∧
      beforeTrail < b ∧ b < beforeTrail + 28 then
    some (a + (b - beforeTrail))
  else none

/-! ## Pieces -/

/-- The first code point that is made of others. -/
def firstDecomposable : Nat := 0xC0

/-- The pieces of a code point, of which the first one may have pieces in turn, down to a
depth. -/
def piecesTo : (depth : Nat) → Nat → List Nat
  | 0, n => [n]
  | depth + 1, n =>
    match pairs.get? n with
    | some (a :: rest) => piecesTo depth a ++ rest
    | _ => (replaced.get? n).getD [n]

/-- The pieces of a code point. No character has more than four. -/
def decomposePoint (n : Nat) : List Nat :=
  if n < firstDecomposable then [n]
  else if firstSyllable ≤ n ∧ n < endSyllables then syllableParts n
  else piecesTo 4 n

/-- A text in pieces. -/
def decompose (ns : List Nat) : List Nat := ns.flatMap decomposePoint

/-! ## Order of marks -/

/-- The first code point with a combining class. -/
def firstMark : Nat := 0x300

/-- The combining class of a code point. -/
def combiningClass (n : Nat) : Nat :=
  if n < firstMark then 0
  else match markClasses.get? n with
    | some (k :: _) => k
    | _ => 0

/-- Puts a code point behind others, which are given from the last one on. A mark goes in front
of marks of higher classes. -/
def insertMark (n : Nat) : List Nat → List Nat
  | [] => [n]
  | m :: rest =>
    if 0 < combiningClass n ∧ combiningClass n < combiningClass m then m :: insertMark n rest
    else n :: m :: rest

/-- A text with its marks in order. -/
def reorder (ns : List Nat) : List Nat := (ns.foldl (fun done n => insertMark n done) []).reverse

/-! ## Composition -/

/-- The character that two others make. -/
def compose? (a b : Nat) : Option Nat := (syllable? a b).orElse fun _ => pairs.origin? [a, b]

/-- Whether marks, given from the last one on, keep a code point behind them from the letter. -/
def isBlocked (marks : List Nat) (n : Nat) : Bool :=
  match marks with
  | [] => false
  | m :: _ => combiningClass n ≤ combiningClass m

/-- Puts the pieces behind a letter together with it. The marks that stay are given from the
last one on. -/
def composeFrom (letter : Nat) (marks : List Nat) : List Nat → List Nat
  | [] => letter :: marks.reverse
  | n :: rest =>
    match if isBlocked marks n then none else compose? letter n with
    | some whole => composeFrom whole marks rest
    | none =>
      if combiningClass n = 0 then letter :: marks.reverse ++ composeFrom n [] rest
      else composeFrom letter (n :: marks) rest

/-- Puts the pieces of a text together. -/
def compose : List Nat → List Nat
  | [] => []
  | n :: rest => if combiningClass n = 0 then composeFrom n [] rest else n :: compose rest

/-- The canonical form of a text. Without marks and syllables there is nothing to do. -/
def normalize (ns : List Nat) : List Nat :=
  if ns.all (· < firstMark) then ns else compose (reorder (decompose ns))

end DeliveryDesk.Unicode

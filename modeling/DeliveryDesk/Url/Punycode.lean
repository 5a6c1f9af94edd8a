/-!
# Punycode

A domain label with characters beyond ASCII is written in ASCII: its ASCII characters first,
then, in the digits of a variable-length number system, where the others belong. `encode` and
`decode?` convert a label without the mark that announces such labels.
-/

namespace DeliveryDesk.Url.Punycode

/-- The largest code point. -/
def maxCodePoint : Nat := 0x10FFFF

/-- The smallest code point that is encoded. -/
def firstCodePoint : Nat := 128

/-- The bias that the first number is written with. -/
def firstBias : Nat := 72

/-- How much of a digit's range ends a number, at a position and a bias. -/
def threshold (position bias : Nat) : Nat := max 1 (min 26 (position - bias))

/-- A threshold leaves room for every letter. -/
theorem threshold_le (position bias : Nat) : threshold position bias ≤ 26 := by
  unfold threshold
  omega

/-- Scales a distance down, counting the steps. -/
def settle (delta position : Nat) : Nat × Nat :=
  if 455 < delta then settle (delta / 35) (position + 36) else (delta, position)
termination_by delta
decreasing_by omega

/-- The bias after a distance was written as one of `count` characters. -/
def adapt (delta count : Nat) (first : Bool) : Nat :=
  let delta := if first then delta / 700 else delta / 2
  let (delta, position) := settle (delta + delta / count) 0
  position + 36 * delta / (delta + 38)

/-- The character of a digit below 36: letters first. -/
def digitChar (d : Nat) : Char :=
  if d < 26 then Char.ofNat (97 + d) else Char.ofNat (22 + d)

/-- The value of a digit. -/
def digitValue? (c : Char) : Option Nat :=
  if 'a' ≤ c ∧ c ≤ 'z' then some (c.toNat - 97)
  else if 'A' ≤ c ∧ c ≤ 'Z' then some (c.toNat - 65)
  else if '0' ≤ c ∧ c ≤ '9' then some (c.toNat - 22)
  else none

/-- A number in digits, least significant first. -/
def variableLength (bias position n : Nat) : List Char :=
  let t := threshold position bias
  if n < t then [digitChar n]
  else
    digitChar (t + (n - t) % (36 - t)) :: variableLength bias (position + 36) ((n - t) / (36 - t))
termination_by n
decreasing_by
  have h1 : 1 ≤ threshold position bias := by unfold threshold; omega
  have h2 := threshold_le position bias
  exact Nat.lt_of_le_of_lt (Nat.div_le_self _ _) (by omega)

/-- The encoder's state: the distance since the last character, the bias, how many characters
are placed, and what is written, latest first. -/
structure Encoder where
  delta : Nat
  bias : Nat
  placed : Nat
  written : List (List Char)

/-- Passes one character of the label while code point `n` is placed. -/
def Encoder.pass (basic n : Nat) (e : Encoder) (c : Char) : Encoder :=
  if c.toNat < n then { e with delta := e.delta + 1 }
  else if c.toNat = n then
    { delta := 0
      bias := adapt e.delta (e.placed + 1) (e.placed == basic)
      placed := e.placed + 1
      written := variableLength e.bias 36 e.delta :: e.written }
  else e

/-- Places the given code points, in increasing order, into a label; `next` is the smallest
one that may come. -/
def place (basic : Nat) (label : List Char) : (next : Nat) → List Nat → Encoder → Encoder
  | _, [], e => e
  | next, n :: ns, e =>
    let e := { e with delta := e.delta + (n - next) * (e.placed + 1) }
    let e := label.foldl (Encoder.pass basic n) e
    place basic label (n + 1) ns { e with delta := e.delta + 1 }

/-- Drops repetitions in an ordered list. -/
def distinct : List Nat → List Nat
  | a :: b :: rest => if a = b then distinct (b :: rest) else a :: distinct (b :: rest)
  | ns => ns

/-- The encoded form of a label. -/
def encode (label : List Char) : List Char :=
  let basic := label.filter fun c => c.toNat < firstCodePoint
  let others := distinct <|
    ((label.map Char.toNat).filter (firstCodePoint ≤ ·)).mergeSort (· ≤ ·)
  let start : Encoder := ⟨0, firstBias, basic.length, []⟩
  let e := place basic.length label firstCodePoint others start
  basic ++ (if basic.isEmpty then [] else ['-']) ++ e.written.reverse.flatten

/-- The decoder's state: the characters so far, the code point and place of the last one, the
bias, and the number being read with its weight and the position of its next digit. -/
structure Decoder where
  label : List Char
  codePoint : Nat := firstCodePoint
  index : Nat := 0
  bias : Nat := firstBias
  start : Nat := 0
  weight : Nat := 1
  position : Nat := 36

/-- Reads one digit. When it ends a number, the next character is placed. -/
def Decoder.digit? (d : Decoder) (c : Char) : Option Decoder := do
  let value ← digitValue? c
  let index := d.index + value * d.weight
  let t := threshold d.position d.bias
  if t ≤ value then
    return { d with index, weight := d.weight * (36 - t), position := d.position + 36 }
  else
    let count := d.label.length + 1
    let codePoint := d.codePoint + index / count
    let place := index % count
    if maxCodePoint < codePoint ∨ (0xD800 ≤ codePoint ∧ codePoint < 0xE000) then none
    else
      return {
        label := d.label.take place ++ Char.ofNat codePoint :: d.label.drop place
        codePoint
        index := place + 1
        bias := adapt (index - d.start) count (d.start == 0)
        start := place + 1 }

/-- The label of an encoded form, if it is well formed. -/
def decode? (cs : List Char) : Option (List Char) := do
  let tail := (cs.reverse.takeWhile (· != '-')).reverse
  let basic := (cs.take (cs.length - tail.length)).dropLast
  guard (basic.all fun c => c.toNat < firstCodePoint)
  guard (tail.length < cs.length → basic ≠ [])
  let d ← tail.foldlM Decoder.digit? { label := basic }
  if d.position = 36 then return d.label else none

end DeliveryDesk.Url.Punycode

import DeliveryDesk.Decimal.Binary64

/-!
# The fewest digits that read back

A floating-point number is written with the fewest decimal digits that still lie nearer to
it than to any other such number, and among those with the nearest ones. `shortest` looks
for them on decimal grids that become finer one digit at a time: the first grid with a
point inside the interval of reals that round to the number wins, and if any point of a
grid lies inside, one of the number's two neighbours on that grid does.

How the digits are laid out (where positional notation ends, the sign of the exponent) is
a `DigitLayout`, chosen by the format that writes them.
-/

namespace DeliveryDesk

/-- The decimal digits of a natural number, most significant first. -/
def decimalDigits (n : Nat) : List Char := Nat.toDigits 10 n

/-- The decimal text of a natural number. -/
def decimalText (n : Nat) : String := String.ofList (decimalDigits n)

/-- The decimal text of an integer, with a minus sign below zero. -/
def integerText (i : Int) : String :=
  if i < 0 then "-" ++ decimalText i.natAbs else decimalText i.natAbs

/-- Digits with a decimal point in front and a power of ten behind:
`0.d₁d₂… * 10 ^ point`. -/
structure Digits where
  digits : List Char
  point : Int
deriving DecidableEq, Repr

namespace Binary64

/-- Where a grid of decimal numbers meets the interval of reals that round to a number.
All quantities are scaled to integers: a grid point `d` lies at `d * gridUnit`, the number
and the ends of its interval at `value`, `low` and `high`. -/
structure GridView where
  gridUnit : Nat
  value : Nat
  low : Nat
  high : Nat
  endsIncluded : Bool

/-- The view of the grid with unit `10 ^ g` around `significand * 2 ^ exponent`. The
interval reaches half-way to either neighbour; below a power of two the lower neighbour is
nearer. Its ends round to the number exactly when the significand is even. -/
def gridView (x : Binary64) (g : Int) : GridView :=
  let low := if x.significand = Nat.pow 2 52 ∧ minExponent < x.exponent
    then 4 * x.significand - 1 else 4 * x.significand - 2
  let e := x.exponent - 2
  let two := Nat.pow 2 e.natAbs
  let ten := Nat.pow 10 g.natAbs
  let number (n : Nat) : Nat := n * (if 0 ≤ e then two else 1) * (if 0 ≤ g then 1 else ten)
  { gridUnit := (if 0 ≤ g then ten else 1) * (if 0 ≤ e then 1 else two)
    value := number (4 * x.significand)
    low := number low
    high := number (4 * x.significand + 2)
    endsIncluded := x.significand % 2 = 0 }

/-- Whether a grid point rounds to the number. -/
def GridView.admits (v : GridView) (d : Nat) : Bool :=
  let p := d * v.gridUnit
  if v.endsIncluded then v.low ≤ p && p ≤ v.high else v.low < p && p < v.high

/-- The admitted neighbour of the number on the grid, the nearer one if both are; of two
equally near ones the even one. -/
def GridView.pick (v : GridView) : Option Nat :=
  let d := v.value / v.gridUnit
  match v.admits d, v.admits (d + 1) with
  | false, false => none
  | true, false => some d
  | false, true => some (d + 1)
  | true, true =>
    let below := v.value - d * v.gridUnit
    let above := (d + 1) * v.gridUnit - v.value
    if below < above then some d
    else if above < below then some (d + 1)
    else if d % 2 = 0 then some d else some (d + 1)

/-- The position of the decimal point: the number lies in
`[10 ^ (decade - 1), 10 ^ decade)`. -/
def decade (x : Binary64) : Int :=
  let (n, d) := ratio x.significand x.exponent
  let k : Int := (decimalDigits n).length - (decimalDigits d).length
  let below := if 0 ≤ k then n < d * Nat.pow 10 k.toNat else n * Nat.pow 10 (-k).toNat < d
  if below then k else k + 1

/-- The digits of a positive natural number without its trailing zeros, times
`10 ^ g`. -/
def digitsOf (d : Nat) (g : Int) : Digits :=
  let ds := decimalDigits d
  { digits := (ds.reverse.dropWhile (· == '0')).reverse
    point := ds.length + g }

/-- Tries grids of `n`, `n + 1`, … digits, `fuel` of them. -/
def searchDigits (x : Binary64) (top : Int) : (fuel n : Nat) → Option Digits
  | 0, _ => none
  | fuel + 1, n =>
    let g := top - n
    match (gridView x g).pick with
    | some d => some (digitsOf d g)
    | none => searchDigits x top fuel (n + 1)

/-- The fewest digits that read back as the number. Seventeen always suffice; for zero the
digits are `0`. -/
def shortest (x : Binary64) : Digits :=
  if x.isZero then ⟨['0'], 1⟩
  else (searchDigits x x.decade 17 1).getD ⟨['0'], 1⟩

end Binary64

/-- How a format lays out the digits of a floating-point number. -/
structure DigitLayout where
  /-- The least decimal exponent that is still written positionally. -/
  minPositional : Int
  /-- The greatest decimal exponent that is still written positionally. -/
  maxPositional : Int
  /-- Whether an exponent above zero carries a plus sign. -/
  plusSign : Bool

namespace DigitLayout

/-- Digits with the point among them. -/
def positional (d : Digits) : List Char :=
  if d.point ≤ 0 then
    '0' :: '.' :: (List.replicate d.point.natAbs '0' ++ d.digits)
  else if d.point.toNat < d.digits.length then
    d.digits.take d.point.toNat ++ '.' :: d.digits.drop d.point.toNat
  else
    d.digits ++ List.replicate (d.point.toNat - d.digits.length) '0' ++ ['.', '0']

/-- Digits with the point after the first one and a power of ten. -/
def scientific (layout : DigitLayout) (d : Digits) : List Char :=
  let e := d.point - 1
  let mantissa := match d.digits with
    | [] => []
    | [c] => [c]
    | c :: rest => c :: '.' :: rest
  let sign := if e < 0 then ['-'] else if layout.plusSign then ['+'] else []
  mantissa ++ 'e' :: (sign ++ decimalDigits e.natAbs)

/-- The text of a number in a layout. Its decimal exponent decides between positional
and scientific notation. -/
def text (layout : DigitLayout) (x : Binary64) : String :=
  let d := x.shortest
  let e := d.point - 1
  let body := if layout.minPositional ≤ e ∧ e ≤ layout.maxPositional
    then positional d else layout.scientific d
  String.ofList (if x.negative then '-' :: body else body)

end DigitLayout

end DeliveryDesk

/-!
# Finite binary floating-point numbers, exactly

A payload may hold numbers that are no integers. They are kept as what they are, a sign,
a significand and a power of two, so that reading and writing them is integer arithmetic
and nothing depends on the machine's floating-point unit.

`roundRatio num den` is the number with a 53-bit significand that is nearest to
`num / den`; a quotient half-way between two neighbours goes to the one with the even
significand, and a quotient beyond the largest finite number has no rounding. Products,
quotients and powers of ten are all rounded by it, once per operation.
-/

namespace DeliveryDesk

/-- The finite number `± significand * 2 ^ exponent`. The operations below give
significands below `2 ^ 53` and exponents from `-1074` to `971`, with the smallest
exponent that fits. -/
structure Binary64 where
  negative : Bool
  significand : Nat
  exponent : Int
deriving DecidableEq, Repr

namespace Binary64

/-- The smallest exponent: one unit there is the smallest positive number. -/
def minExponent : Int := -1074

/-- The largest exponent of a finite number. -/
def maxExponent : Int := 971

/-- Zero, with its sign. -/
def zero (negative : Bool) : Binary64 := ⟨negative, 0, minExponent⟩

/-- Whether the number is zero, of either sign. -/
def isZero (x : Binary64) : Bool := x.significand == 0

/-- The same magnitude with the given sign. -/
def withSign (x : Binary64) (negative : Bool) : Binary64 := { x with negative }

/-- The integer nearest to `num / den`; a half goes to the even neighbour. -/
def divHalfEven (num den : Nat) : Nat :=
  let q := num / den
  let r := num % den
  if 2 * r < den then q
  else if 2 * r = den ∧ q % 2 = 0 then q
  else q + 1

/-- `num / den` as a fraction of units of `2 ^ e`. -/
def inUnits (num den : Nat) (e : Int) : Nat × Nat :=
  if 0 ≤ e then (num, den * Nat.pow 2 e.toNat) else (num * Nat.pow 2 (-e).toNat, den)

/-- The exponent whose unit leaves `num / den` 53 binary places, or as many as the
smallest exponent allows. -/
def unitExponent (num den : Nat) : Int :=
  let low : Int := max ((num.log2 : Int) - (den.log2 : Int) - 53) minExponent
  let (n, d) := inUnits num den low
  if n / d < Nat.pow 2 53 then low else low + 1

/-- The number nearest to `num / den`, or nothing when that is too large. -/
def roundRatio (num den : Nat) : Option Binary64 :=
  if num = 0 then some (zero false)
  else
    let e := unitExponent num den
    let (n, d) := inUnits num den e
    let m := divHalfEven n d
    let (m, e) := if m = Nat.pow 2 53 then (Nat.pow 2 52, e + 1) else (m, e)
    if maxExponent < e then none else some ⟨false, m, e⟩

/-- The number nearest to a natural number. -/
def ofNat (n : Nat) : Option Binary64 := roundRatio n 1

/-- The number nearest to `10 ^ k`. -/
def tenPow (k : Nat) : Option Binary64 := ofNat (Nat.pow 10 k)

/-- `m * 2 ^ e` as a fraction. -/
def ratio (m : Nat) (e : Int) : Nat × Nat :=
  if 0 ≤ e then (m * Nat.pow 2 e.toNat, 1) else (m, Nat.pow 2 (-e).toNat)

/-- The rounded product of the magnitudes, with the sign of the first factor. -/
def mul (x y : Binary64) : Option Binary64 :=
  let (n, d) := ratio (x.significand * y.significand) (x.exponent + y.exponent)
  (roundRatio n d).map (·.withSign x.negative)

/-- The rounded quotient of the magnitudes, with the sign of the dividend. -/
def div (x y : Binary64) : Option Binary64 :=
  let (n, d) := ratio x.significand (x.exponent - y.exponent)
  (roundRatio n (d * y.significand)).map (·.withSign x.negative)

/-- The largest power of ten that is applied in one step. -/
def maxTenPow : Nat := 308

/-- Divides by `10 ^ maxTenPow` the given number of times, stopping early at zero. -/
def shrink : Nat → Binary64 → Option Binary64
  | 0, x => some x
  | n + 1, x =>
    if x.isZero then some x
    else ((tenPow maxTenPow).bind x.div).bind (shrink n)

/-- `x * 10 ^ k`, each step of at most `10 ^ maxTenPow` rounded. A number other than zero
cannot be scaled up by more than one step. -/
def scaleTen (x : Binary64) (k : Int) : Option Binary64 :=
  if 0 ≤ k then
    if k.toNat ≤ maxTenPow then (tenPow k.toNat).bind x.mul
    else if x.isZero then some x else none
  else
    let n := k.natAbs
    let steps := (n - 1) / maxTenPow
    (shrink steps x).bind fun y => (tenPow (n - steps * maxTenPow)).bind y.div

/-- The number that stands for `± significand * 10 ^ exponent`: the significand is
rounded first, then scaled. -/
def ofDecimal (negative : Bool) (significand : Nat) (exponent : Int) : Option Binary64 :=
  ((ofNat significand).bind (·.scaleTen exponent)).map (·.withSign negative)

end Binary64

end DeliveryDesk

/-!
# Digits

The values of digits in bases up to sixteen, and numbers written in digits.
-/

namespace DeliveryDesk.Text

/-- The value of a digit in a base up to sixteen; letters of either case count from ten. -/
def digitIn? (base : Nat) (c : Char) : Option Nat :=
  let d? :=
    if '0' ≤ c ∧ c ≤ '9' then some (c.toNat - 48)
    else if 'a' ≤ c ∧ c ≤ 'f' then some (c.toNat - 87)
    else if 'A' ≤ c ∧ c ≤ 'F' then some (c.toNat - 55)
    else none
  d?.bind fun d => if d < base then some d else none

/-- Whether a character is a hexadecimal digit. -/
def isHexDigit (c : Char) : Bool := (digitIn? 16 c).isSome

/-- The number that digits denote. -/
def numberOf (base : Nat) (ds : List Nat) : Nat := ds.foldl (fun n d => base * n + d) 0

/-- The number that is written, if all characters are digits of the base. -/
def numberIn? (base : Nat) (cs : List Char) : Option Nat :=
  (cs.mapM (digitIn? base)).map (numberOf base)

/-- The hexadecimal digit of a number below sixteen, in upper case. -/
def upperHexDigit (n : Nat) : Char :=
  if n < 10 then Char.ofNat (48 + n) else Char.ofNat (55 + n)

/-- The last `n` hexadecimal digits of a number, in upper case. -/
def upperHex : (n : Nat) → Nat → List Char
  | 0, _ => []
  | n + 1, v => upperHex n (v / 16) ++ [upperHexDigit (v % 16)]

/-- A hexadecimal digit is read as the number it was written for. -/
theorem digitIn?_upperHexDigit : ∀ n < 16, digitIn? 16 (upperHexDigit n) = some n := by
  decide

/-- A number has as many hexadecimal digits as are asked for. -/
theorem length_upperHex (n v : Nat) : (upperHex n v).length = n := by
  induction n generalizing v with
  | zero => rfl
  | succ n ih => rw [upperHex, List.length_append, ih, List.length_singleton]

/-- All of them are hexadecimal digits. -/
theorem isHexDigit_of_mem_upperHex {n v : Nat} {c : Char} (h : c ∈ upperHex n v) :
    isHexDigit c = true := by
  induction n generalizing v with
  | zero => cases h
  | succ n ih =>
    rw [upperHex] at h
    rcases List.mem_append.mp h with hfront | hlast
    · exact ih hfront
    · rw [List.mem_singleton.mp hlast, isHexDigit,
        digitIn?_upperHexDigit _ (Nat.mod_lt v (by decide))]
      rfl

/-- A number is read from its last hexadecimal digits as far as they go. -/
theorem numberIn?_upperHex (n v : Nat) :
    numberIn? 16 (upperHex n v) = some (v % Nat.pow 16 n) := by
  have hread : ∃ ds, (upperHex n v).mapM (digitIn? 16) = some ds ∧
      numberOf 16 ds = v % Nat.pow 16 n := by
    induction n generalizing v with
    | zero => exact ⟨[], rfl, (Nat.mod_one v).symm⟩
    | succ n ih =>
      obtain ⟨ds, hds, hvalue⟩ := ih (v / 16)
      refine ⟨ds ++ [v % 16], ?_, ?_⟩
      · rw [upperHex, List.mapM_append, hds]
        simp [digitIn?_upperHexDigit _ (Nat.mod_lt v (by decide))]
      · unfold numberOf at hvalue ⊢
        have hpow : Nat.pow 16 (n + 1) = 16 * Nat.pow 16 n := Nat.mul_comm (Nat.pow 16 n) 16
        rw [List.foldl_append, hvalue, hpow, Nat.mod_mul, Nat.add_comm]
        rfl
  obtain ⟨ds, hds, hvalue⟩ := hread
  rw [numberIn?, hds, Option.map_some, hvalue]

end DeliveryDesk.Text

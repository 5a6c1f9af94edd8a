import DeliveryDesk.Json.Printing
import DeliveryDesk.Json.Raw
import Mathlib.Data.List.DropRight

/-!
# Numbers that are written can be read

A number is written as a `Numeral`: digits for the whole part, which do not start with a zero
unless that is all of it, digits behind a point, and digits behind an exponent with its sign. The
reader takes as many digits as there are, so what follows a number must not go on like one
(`EndsNumber`).

Integers are written with a whole part alone. For floating-point numbers the digits come from
`shortest`, and everything rests on one fact about these: they do not start with a zero unless they
are the digits of zero (`Binary64.shortest_wellFormed`), because a grid point that rounds to a
number other than zero is not zero.

Main statements: `RawJson.unsigned?_append`, which reads any numeral, and for the numbers of a
document `JsonNumber.toList_numberText` and `JsonNumber.wellFormed_numeral`.
-/

namespace DeliveryDesk

open Text

/-! ## Digits -/

/-- Characters that are all decimal digits. -/
def AreDigits (cs : List Char) : Prop := ∀ c ∈ cs, c.isDigit = true

/-- The value of a decimal digit. -/
def digitValue (c : Char) : Nat := c.toNat - '0'.toNat

/-- A number is written in decimal digits. -/
theorem areDigits_decimalDigits (n : Nat) : AreDigits (decimalDigits n) := by
  intro c hc
  exact Nat.isDigit_of_mem_toDigits (by decide) (by decide) hc

/-- It has one digit at least. -/
theorem decimalDigits_ne_nil (n : Nat) : decimalDigits n ≠ [] := Nat.toDigits_ne_nil

/-- The digits of a number do not start with a zero, unless the number is zero. -/
theorem head?_decimalDigits_ne_zero {n : Nat} (hpos : 0 < n) :
    (decimalDigits n).head? ≠ some '0' := by
  induction n using Nat.strongRecOn with
  | ind n ih =>
    rw [decimalDigits]
    by_cases hsmall : n < 10
    · have hdigit : ∀ m < 10, 0 < m → [m.digitChar].head? ≠ some '0' := by decide
      rw [Nat.toDigits_of_lt_base hsmall]
      exact hdigit n hsmall hpos
    · have hquot : 0 < n / 10 := by omega
      have hhead := ih (n / 10) (by omega) hquot
      have hne : Nat.toDigits 10 (n / 10) ≠ [] := Nat.toDigits_ne_nil
      rw [Nat.toDigits_of_base_le (by decide) (by omega), List.head?_append_of_ne_nil _ hne]
      exact hhead

/-- Only zero is written with a zero in front. -/
theorem eq_zero_of_head?_decimalDigits {n : Nat} (hzero : (decimalDigits n).head? = some '0') :
    decimalDigits n = ['0'] := by
  by_cases hpos : 0 < n
  · exact absurd hzero (head?_decimalDigits_ne_zero hpos)
  · obtain rfl : n = 0 := by omega
    rfl

namespace RawJson

theorem digit?_of_isDigit {c : Char} (h : c.isDigit = true) :
    digit? (some c) = some (digitValue c) := by
  have hrange : '0' ≤ c ∧ c ≤ '9' := by
    simpa [Char.isDigit, Char.le_def] using h
  rw [digit?, if_pos hrange]
  rfl

/-- Digits are read as far as they go. -/
theorem digits_append {cs : List Char} (hcs : AreDigits cs) {rest : List Symbol}
    (hrest : ∀ c ∈ rest.head?, digit? c = none) :
    digits (cs.map some ++ rest) = (cs.map digitValue, rest) := by
  induction cs with
  | nil =>
    cases rest with
    | nil => rfl
    | cons c rest =>
      have hc : digit? c = none := hrest c rfl
      simp [digits, hc]
  | cons c cs ih =>
    have hc : c.isDigit = true := hcs c List.mem_cons_self
    have htail := ih fun d hd => hcs d (List.mem_cons_of_mem c hd)
    rw [List.map_cons, List.cons_append, digits, digit?_of_isDigit hc]
    simp only [htail, List.map_cons]

/-- Digits are read up to the first character that is none. -/
theorem digits1_append {cs : List Char} (hcs : AreDigits cs) (hne : cs ≠ []) {rest : List Symbol}
    (hrest : ∀ c ∈ rest.head?, digit? c = none) :
    digits1 (cs.map some ++ rest) = some (cs.map digitValue, rest) := by
  rw [digits1, digits_append hcs hrest]
  cases cs with
  | nil => exact absurd rfl hne
  | cons c cs => rfl

/-- Every digit but one is worth something. -/
theorem digitValue_ne_zero {c : Char} (h : c.isDigit = true) (hc : c ≠ '0') : digitValue c ≠ 0 := by
  have hlow : 48 ≤ c.toNat := by
    have hrange : '0' ≤ c ∧ c ≤ '9' := by simpa [Char.isDigit, Char.le_def] using h
    exact hrange.1
  have hne : c.toNat ≠ 48 := fun he => hc (Char.toNat_inj.mp he)
  have hvalue : digitValue c = c.toNat - 48 := rfl
  omega

/-- A whole part may start with a zero only if that is all of it. -/
theorem whole?_append {cs : List Char} (hcs : AreDigits cs) (hne : cs ≠ [])
    (hzero : cs.head? = some '0' → cs = ['0']) {rest : List Symbol}
    (hrest : ∀ c ∈ rest.head?, digit? c = none) :
    whole? (cs.map some ++ rest) = some (cs.map digitValue, rest) := by
  rw [whole?, digits_append hcs hrest]
  cases cs with
  | nil => exact absurd rfl hne
  | cons c cs =>
    by_cases hc : c = '0'
    · subst hc
      rw [hzero rfl]
      rfl
    · have hvalue := digitValue_ne_zero (hcs c List.mem_cons_self) hc
      obtain ⟨m, hm⟩ := Nat.exists_eq_succ_of_ne_zero hvalue
      rw [List.map_cons, hm]
      cases cs <;> rfl

end RawJson

/-! ## Numerals -/

/-- A number without its sign, as it is spelled: the digits of the whole part, those behind a point
and those of an exponent with its sign (`true` for a minus). -/
structure Numeral where
  whole : List Char
  fraction : Option (List Char) := none
  exponent : Option (Bool × List Char) := none

namespace Numeral

/-- The characters of the fraction. -/
def fractionChars (n : Numeral) : List Char := (n.fraction.map ('.' :: ·)).getD []

/-- The characters of the exponent. -/
def exponentChars (n : Numeral) : List Char :=
  (n.exponent.map fun e => 'e' :: (if e.1 then '-' else '+') :: e.2).getD []

/-- All characters. -/
def chars (n : Numeral) : List Char := n.whole ++ n.fractionChars ++ n.exponentChars

/-- What is read of a numeral behind its sign. -/
def raw (n : Numeral) (negative : Bool) : RawNumber where
  negative
  whole := n.whole.map digitValue
  fraction := n.fraction.map (·.map digitValue)
  exponent := n.exponent.map fun e => (e.1, e.2.map digitValue)

/-- A numeral that can be read. -/
structure WellFormed (n : Numeral) : Prop where
  whole : AreDigits n.whole
  whole_ne : n.whole ≠ []
  noLeadingZero : n.whole.head? = some '0' → n.whole = ['0']
  fraction : ∀ cs ∈ n.fraction, AreDigits cs ∧ cs ≠ []
  exponent : ∀ e ∈ n.exponent, AreDigits e.2 ∧ e.2 ≠ []

end Numeral

namespace RawJson

/-- What follows a number does not go on like one. -/
def EndsNumber (rest : List Symbol) : Prop :=
  ∀ c ∈ rest.head?, digit? c = none ∧ c ≠ some '.' ∧ c ≠ some 'e' ∧ c ≠ some 'E'

/-- Where a number ends, no digit follows. -/
theorem EndsNumber.noDigit {rest : List Symbol} (h : EndsNumber rest) :
    ∀ c ∈ rest.head?, digit? c = none := fun c hc => (h c hc).1

/-- The fraction of a numeral is read off its front, or its absence is. -/
theorem fraction?_append {n : Numeral} (h : n.WellFormed) {rest : List Symbol}
    (hdigit : ∀ c ∈ rest.head?, digit? c = none) (hpoint : ∀ c ∈ rest.head?, c ≠ some '.') :
    fraction? (n.fractionChars.map some ++ rest) =
      some (n.fraction.map (·.map digitValue), rest) := by
  cases hn : n.fraction with
  | none =>
    rw [Numeral.fractionChars, hn]
    show fraction? rest = some (none, rest)
    unfold fraction?
    split
    · exact absurd rfl (hpoint _ rfl)
    · rfl
  | some cs =>
    obtain ⟨hcs, hne⟩ := h.fraction cs hn
    rw [Numeral.fractionChars, hn]
    show fraction? (some '.' :: (cs.map some ++ rest)) = _
    rw [fraction?, digits1_append hcs hne hdigit]
    rfl

/-- So is its exponent, with the sign. -/
theorem exponent?_append {n : Numeral} (h : n.WellFormed) {rest : List Symbol}
    (hends : EndsNumber rest) :
    exponent? (n.exponentChars.map some ++ rest) =
      some (n.exponent.map fun e => (e.1, e.2.map digitValue), rest) := by
  cases hn : n.exponent with
  | none =>
    rw [Numeral.exponentChars, hn]
    show exponent? rest = some (none, rest)
    unfold exponent?
    split
    · exact absurd rfl (hends _ rfl).2.2.1
    · exact absurd rfl (hends _ rfl).2.2.2
    · rfl
  | some e =>
    obtain ⟨minus, cs⟩ := e
    obtain ⟨hcs, hne⟩ := h.exponent _ hn
    rw [Numeral.exponentChars, hn]
    have hread := digits1_append hcs hne hends.noDigit
    cases minus with
    | true =>
      show exponentDigits? (some '-' :: (cs.map some ++ rest)) = _
      rw [exponentDigits?, hread]
      rfl
    | false =>
      show exponentDigits? (some '+' :: (cs.map some ++ rest)) = _
      rw [exponentDigits?, hread]
      rfl

/-- **A numeral is read.** -/
theorem unsigned?_append {n : Numeral} (h : n.WellFormed) (negative : Bool) {rest : List Symbol}
    (hends : EndsNumber rest) :
    unsigned? negative (n.chars.map some ++ rest) = some (.number (n.raw negative), rest) := by
  -- what stands behind the whole part starts with a point, an exponent, or the rest
  have hexponent : ∀ c ∈ (n.exponentChars.map some ++ rest).head?,
      digit? c = none ∧ c ≠ some '.' := by
    unfold Numeral.exponentChars
    cases n.exponent with
    | none => exact fun c hc => ⟨(hends c hc).1, (hends c hc).2.1⟩
    | some e =>
      intro c hc
      obtain rfl : some 'e' = c := Option.some.inj hc
      exact ⟨rfl, by decide⟩
  have hfraction : ∀ c ∈ (n.fractionChars.map some ++ (n.exponentChars.map some ++ rest)).head?,
      digit? c = none := by
    unfold Numeral.fractionChars
    cases n.fraction with
    | none => exact fun c hc => (hexponent c hc).1
    | some cs =>
      intro c hc
      obtain rfl : some '.' = c := Option.some.inj hc
      rfl
  have hwhole := whole?_append h.whole h.whole_ne h.noLeadingZero hfraction
  have hbehind := fraction?_append h (fun c hc => (hexponent c hc).1)
    fun c hc => (hexponent c hc).2
  rw [Numeral.chars, List.map_append, List.map_append, List.append_assoc, List.append_assoc,
    unsigned?, hwhole]
  simp only [hbehind, exponent?_append h hends, Option.bind_eq_bind, Option.bind_some]
  rfl

end RawJson

/-! ## The digits of floating-point numbers -/

namespace Binary64

/-- Every grid point in the interval of a number other than zero lies above zero. -/
theorem pos_of_admits {x : Binary64} (hne : x.significand ≠ 0) {g : Int} {d : Nat}
    (hadmits : (gridView x g).admits d = true) : 0 < d := by
  have hlow : 0 < (gridView x g).low := by
    unfold gridView
    have htwo : ∀ k, 0 < Nat.pow 2 k := fun k => Nat.pow_pos (by decide)
    have hten : ∀ k, 0 < Nat.pow 10 k := fun k => Nat.pow_pos (by decide)
    refine Nat.mul_pos (Nat.mul_pos ?_ ?_) ?_
    · split <;> omega
    · split
      · exact htwo _
      · decide
    · split
      · decide
      · exact hten _
  have hpoint : (gridView x g).low ≤ d * (gridView x g).gridUnit := by
    unfold GridView.admits at hadmits
    split at hadmits
    · simp only [Bool.and_eq_true, decide_eq_true_eq] at hadmits
      exact hadmits.1
    · simp only [Bool.and_eq_true, decide_eq_true_eq] at hadmits
      exact Nat.le_of_lt hadmits.1
  rcases Nat.eq_zero_or_pos d with rfl | hpos
  · rw [Nat.zero_mul] at hpoint
    omega
  · exact hpos

/-- Whichever neighbour is picked, it is admitted. -/
theorem admits_of_pick {v : GridView} {d : Nat} (hpick : v.pick = some d) : v.admits d = true := by
  unfold GridView.pick at hpick
  cases hbelow : v.admits (v.value / v.gridUnit) with
  | false =>
    cases habove : v.admits (v.value / v.gridUnit + 1) with
    | false => simp only [hbelow, habove, reduceCtorEq] at hpick
    | true =>
      simp only [hbelow, habove, Option.some.injEq] at hpick
      rw [← hpick, habove]
  | true =>
    cases habove : v.admits (v.value / v.gridUnit + 1) with
    | false =>
      simp only [hbelow, habove, Option.some.injEq] at hpick
      rw [← hpick, hbelow]
    | true =>
      simp only [hbelow, habove] at hpick
      grind

end Binary64

namespace Digits

/-- Digits that a numeral can be made of: they start with a zero only where they are all of it. -/
structure WellFormed (d : Digits) : Prop where
  digits : AreDigits d.digits
  ne_nil : d.digits ≠ []
  noLeadingZero : d.digits.head? = some '0' → d = ⟨['0'], 1⟩

theorem wellFormed_zero : WellFormed ⟨['0'], 1⟩ where
  digits c hc := by
    rw [List.mem_singleton.mp hc]
    rfl
  ne_nil := by decide
  noLeadingZero _ := rfl

/-- The digits of a number above zero are left when the zeros at their end are dropped. -/
theorem wellFormed_digitsOf {d : Nat} (hpos : 0 < d) (g : Int) :
    (Binary64.digitsOf d g).WellFormed := by
  have hdrop : (Binary64.digitsOf d g).digits = (decimalDigits d).rdropWhile (· == '0') := rfl
  have hstart : (Binary64.digitsOf d g).digits <+: decimalDigits d := by
    rw [hdrop]
    exact List.rdropWhile_prefix _ _
  have hhead := head?_decimalDigits_ne_zero hpos
  have hne : (Binary64.digitsOf d g).digits ≠ [] := by
    intro hnil
    rw [hdrop, List.rdropWhile_eq_nil_iff] at hnil
    cases hdigits : decimalDigits d with
    | nil => exact decimalDigits_ne_nil d hdigits
    | cons c cs =>
      rw [hdigits] at hhead hnil
      have hc : c = '0' := by simpa using hnil c List.mem_cons_self
      exact hhead (congrArg some hc)
  have hsame : (decimalDigits d).head? = (Binary64.digitsOf d g).digits.head? := by
    obtain ⟨zeros, hzeros⟩ := hstart
    rw [← hzeros, List.head?_append_of_ne_nil _ hne]
  refine ⟨fun c hc => areDigits_decimalDigits d c (hstart.subset hc), hne, fun hzero => ?_⟩
  exact absurd (hsame.trans hzero) hhead

end Digits

namespace Binary64

/-- The digits that a search for the shortest ones finds have no zero in front. -/
theorem searchDigits_wellFormed {x : Binary64} (hne : x.significand ≠ 0) {top : Int}
    {fuel n : Nat} {d : Digits} (hfound : searchDigits x top fuel n = some d) : d.WellFormed := by
  induction fuel generalizing n with
  | zero => cases hfound
  | succ fuel ih =>
    rw [searchDigits] at hfound
    cases hpick : (gridView x (top - n)).pick with
    | none =>
      simp only [hpick] at hfound
      exact ih hfound
    | some point =>
      simp only [hpick, Option.some.injEq] at hfound
      rw [← hfound]
      exact Digits.wellFormed_digitsOf (pos_of_admits hne (admits_of_pick hpick)) _

/-- **The shortest digits of a number make a numeral.** -/
theorem shortest_wellFormed (x : Binary64) : x.shortest.WellFormed := by
  unfold shortest
  by_cases hzero : x.isZero = true
  · rw [if_pos hzero]
    exact Digits.wellFormed_zero
  · rw [if_neg hzero]
    have hne : x.significand ≠ 0 := by simpa [isZero] using hzero
    cases hfound : searchDigits x x.decade 17 1 with
    | none => exact Digits.wellFormed_zero
    | some d => exact searchDigits_wellFormed hne hfound

end Binary64

/-! ## Numbers -/

namespace Digits

/-- The numeral of digits with the point among them. -/
def positional (d : Digits) : Numeral :=
  if d.point ≤ 0 then
    { whole := ['0'], fraction := some (List.replicate d.point.natAbs '0' ++ d.digits) }
  else if d.point.toNat < d.digits.length then
    { whole := d.digits.take d.point.toNat, fraction := some (d.digits.drop d.point.toNat) }
  else
    { whole := d.digits ++ List.replicate (d.point.toNat - d.digits.length) '0',
      fraction := some ['0'] }

/-- The numeral of digits with the point after the first one and a power of ten. -/
def scientific (d : Digits) : Numeral where
  whole := d.digits.take 1
  fraction := if d.digits.drop 1 = [] then none else some (d.digits.drop 1)
  exponent := some (decide (d.point - 1 < 0), decimalDigits (d.point - 1).natAbs)

/-- The numeral without an exponent is what the layout of digits gives. -/
theorem chars_positional (d : Digits) : d.positional.chars = DigitLayout.positional d := by
  unfold positional DigitLayout.positional
  by_cases hsmall : d.point ≤ 0
  · rw [if_pos hsmall, if_pos hsmall]
    simp [Numeral.chars, Numeral.fractionChars, Numeral.exponentChars]
  · rw [if_neg hsmall, if_neg hsmall]
    by_cases hinside : d.point.toNat < d.digits.length
    · rw [if_pos hinside, if_pos hinside]
      simp [Numeral.chars, Numeral.fractionChars, Numeral.exponentChars]
    · rw [if_neg hinside, if_neg hinside]
      simp [Numeral.chars, Numeral.fractionChars, Numeral.exponentChars]

/-- So is the one with an exponent. -/
theorem chars_scientific (d : Digits) :
    d.scientific.chars = Json.floatLayout.scientific d := by
  unfold scientific DigitLayout.scientific
  obtain ⟨ds, point⟩ := d
  by_cases hminus : point - 1 < 0
  · rcases ds with _ | ⟨c, _ | ⟨c', rest⟩⟩ <;>
      simp [Numeral.chars, Numeral.fractionChars, Numeral.exponentChars, hminus]
  · rcases ds with _ | ⟨c, _ | ⟨c', rest⟩⟩ <;>
      simp [Numeral.chars, Numeral.fractionChars, Numeral.exponentChars, hminus, Json.floatLayout]

variable {d : Digits}

/-- Without an exponent well-formed digits make a well-formed numeral. -/
theorem WellFormed.positional (h : d.WellFormed) : d.positional.WellFormed := by
  have hzeros : ∀ n, AreDigits (List.replicate n '0') := by
    intro n c hc
    rw [(List.mem_replicate.mp hc).2]
    rfl
  unfold Digits.positional
  by_cases hsmall : d.point ≤ 0
  · rw [if_pos hsmall]
    refine ⟨wellFormed_zero.digits, List.cons_ne_nil _ _, fun _ => rfl, ?_, by simp⟩
    intro cs hcs
    obtain rfl := Option.some.inj hcs
    refine ⟨?_, by simp [h.ne_nil]⟩
    intro c hc
    exact (List.mem_append.mp hc).elim (hzeros _ c) (h.digits c)
  · rw [if_neg hsmall]
    have hpos : 0 < d.point.toNat := by omega
    by_cases hinside : d.point.toNat < d.digits.length
    · rw [if_pos hinside]
      have hhead : (d.digits.take d.point.toNat).head? = d.digits.head? := by
        rw [List.head?_take, if_neg (by omega)]
      refine ⟨fun c hc => h.digits c (List.mem_of_mem_take hc), ?_, ?_, ?_, by simp⟩
      · simpa [h.ne_nil] using Nat.ne_of_gt hpos
      · -- the digits of zero are not longer than one
        intro hzero
        have hd := h.noLeadingZero (hhead.symm.trans hzero)
        rw [hd] at hinside
        exact absurd hinside (by decide)
      · intro cs hcs
        obtain rfl := Option.some.inj hcs
        refine ⟨fun c hc => h.digits c (List.mem_of_mem_drop hc), ?_⟩
        simpa using hinside
    · rw [if_neg hinside]
      refine ⟨?_, by simp [h.ne_nil], ?_, ?_, by simp⟩
      · intro c hc
        exact (List.mem_append.mp hc).elim (h.digits c) (hzeros _ c)
      · intro hzero
        have hhead : d.digits.head? = some '0' := by
          rwa [List.head?_append_of_ne_nil _ h.ne_nil] at hzero
        rw [h.noLeadingZero hhead]
        rfl
      · intro cs hcs
        obtain rfl := Option.some.inj hcs
        exact ⟨wellFormed_zero.digits, by decide⟩

/-- So they do with an exponent. -/
theorem WellFormed.scientific (h : d.WellFormed) : d.scientific.WellFormed := by
  have hhead : (d.digits.take 1).head? = d.digits.head? := by
    rw [List.head?_take, if_neg (by decide)]
  refine ⟨fun c hc => h.digits c (List.mem_of_mem_take hc), ?_, ?_, ?_, ?_⟩
  · simpa [Digits.scientific] using h.ne_nil
  · intro hzero
    have hd := h.noLeadingZero (hhead.symm.trans hzero)
    rw [Digits.scientific, hd]
    rfl
  · intro cs hcs
    unfold Digits.scientific at hcs
    by_cases hone : d.digits.drop 1 = []
    · simp [hone] at hcs
    · rw [if_neg hone] at hcs
      obtain rfl := Option.some.inj hcs
      exact ⟨fun c hc => h.digits c (List.mem_of_mem_drop hc), hone⟩
  · intro e he
    obtain rfl := Option.some.inj he
    exact ⟨areDigits_decimalDigits _, decimalDigits_ne_nil _⟩

end Digits

namespace JsonNumber

/-- Whether a number is written with a minus. -/
def isNegative : JsonNumber → Bool
  | .int i => decide (i < 0)
  | .float x => x.negative

/-- The numeral of a number. -/
def numeral : JsonNumber → Numeral
  | .int i => { whole := decimalDigits i.natAbs }
  | .float x =>
    let e := x.shortest.point - 1
    if Json.floatLayout.minPositional ≤ e ∧ e ≤ Json.floatLayout.maxPositional then
      x.shortest.positional
    else x.shortest.scientific

/-- What is written of a number. -/
def raw (n : JsonNumber) : RawNumber := n.numeral.raw n.isNegative

/-- A number is written as its numeral, with the sign in front. -/
theorem toList_numberText (n : JsonNumber) :
    (Json.numberText n).toList =
      if n.isNegative then '-' :: n.numeral.chars else n.numeral.chars := by
  cases n with
  | int i =>
    have hchars : (JsonNumber.int i).numeral.chars = decimalDigits i.natAbs := by
      simp [numeral, Numeral.chars, Numeral.fractionChars, Numeral.exponentChars]
    rw [hchars, Json.numberText, integerText]
    by_cases hminus : i < 0
    · simp [hminus, isNegative, decimalText, String.toList_append]
    · simp [hminus, isNegative, decimalText]
  | float x =>
    have hchars : (JsonNumber.float x).numeral.chars =
        if Json.floatLayout.minPositional ≤ x.shortest.point - 1 ∧
            x.shortest.point - 1 ≤ Json.floatLayout.maxPositional then
          DigitLayout.positional x.shortest
        else Json.floatLayout.scientific x.shortest := by
      rw [← Digits.chars_positional, ← Digits.chars_scientific, ← apply_ite Numeral.chars]
      rfl
    rw [hchars, Json.numberText, DigitLayout.text, String.toList_ofList]
    rfl

/-- **Every number is written as a well-formed numeral.** -/
theorem wellFormed_numeral (n : JsonNumber) : n.numeral.WellFormed := by
  cases n with
  | int i =>
    exact ⟨areDigits_decimalDigits _, decimalDigits_ne_nil _, eq_zero_of_head?_decimalDigits,
      by simp [numeral], by simp [numeral]⟩
  | float x =>
    unfold numeral
    dsimp only
    split
    · exact x.shortest_wellFormed.positional
    · exact x.shortest_wellFormed.scientific

end JsonNumber

end DeliveryDesk

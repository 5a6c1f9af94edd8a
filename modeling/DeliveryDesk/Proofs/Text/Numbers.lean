import DeliveryDesk.Proofs.Json.Numbers
import DeliveryDesk.Text.Whole

/-!
# Whole numbers that are typed

`Denotes ds n` says that `ds` are decimal digits and what number they stand for, zeros in front
included. An operator may put a plus sign in front (`IsWhole`), and `readWhole_eq_ok_iff` is the
main statement: these are the texts that are read, as far as the number keeps to the limit. A number
that is written by the program denotes itself (`denotes_decimalDigits`).
-/

namespace DeliveryDesk.Text

/-- Decimal digits, and the number they stand for. -/
structure Denotes (ds : List Char) (n : Nat) : Prop where
  nonempty : ds ≠ []
  digits : AreDigits ds
  value : Nat.ofDigitChars 10 ds 0 = n

/-- A whole number as an operator may type it. -/
def IsWhole (cs : List Char) (n : Nat) : Prop := Denotes cs n ∨ ∃ ds, cs = '+' :: ds ∧ Denotes ds n

/-- The digits of a number denote it. -/
theorem denotes_decimalDigits (n : Nat) : Denotes (decimalDigits n) n where
  nonempty := decimalDigits_ne_nil n
  digits := areDigits_decimalDigits n
  value := Nat.ofDigitChars_toDigits (by decide) (by decide)

/-- A number is positive if the digits it is written with do not start with a zero. -/
theorem Denotes.pos {ds : List Char} {n : Nat} (h : Denotes ds n) (hhead : ds.head? ≠ some '0') :
    0 < n := by
  obtain ⟨hne, hdigits, rfl⟩ := h
  cases ds with
  | nil => exact absurd rfl hne
  | cons c ds =>
    have hrange := Char.isDigit_iff_toNat.mp (hdigits c List.mem_cons_self)
    have hc : c.toNat ≠ '0'.toNat := by
      intro hzero
      exact hhead (congrArg some (Char.toNat_inj.mp hzero))
    rw [Nat.ofDigitChars_cons, Nat.ofDigitChars_eq_ofDigitChars_zero]
    have hfirst : 0 < 10 * 0 + (c.toNat - '0'.toNat) := by omega
    have hpower : 0 < 10 ^ ds.length := Nat.pow_pos (by decide)
    exact Nat.add_pos_left (Nat.mul_pos hpower hfirst) _

/-! ## Reading digits -/

/-- A decimal digit is one to the base of ten. -/
theorem digitIn?_of_isDigit {c : Char} (h : c.isDigit = true) :
    digitIn? 10 c = some (digitValue c) := by
  have hrange := Char.isDigit_iff_toNat.mp h
  have hchars : '0' ≤ c ∧ c ≤ '9' := by simpa [Char.isDigit, Char.le_def] using h
  have hvalue : c.toNat - 48 < 10 := by
    have hnine : '9'.toNat = 57 := rfl
    omega
  unfold digitIn?
  rw [if_pos hchars]
  exact if_pos hvalue

/-- To the base of ten there are no others. -/
theorem isDigit_of_digitIn? {c : Char} {d : Nat} (h : digitIn? 10 c = some d) :
    c.isDigit = true := by
  unfold digitIn? at h
  by_cases hchars : '0' ≤ c ∧ c ≤ '9'
  · simpa [Char.isDigit, Char.le_def] using hchars
  · -- a letter counts from ten, so it is no digit of this base
    exfalso
    rw [if_neg hchars] at h
    by_cases hlower : 'a' ≤ c ∧ c ≤ 'f'
    · have hbound : 97 ≤ c.toNat := hlower.1
      rw [if_pos hlower, Option.bind_some, if_neg (by omega)] at h
      cases h
    · rw [if_neg hlower] at h
      by_cases hupper : 'A' ≤ c ∧ c ≤ 'F'
      · have hbound : 65 ≤ c.toNat := hupper.1
        rw [if_pos hupper, Option.bind_some, if_neg (by omega)] at h
        cases h
      · rw [if_neg hupper] at h
        cases h

theorem digitIn?_eq_none {c : Char} (h : c.isDigit = false) : digitIn? 10 c = none := by
  cases hd : digitIn? 10 c with
  | none => rfl
  | some d =>
    rw [isDigit_of_digitIn? hd] at h
    cases h

/-- A number only grows by further digits. -/
theorem le_ofDigitChars (n : Nat) (ds : List Char) : n ≤ Nat.ofDigitChars 10 ds n := by
  induction ds generalizing n with
  | nil => exact Nat.le_refl n
  | cons c ds ih =>
    rw [Nat.ofDigitChars_cons]
    have htail := ih (10 * n + (c.toNat - '0'.toNat))
    omega

/-- What has digits for all of its characters consists of digits. -/
theorem areDigits_of_mapM {cs : List Char} {ds : List Nat} (h : cs.mapM (digitIn? 10) = some ds) :
    AreDigits cs := by
  induction cs generalizing ds with
  | nil =>
    intro c hc
    cases hc
  | cons c cs ih =>
    rw [List.mapM_cons, Option.bind_eq_bind, Option.bind_eq_some_iff] at h
    obtain ⟨d, hd, hrest⟩ := h
    rw [Option.bind_eq_bind, Option.bind_eq_some_iff] at hrest
    obtain ⟨ds', hds, -⟩ := hrest
    intro c' hc'
    rcases List.mem_cons.mp hc' with rfl | hmem
    · exact isDigit_of_digitIn? hd
    · exact ih hds c' hmem

/-- Where every element has an image, the list has one. -/
theorem mapM_eq_some_map {α β : Type} {f : α → Option β} {g : α → β} {l : List α}
    (h : ∀ a ∈ l, f a = some (g a)) : l.mapM f = some (l.map g) := by
  induction l with
  | nil => rfl
  | cons a l ih =>
    rw [List.mapM_cons, h a List.mem_cons_self, ih fun b hb => h b (List.mem_cons_of_mem a hb)]
    rfl

theorem mapM_eq_some_self {α : Type} {f : α → Option α} {l : List α}
    (h : ∀ a ∈ l, f a = some a) : l.mapM f = some l := by
  have himages := mapM_eq_some_map (g := id) h
  rwa [List.map_id] at himages

/-- The digits of a text are worth what each of them is. -/
theorem mapM_digitIn? {cs : List Char} (h : AreDigits cs) :
    cs.mapM (digitIn? 10) = some (cs.map digitValue) :=
  mapM_eq_some_map fun c hc => digitIn?_of_isDigit (h c hc)

/-- Digits are read as the number they stand for, and nothing else is a number. -/
theorem numberIn?_eq_some_iff {cs : List Char} {n : Nat} :
    numberIn? 10 cs = some n ↔ AreDigits cs ∧ Nat.ofDigitChars 10 cs 0 = n := by
  have hvalue : numberOf 10 (cs.map digitValue) = Nat.ofDigitChars 10 cs 0 := by
    rw [numberOf, List.foldl_map]
    rfl
  unfold numberIn?
  constructor
  · intro h
    obtain ⟨ds, hds, hn⟩ := Option.map_eq_some_iff.mp h
    have hdigits := areDigits_of_mapM hds
    rw [mapM_digitIn? hdigits] at hds
    obtain rfl := Option.some.inj hds
    exact ⟨hdigits, hvalue.symm.trans hn⟩
  · rintro ⟨hdigits, rfl⟩
    rw [mapM_digitIn? hdigits, Option.map_some, hvalue]

/-- A text that denotes a number is read as that number. -/
theorem Denotes.numberIn? {ds : List Char} {n : Nat} (h : Denotes ds n) :
    numberIn? 10 ds = some n :=
  numberIn?_eq_some_iff.mpr ⟨h.digits, h.value⟩

/-- Digits are read if the number that they make, behind those before, is within the limit. -/
theorem readDigits_eq_ok_iff {limit n m : Nat} {cs : List Char} (hn : n ≤ limit) :
    readDigits limit n cs = .ok m ↔
      AreDigits cs ∧ Nat.ofDigitChars 10 cs n = m ∧ m ≤ limit := by
  induction cs generalizing n with
  | nil =>
    have hnone : AreDigits [] := by
      intro c hc
      cases hc
    constructor
    · intro h
      cases h
      exact ⟨hnone, rfl, hn⟩
    · rintro ⟨-, rfl, -⟩
      rfl
  | cons c cs ih =>
    rw [readDigits]
    cases hc : c.isDigit with
    | false =>
      rw [digitIn?_eq_none hc]
      refine iff_of_false (by simp) ?_
      rintro ⟨hdigits, -⟩
      rw [hdigits c List.mem_cons_self] at hc
      cases hc
    | true =>
      have hcons : AreDigits (c :: cs) ↔ AreDigits cs := by
        constructor
        · exact fun h d hd => h d (List.mem_cons_of_mem c hd)
        · intro h d hd
          rcases List.mem_cons.mp hd with rfl | hd
          · exact hc
          · exact h d hd
      have hvalue : 10 * n + digitValue c = 10 * n + (c.toNat - '0'.toNat) := rfl
      rw [digitIn?_of_isDigit hc, Nat.ofDigitChars_cons, ← hvalue, hcons]
      dsimp only
      by_cases hlarge : limit < 10 * n + digitValue c
      · rw [if_pos hlarge]
        refine iff_of_false (by simp) ?_
        rintro ⟨-, rfl, hm⟩
        have hgrown := le_ofDigitChars (10 * n + digitValue c) cs
        omega
      · rw [if_neg hlarge]
        exact ih (Nat.le_of_not_lt hlarge)

/-- **The whole numbers that are read** are those within the limit, with a plus sign or without. -/
theorem readWhole_eq_ok_iff {limit n : Nat} {cs : List Char} :
    readWhole limit cs = .ok n ↔ IsWhole cs n ∧ n ≤ limit := by
  have hread : ∀ ds : List Char, ds ≠ [] →
      (readDigits limit 0 ds = .ok n ↔ Denotes ds n ∧ n ≤ limit) := by
    intro ds hne
    rw [readDigits_eq_ok_iff (Nat.zero_le limit)]
    constructor
    · rintro ⟨hdigits, hvalue, hn⟩
      exact ⟨⟨hne, hdigits, hvalue⟩, hn⟩
    · rintro ⟨⟨-, hdigits, hvalue⟩, hn⟩
      exact ⟨hdigits, hvalue, hn⟩
  have hplus : ∀ ds : List Char, ¬ Denotes ('+' :: ds) n := by
    intro ds h
    cases h.digits '+' List.mem_cons_self
  unfold readWhole
  split
  · refine iff_of_false (by simp) ?_
    rintro ⟨h | ⟨ds, hcons, -⟩, -⟩
    · exact h.nonempty rfl
    · cases hcons
  · refine iff_of_false (by simp) ?_
    rintro ⟨h | ⟨ds, hcons, h⟩, -⟩
    · exact hplus [] h
    · cases hcons
      exact h.nonempty rfl
  · next ds hne =>
    have hsign : IsWhole ('+' :: ds) n ↔ Denotes ds n := by
      constructor
      · rintro (h | ⟨ds', hcons, h⟩)
        · exact absurd h (hplus ds)
        · cases hcons
          exact h
      · exact fun h => .inr ⟨ds, rfl, h⟩
    rw [hsign]
    exact hread ds fun hnil => hne (by rw [hnil])
  · next hnil hsigned hsign =>
    have hunsigned : IsWhole cs n ↔ Denotes cs n := by
      constructor
      · rintro (h | ⟨ds, rfl, -⟩)
        · exact h
        · exact absurd rfl (hsign ds)
      · exact .inl
    rw [hunsigned]
    exact hread cs hnil

end DeliveryDesk.Text

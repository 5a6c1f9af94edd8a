import DeliveryDesk.Time.Display
import DeliveryDesk.Proofs.Json.Numbers

/-!
# Numbers in timestamps

The numbers of a timestamp are read off the front of a text, and how many digits they may have
differs from field to field. `Takes` says what all these readers have in common, whatever the
numbers look like: what a reader returns was written at the front, and what is written at the front
is returned if no digit follows it. There is a proof of it for each reader (`takes_exactly?`,
`takes_number?`, `takes_lenientTwo?`).

Numbers are shown with a least number of digits (`padded`). Such a text is read back as the number
it shows (`numberOf_padded`), and digits that were read are shown again as they stood, if all of
them are asked for (`padded_numberOf`).
-/

namespace DeliveryDesk.Time

open Text

/-! ## Digits -/

/-- The digits of timestamps are the digits of the library. -/
theorem isDigit_eq (c : Char) : isDigit c = c.isDigit := by
  unfold isDigit digitValue?
  by_cases hrange : '0' ≤ c ∧ c ≤ '9'
  · have hdigit : c.isDigit = true := by simpa [Char.isDigit, Char.le_def] using hrange
    rw [if_pos hrange, hdigit]
    rfl
  · have hdigit : ¬ c.isDigit = true := by simpa [Char.isDigit, Char.le_def] using hrange
    rw [if_neg hrange, Bool.eq_false_iff.mpr hdigit]
    rfl

theorem digitValue?_of_isDigit {c : Char} (h : c.isDigit = true) :
    digitValue? c = some (digitValue c) := by
  have hrange : '0' ≤ c ∧ c ≤ '9' := by simpa [Char.isDigit, Char.le_def] using h
  rw [digitValue?, if_pos hrange]
  rfl

/-- The digits lie side by side. -/
theorem toNat_of_isDigit {c : Char} (h : c.isDigit = true) : 48 ≤ c.toNat ∧ c.toNat ≤ 57 :=
  Char.isDigit_iff_toNat.mp h

/-- A digit is no blank. -/
theorem isBlank_of_isDigit {c : Char} (h : c.isDigit = true) : isBlank c = false := by
  have hrange := toNat_of_isDigit h
  unfold isBlank
  simp
  omega

/-- A digit is less than ten. -/
theorem digitValue_lt {c : Char} (h : c.isDigit = true) : digitValue c < 10 := by
  have hrange := toNat_of_isDigit h
  have hvalue : digitValue c = c.toNat - 48 := rfl
  omega

/-- No two digits have one value. -/
theorem digitValue_injective {c d : Char} (hc : c.isDigit = true) (hd : d.isDigit = true)
    (h : digitValue c = digitValue d) : c = d := by
  have hrange := toNat_of_isDigit hc
  have hrange' := toNat_of_isDigit hd
  have hvalue : digitValue c = c.toNat - 48 := rfl
  have hvalue' : digitValue d = d.toNat - 48 := rfl
  exact Char.toNat_inj.mp (by omega)

/-- No digit follows. -/
def NoDigit (rest : List Char) : Prop := ∀ c ∈ rest.head?, c.isDigit = false

/-- No digit follows where another character does. -/
theorem noDigit_cons {c : Char} {rest : List Char} (h : c.isDigit = false) :
    NoDigit (c :: rest) := by
  intro d hd
  obtain rfl : c = d := Option.some.inj hd
  exact h

theorem noDigit_nil : NoDigit [] := by
  intro c hc
  cases hc

instance (cs : List Char) : Decidable (AreDigits cs) :=
  List.decidableBAll _ cs

/-! ## The number that digits denote -/

/-- A digit at the end makes the number ten times as large, and more by itself. -/
theorem numberOf_concat {ds : List Char} {c : Char} (hc : c.isDigit = true) :
    numberOf (ds ++ [c]) = numberOf ds * 10 + digitValue c := by
  unfold numberOf
  rw [List.foldl_append, List.foldl_cons, List.foldl_nil, digitValue?_of_isDigit hc]
  rfl

/-- Digits with one at the end are digits, and so is the last one. -/
theorem areDigits_of_concat {ds : List Char} {c : Char} (h : AreDigits (ds ++ [c])) :
    AreDigits ds ∧ c.isDigit = true :=
  ⟨fun d hd => h d (List.mem_append_left _ hd), h c (List.mem_append_right _ List.mem_cons_self)⟩

/-- Digits denote what the library's reader makes of them. -/
theorem numberOf_eq {ds : List Char} (h : AreDigits ds) :
    numberOf ds = Nat.ofDigitChars 10 ds 0 := by
  induction ds using List.reverseRecOn with
  | nil => rfl
  | append_singleton ds c ih =>
    obtain ⟨hds, hc⟩ := areDigits_of_concat h
    have hvalue : digitValue c = c.toNat - '0'.toNat := rfl
    rw [numberOf_concat hc, ih hds, Nat.ofDigitChars_append, Nat.ofDigitChars_cons,
      Nat.ofDigitChars_nil, Nat.mul_comm, hvalue]

/-- A number has no more digits than it was written with. -/
theorem numberOf_lt {ds : List Char} (h : AreDigits ds) : numberOf ds < Nat.pow 10 ds.length := by
  induction ds using List.reverseRecOn with
  | nil => exact Nat.zero_lt_one
  | append_singleton ds c ih =>
    obtain ⟨hds, hc⟩ := areDigits_of_concat h
    have hbound := ih hds
    have hdigit := digitValue_lt hc
    have hpower : Nat.pow 10 (ds.length + 1) = Nat.pow 10 ds.length * 10 := rfl
    rw [numberOf_concat hc, List.length_append, List.length_singleton, hpower]
    omega

/-- Among digits of one length, each number is written once. -/
theorem numberOf_injective : ∀ {xs ys : List Char}, AreDigits xs → AreDigits ys →
    xs.length = ys.length → numberOf xs = numberOf ys → xs = ys := by
  intro xs
  induction xs using List.reverseRecOn with
  | nil =>
    intro ys _ _ hlength _
    exact (List.eq_nil_of_length_eq_zero hlength.symm).symm
  | append_singleton xs c ih =>
    intro ys hxs hys hlength hnumber
    obtain ⟨hxs, hc⟩ := areDigits_of_concat hxs
    cases ys using List.reverseRecOn with
    | nil => simp at hlength
    | append_singleton ys d =>
      obtain ⟨hys, hd⟩ := areDigits_of_concat hys
      rw [numberOf_concat hc, numberOf_concat hd] at hnumber
      have hlast := digitValue_lt hc
      have hlast' := digitValue_lt hd
      have hfront : xs = ys := ih hxs hys (by simpa using hlength) (by omega)
      have hback : c = d := digitValue_injective hc hd (by omega)
      rw [hfront, hback]

/-! ## Numbers that are shown -/

/-- Filling up with zeros leaves digits. -/
theorem areDigits_padded (width n : Nat) : AreDigits (padded width n).toList := by
  unfold padded
  rw [String.toList_ofList]
  intro c hc
  rcases List.mem_append.mp hc with hzero | hdigit
  · rw [List.eq_of_mem_replicate hzero]
    rfl
  · exact areDigits_decimalDigits n c hdigit

/-- A number is read back, with as many zeros in front of it as there may be. -/
theorem numberOf_padded (width n : Nat) : numberOf (padded width n).toList = n := by
  rw [numberOf_eq (areDigits_padded width n)]
  unfold padded
  rw [String.toList_ofList, Nat.ofDigitChars_append, Nat.ofDigitChars_replicate_zero]
  simp only [Nat.mul_zero, decimalDigits]
  exact Nat.ofDigitChars_toDigits (by decide) (by decide)

/-- No two numbers are shown alike. -/
theorem padded_injective {width m n : Nat} (h : padded width m = padded width n) : m = n := by
  rw [← numberOf_padded width m, h, numberOf_padded]

/-- A number that is not too large is shown with as many digits as are asked for. -/
theorem length_padded {width n : Nat} (hwidth : 0 < width) (hn : n < Nat.pow 10 width) :
    (padded width n).toList.length = width := by
  have hlength : (decimalDigits n).length ≤ width :=
    (Nat.length_toDigits_le_iff (by decide) hwidth).mpr hn
  unfold padded
  rw [String.toList_ofList, List.length_append, List.length_replicate]
  omega

/-- Digits that were read are shown as they stood. -/
theorem padded_numberOf {width : Nat} {ds : List Char} (hwidth : 0 < width) (hds : AreDigits ds)
    (hlength : ds.length = width) : padded width (numberOf ds) = String.ofList ds := by
  have hbound : numberOf ds < Nat.pow 10 width := hlength ▸ numberOf_lt hds
  have hsame : (padded width (numberOf ds)).toList = ds := by
    refine numberOf_injective (areDigits_padded _ _) hds ?_ (numberOf_padded _ _)
    rw [length_padded hwidth hbound, hlength]
  rw [← String.ofList_toList (s := padded width (numberOf ds)), hsame]

/-! ## Numbers that are read -/

/-- Digits that write a number, as many of them as are allowed. -/
structure Writes (allowed : Nat → Prop) (w : List Char) (n : Nat) : Prop where
  digits : AreDigits w
  length : allowed w.length
  value : numberOf w = n

instance {allowed : Nat → Prop} [DecidablePred allowed] (w : List Char) (n : Nat) :
    Decidable (Writes allowed w n) :=
  decidable_of_iff (AreDigits w ∧ allowed w.length ∧ numberOf w = n)
    ⟨fun ⟨hdigits, hlength, hvalue⟩ => ⟨hdigits, hlength, hvalue⟩,
      fun ⟨hdigits, hlength, hvalue⟩ => ⟨hdigits, hlength, hvalue⟩⟩

/-- What the readers of numbers have in common. -/
structure Takes (read : List Char → Option (Nat × List Char)) (Written : List Char → Nat → Prop) :
    Prop where
  /-- A number that is written at the front is read, if no digit follows. -/
  read_append {w rest : List Char} {n : Nat} :
    Written w n → NoDigit rest → read (w ++ rest) = some (n, rest)
  /-- A number that is read was written at the front. -/
  exists_written {cs rest : List Char} {n : Nat} :
    read cs = some (n, rest) → ∃ w, Written w n ∧ cs = w ++ rest

/-- Digits are taken as far as they go or may go. -/
theorem takeDigits_append {most : Nat} {ds rest : List Char} (hds : AreDigits ds)
    (hmost : ds.length ≤ most) (hrest : NoDigit rest) :
    takeDigits most (ds ++ rest) = (ds, rest) := by
  induction ds generalizing most with
  | nil =>
    cases most with
    | zero => simp [takeDigits]
    | succ most =>
      cases rest with
      | nil => rfl
      | cons c rest =>
        have hc : c.isDigit = false := hrest c rfl
        simp [takeDigits, isDigit_eq, hc]
  | cons c ds ih =>
    have hc : c.isDigit = true := hds c List.mem_cons_self
    cases most with
    | zero => simp at hmost
    | succ most =>
      have htail := ih (fun d hd => hds d (List.mem_cons_of_mem c hd)) (by simpa using hmost)
      simp [takeDigits, isDigit_eq, hc, htail]

/-- Taking digits takes digits only, not too many of them, and from the front. -/
theorem takeDigits_spec (most : Nat) (cs : List Char) :
    AreDigits (takeDigits most cs).1 ∧ (takeDigits most cs).1.length ≤ most ∧
      cs = (takeDigits most cs).1 ++ (takeDigits most cs).2 := by
  have hnone : AreDigits [] := by
    intro c hc
    cases hc
  induction most generalizing cs with
  | zero => exact ⟨hnone, Nat.le_refl 0, rfl⟩
  | succ most ih =>
    cases cs with
    | nil => exact ⟨hnone, Nat.zero_le _, rfl⟩
    | cons c cs =>
      obtain ⟨hdigits, hlength, hsplit⟩ := ih cs
      rw [takeDigits]
      cases hc : c.isDigit with
      | false =>
        rw [isDigit_eq, hc]
        exact ⟨hnone, Nat.zero_le _, rfl⟩
      | true =>
        rw [isDigit_eq, hc, if_pos rfl]
        refine ⟨?_, Nat.succ_le_succ hlength, congrArg (c :: ·) hsplit⟩
        intro d hd
        rcases List.mem_cons.mp hd with rfl | hd
        · exact hc
        · exact hdigits d hd

/-- A reader of so many digits takes them. -/
theorem takes_exactly? (count : Nat) : Takes (exactly? count) (Writes (· = count)) where
  read_append := by
    intro w rest n hw hrest
    obtain ⟨hdigits, hlength, hvalue⟩ := hw
    rw [exactly?, takeDigits_append hdigits (Nat.le_of_eq hlength) hrest]
    simp [hlength, hvalue]
  exists_written := by
    intro cs rest n h
    obtain ⟨hdigits, -, hsplit⟩ := takeDigits_spec count cs
    rw [exactly?] at h
    simp only at h
    split at h
    · next hlength =>
      cases h
      exact ⟨_, ⟨hdigits, hlength, rfl⟩, hsplit⟩
    · cases h

/-- A reader of a number takes one digit at least, and as many as there are up to its limit. -/
theorem takes_number? (most : Nat) :
    Takes (number? most) (Writes fun length => 1 ≤ length ∧ length ≤ most) where
  read_append := by
    intro w rest n hw hrest
    obtain ⟨hdigits, hlength, hvalue⟩ := hw
    rw [number?, takeDigits_append hdigits hlength.2 hrest]
    cases w with
    | nil => simp at hlength
    | cons c w => simp [hvalue]
  exists_written := by
    intro cs rest n h
    obtain ⟨hdigits, hlength, hsplit⟩ := takeDigits_spec most cs
    rw [number?] at h
    split at h
    · cases h
    · next ds tail hne htake =>
      cases h
      rw [htake] at hdigits hlength hsplit
      have hpos : 1 ≤ ds.length := List.length_pos_iff.mpr hne
      exact ⟨ds, ⟨hdigits, ⟨hpos, hlength⟩, rfl⟩, hsplit⟩

end DeliveryDesk.Time

import DeliveryDesk.Proofs.Time.Calendar
import DeliveryDesk.Proofs.Time.Writing
import Mathlib.Data.List.Nodup

/-!
# What is shown of a time

A time is shown by the name of its month, its other numbers, and the half of the day. Its parts are
set apart by characters that none of them holds, so they can be told again, and different times are
shown differently (`CivilTime.display_injective`); on a twelve-hour clock the half of the day makes
up for the hour. What is shown starts with a letter (`CivilTime.head_display`), as no timestamp
does.
-/

namespace DeliveryDesk.Time

open Text

/-! ## Numbers and years -/

/-- A number that is shown holds digits only. -/
theorem notMem_padded {c : Char} (h : c.isDigit = false) (width n : Nat) :
    c ∉ (padded width n).toList := by
  intro hmem
  have hdigit := areDigits_padded width n c hmem
  rw [h] at hdigit
  cases hdigit

theorem decimalText_eq (n : Nat) : decimalText n = padded 0 n := by
  unfold decimalText padded
  simp

/-- The sign that a year is shown with. -/
def yearSign (y : Int) : List Char := if y < 0 then ['-'] else if 9999 < y then ['+'] else []

/-- A year is shown with its sign, if it has one, and at least four digits. -/
theorem toList_yearText (y : Int) :
    (yearText y).toList = yearSign y ++ (padded 4 y.natAbs).toList := by
  have hminus : "-".toList = ['-'] := rfl
  have hplus : "+".toList = ['+'] := rfl
  unfold yearText yearSign
  split
  · rw [String.toList_append, hminus]
  · split
    · rw [String.toList_append, hplus]
    · rw [List.nil_append]

theorem mem_yearSign {y : Int} {c : Char} (h : c ∈ yearSign y) : c = '-' ∨ c = '+' := by
  unfold yearSign at h
  split at h
  · exact .inl (List.mem_singleton.mp h)
  · split at h
    · exact .inr (List.mem_singleton.mp h)
    · cases h

/-- The years before year 0 are those with a minus. -/
theorem yearSign_eq_minus_iff {y : Int} : yearSign y = ['-'] ↔ y < 0 := by
  unfold yearSign
  split
  · next hbelow => exact iff_of_true rfl hbelow
  · next hbelow => split <;> exact iff_of_false (by decide) hbelow

theorem notMem_yearText (y : Int) : ',' ∉ (yearText y).toList := by
  intro hmem
  rw [toList_yearText] at hmem
  rcases List.mem_append.mp hmem with hsign | hnumber
  · rcases mem_yearSign hsign with h | h <;> cases h
  · exact notMem_padded rfl _ _ hnumber

/-- The signs tell the years before year 0 from those after 9999, and both from those between. -/
theorem yearText_injective {y z : Int} (h : yearText y = yearText z) : y = z := by
  have hdigits : ∀ x : Int,
      (yearText x).toList.filter Char.isDigit = (padded 4 x.natAbs).toList := by
    intro x
    have hsign : (yearSign x).filter Char.isDigit = [] := by
      rw [List.filter_eq_nil_iff]
      intro c hc
      rcases mem_yearSign hc with rfl | rfl <;> decide
    have hnumber := List.filter_eq_self.mpr (areDigits_padded 4 x.natAbs)
    rw [toList_yearText, List.filter_append, hsign, hnumber, List.nil_append]
  have hsize : y.natAbs = z.natAbs := by
    have hpadded := hdigits y
    rw [h, hdigits z] at hpadded
    exact padded_injective (String.toList_injective hpadded.symm)
  have hsign : yearSign y = yearSign z := by
    have hlist := congrArg String.toList h
    rw [toList_yearText, toList_yearText, hsize] at hlist
    exact List.append_cancel_right hlist
  have hbelow : y < 0 ↔ z < 0 := by
    rw [← yearSign_eq_minus_iff, hsign, yearSign_eq_minus_iff]
  omega

/-! ## Times -/

/-- What ends at the first occurrence of a character is told by it. -/
theorem eq_of_append_cons_eq {c : Char} : ∀ {xs ys rest rest' : List Char}, c ∉ xs → c ∉ ys →
    xs ++ c :: rest = ys ++ c :: rest' → xs = ys ∧ rest = rest' := by
  intro xs
  induction xs with
  | nil =>
    intro ys rest rest' _ hys h
    cases ys with
    | nil => exact ⟨rfl, (List.cons.inj h).2⟩
    | cons y ys => exact absurd ((List.cons.inj h).1 ▸ List.mem_cons_self) hys
  | cons x xs ih =>
    intro ys rest rest' hxs hys h
    cases ys with
    | nil => exact absurd ((List.cons.inj h).1 ▸ List.mem_cons_self) hxs
    | cons y ys =>
      obtain ⟨hhead, htail⟩ := List.cons.inj h
      obtain ⟨hrest, hrest'⟩ := ih (fun hc => hxs (List.mem_cons_of_mem x hc))
        (fun hc => hys (List.mem_cons_of_mem y hc)) htail
      exact ⟨by rw [hhead, hrest], hrest'⟩

namespace CivilTime

variable {t u : CivilTime}

/-- The name of a month. -/
def monthName (t : CivilTime) : String := (monthNames[t.date.month - 1]?).getD ""

/-- The half of the day. -/
def half (t : CivilTime) : String := if t.hour < 12 then "AM" else "PM"

theorem monthName_mem (hdate : t.date.isValid = true) : t.monthName ∈ monthNames := by
  obtain ⟨k, hk, hmonth, -⟩ := Date.isValid_iff.mp hdate
  have hlength : k < monthNames.length := hk
  unfold monthName
  rw [hmonth, Nat.add_sub_cancel, List.getElem?_eq_getElem hlength, Option.getD_some]
  exact List.getElem_mem hlength

/-- The months have different names. -/
theorem month_eq_of_monthName_eq (ht : t.date.isValid = true) (hu : u.date.isValid = true)
    (h : t.monthName = u.monthName) : t.date.month = u.date.month := by
  obtain ⟨k, hk, htk, -⟩ := Date.isValid_iff.mp ht
  obtain ⟨l, hl, hul, -⟩ := Date.isValid_iff.mp hu
  have hnodup : monthNames.Nodup := by decide
  have hk' : k < monthNames.length := hk
  have hl' : l < monthNames.length := hl
  unfold monthName at h
  rw [htk, hul, Nat.add_sub_cancel, Nat.add_sub_cancel, List.getElem?_eq_getElem hk',
    List.getElem?_eq_getElem hl', Option.getD_some, Option.getD_some] at h
  have hsame : k = l := hnodup.getElem_inj_iff.mp (String.toList_injective (congrArg _ h))
  rw [htk, hul, hsame]

/-- The characters that are shown of a time. -/
theorem toList_display (t : CivilTime) : t.display.toList =
    t.monthName.toList ++ ' ' :: ((padded 0 t.date.day).toList ++ ',' :: ' ' ::
      ((yearText t.date.year).toList ++ ',' :: ' ' :: ((padded 2 (twelveHour t.hour)).toList ++
        ':' :: ((padded 2 t.minute).toList ++ ':' :: ((padded 2 t.second).toList ++
          ' ' :: t.half.toList))))) := by
  have hhalf : (if t.hour < 12 then " AM" else " PM").toList = ' ' :: t.half.toList := by
    unfold half
    split <;> rfl
  have hblank : " ".toList = [' '] := rfl
  have hcomma : ", ".toList = [',', ' '] := rfl
  have hcolon : ":".toList = [':'] := rfl
  unfold display monthName
  rw [decimalText_eq]
  simp only [String.toList_append, List.append_assoc, hhalf, hblank, hcomma, hcolon,
    List.cons_append, List.nil_append]

/-- The hour is told by the twelve-hour clock and the half of the day. -/
theorem hour_eq_of_twelveHour_eq (ht : t.hour < 24) (hu : u.hour < 24)
    (hhour : twelveHour t.hour = twelveHour u.hour) (hhalf : t.half = u.half) :
    t.hour = u.hour := by
  have hside : t.hour < 12 ↔ u.hour < 12 := by
    unfold half at hhalf
    split at hhalf <;> split at hhalf
    · next h h' => exact iff_of_true h h'
    · exact absurd hhalf (by decide)
    · exact absurd hhalf (by decide)
    · next h h' => exact iff_of_false h h'
  unfold twelveHour at hhour
  split at hhour <;> split at hhour <;> omega

/-- **Different times are shown differently.** -/
theorem display_injective (ht : t.date.isValid = true) (hu : u.date.isValid = true)
    (hhour : t.hour < 24) (hhour' : u.hour < 24) (h : t.display = u.display) : t = u := by
  have hname : ∀ v : CivilTime, v.date.isValid = true → ' ' ∉ v.monthName.toList := by
    have hall : ∀ name ∈ monthNames, ' ' ∉ name.toList := by decide
    exact fun v hv => hall _ (monthName_mem hv)
  have hlist := congrArg String.toList h
  rw [toList_display, toList_display] at hlist
  -- every part ends at a character that it does not hold
  obtain ⟨hmonth, hlist⟩ := eq_of_append_cons_eq (hname t ht) (hname u hu) hlist
  obtain ⟨hday, hlist⟩ :=
    eq_of_append_cons_eq (notMem_padded rfl _ _) (notMem_padded rfl _ _) hlist
  obtain ⟨hyear, hlist⟩ :=
    eq_of_append_cons_eq (notMem_yearText _) (notMem_yearText _) (List.cons.inj hlist).2
  obtain ⟨htwelve, hlist⟩ :=
    eq_of_append_cons_eq (notMem_padded rfl _ _) (notMem_padded rfl _ _) (List.cons.inj hlist).2
  obtain ⟨hminute, hlist⟩ :=
    eq_of_append_cons_eq (notMem_padded rfl _ _) (notMem_padded rfl _ _) hlist
  obtain ⟨hsecond, hhalf⟩ :=
    eq_of_append_cons_eq (notMem_padded rfl _ _) (notMem_padded rfl _ _) hlist
  have hsame : ∀ {width m n : Nat},
      (padded width m).toList = (padded width n).toList → m = n :=
    fun hp => padded_injective (String.toList_injective hp)
  have hmonths := month_eq_of_monthName_eq ht hu (String.toList_injective hmonth)
  have hyears := yearText_injective (String.toList_injective hyear)
  have hhours := hour_eq_of_twelveHour_eq hhour hhour' (hsame htwelve)
    (String.toList_injective hhalf)
  obtain ⟨⟨_, _, _⟩, _, _, _⟩ := t
  obtain ⟨⟨_, _, _⟩, _, _, _⟩ := u
  simp only [CivilTime.mk.injEq, Date.mk.injEq]
  exact ⟨⟨hyears, hmonths, hsame hday⟩, hhours, hsame hminute, hsame hsecond⟩

/-! ## Not a timestamp -/

/-- What is shown starts with a letter. -/
theorem head_display (hdate : t.date.isValid = true) : ∃ c tail, t.display.toList = c :: tail ∧
    isBlank c = false ∧ c.isDigit = false ∧ c ≠ '+' ∧ c ≠ '-' := by
  have hall : ∀ name ∈ monthNames, name.toList.head?.any (fun c =>
      !isBlank c && !c.isDigit && c != '+' && c != '-') = true := by decide
  have hname := hall _ (monthName_mem hdate)
  rw [toList_display]
  generalize t.monthName.toList = name at hname
  cases name with
  | nil => cases hname
  | cons c name => exact ⟨c, _, rfl, by simpa [and_assoc] using hname⟩

end CivilTime

end DeliveryDesk.Time

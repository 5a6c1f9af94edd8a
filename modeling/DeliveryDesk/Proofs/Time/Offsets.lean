import DeliveryDesk.Proofs.Time.Display
import DeliveryDesk.Proofs.Time.Gaps

/-!
# Offsets and local times

A timestamp with an offset names an instant (`NamesInstant`), and all that is shown of it is what
the clocks of the place show at that instant: the offset is notation only
(`offsets_are_notation`). Where the clocks have a fixed offset nothing is lost but the fraction of
the second, for the calendar has one date for every day, and dates are shown differently.

A timestamp without an offset is shown as it was written, digit by digit (`Parts.shown`), wherever
a clock shows it at all; behind it may stand the offset of the place, if that is fixed
(`local_times_are_shown_as_written`). Two ways of reading and two conversions meet here: one goes
to the instant and back, and undoes itself; the other asks only whether there is an instant.
-/

namespace DeliveryDesk.Time

open Text

/-! ## Instants -/

/-- A timestamp with an offset names the instant, counted in seconds, at which a clock ahead of
universal time by the offset shows the time that is written. -/
def NamesInstant (raw : String) (n : Int) : Prop :=
  ∃ t o, InternetText raw.toList t o ∧ CivilTime.Reads (n + o) t

/-- What is accepted names an instant, unless it is a leap second. -/
theorem exists_namesInstant_iff {raw : String} : (∃ n, NamesInstant raw n) ↔
    ∃ t o, internetTime? raw.toList = some (t, o) ∧ t.second < 60 := by
  constructor
  · intro h
    obtain ⟨n, t, o, hwritten, hreads⟩ := h
    exact ⟨t, o, internetTime?_eq_some_iff.mpr ⟨hwritten, hreads.isValid⟩, hreads.second⟩
  · intro h
    obtain ⟨t, o, hread, hsecond⟩ := h
    obtain ⟨hwritten, hvalid⟩ := internetTime?_eq_some_iff.mp hread
    have hclock := CivilTime.ofClock_clock hvalid
    rw [CivilTime.isLeapSecond_eq_false hsecond] at hclock
    refine ⟨t.clock - o, t, o, hwritten, ?_⟩
    rw [Int.sub_add_cancel]
    exact CivilTime.reads_iff.mpr hclock.symm

/-- What is shown of a timestamp with an offset is what the clocks show at its instant. -/
theorem format_of_namesInstant {raw : String} {n : Int} (h : NamesInstant raw n) (clocks : Clocks) :
    clocks.format raw = (CivilTime.ofClock (n + clocks.offsetAt n) false).display := by
  obtain ⟨t, o, hwritten, hreads⟩ := h
  have hread := internetTime?_eq_some_iff.mpr ⟨hwritten, hreads.isValid⟩
  have hinstant : t.clock - o = n := by
    rw [hreads.clock_eq]
    omega
  unfold Clocks.format
  rw [hread]
  unfold Clocks.convert
  simp only [hinstant, CivilTime.isLeapSecond_eq_false hreads.second]

/-- **Offsets are only notation.** The timestamps with an offset that are accepted, leap seconds
apart, are those that name an instant. Two that name the same instant are shown alike wherever the
clocks are. Under a fixed offset the converse holds too: the date and the time that are shown are
those of the calendar for the instant and the offset, whatever the year. -/
theorem offsets_are_notation :
    (∀ raw, (∃ n, NamesInstant raw n) ↔
      ∃ t o, internetTime? raw.toList = some (t, o) ∧ t.second < 60) ∧
    ∀ a b m n, NamesInstant a m → NamesInstant b n →
      (m = n → ∀ clocks : Clocks, clocks.format a = clocks.format b) ∧
      ∀ o, (formatTimestamp (.fixed o) a = formatTimestamp (.fixed o) b → m = n) ∧
        ∃ t, CivilTime.Reads (m + o) t ∧ formatTimestamp (.fixed o) a = t.display := by
  refine ⟨fun raw => exists_namesInstant_iff, fun a b m n ha hb => ⟨?_, ?_⟩⟩
  · intro hsame clocks
    rw [format_of_namesInstant ha, format_of_namesInstant hb, hsame]
  · intro o
    have hreads : ∀ i : Int, CivilTime.Reads i (CivilTime.ofClock i false) :=
      fun i => CivilTime.reads_iff.mpr rfl
    have hshown : ∀ raw i, NamesInstant raw i → formatTimestamp (.fixed o) raw =
        (CivilTime.ofClock (i + o) false).display :=
      fun raw i hi => format_of_namesInstant hi (Zone.fixed o).clocks
    refine ⟨fun hsame => ?_, _, hreads (m + o), hshown a m ha⟩
    rw [hshown a m ha, hshown b n hb] at hsame
    have htimes := CivilTime.display_injective (numbered_iff.mp (hreads (m + o)).day).1
      (numbered_iff.mp (hreads (n + o)).day).1 (hreads (m + o)).hour (hreads (n + o)).hour hsame
    have hclocks : m + o = n + o := by
      rw [← (hreads (m + o)).clock_eq, htimes, (hreads (n + o)).clock_eq]
    omega

/-- Two timestamps of one instant that lies in the year after 9999, one of them with a fraction. -/
theorem offsets_are_notation_year_10000 :
    NamesInstant "9999-12-31T23:30:00-01:00" 253402302600 ∧
    NamesInstant "9999-12-31t22:30:00.25-02:00" 253402302600 ∧
    (∀ clocks : Clocks, clocks.format "9999-12-31T23:30:00-01:00" =
      clocks.format "9999-12-31t22:30:00.25-02:00") ∧
    ∃ t, CivilTime.Reads (253402302600 + 3600) t ∧
      formatTimestamp (.fixed 3600) "9999-12-31T23:30:00-01:00" = t.display ∧
      t.display = "Jan 1, +10000, 01:30:00 AM" := by
  have hread : internetTime? "9999-12-31T23:30:00-01:00".toList =
      some (⟨⟨9999, 12, 31⟩, 23, 30, 0⟩, -3600) := by decide +kernel
  have hread' : internetTime? "9999-12-31t22:30:00.25-02:00".toList =
      some (⟨⟨9999, 12, 31⟩, 22, 30, 0⟩, -7200) := by decide +kernel
  have ha : NamesInstant "9999-12-31T23:30:00-01:00" 253402302600 :=
    ⟨_, _, (internetTime?_eq_some_iff.mp hread).1, CivilTime.reads_iff.mpr (by decide +kernel)⟩
  have hb : NamesInstant "9999-12-31t22:30:00.25-02:00" 253402302600 :=
    ⟨_, _, (internetTime?_eq_some_iff.mp hread').1, CivilTime.reads_iff.mpr (by decide +kernel)⟩
  obtain ⟨hsame, hfixed⟩ := offsets_are_notation.2 _ _ _ _ ha hb
  obtain ⟨-, t, hreads, hshown⟩ := hfixed 3600
  refine ⟨ha, hb, hsame rfl, t, hreads, hshown, ?_⟩
  rw [CivilTime.reads_iff.mp hreads]
  decide +kernel

/-! ## Local times -/

/-- What is shown of a time that is written with all of its digits: the year, the minute and the
second stand as they are written. -/
def Parts.shown (p : Parts) (t : CivilTime) : String :=
  t.monthName ++ " " ++ decimalText t.date.day ++ ", " ++ String.ofList p.year ++ ", " ++
    padded 2 (twelveHour t.hour) ++ ":" ++ String.ofList p.minute ++ ":" ++
    String.ofList p.second ++ " " ++ t.half

section Local

variable {p : Parts} {t : CivilTime} {o : Int}

theorem Writes.padded_eq {width : Nat} {w : List Char} {n : Nat} (h : Writes (· = width) w n)
    (hwidth : 0 < width) : padded width n = String.ofList w := by
  rw [← h.value]
  exact padded_numberOf hwidth h.digits h.length

theorem Parts.Strict.year_bounds (hp : p.Strict t) : 0 ≤ t.date.year ∧ t.date.year ≤ 9999 := by
  obtain ⟨n, hwrites, hyear⟩ := hp.year
  have hbound := numberOf_lt hwrites.digits
  have hpower : Nat.pow 10 4 = 10000 := rfl
  rw [hwrites.length, hwrites.value, hpower] at hbound
  omega

theorem Parts.Strict.display_eq (hp : p.Strict t) : t.display = p.shown t := by
  obtain ⟨n, hwrites, hyear⟩ := hp.year
  have hbounds := hp.year_bounds
  have hyearText : yearText t.date.year = String.ofList p.year := by
    unfold yearText
    rw [if_neg (by omega), if_neg (by omega), ← hwrites.padded_eq (by decide), hyear]
    congr 1
    omega
  have hhalf : (if t.hour < 12 then " AM" else " PM") = " " ++ t.half := by
    unfold CivilTime.half
    split <;> rfl
  unfold CivilTime.display Parts.shown CivilTime.monthName
  rw [hyearText, hhalf, hp.minute.padded_eq (by decide), hp.second.padded_eq (by decide),
    ← String.append_assoc]

/-- The instants of a year with four digits can be named, whatever the offset of a clock. -/
theorem isNameable_of_year (hvalid : t.isValid = true) (hlow : 0 ≤ t.date.year)
    (hhigh : t.date.year ≤ 9999) (ho : WithinDay o) : isNameable (t.clock - o) = true := by
  obtain ⟨hdate, hhour, hminute, hsecond⟩ := CivilTime.isValid_iff.mp hvalid
  obtain ⟨hstart, hend⟩ := Date.dayNumber_bounds hdate
  have hfirst : yearStart 0 ≤ yearStart t.date.year := yearStart_mono hlow
  have hlast : yearStart (t.date.year + 1) ≤ yearStart 10000 := yearStart_mono (by omega)
  have hleast : yearStart leastYear < yearStart 0 - 1 := by decide
  have hgreatest : yearStart 10000 + 1 < yearStart (greatestYear + 1) := by decide
  unfold WithinDay at ho
  unfold isNameable CivilTime.clock
  rw [Bool.and_eq_true, decide_eq_true_eq, decide_eq_true_eq]
  omega

/-- A local time is shown as it is written, unless no clock shows it. -/
theorem format_of_strict (hp : p.Strict t) (hseparator : p.separator = 'T')
    (hvalid : t.isValid = true) (clocks : Clocks)
    (hwithin : ∀ o, clocks.offsetOf? t.clock = some o → WithinDay o) :
    clocks.format (String.ofList p.text) =
      if clocks.offsetOf? t.clock = none then String.ofList p.text else p.shown t := by
  have hbounds := hp.year_bounds
  have hlocal : LocalText p.text t := ⟨p, hp.lenient hseparator, rfl⟩
  have hnamed : leastYear ≤ t.date.year ∧ t.date.year ≤ greatestYear := by
    unfold leastYear greatestYear
    omega
  have hread := localTime?_eq_some_iff.mpr ⟨hlocal, hvalid, hnamed⟩
  have hother : internetTime? p.text = none := by
    cases h : internetTime? p.text with
    | none => rfl
    | some read =>
      exact absurd hlocal (not_localText_of_internetText (internetTime?_eq_some_iff.mp h).1)
  unfold Clocks.format
  rw [String.toList_ofList, hother, hread]
  simp only
  rw [hp.display_eq]
  cases hoffset : clocks.offsetOf? t.clock with
  | none =>
    have hunseen : clocks.hasTime t = false := by rw [Clocks.hasTime, hoffset]
    rw [hunseen, if_pos rfl, if_neg Bool.false_ne_true]
  | some o =>
    have hseen : clocks.hasTime t = true := by
      rw [Clocks.hasTime, hoffset]
      exact isNameable_of_year hvalid hbounds.1 hbounds.2 (hwithin o hoffset)
    rw [hseen, if_pos rfl, if_neg (Option.some_ne_none o)]

/-- The offset of the place may stand behind a local time: the way to the instant and back leads to
the same time, also from a leap second. -/
theorem format_of_strict_append (hp : p.Strict t) (hvalid : t.isValid = true) {z : List Char}
    (hoffset : IsOffset z o) :
    formatTimestamp (.fixed o) (String.ofList (p.text ++ z)) = p.shown t := by
  have hread : internetTime? (p.text ++ z) = some (t, o) :=
    internetTime?_eq_some_iff.mpr ⟨⟨p, z, hp, hoffset, rfl⟩, hvalid⟩
  have hback : (Zone.fixed o).clocks.convert t o = t := by
    have hclock : t.clock - o + (Zone.fixed o).clocks.offsetAt (t.clock - o) = t.clock :=
      Int.sub_add_cancel _ _
    unfold Clocks.convert
    simp only [hclock, CivilTime.ofClock_clock hvalid]
  unfold formatTimestamp Clocks.format
  rw [String.toList_ofList, hread]
  simp only [hback, hp.display_eq]

end Local

/-- Daylight time in the east of North America. -/
def DaylightRule.eastern : DaylightRule :=
  ⟨-18000, -14400, ⟨3, 2, 0, 7200⟩, ⟨11, 1, 0, 7200⟩⟩

theorem DaylightRule.eastern_isOrdinary : DaylightRule.eastern.IsOrdinary := by
  refine ⟨?_, ?_, ?_, ⟨?_, ?_, ?_, ?_⟩, ⟨?_, ?_, ?_, ?_⟩, ?_⟩ <;> decide

end DeliveryDesk.Time

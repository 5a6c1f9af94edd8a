import DeliveryDesk.Time.Calendar
import Mathlib.Data.Int.Init

/-!
# Days and their numbers

What a calendar is can be said without any formula: it starts from one day whose number is known,
and goes on from a day to the next, by the lengths of the months (`Date.next`, `Numbered`). Numbers
of days, on the other hand, are computed, forth and back, by counting leap years and guessing a
year. This module ties both together.

The two halves of the argument are the year (`yearOfDay_spec`: the year that is guessed and put
right contains the day) and the walk through its months (`walkMonths_take`: the walk undoes adding
the lengths of the months up to some day). From them a date and its number determine one another
(`Date.ofDayNumber_dayNumber`, `Date.dayNumber_ofDayNumber`), and since going to the next day adds
one to the number (`Date.dayNumber_next`), the computed numbers are those of the calendar
(`numbered_iff`).

The time of day follows the same lines: `CivilTime.Reads` says which date and time a clock shows
when it has counted so many seconds, and `CivilTime.reads_iff` that this is what `ofClock` gives.
-/

namespace DeliveryDesk.Time

/-! ## Years -/

/-- A year has as many days as lie between its start and that of the next one. -/
theorem yearStart_add_one (y : Int) :
    yearStart (y + 1) = yearStart y + if isLeapYear y then 366 else 365 := by
  unfold yearStart isLeapYear
  by_cases hfour : y % 4 = 0 <;> by_cases hcentury : y % 100 = 0 <;>
    by_cases hfourth : y % 400 = 0 <;> simp [hfour, hcentury, hfourth] <;> omega

/-- A year has at least 365 days. -/
theorem yearStart_add_le (y : Int) : yearStart y + 365 ≤ yearStart (y + 1) := by
  rw [yearStart_add_one]
  split <;> omega

/-- Years start one after the other. -/
theorem yearStart_mono {y z : Int} (h : y ≤ z) : yearStart y ≤ yearStart z := by
  unfold yearStart
  omega

/-- A day lies in one year only. -/
theorem year_unique {y z n : Int} (hy : yearStart y ≤ n) (hy' : n < yearStart (y + 1))
    (hz : yearStart z ≤ n) (hz' : n < yearStart (z + 1)) : y = z := by
  rcases Int.lt_trichotomy y z with hlt | heq | hgt
  · have := yearStart_mono (show y + 1 ≤ z by omega)
    omega
  · exact heq
  · have := yearStart_mono (show z + 1 ≤ y by omega)
    omega

/-- The guess of a year is off by at most one, and put right. -/
theorem yearOfDay_spec (n : Int) :
    yearStart (yearOfDay n) ≤ n ∧ n < yearStart (yearOfDay n + 1) := by
  have hlow : yearStart ((400 * (n + 719162)) / 146097) ≤ n := by
    unfold yearStart
    omega
  have hhigh : n < yearStart ((400 * (n + 719162)) / 146097 + 1 + 1 + 1) := by
    unfold yearStart
    omega
  unfold yearOfDay
  simp only
  split
  · next hbelow =>
    refine ⟨?_, ?_⟩
    · rwa [Int.add_sub_cancel]
    · rwa [Int.sub_add_cancel]
  · next hbelow =>
    split
    · next habove => exact ⟨habove, hhigh⟩
    · next habove => exact ⟨Int.not_lt.mp hbelow, Int.not_le.mp habove⟩

/-- A day is of the year between whose start and the next one it lies. -/
theorem yearOfDay_eq {y n : Int} (hy : yearStart y ≤ n) (hy' : n < yearStart (y + 1)) :
    yearOfDay n = y :=
  have hspec := yearOfDay_spec n
  year_unique hspec.1 hspec.2 hy hy'

/-! ## Months -/

/-- The days of some months together. -/
def totalDays (months : List Nat) : Nat := months.foldr (fun days total => days + total) 0

@[simp]
theorem totalDays_cons (days : Nat) (months : List Nat) :
    totalDays (days :: months) = days + totalDays months := rfl

theorem totalDays_append (months later : List Nat) :
    totalDays (months ++ later) = totalDays months + totalDays later := by
  induction months with
  | nil => exact (Nat.zero_add _).symm
  | cons first months ih => rw [List.cons_append, totalDays_cons, totalDays_cons, ih, Nat.add_assoc]

theorem totalDays_take_le (months : List Nat) (k : Nat) :
    totalDays (months.take k) ≤ totalDays months := by
  have hsplit := totalDays_append (months.take k) (months.drop k)
  rw [List.take_append_drop] at hsplit
  rw [hsplit]
  exact Nat.le_add_right _ _

/-- A day lies in one of the months that it falls into together. -/
theorem exists_month : ∀ (months : List Nat) (n : Nat), n < totalDays months →
    ∃ k j, ∃ hk : k < months.length, j < months[k] ∧ n = totalDays (months.take k) + j := by
  intro months
  induction months with
  | nil => intro n hn; exact absurd hn (Nat.not_lt_zero n)
  | cons days months ih =>
    intro n hn
    by_cases hfirst : n < days
    · exact ⟨0, n, by simp, hfirst, by simp [totalDays]⟩
    · rw [totalDays_cons] at hn
      obtain ⟨k, j, hk, hj, hrest⟩ := ih (n - days) (by omega)
      refine ⟨k + 1, j, by simpa using hk, by simpa using hj, ?_⟩
      rw [List.take_succ_cons, totalDays_cons]
      omega

/-- The walk through the months stops in the month into which the days were counted. -/
theorem walkMonths_take : ∀ (months : List Nat) (m k j : Nat) (hk : k < months.length),
    j < months[k] → walkMonths months m (totalDays (months.take k) + j) = (m + k, j + 1) := by
  intro months
  induction months with
  | nil => intro m k j hk; exact absurd hk (Nat.not_lt_zero k)
  | cons days months ih =>
    intro m k j hk hj
    cases k with
    | zero =>
      have hfirst : totalDays [] + j < days := by simpa [totalDays] using hj
      rw [List.take_zero, walkMonths, if_pos hfirst, Nat.add_zero]
      simp [totalDays]
    | succ k =>
      have hstep := ih (m + 1) k j (by simpa using hk) (by simpa using hj)
      rw [List.take_succ_cons, totalDays_cons, walkMonths, if_neg (by omega), Nat.add_assoc,
        Nat.add_sub_cancel_left, hstep, Nat.add_assoc, Nat.add_comm 1 k]

/-- The months of a year fill it. -/
theorem yearStart_add_totalDays (y : Int) :
    yearStart y + totalDays (monthLengths y) = yearStart (y + 1) := by
  rw [yearStart_add_one]
  unfold monthLengths
  cases isLeapYear y <;> rfl

/-- How long a month is stands in the list of the lengths. -/
theorem daysInMonth_add_one {y : Int} {k : Nat} (hk : k < (monthLengths y).length) :
    daysInMonth y (k + 1) = (monthLengths y)[k] := by
  unfold daysInMonth
  rw [if_neg (by omega), Nat.add_sub_cancel, List.getElem?_eq_getElem hk, Option.getD_some]

/-- The days before a month are those of all months in front of it. -/
theorem daysBeforeMonth_eq (y : Int) (k : Nat) :
    daysBeforeMonth y (k + 1) = totalDays ((monthLengths y).take k) := rfl

/-- A month starts when the one before it ends. -/
theorem daysBeforeMonth_succ {y : Int} {k : Nat} (hk : k < 12) :
    daysBeforeMonth y (k + 1 + 1) = daysBeforeMonth y (k + 1) + daysInMonth y (k + 1) := by
  have hlength : k < (monthLengths y).length := hk
  rw [daysBeforeMonth_eq, daysBeforeMonth_eq, daysInMonth_add_one hlength,
    List.take_succ_eq_append_getElem hlength, totalDays_append]
  rfl

/-- A month lies within its year. -/
theorem daysBeforeMonth_add_le {y : Int} {k : Nat} (hk : k < 12) :
    daysBeforeMonth y (k + 1) + daysInMonth y (k + 1) ≤ totalDays (monthLengths y) := by
  rw [← daysBeforeMonth_succ hk, daysBeforeMonth_eq]
  exact totalDays_take_le _ _

theorem daysBeforeMonth_mono {y : Int} {m k : Nat} (h : m ≤ k) :
    daysBeforeMonth y m ≤ daysBeforeMonth y k := by
  have htake := totalDays_take_le ((monthLengths y).take (k - 1)) (m - 1)
  rw [List.take_take, Nat.min_eq_left (by omega)] at htake
  exact htake

/-- No month is shorter than 28 days. -/
theorem le_daysInMonth {y : Int} {k : Nat} (hk : k < 12) : 28 ≤ daysInMonth y (k + 1) := by
  have hall : ∀ days ∈ monthLengths y, 28 ≤ days := by
    unfold monthLengths
    cases isLeapYear y <;> decide
  have hlength : k < (monthLengths y).length := hk
  rw [daysInMonth_add_one hlength]
  exact hall _ (List.getElem_mem hlength)

/-! ## Dates -/

namespace Date

variable {d e : Date} {n : Int}

/-- The months are numbered from one to twelve, and the days of a month from one on. -/
theorem isValid_iff : d.isValid = true ↔
    ∃ k < 12, d.month = k + 1 ∧ 1 ≤ d.day ∧ d.day ≤ daysInMonth d.year (k + 1) := by
  unfold isValid
  rw [Bool.and_eq_true, decide_eq_true_eq, decide_eq_true_eq]
  constructor
  · intro h
    obtain ⟨hfirst, hlast⟩ := h
    have hmonth : d.month ≠ 0 := by
      intro hzero
      rw [hzero, daysInMonth, if_pos rfl] at hlast
      omega
    obtain ⟨k, hk⟩ := Nat.exists_eq_succ_of_ne_zero hmonth
    have hrange : k < (monthLengths d.year).length := by
      refine Decidable.byContradiction fun hout => ?_
      rw [hk, daysInMonth, if_neg (by omega), Nat.succ_sub_one,
        List.getElem?_eq_none (Nat.not_lt.mp hout), Option.getD_none] at hlast
      omega
    rw [hk] at hlast
    exact ⟨k, hrange, hk, hfirst, hlast⟩
  · intro h
    obtain ⟨k, -, hk, hfirst, hlast⟩ := h
    rw [hk]
    exact ⟨hfirst, hlast⟩

/-- The number of a day lies between the starts of its year and the next. -/
theorem dayNumber_bounds (valid : d.isValid = true) :
    yearStart d.year ≤ d.dayNumber ∧ d.dayNumber < yearStart (d.year + 1) := by
  obtain ⟨k, hk, hmonth, hfirst, hlast⟩ := isValid_iff.mp valid
  have hyear : _ ≤ totalDays (monthLengths d.year) := daysBeforeMonth_add_le hk
  have hnext := yearStart_add_totalDays d.year
  unfold dayNumber
  rw [hmonth]
  omega

/-- A day is found again by its number. -/
theorem ofDayNumber_dayNumber (valid : d.isValid = true) : ofDayNumber d.dayNumber = d := by
  have hbounds := dayNumber_bounds valid
  obtain ⟨k, hk, hmonth, hfirst, hlast⟩ := isValid_iff.mp valid
  have hlength : k < (monthLengths d.year).length := hk
  have hday : d.day - 1 < (monthLengths d.year)[k] := by
    rw [← daysInMonth_add_one hlength]
    omega
  have hdays : (d.dayNumber - yearStart d.year).toNat =
      totalDays ((monthLengths d.year).take k) + (d.day - 1) := by
    rw [← daysBeforeMonth_eq]
    unfold dayNumber
    rw [hmonth]
    omega
  have hwalk := walkMonths_take (monthLengths d.year) 1 k (d.day - 1) hlength hday
  unfold ofDayNumber
  simp only
  rw [yearOfDay_eq hbounds.1 hbounds.2, hdays, hwalk]
  obtain ⟨y, m, day⟩ := d
  simp only [Date.mk.injEq, true_and] at hmonth hfirst ⊢
  omega

/-- Every number is that of a day. -/
theorem exists_dayNumber (n : Int) : ∃ d : Date, d.isValid = true ∧ d.dayNumber = n := by
  obtain ⟨hlow, hhigh⟩ := yearOfDay_spec n
  have hnext := yearStart_add_totalDays (yearOfDay n)
  have hinside : (n - yearStart (yearOfDay n)).toNat < totalDays (monthLengths (yearOfDay n)) := by
    omega
  obtain ⟨k, j, hk, hj, hdays⟩ := exists_month _ _ hinside
  rw [← daysInMonth_add_one hk] at hj
  refine ⟨⟨yearOfDay n, k + 1, j + 1⟩, isValid_iff.mpr ⟨k, hk, rfl, ?_, ?_⟩, ?_⟩
  · simp
  · exact hj
  · unfold dayNumber
    simp only
    rw [daysBeforeMonth_eq]
    omega

/-- The day that is found by a number is a day, and has that number. -/
theorem ofDayNumber_spec (n : Int) :
    (ofDayNumber n).isValid = true ∧ (ofDayNumber n).dayNumber = n := by
  obtain ⟨d, valid, rfl⟩ := exists_dayNumber n
  rw [ofDayNumber_dayNumber valid]
  exact ⟨valid, rfl⟩

/-- Days with the same number are the same day. -/
theorem eq_of_dayNumber_eq (hd : d.isValid = true) (he : e.isValid = true)
    (h : d.dayNumber = e.dayNumber) : d = e := by
  rw [← ofDayNumber_dayNumber hd, h, ofDayNumber_dayNumber he]

/-- The day after. -/
def next (d : Date) : Date :=
  if d.day < daysInMonth d.year d.month then { d with day := d.day + 1 }
  else if d.month < 12 then ⟨d.year, d.month + 1, 1⟩
  else ⟨d.year + 1, 1, 1⟩

/-- The day behind a valid date is a valid date. -/
theorem isValid_next (valid : d.isValid = true) : d.next.isValid = true := by
  obtain ⟨k, hk, hmonth, hfirst, hlast⟩ := isValid_iff.mp valid
  unfold next
  by_cases hsame : d.day < daysInMonth d.year d.month
  · rw [if_pos hsame]
    rw [hmonth] at hsame
    exact isValid_iff.mpr ⟨k, hk, hmonth, by simp, hsame⟩
  · rw [if_neg hsame]
    by_cases hyear : d.month < 12
    · rw [if_pos hyear]
      have hnext : k + 1 < 12 := by omega
      have hlength : 28 ≤ daysInMonth d.year _ := le_daysInMonth hnext
      exact isValid_iff.mpr ⟨k + 1, hnext, by simp [hmonth], by simp, by simp only; omega⟩
    · rw [if_neg hyear]
      have hlength : 28 ≤ daysInMonth (d.year + 1) (0 + 1) := le_daysInMonth (by omega)
      exact isValid_iff.mpr ⟨0, by omega, rfl, by simp, by simp only; omega⟩

/-- Going to the next day adds one to the number. -/
theorem dayNumber_next (valid : d.isValid = true) : d.next.dayNumber = d.dayNumber + 1 := by
  obtain ⟨k, hk, hmonth, hfirst, hlast⟩ := isValid_iff.mp valid
  unfold next
  by_cases hsame : d.day < daysInMonth d.year d.month
  · rw [if_pos hsame]
    unfold dayNumber
    simp only
    omega
  · rw [if_neg hsame]
    rw [hmonth] at hsame
    have hmonths : daysBeforeMonth d.year _ = _ := daysBeforeMonth_succ hk
    by_cases hyear : d.month < 12
    · rw [if_pos hyear]
      unfold dayNumber
      simp only
      rw [hmonth]
      omega
    · rw [if_neg hyear]
      -- the last month is full, so its end is that of the year
      obtain rfl : k = 11 := by omega
      have hfull : daysBeforeMonth d.year (11 + 1 + 1) = totalDays (monthLengths d.year) := rfl
      have hnext := yearStart_add_totalDays d.year
      have hjanuary : daysBeforeMonth (d.year + 1) 1 = 0 := rfl
      unfold dayNumber
      simp only
      rw [hmonth, hjanuary]
      omega

end Date

/-- The days of the calendar and how they are counted: January 1, 1970 is day 0, and the days
follow one another both ways. -/
inductive Numbered : Int → Date → Prop where
  | epoch : Numbered 0 ⟨1970, 1, 1⟩
  | after {n : Int} {d : Date} : Numbered n d → Numbered (n + 1) d.next
  | before {n : Int} {d : Date} : d.isValid = true → Numbered (n + 1) d.next → Numbered n d

/-- The day after is found by the next number. -/
theorem Date.next_ofDayNumber (n : Int) : (Date.ofDayNumber n).next = Date.ofDayNumber (n + 1) := by
  obtain ⟨hvalid, hn⟩ := Date.ofDayNumber_spec n
  obtain ⟨hvalid', hn'⟩ := Date.ofDayNumber_spec (n + 1)
  refine Date.eq_of_dayNumber_eq (Date.isValid_next hvalid) hvalid' ?_
  rw [Date.dayNumber_next hvalid, hn, hn']

/-- From the first day on, and back from it, the calendar reaches every number. -/
theorem numbered_ofDayNumber (n : Int) : Numbered n (Date.ofDayNumber n) := by
  induction n using Int.induction_on with
  | zero => exact .epoch
  | succ i ih =>
    rw [← Date.next_ofDayNumber]
    exact .after ih
  | pred i ih =>
    refine .before (Date.ofDayNumber_spec _).1 ?_
    rwa [Date.next_ofDayNumber, Int.sub_add_cancel]

/-- The computed numbers are those of the calendar. -/
theorem numbered_iff {n : Int} {d : Date} :
    Numbered n d ↔ d.isValid = true ∧ d.dayNumber = n := by
  constructor
  · intro h
    induction h with
    | epoch => exact ⟨by decide, by decide⟩
    | after _ ih =>
      obtain ⟨valid, hnumber⟩ := ih
      rw [← hnumber]
      exact ⟨Date.isValid_next valid, Date.dayNumber_next valid⟩
    | before valid _ ih =>
      have hnumber := ih.2
      rw [Date.dayNumber_next valid] at hnumber
      exact ⟨valid, by omega⟩
  · intro h
    obtain ⟨valid, hn⟩ := h
    have hd := numbered_ofDayNumber d.dayNumber
    rwa [Date.ofDayNumber_dayNumber valid, hn] at hd

/-! ## Clocks -/

namespace CivilTime

variable {t u : CivilTime} {n : Int}

/-- What a clock shows that has counted `n` seconds since the start of 1970, none of them a leap
second. -/
structure Reads (n : Int) (t : CivilTime) : Prop where
  day : Numbered (n / 86400) t.date
  hour : t.hour < 24
  minute : t.minute < 60
  second : t.second < 60
  time : ((t.hour * 3600 + t.minute * 60 + t.second : Nat) : Int) = n % 86400

theorem isValid_iff : t.isValid = true ↔
    t.date.isValid = true ∧ t.hour < 24 ∧ t.minute < 60 ∧ t.second ≤ 60 := by
  simp [isValid, and_assoc]

/-- The days that a clock has counted. -/
theorem clock_div (valid : t.isValid = true) : t.clock / 86400 = t.date.dayNumber := by
  obtain ⟨hdate, hhour, hminute, hsecond⟩ := isValid_iff.mp valid
  unfold clock
  omega

/-- The clock of a valid time lies in the year of its date. -/
theorem yearOfDay_clock (valid : t.isValid = true) : yearOfDay (t.clock / 86400) = t.date.year := by
  obtain ⟨hlow, hhigh⟩ := Date.dayNumber_bounds (isValid_iff.mp valid).1
  rw [clock_div valid]
  exact yearOfDay_eq hlow hhigh

/-- A time is found again by its number, if a leap second is told from the second before it. -/
theorem ofClock_clock (valid : t.isValid = true) : ofClock t.clock t.isLeapSecond = t := by
  have hday : t.clock / 86400 = t.date.dayNumber := clock_div valid
  obtain ⟨hdate, hhour, hminute, hsecond⟩ := isValid_iff.mp valid
  obtain ⟨date, hour, minute, second⟩ := t
  unfold clock at hday
  simp only at hdate hhour hminute hsecond hday
  have htime : ((date.dayNumber * 86400 +
      ((hour * 3600 + minute * 60 + min second 59 : Nat) : Int)) % 86400).toNat =
        hour * 3600 + minute * 60 + min second 59 := by
    omega
  unfold ofClock clock isLeapSecond
  simp only [hday, htime, Date.ofDayNumber_dayNumber hdate, CivilTime.mk.injEq, true_and,
    beq_iff_eq]
  refine ⟨by omega, by omega, ?_⟩
  split <;> omega

theorem isLeapSecond_eq_false (h : t.second < 60) : t.isLeapSecond = false := by
  unfold isLeapSecond
  rw [beq_eq_false_iff_ne]
  omega

/-- What a clock shows is a date of the calendar and a time of the day. -/
theorem Reads.isValid (h : Reads n t) : t.isValid = true :=
  CivilTime.isValid_iff.mpr
    ⟨(numbered_iff.mp h.day).1, h.hour, h.minute, Nat.le_of_lt h.second⟩

/-- The number of what a clock shows is what it has counted. -/
theorem Reads.clock_eq (h : Reads n t) : t.clock = n := by
  have hnumber := (numbered_iff.mp h.day).2
  have hsecond := h.second
  have htime := h.time
  unfold clock
  rw [hnumber, Nat.min_eq_left (by omega), htime]
  omega

/-- Apart from leap seconds, a clock shows one time for every number. -/
theorem reads_iff : Reads n t ↔ t = ofClock n false := by
  constructor
  · intro h
    have hback := ofClock_clock h.isValid
    rw [h.clock_eq, isLeapSecond_eq_false h.second] at hback
    exact hback.symm
  · intro h
    subst h
    obtain ⟨hdate, hnumber⟩ := Date.ofDayNumber_spec (n / 86400)
    unfold ofClock
    simp only [Bool.false_eq_true, if_false, Nat.add_zero]
    refine ⟨numbered_iff.mpr ⟨hdate, hnumber⟩, ?_, ?_, ?_, ?_⟩
    all_goals simp only
    all_goals omega

end CivilTime

end DeliveryDesk.Time

import DeliveryDesk.Time.Zone
import DeliveryDesk.Proofs.Time.Calendar

/-!
# Gaps

When daylight time starts, clocks jump ahead. The local times that they skip are exactly those that
they never show (`DaylightRule.shows_iff`), and these make up the gap, except that in the north the
moment of the jump itself counts as standard time (`DaylightRule.inGap_iff`).

A local time and an instant at which clocks show it may lie in different years, but an ordinary rule
changes its clocks far from the ends of the year. So within a day of a year the transitions of that
year decide whether daylight time holds (`DaylightRule.isDaylightAt_iff`), and the rest is a
comparison of numbers in one year.
-/

namespace DeliveryDesk.Time

/-- Clocks are ahead of universal time, or behind it, by less than a day. -/
def WithinDay (o : Int) : Prop := -86400 < o ∧ o < 86400

instance (o : Int) : Decidable (WithinDay o) :=
  inferInstanceAs (Decidable (-86400 < o ∧ o < 86400))

/-- At some instant a clock of the zone shows a local time. -/
def Zone.Shows (zone : Zone) (clock : Int) : Prop :=
  ∃ instant, instant + zone.offsetAt instant = clock

/-- A transition in a month that is neither the first nor the last of the year, within a week after
the midnight of its day. -/
structure Transition.IsOrdinary (t : Transition) : Prop where
  month : 2 ≤ t.month ∧ t.month ≤ 11
  week : t.week ≤ 5
  weekday : t.weekday < 7
  time : t.time ≤ 7 * 86400

/-- Daylight time is ahead of standard time, and at least one whole month lies between the
transitions. -/
structure DaylightRule.IsOrdinary (r : DaylightRule) : Prop where
  standard : WithinDay r.standard
  daylight : WithinDay r.daylight
  ahead : r.standard < r.daylight
  starts : r.starts.IsOrdinary
  ends : r.ends.IsOrdinary
  apart : r.starts.month + 2 ≤ r.ends.month ∨ r.ends.month + 2 ≤ r.starts.month

/-- A transition happens on a day of its month, or not long after it. -/
theorem Transition.clock_bounds {t : Transition} (ordinary : t.IsOrdinary) (y : Int) :
    (yearStart y + daysBeforeMonth y t.month) * 86400 ≤ t.clock y ∧
      t.clock y < (yearStart y + daysBeforeMonth y (t.month + 1) + 7) * 86400 := by
  obtain ⟨⟨hlow, hhigh⟩, hweek, hweekday, htime⟩ := ordinary
  obtain ⟨k, hk⟩ : ∃ k, t.month = k + 1 := ⟨t.month - 1, by omega⟩
  have hk12 : k < 12 := by omega
  have hmonth : daysBeforeMonth y _ = _ := daysBeforeMonth_succ hk12
  have hlength : 28 ≤ daysInMonth y _ := le_daysInMonth hk12
  have hfirst : Date.dayNumber ⟨y, t.month, 1⟩ = yearStart y + daysBeforeMonth y t.month := by
    unfold Date.dayNumber
    simp only
    omega
  unfold Transition.clock
  simp only [hfirst]
  rw [hk, hmonth]
  generalize weekdayOf _ = w
  split <;> omega

/-- A transition keeps away from both ends of the year. -/
theorem Transition.clock_inside {t : Transition} (ordinary : t.IsOrdinary) (y : Int) :
    (yearStart y + 31) * 86400 ≤ t.clock y ∧ t.clock y < (yearStart y + 342) * 86400 := by
  obtain ⟨hlow, hhigh⟩ := clock_bounds ordinary y
  have hfirst : daysBeforeMonth y 2 ≤ daysBeforeMonth y t.month :=
    daysBeforeMonth_mono ordinary.month.1
  have hlast : daysBeforeMonth y (t.month + 1) ≤ daysBeforeMonth y 12 :=
    daysBeforeMonth_mono (Nat.succ_le_succ ordinary.month.2)
  have hjanuary : daysBeforeMonth y 2 = 31 := rfl
  have hdecember : daysBeforeMonth y 12 ≤ 335 := by
    unfold daysBeforeMonth monthLengths
    cases isLeapYear y <;> decide
  omega

/-- Transitions that are a whole month apart are more than three weeks apart. -/
theorem Transition.clock_lt {s e : Transition} (hs : s.IsOrdinary) (he : e.IsOrdinary)
    (hapart : s.month + 2 ≤ e.month) (y : Int) : s.clock y + 21 * 86400 < e.clock y := by
  have hlate := (clock_bounds hs y).2
  have hearly := (clock_bounds he y).1
  obtain ⟨hlow, hhigh⟩ := he.month
  -- a month of at least four weeks lies between, one of which the first transition may use up
  have hmonth : daysBeforeMonth y (s.month + 1 + 1) = _ := daysBeforeMonth_succ (by omega)
  have hlength : 28 ≤ daysInMonth y (s.month + 1) := le_daysInMonth (by omega)
  have hmono : daysBeforeMonth y (s.month + 1 + 1) ≤ daysBeforeMonth y e.month :=
    daysBeforeMonth_mono hapart
  omega

namespace DaylightRule

variable {r : DaylightRule} {clock instant y : Int}

/-! ## Seasons -/

/-- It is the same in every year which season comes first, and it lasts for more than three
weeks. -/
theorem IsOrdinary.seasons (ordinary : r.IsOrdinary) (y : Int) :
    (r.isNorthern y = true ∧ r.starts.month < r.ends.month ∧
      r.startClock y + 21 * 86400 < r.endClock y) ∨
    (r.isNorthern y = false ∧ r.ends.month < r.starts.month ∧
      r.endClock y + 21 * 86400 < r.startClock y) := by
  unfold isNorthern startClock endClock
  rcases ordinary.apart with hapart | hapart
  · have hlasting := Transition.clock_lt ordinary.starts ordinary.ends hapart y
    exact .inl ⟨decide_eq_true (by omega), by omega, hlasting⟩
  · have hlasting := Transition.clock_lt ordinary.ends ordinary.starts hapart y
    exact .inr ⟨decide_eq_false (by omega), by omega, hlasting⟩

theorem IsOrdinary.isNorthern_eq (ordinary : r.IsOrdinary) (y z : Int) :
    r.isNorthern y = r.isNorthern z := by
  rcases ordinary.seasons y with ⟨hy, hmonth, -⟩ | ⟨hy, hmonth, -⟩
  · rcases ordinary.seasons z with ⟨hz, -, -⟩ | ⟨-, hmonth', -⟩
    · rw [hy, hz]
    · omega
  · rcases ordinary.seasons z with ⟨-, hmonth', -⟩ | ⟨hz, -, -⟩
    · omega
    · rw [hy, hz]

/-- Daylight time holds at an instant, going by the transitions of a year. -/
def IsDaylightIn (r : DaylightRule) (y instant : Int) : Prop :=
  if r.isNorthern y then
    r.startClock y - r.standard ≤ instant ∧ instant < r.endClock y - r.daylight
  else instant < r.endClock y - r.daylight ∨ r.startClock y - r.standard ≤ instant

theorem isDaylightAt_iff_own :
    r.isDaylightAt instant = true ↔ r.IsDaylightIn (yearOfDay (instant / 86400)) instant := by
  unfold isDaylightAt IsDaylightIn
  simp only
  split
  · rw [Bool.and_eq_true, decide_eq_true_eq, decide_eq_true_eq]
  · rw [Bool.or_eq_true, decide_eq_true_eq, decide_eq_true_eq]

/-- For an instant within a day of a year, the transitions of that year are as good as those of its
own: no transition is near. -/
theorem isDaylightAt_iff (ordinary : r.IsOrdinary) (hlow : (yearStart y - 1) * 86400 ≤ instant)
    (hhigh : instant < (yearStart (y + 1) + 1) * 86400) :
    r.isDaylightAt instant = true ↔ r.IsDaylightIn y instant := by
  rw [isDaylightAt_iff_own]
  obtain ⟨hspec, hspec'⟩ := yearOfDay_spec (instant / 86400)
  generalize yearOfDay (instant / 86400) = z at hspec hspec'
  have hseasons := ordinary.isNorthern_eq z y
  obtain ⟨hstandard, hstandard'⟩ := ordinary.standard
  obtain ⟨hdaylight, hdaylight'⟩ := ordinary.daylight
  obtain ⟨hstart, hstart'⟩ := Transition.clock_inside ordinary.starts y
  obtain ⟨hend, hend'⟩ := Transition.clock_inside ordinary.ends y
  obtain ⟨zstart, zstart'⟩ := Transition.clock_inside ordinary.starts z
  obtain ⟨zend, zend'⟩ := Transition.clock_inside ordinary.ends z
  unfold IsDaylightIn startClock endClock
  rw [hseasons]
  rcases Int.lt_trichotomy z y with hbefore | rfl | hafter
  · -- all transitions of the year before are over, and none of this year has come
    have hmono : yearStart (z + 1) ≤ yearStart y := yearStart_mono hbefore
    have hlength := yearStart_add_le z
    split <;> omega
  · rfl
  · have hmono : yearStart (y + 1) ≤ yearStart z := yearStart_mono hafter
    have hlength := yearStart_add_le y
    split <;> omega

/-! ## What clocks skip -/

/-- When daylight time starts, clocks jump over a local time. -/
def Skips (r : DaylightRule) (clock : Int) : Prop :=
  r.startClock (yearOfDay (clock / 86400)) ≤ clock ∧
    clock < r.startClock (yearOfDay (clock / 86400)) + (r.daylight - r.standard)

/-- The gap is what is skipped; in the north, the moment of the jump itself is no part of it. -/
theorem inGap_iff : r.inGap clock = true ↔ r.Skips clock ∧
    (r.isNorthern (yearOfDay (clock / 86400)) = true →
      clock ≠ r.startClock (yearOfDay (clock / 86400))) := by
  unfold inGap Skips
  simp only
  split
  · next hnorth =>
    rw [Bool.and_eq_true, decide_eq_true_eq, decide_eq_true_eq]
    simp only [hnorth, forall_const]
    omega
  · next hsouth =>
    rw [Bool.and_eq_true, decide_eq_true_eq, decide_eq_true_eq]
    exact (and_iff_left fun hnorth => absurd hnorth hsouth).symm

/-- A local time is shown in daylight time or in standard time. -/
theorem shows_iff_season : (Zone.daylight r).Shows clock ↔
    r.isDaylightAt (clock - r.daylight) = true ∨ r.isDaylightAt (clock - r.standard) = false := by
  have hoffset : ∀ instant, (Zone.daylight r).offsetAt instant =
      if r.isDaylightAt instant then r.daylight else r.standard := fun _ => rfl
  constructor
  · intro h
    obtain ⟨instant, hshows⟩ := h
    rw [hoffset] at hshows
    cases hday : r.isDaylightAt instant with
    | true =>
      rw [hday, if_pos rfl] at hshows
      left
      rwa [← hshows, Int.add_sub_cancel]
    | false =>
      rw [hday, if_neg Bool.false_ne_true] at hshows
      right
      rwa [← hshows, Int.add_sub_cancel]
  · intro h
    rcases h with hday | hday
    · refine ⟨clock - r.daylight, ?_⟩
      rw [hoffset, hday, if_pos rfl, Int.sub_add_cancel]
    · refine ⟨clock - r.standard, ?_⟩
      rw [hoffset, hday, if_neg Bool.false_ne_true, Int.sub_add_cancel]

/-- **Clocks show every local time but those that they skip.** -/
theorem shows_iff (ordinary : r.IsOrdinary) : (Zone.daylight r).Shows clock ↔ ¬ r.Skips clock := by
  obtain ⟨hspec, hspec'⟩ := yearOfDay_spec (clock / 86400)
  unfold Skips
  generalize yearOfDay (clock / 86400) = y at hspec hspec'
  have hday : ∀ o, WithinDay o → (r.isDaylightAt (clock - o) = true ↔
      r.IsDaylightIn y (clock - o)) := by
    intro o ho
    obtain ⟨hleast, hgreatest⟩ := ho
    exact isDaylightAt_iff ordinary (by omega) (by omega)
  have hahead := ordinary.ahead
  obtain ⟨hstandard, hstandard'⟩ := ordinary.standard
  obtain ⟨hdaylight, hdaylight'⟩ := ordinary.daylight
  rw [shows_iff_season, ← Bool.not_eq_true, hday _ ordinary.standard, hday _ ordinary.daylight]
  unfold IsDaylightIn
  rcases ordinary.seasons y with ⟨hnorth, -, hlasting⟩ | ⟨hsouth, -, hlasting⟩
  · rw [hnorth, if_pos rfl, if_pos rfl]
    omega
  · rw [hsouth, if_neg Bool.false_ne_true, if_neg Bool.false_ne_true]
    omega

/-- **The gap is what clocks never show**, apart from the moment of the jump in the north. -/
theorem inGap_iff_not_shows (ordinary : r.IsOrdinary) (clock : Int) : r.inGap clock = true ↔
    ¬ (Zone.daylight r).Shows clock ∧ (r.isNorthern (yearOfDay (clock / 86400)) = true →
      clock ≠ r.startClock (yearOfDay (clock / 86400))) := by
  rw [inGap_iff, shows_iff ordinary, Classical.not_not]

end DaylightRule

end DeliveryDesk.Time

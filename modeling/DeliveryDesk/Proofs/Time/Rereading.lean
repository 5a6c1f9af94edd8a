import DeliveryDesk.Proofs.Time.Display

/-!
# Reading what was shown

Formatting a text twice is formatting it once (`format_settles`): what is shown of a timestamp
starts with a letter and is none itself, and every other text is left as it is. The readers of the
two kinds of timestamps accept exactly what is written in one way or in the other, and no text is
written in both ways, so it plays no part which reader is asked first.
-/

namespace DeliveryDesk.Time

open Text

/-- What starts with a character that is neither blank nor a digit nor a sign is no timestamp. -/
theorem not_timestamp_of_head {cs tail : List Char} {c : Char} (hcs : cs = c :: tail)
    (hblank : isBlank c = false) (hdigit : c.isDigit = false) (hsigns : c ≠ '+' ∧ c ≠ '-') :
    internetTime? cs = none ∧ localTime? cs = none := by
  constructor
  · cases hread : internetTime? cs with
    | none => rfl
    | some read =>
      obtain ⟨d, rest, hd, hfirst⟩ := (internetTime?_eq_some_iff.mp hread).1.head
      obtain rfl : c = d := (List.cons.inj (hcs.symm.trans hd)).1
      rw [hdigit] at hfirst
      cases hfirst
  · cases hread : localTime? cs with
    | none => rfl
    | some t =>
      obtain ⟨d, rest, hd, hfirst⟩ := (localTime?_eq_some_iff.mp hread).1.head
      rw [hcs, trimStart_cons_of_not_isBlank hblank] at hd
      obtain rfl : c = d := (List.cons.inj hd).1
      rcases hfirst with hfirst | hfirst | hfirst
      · rw [hdigit] at hfirst
        cases hfirst
      · exact absurd hfirst hsigns.1
      · exact absurd hfirst hsigns.2

/-- At most one of the readers accepts a text. -/
theorem localTime?_eq_none_of_internetTime? {cs : List Char} {t : CivilTime} {o : Int}
    (h : internetTime? cs = some (t, o)) : localTime? cs = none := by
  cases hread : localTime? cs with
  | none => rfl
  | some u =>
    exact absurd (localTime?_eq_some_iff.mp hread).1
      (not_localText_of_internetText (internetTime?_eq_some_iff.mp h).1)

namespace Clocks

/-- A text is shown as a time of the calendar, or as it is. -/
theorem format_cases (clocks : Clocks) (raw : String) :
    clocks.format raw = raw ∨
      ∃ t : CivilTime, t.date.isValid = true ∧ clocks.format raw = t.display := by
  unfold format
  cases hread : internetTime? raw.toList with
  | some read =>
    obtain ⟨t, o⟩ := read
    refine .inr ⟨_, ?_, rfl⟩
    exact (Date.ofDayNumber_spec _).1
  | none =>
    cases hlocal : localTime? raw.toList with
    | none => exact .inl rfl
    | some t =>
      simp only
      by_cases hseen : clocks.hasTime t = true
      · rw [if_pos hseen]
        have hvalid := (localTime?_eq_some_iff.mp hlocal).2.1
        exact .inr ⟨t, (CivilTime.isValid_iff.mp hvalid).1, rfl⟩
      · rw [if_neg hseen]
        exact .inl rfl

/-- What is no timestamp is left as it is. -/
theorem format_of_not_timestamp (clocks : Clocks) {raw : String}
    (h : internetTime? raw.toList = none ∧ localTime? raw.toList = none) :
    clocks.format raw = raw := by
  unfold format
  rw [h.1, h.2]

/-- A timestamp as it is read off the clocks of a place, where a local time is tried first. -/
def formatLocalFirst (clocks : Clocks) (raw : String) : String :=
  match (localTime? raw.toList).filter clocks.hasTime with
  | some t => t.display
  | none =>
    match internetTime? raw.toList with
    | some (t, offset) => (clocks.convert t offset).display
    | none => raw

/-- The order of the readers plays no part. -/
theorem formatLocalFirst_eq (clocks : Clocks) (raw : String) :
    clocks.formatLocalFirst raw = clocks.format raw := by
  unfold formatLocalFirst format
  cases hread : internetTime? raw.toList with
  | some read =>
    obtain ⟨t, o⟩ := read
    rw [localTime?_eq_none_of_internetTime? hread]
    rfl
  | none =>
    cases localTime? raw.toList with
    | none => rfl
    | some t =>
      cases hseen : clocks.hasTime t with
      | true => simp [Option.filter, hseen]
      | false => simp [Option.filter, hseen]

end Clocks

/-- **Formatting settles at once, and its readers never compete.** Formatting what was formatted
changes nothing, wherever the clocks are. Each reader accepts exactly the texts that are written in
its way and name a time that exists; no text is written in both ways, so that asking the readers in
the other order gives the same. -/
theorem format_settles :
    (∀ (clocks : Clocks) (s : String), clocks.format (clocks.format s) = clocks.format s) ∧
    (∀ cs t o, internetTime? cs = some (t, o) ↔ InternetText cs t o ∧ t.isValid = true) ∧
    (∀ cs t, localTime? cs = some t ↔ LocalText cs t ∧ t.isValid = true ∧
      leastYear ≤ t.date.year ∧ t.date.year ≤ greatestYear) ∧
    (∀ cs, ¬ ((∃ t o, InternetText cs t o) ∧ ∃ t, LocalText cs t)) ∧
    ∀ (clocks : Clocks) (s : String), clocks.formatLocalFirst s = clocks.format s := by
  refine ⟨fun clocks s => ?_, fun _ _ _ => internetTime?_eq_some_iff,
    fun _ _ => localTime?_eq_some_iff, fun _ ⟨⟨_, _, hinternet⟩, _, hlocal⟩ => ?_,
    fun clocks s => clocks.formatLocalFirst_eq s⟩
  · rcases clocks.format_cases s with hsame | ⟨t, hdate, hshown⟩
    · rw [hsame, hsame]
    · obtain ⟨c, tail, hhead, hblank, hdigit, hsigns⟩ := CivilTime.head_display hdate
      rw [hshown]
      exact clocks.format_of_not_timestamp (not_timestamp_of_head hhead hblank hdigit hsigns)
  · exact not_localText_of_internetText hinternet hlocal

end DeliveryDesk.Time

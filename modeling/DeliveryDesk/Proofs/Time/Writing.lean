import DeliveryDesk.Proofs.Time.Digits

/-!
# How timestamps are written

Both kinds of timestamps are a date and a time made up of the same parts (`Parts`), written
differently: with an offset every number has all of its digits (`InternetText`), and without one
numbers may stand behind blanks and leave digits out, and a year may carry a sign (`LocalText`).
These are descriptions of texts, with no reader in them.

The readers accept what is so written, if it names a time that exists, and nothing else
(`internetTime?_eq_some_iff`, `localTime?_eq_some_iff`). Both rest on what is common to them, the
fields between their separators: what is written is read, whatever follows (`fields?_append`), and
what is read was written (`exists_spell_of_fields?`).

A text of both kinds would be read in two ways by one reader that allows for both, once up to the
offset and once up to the end. So there is none (`not_localText_of_internetText`).
-/

namespace DeliveryDesk.Time

open Text

/-! ## Parts -/

/-- The parts of a date and a time as they are written. -/
structure Parts where
  year : List Char
  month : List Char
  day : List Char
  separator : Char
  hour : List Char
  minute : List Char
  second : List Char
  fraction : List Char

/-- A fraction of a second, which has at least one digit behind its point. -/
inductive IsFraction : List Char → Prop where
  | absent : IsFraction []
  | point {ds : List Char} : ds ≠ [] → AreDigits ds → IsFraction ('.' :: ds)

namespace Parts

/-- The text that the parts make up. -/
def text (p : Parts) : List Char :=
  p.year ++ '-' :: (p.month ++ '-' :: (p.day ++ p.separator ::
    (p.hour ++ ':' :: (p.minute ++ ':' :: (p.second ++ p.fraction)))))

/-- The parts write a time; each kind of timestamp has its own way to write a year and the numbers
of two digits, and its own separators. -/
structure Spell (p : Parts) (Year : List Char → Int → Prop) (Two : List Char → Nat → Prop)
    (isSeparator : Char → Bool) (t : CivilTime) : Prop where
  year : Year p.year t.date.year
  month : Two p.month t.date.month
  day : Two p.day t.date.day
  separator : isSeparator p.separator = true
  hour : Two p.hour t.hour
  minute : Two p.minute t.minute
  second : Two p.second t.second
  fraction : IsFraction p.fraction

end Parts

/-- What may follow a fraction, or its absence. -/
def Stops (rest : List Char) : Prop := ∀ c ∈ rest.head?, c.isDigit = false ∧ c ≠ '.'

theorem stops_nil : Stops [] := by
  intro c hc
  cases hc

/-- What starts with neither a digit nor a point may follow. -/
theorem stops_cons {c : Char} {rest : List Char} (h : c.isDigit = false ∧ c ≠ '.') :
    Stops (c :: rest) := by
  intro d hd
  obtain rfl : c = d := Option.some.inj hd
  exact h

/-- So no digit follows a fraction. -/
theorem Stops.noDigit {rest : List Char} (h : Stops rest) : NoDigit rest := fun c hc => (h c hc).1

/-- Neither does one follow the seconds, whether there is a fraction or not. -/
theorem IsFraction.noDigit_append {f rest : List Char} (hf : IsFraction f) (hrest : Stops rest) :
    NoDigit (f ++ rest) := by
  cases hf with
  | absent => exact hrest.noDigit
  | point => exact noDigit_cons rfl

/-- A fraction is skipped up to where it stops. -/
theorem fraction?_append {f rest : List Char} (hf : IsFraction f) (hrest : Stops rest) :
    fraction? (f ++ rest) = some rest := by
  cases hf with
  | absent =>
    cases rest with
    | nil => rfl
    | cons c rest =>
      have hc : c ≠ '.' := (hrest c rfl).2
      rw [List.nil_append, fraction?]
      simpa using hc
  | @point ds hne hds =>
    have htake : takeDigits (ds ++ rest).length (ds ++ rest) = (ds, rest) :=
      takeDigits_append hds (by simp) hrest.noDigit
    rw [List.cons_append, fraction?, htake]
    cases ds with
    | nil => exact absurd rfl hne
    | cons d ds => rfl

/-- What is skipped is a fraction. -/
theorem isFraction_of_fraction? {cs rest : List Char} (h : fraction? cs = some rest) :
    ∃ f, IsFraction f ∧ cs = f ++ rest := by
  unfold fraction? at h
  split at h
  · next tail =>
    obtain ⟨hdigits, -, hsplit⟩ := takeDigits_spec tail.length tail
    split at h
    · cases h
    · next ds _ hne htake =>
      cases h
      rw [htake] at hdigits hsplit
      exact ⟨_, .point hne hdigits, congrArg ('.' :: ·) hsplit⟩
  · cases h
    exact ⟨[], .absent, rfl⟩

/-- A certain character is read exactly where it stands. -/
theorem symbol?_eq_some_iff {c : Char} {cs rest : List Char} :
    symbol? c cs = some rest ↔ cs = c :: rest := by
  cases cs with
  | nil => simp [symbol?]
  | cons d cs => simp [symbol?]

/-- So is any of those that are allowed. -/
theorem oneOf?_eq_some_iff {allowed : Char → Bool} {cs rest : List Char} :
    oneOf? allowed cs = some rest ↔ ∃ c, allowed c = true ∧ cs = c :: rest := by
  cases cs with
  | nil => simp [oneOf?]
  | cons d cs => simp [oneOf?]

/-- A year with a sign in front of it. -/
def Signed (sign : Int) (Written : List Char → Nat → Prop) (w : List Char) (y : Int) : Prop :=
  ∃ n : Nat, Written w n ∧ y = sign * n

section Fields

variable {year two : List Char → Option (Nat × List Char)} {Year Two : List Char → Nat → Prop}
  {sign : Int} {isSeparator : Char → Bool} {p : Parts} {t : CivilTime} {cs rest : List Char}

/-- What is written is read. -/
theorem fields?_append (hyear : Takes year Year) (htwo : Takes two Two)
    (hseparator : ∀ c, isSeparator c = true → c.isDigit = false)
    (h : p.Spell (Signed sign Year) Two isSeparator t) (hrest : Stops rest) :
    fields? year two sign isSeparator (p.text ++ rest) = some (t, rest) := by
  obtain ⟨⟨y, hy, hsigned⟩, hmonth, hday, hsep, hhour, hminute, hsecond, hfraction⟩ := h
  have hdash : ∀ tail, NoDigit ('-' :: tail) := fun _ => noDigit_cons rfl
  have hcolon : ∀ tail, NoDigit (':' :: tail) := fun _ => noDigit_cons rfl
  have hmiddle : ∀ tail, NoDigit (p.separator :: tail) := fun _ => noDigit_cons (hseparator _ hsep)
  unfold fields? Parts.text
  simp only [List.append_assoc, List.cons_append, Option.bind_eq_bind, Option.bind_eq_some_iff,
    Prod.exists, symbol?_eq_some_iff, oneOf?_eq_some_iff]
  refine ⟨y, _, hyear.read_append hy (hdash _), _, rfl,
    _, _, htwo.read_append hmonth (hdash _), _, rfl,
    _, _, htwo.read_append hday (hmiddle _), _, ⟨_, hsep, rfl⟩,
    _, _, htwo.read_append hhour (hcolon _), _, rfl,
    _, _, htwo.read_append hminute (hcolon _), _, rfl,
    _, _, htwo.read_append hsecond (hfraction.noDigit_append hrest),
    _, fraction?_append hfraction hrest, ?_⟩
  rw [← hsigned]
  rfl

/-- What is read was written. -/
theorem exists_spell_of_fields? (hyear : Takes year Year) (htwo : Takes two Two)
    (h : fields? year two sign isSeparator cs = some (t, rest)) :
    ∃ p : Parts, p.Spell (Signed sign Year) Two isSeparator t ∧ cs = p.text ++ rest := by
  unfold fields? at h
  simp only [Option.bind_eq_bind, Option.bind_eq_some_iff, Prod.exists, symbol?_eq_some_iff,
    oneOf?_eq_some_iff] at h
  obtain ⟨y, _, ry, _, rfl, m, _, rm, _, rfl, d, _, rd, _, ⟨c, hc, rfl⟩, hour, _, rhour, _, rfl,
    minute, _, rminute, _, rfl, second, _, rsecond, rest', rfraction, hresult⟩ := h
  obtain ⟨rfl, rfl⟩ : _ = t ∧ rest' = rest := Prod.mk.inj (Option.some.inj hresult)
  obtain ⟨wy, hy, rfl⟩ := hyear.exists_written ry
  obtain ⟨wm, hm, rfl⟩ := htwo.exists_written rm
  obtain ⟨wd, hd, rfl⟩ := htwo.exists_written rd
  obtain ⟨whour, hhour, rfl⟩ := htwo.exists_written rhour
  obtain ⟨wminute, hminute, rfl⟩ := htwo.exists_written rminute
  obtain ⟨wsecond, hsecond, rfl⟩ := htwo.exists_written rsecond
  obtain ⟨f, hf, rfl⟩ := isFraction_of_fraction? rfraction
  refine ⟨⟨wy, wm, wd, c, whour, wminute, wsecond, f⟩,
    ⟨⟨y, hy, rfl⟩, hm, hd, hc, hhour, hminute, hsecond, hf⟩, ?_⟩
  simp only [Parts.text, List.append_assoc, List.cons_append]

end Fields

/-! ## Offsets -/

/-- Two digits. -/
abbrev TwoDigits : List Char → Nat → Prop := Writes (· = 2)

/-- How an offset is written, and the seconds that it stands for. -/
inductive IsOffset : List Char → Int → Prop where
  | universal : IsOffset ['Z'] 0
  | universalLower : IsOffset ['z'] 0
  | east {hh mm : List Char} {h m : Nat} : TwoDigits hh h → TwoDigits mm m → h < 24 → m < 60 →
      IsOffset ('+' :: (hh ++ ':' :: mm)) (h * 3600 + m * 60)
  | west {minus : Char} {hh mm : List Char} {h m : Nat} : minus = '-' ∨ minus = typographicMinus →
      TwoDigits hh h → TwoDigits mm m → h < 24 → m < 60 →
      IsOffset (minus :: (hh ++ ':' :: mm)) (-(h * 3600 + m * 60))

/-- The size of an offset is two digits for the hours and two for the minutes, with a colon between.
-/
theorem offsetSize?_eq_some_iff {cs : List Char} {size : Int} :
    offsetSize? cs = some size ↔ ∃ hh mm h m, TwoDigits hh h ∧ TwoDigits mm m ∧ h < 24 ∧ m < 60 ∧
      cs = hh ++ ':' :: mm ∧ size = h * 3600 + m * 60 := by
  have htwo := takes_exactly? 2
  unfold offsetSize?
  simp only [Option.bind_eq_bind, Option.bind_eq_some_iff, Prod.exists, symbol?_eq_some_iff]
  constructor
  · rintro ⟨h, _, rh, _, rfl, m, rest, rm, hresult⟩
    obtain ⟨hh, hwritten, rfl⟩ := htwo.exists_written rh
    obtain ⟨mm, mwritten, rfl⟩ := htwo.exists_written rm
    split at hresult
    · next hrange =>
      obtain ⟨hhours, hminutes, hend⟩ := hrange
      rw [List.isEmpty_iff] at hend
      subst hend
      cases hresult
      exact ⟨hh, mm, h, m, hwritten, mwritten, hhours, hminutes, by simp, rfl⟩
    · cases hresult
  · rintro ⟨hh, mm, h, m, hwritten, mwritten, hhours, hminutes, rfl, rfl⟩
    have rm := htwo.read_append mwritten noDigit_nil
    rw [List.append_nil] at rm
    refine ⟨h, _, htwo.read_append hwritten (noDigit_cons rfl), _, rfl, m, [], rm, ?_⟩
    rw [if_pos ⟨hhours, hminutes, rfl⟩]
    rfl

/-- **What is read as an offset is what is written as one.** -/
theorem offset?_eq_some_iff {cs : List Char} {o : Int} : offset? cs = some o ↔ IsOffset cs o := by
  constructor
  · intro h
    unfold offset? at h
    split at h
    · cases h
      exact .universal
    · cases h
      exact .universalLower
    · next c rest _ _ =>
      split at h
      · next hplus =>
        obtain ⟨hh, mm, hour, minute, hhh, hmm, hhours, hminutes, rfl, rfl⟩ :=
          offsetSize?_eq_some_iff.mp h
        rw [hplus]
        exact .east hhh hmm hhours hminutes
      · split at h
        · next hminus =>
          obtain ⟨size, hsize, rfl⟩ := Option.map_eq_some_iff.mp h
          obtain ⟨hh, mm, hour, minute, hhh, hmm, hhours, hminutes, rfl, rfl⟩ :=
            offsetSize?_eq_some_iff.mp hsize
          exact .west hminus hhh hmm hhours hminutes
        · cases h
    · cases h
  · intro h
    cases h with
    | universal => rfl
    | universalLower => rfl
    | east hhh hmm hhours hminutes =>
      have hsize := offsetSize?_eq_some_iff.mpr ⟨_, _, _, _, hhh, hmm, hhours, hminutes, rfl, rfl⟩
      rw [offset?.eq_def]
      simp [hsize]
    | west hminus hhh hmm hhours hminutes =>
      have hsize := offsetSize?_eq_some_iff.mpr ⟨_, _, _, _, hhh, hmm, hhours, hminutes, rfl, rfl⟩
      rcases hminus with rfl | rfl
      · rw [offset?.eq_def]
        simp [hsize]
      · rw [offset?.eq_def]
        simp [hsize, typographicMinus]

/-- An offset does not go on like a number or a fraction. -/
theorem IsOffset.stops {z : List Char} {o : Int} (h : IsOffset z o) : Stops z := by
  cases h with
  | universal => exact stops_cons (by decide)
  | universalLower => exact stops_cons (by decide)
  | east => exact stops_cons (by decide)
  | west hminus =>
    rcases hminus with rfl | rfl
    · exact stops_cons (by decide)
    · exact stops_cons (by decide)

theorem IsOffset.ne_nil {z : List Char} {o : Int} (h : IsOffset z o) : z ≠ [] := by
  cases h <;> exact List.cons_ne_nil _ _

/-! ## Timestamps with an offset -/

/-- A date and a time with all of their digits. -/
def Parts.Strict (p : Parts) (t : CivilTime) : Prop :=
  p.Spell (Signed 1 (Writes (· = 4))) TwoDigits (fun c => c = 'T' ∨ c = 't' ∨ c = ' ') t

/-- A timestamp with an offset is a date and a time with all of their digits, and the offset behind
them. -/
def InternetText (cs : List Char) (t : CivilTime) (o : Int) : Prop :=
  ∃ (p : Parts) (z : List Char), p.Strict t ∧ IsOffset z o ∧ cs = p.text ++ z

/-- What may stand before the hour is no digit. -/
theorem noDigit_of_separator {c : Char} (h : decide (c = 'T' ∨ c = 't' ∨ c = ' ') = true) :
    c.isDigit = false := by
  rcases of_decide_eq_true h with rfl | rfl | rfl <;> rfl

/-- What is read as a timestamp with an offset is what is written as one and exists. -/
theorem internetTime?_eq_some_iff {cs : List Char} {t : CivilTime} {o : Int} :
    internetTime? cs = some (t, o) ↔ InternetText cs t o ∧ t.isValid = true := by
  unfold internetTime?
  simp only [Option.bind_eq_bind, Option.bind_eq_some_iff, Prod.exists, offset?_eq_some_iff]
  constructor
  · intro h
    obtain ⟨u, z, hfields, o', hoffset, hresult⟩ := h
    split at hresult
    · next hvalid =>
      cases hresult
      obtain ⟨p, hp, rfl⟩ := exists_spell_of_fields? (takes_exactly? 4) (takes_exactly? 2) hfields
      exact ⟨⟨p, z, hp, hoffset, rfl⟩, hvalid⟩
    · cases hresult
  · rintro ⟨⟨p, z, hp, hoffset, rfl⟩, hvalid⟩
    have hread := fields?_append (takes_exactly? 4) (takes_exactly? 2)
      (fun _ => noDigit_of_separator) hp hoffset.stops
    refine ⟨t, z, hread, o, hoffset, ?_⟩
    rw [if_pos hvalid]
    rfl

/-! ## Timestamps without an offset -/

/-- Blanks. -/
def AreBlanks (cs : List Char) : Prop := ∀ c ∈ cs, isBlank c = true

theorem areBlanks_nil : AreBlanks [] := by
  intro c hc
  cases hc

/-- Blanks in front do not matter to what is behind them. -/
theorem trimStart_append {blanks cs : List Char} (h : AreBlanks blanks) :
    trimStart (blanks ++ cs) = trimStart cs :=
  List.dropWhile_append_of_pos h

/-- What is trimmed at the start is blank. -/
theorem areBlanks_takeWhile (cs : List Char) : AreBlanks (cs.takeWhile isBlank) :=
  fun _ hc => List.mem_takeWhile_imp hc

/-- One or two digits behind blanks. -/
inductive LenientTwo : List Char → Nat → Prop where
  | mk {blanks ds : List Char} {n : Nat} : AreBlanks blanks →
      Writes (fun length => 1 ≤ length ∧ length ≤ 2) ds n → LenientTwo (blanks ++ ds) n

/-- A year behind blanks; with a sign it may have any number of digits. -/
inductive LocalYear : List Char → Int → Prop where
  | plain {blanks ds : List Char} {n : Nat} : AreBlanks blanks →
      Writes (fun length => 1 ≤ length ∧ length ≤ 4) ds n → LocalYear (blanks ++ ds) n
  | positive {blanks ds : List Char} {n : Nat} : AreBlanks blanks → Writes (1 ≤ ·) ds n →
      LocalYear (blanks ++ '+' :: ds) n
  | negative {blanks ds : List Char} {n : Nat} : AreBlanks blanks → Writes (1 ≤ ·) ds n →
      LocalYear (blanks ++ '-' :: ds) (-n)

/-- A date and a time in the lenient form. -/
def Parts.Lenient (p : Parts) (t : CivilTime) : Prop :=
  p.Spell LocalYear LenientTwo (fun c => c = 'T') t

/-- A timestamp without an offset. -/
def LocalText (cs : List Char) (t : CivilTime) : Prop := ∃ p : Parts, p.Lenient t ∧ cs = p.text

/-- Digits start with a digit. -/
theorem Writes.head {allowed : Nat → Prop} {w : List Char} {n : Nat} (h : Writes allowed w n)
    (hpos : 1 ≤ w.length) : ∃ c tail, w = c :: tail ∧ c.isDigit = true := by
  cases w with
  | nil => simp at hpos
  | cons c tail => exact ⟨c, tail, rfl, h.digits c List.mem_cons_self⟩

/-- Blanks are trimmed off digits. -/
theorem Writes.trimStart_append {allowed : Nat → Prop} {w : List Char} {n : Nat}
    (h : Writes allowed w n) (hpos : 1 ≤ w.length) (rest : List Char) :
    trimStart (w ++ rest) = w ++ rest := by
  obtain ⟨c, tail, rfl, hc⟩ := h.head hpos
  exact trimStart_cons_of_not_isBlank (isBlank_of_isDigit hc) _

/-- A reader of any number takes all of its digits. -/
theorem takes_anyNumber? : Takes anyNumber? (Writes (1 ≤ ·)) where
  read_append := by
    intro w rest n hw hrest
    obtain ⟨hdigits, hlength, hvalue⟩ := hw
    exact (takes_number? _).read_append ⟨hdigits, ⟨hlength, by simp⟩, hvalue⟩ hrest
  exists_written := by
    intro cs rest n h
    obtain ⟨w, ⟨hdigits, hlength, hvalue⟩, hsplit⟩ := (takes_number? _).exists_written h
    exact ⟨w, ⟨hdigits, hlength.1, hvalue⟩, hsplit⟩

/-- A lenient reader takes one digit or two, with the blanks before them. -/
theorem takes_lenientTwo? : Takes lenientTwo? LenientTwo where
  read_append := by
    rintro _ rest n ⟨hblanks, hwrites⟩ hrest
    unfold lenientTwo?
    rw [List.append_assoc, trimStart_append hblanks, hwrites.trimStart_append hwrites.length.1]
    exact (takes_number? 2).read_append hwrites hrest
  exists_written := by
    intro cs rest n h
    obtain ⟨w, hwrites, hsplit⟩ := (takes_number? 2).exists_written h
    refine ⟨_, .mk (areBlanks_takeWhile cs) hwrites, ?_⟩
    rw [List.append_assoc, ← hsplit]
    exact (List.takeWhile_append_dropWhile).symm

namespace Parts

/-- The parts with another year. -/
def withYear (p : Parts) (w : List Char) : Parts := { p with year := w }

/-- What is put in front of the year is put in front of the whole text. -/
theorem text_withYear_append (p : Parts) (front w : List Char) :
    (p.withYear (front ++ w)).text = front ++ (p.withYear w).text := by
  unfold text withYear
  simp only [List.append_assoc]

theorem Spell.withYear {p : Parts} {t : CivilTime} {Year Year' : List Char → Int → Prop}
    {Two : List Char → Nat → Prop} {isSeparator : Char → Bool} {w : List Char}
    (h : p.Spell Year Two isSeparator t) (hw : Year' w t.date.year) :
    (p.withYear w).Spell Year' Two isSeparator t :=
  ⟨hw, h.month, h.day, h.separator, h.hour, h.minute, h.second, h.fraction⟩

end Parts

/-- A year without a sign is read with four digits at most. -/
theorem localFields?_of_isDigit {c : Char} (hc : c.isDigit = true) (tail : List Char) :
    localFields? (c :: tail) =
      fields? (number? 4) lenientTwo? 1 (fun c => c = 'T') (c :: tail) := by
  rw [localFields?.eq_3]
  · intro cs hcs
    rw [(List.cons.inj hcs).1] at hc
    cases hc
  · intro cs hcs
    rw [(List.cons.inj hcs).1] at hc
    cases hc

/-- What stands behind the blanks of a timestamp is read, if nothing else follows. -/
theorem localFields?_of_lenient {p : Parts} {t : CivilTime} (hp : p.Lenient t) :
    localFields? (trimStart p.text) = some (t, []) := by
  have hseparator : ∀ c : Char, decide (c = 'T') = true → c.isDigit = false := by
    intro c hc
    rw [of_decide_eq_true hc]
    rfl
  have hyear := hp.year
  show localFields? (trimStart (p.withYear p.year).text) = some (t, [])
  generalize p.year = year at hyear
  generalize hy : t.date.year = y at hyear
  cases hyear with
  | @plain blanks ds n hblanks hwrites =>
    have hspell : (p.withYear ds).Spell (Signed 1 _) LenientTwo _ t :=
      hp.withYear ⟨n, hwrites, by omega⟩
    have hread := fields?_append (takes_number? 4) takes_lenientTwo? hseparator hspell stops_nil
    obtain ⟨c, tail, rfl, hc⟩ := hwrites.head hwrites.length.1
    have hfront : (p.withYear (c :: tail)).text = c :: (p.withYear tail).text := rfl
    rw [List.append_nil, hfront] at hread
    rw [Parts.text_withYear_append, trimStart_append hblanks, hfront,
      trimStart_cons_of_not_isBlank (isBlank_of_isDigit hc), localFields?_of_isDigit hc]
    exact hread
  | @positive blanks ds n hblanks hwrites =>
    have hspell : (p.withYear ds).Spell (Signed 1 _) LenientTwo _ t :=
      hp.withYear ⟨n, hwrites, by omega⟩
    have hread := fields?_append takes_anyNumber? takes_lenientTwo? hseparator hspell stops_nil
    have hfront : (p.withYear ('+' :: ds)).text = '+' :: (p.withYear ds).text := rfl
    rw [List.append_nil] at hread
    rw [Parts.text_withYear_append, trimStart_append hblanks, hfront,
      trimStart_cons_of_not_isBlank (by decide)]
    exact hread
  | @negative blanks ds n hblanks hwrites =>
    have hspell : (p.withYear ds).Spell (Signed (-1) _) LenientTwo _ t :=
      hp.withYear ⟨n, hwrites, by omega⟩
    have hread := fields?_append takes_anyNumber? takes_lenientTwo? hseparator hspell stops_nil
    have hfront : (p.withYear ('-' :: ds)).text = '-' :: (p.withYear ds).text := rfl
    rw [List.append_nil] at hread
    rw [Parts.text_withYear_append, trimStart_append hblanks, hfront,
      trimStart_cons_of_not_isBlank (by decide)]
    exact hread

/-- Whatever is read stands behind blanks. -/
theorem exists_lenient_of_localFields? {cs rest : List Char} {t : CivilTime}
    (h : localFields? (trimStart cs) = some (t, rest)) :
    ∃ p : Parts, p.Lenient t ∧ cs = p.text ++ rest := by
  have hblanks := areBlanks_takeWhile cs
  have hcs : cs.takeWhile isBlank ++ trimStart cs = cs := List.takeWhile_append_dropWhile
  generalize trimStart cs = signed at h hcs
  -- the blanks go with the year, as does its sign
  have hspelled : ∀ {p : Parts} {Year : List Char → Int → Prop} {w : List Char},
      p.Spell Year LenientTwo (fun c => c = 'T') t →
      LocalYear (cs.takeWhile isBlank ++ w) t.date.year → signed = (p.withYear w).text ++ rest →
      ∃ p : Parts, p.Lenient t ∧ cs = p.text ++ rest := by
    intro p Year w hp hyear hsigned
    refine ⟨_, hp.withYear hyear, ?_⟩
    rw [Parts.text_withYear_append, List.append_assoc, ← hsigned]
    exact hcs.symm
  unfold localFields? at h
  split at h
  · obtain ⟨p, hp, rfl⟩ := exists_spell_of_fields? takes_anyNumber? takes_lenientTwo? h
    obtain ⟨n, hwrites, hyear⟩ := hp.year
    refine hspelled (w := '-' :: p.year) hp ?_ rfl
    rw [hyear, Int.neg_one_mul]
    exact .negative hblanks hwrites
  · obtain ⟨p, hp, rfl⟩ := exists_spell_of_fields? takes_anyNumber? takes_lenientTwo? h
    obtain ⟨n, hwrites, hyear⟩ := hp.year
    refine hspelled (w := '+' :: p.year) hp ?_ rfl
    rw [hyear, Int.one_mul]
    exact .positive hblanks hwrites
  · obtain ⟨p, hp, rfl⟩ := exists_spell_of_fields? (takes_number? 4) takes_lenientTwo? h
    obtain ⟨n, hwrites, hyear⟩ := hp.year
    refine hspelled (w := p.year) hp ?_ rfl
    rw [hyear, Int.one_mul]
    exact .plain hblanks hwrites

/-- What is read as a timestamp without an offset is what is written as one, exists, and lies in a
year that can be named. -/
theorem localTime?_eq_some_iff {cs : List Char} {t : CivilTime} : localTime? cs = some t ↔
    LocalText cs t ∧ t.isValid = true ∧ leastYear ≤ t.date.year ∧ t.date.year ≤ greatestYear := by
  unfold localTime?
  simp only [Option.bind_eq_bind, Option.bind_eq_some_iff, Prod.exists]
  constructor
  · intro h
    obtain ⟨u, rest, hfields, hresult⟩ := h
    split at hresult
    · next hwhole =>
      obtain ⟨hend, hvalid, hnamed⟩ := hwhole
      rw [List.isEmpty_iff] at hend
      subst hend
      cases hresult
      obtain ⟨p, hp, rfl⟩ := exists_lenient_of_localFields? hfields
      exact ⟨⟨p, hp, List.append_nil _⟩, hvalid, hnamed⟩
    · cases hresult
  · rintro ⟨⟨p, hp, rfl⟩, hvalid, hnamed⟩
    refine ⟨t, [], localFields?_of_lenient hp, ?_⟩
    rw [if_pos ⟨rfl, hvalid, hnamed⟩]
    rfl

/-! ## The two kinds side by side -/

/-- A timestamp with an offset starts with a digit. -/
theorem InternetText.head {cs : List Char} {t : CivilTime} {o : Int} (h : InternetText cs t o) :
    ∃ c tail, cs = c :: tail ∧ c.isDigit = true := by
  obtain ⟨p, z, hp, -, rfl⟩ := h
  obtain ⟨n, hwrites, -⟩ := hp.year
  have hlength : p.year.length = 4 := hwrites.length
  obtain ⟨c, tail, hyear, hc⟩ := hwrites.head (by omega)
  unfold Parts.text
  rw [hyear]
  exact ⟨c, _, rfl, hc⟩

/-- Behind its blanks, a timestamp without an offset starts with a digit or a sign. -/
theorem LocalText.head {cs : List Char} {t : CivilTime} (h : LocalText cs t) :
    ∃ c tail, trimStart cs = c :: tail ∧ (c.isDigit = true ∨ c = '+' ∨ c = '-') := by
  obtain ⟨p, hp, rfl⟩ := h
  have hyear := hp.year
  unfold Parts.text
  generalize p.year = w at hyear
  generalize t.date.year = y at hyear
  cases hyear with
  | plain hblanks hwrites =>
    obtain ⟨c, tail, rfl, hc⟩ := hwrites.head hwrites.length.1
    rw [List.append_assoc, trimStart_append hblanks]
    exact ⟨c, _, trimStart_cons_of_not_isBlank (isBlank_of_isDigit hc) _, .inl hc⟩
  | positive hblanks =>
    rw [List.append_assoc, trimStart_append hblanks]
    exact ⟨'+', _, trimStart_cons_of_not_isBlank (by decide) _, .inr (.inl rfl)⟩
  | negative hblanks =>
    rw [List.append_assoc, trimStart_append hblanks]
    exact ⟨'-', _, trimStart_cons_of_not_isBlank (by decide) _, .inr (.inr rfl)⟩

/-- What spells a time by strict rules spells it by looser ones. -/
theorem Parts.Spell.mono {p : Parts} {t : CivilTime} {Year Year' : List Char → Int → Prop}
    {Two Two' : List Char → Nat → Prop} {isSeparator isSeparator' : Char → Bool}
    (h : p.Spell Year Two isSeparator t) (hyear : ∀ w y, Year w y → Year' w y)
    (htwo : ∀ w n, Two w n → Two' w n)
    (hseparator : ∀ c, isSeparator c = true → isSeparator' c = true) :
    p.Spell Year' Two' isSeparator' t :=
  ⟨hyear _ _ h.year, htwo _ _ h.month, htwo _ _ h.day, hseparator _ h.separator,
    htwo _ _ h.hour, htwo _ _ h.minute, htwo _ _ h.second, h.fraction⟩

/-- Four digits are among what the lenient form allows for a year without a sign. -/
theorem Writes.upToFour {w : List Char} {n : Nat} (h : Writes (· = 4) w n) :
    Writes (fun length => 1 ≤ length ∧ length ≤ 4) w n := by
  have hlength : w.length = 4 := h.length
  exact ⟨h.digits, ⟨by omega, by omega⟩, h.value⟩

/-- Two digits are among what the lenient form allows. -/
theorem LenientTwo.of_twoDigits {w : List Char} {n : Nat} (h : TwoDigits w n) : LenientTwo w n := by
  have hlength : w.length = 2 := h.length
  exact .mk areBlanks_nil ⟨h.digits, ⟨by omega, by omega⟩, h.value⟩

/-- With all of its digits, and a `T` before the hour, a date and a time are written in the lenient
form. -/
theorem Parts.Strict.lenient {p : Parts} {t : CivilTime} (hp : p.Strict t)
    (hseparator : p.separator = 'T') : p.Lenient t := by
  obtain ⟨n, hwrites, hyear⟩ := hp.year
  have hlocal : LocalYear p.year t.date.year := by
    rw [hyear, Int.one_mul]
    exact .plain areBlanks_nil hwrites.upToFour
  exact ⟨hlocal, .of_twoDigits hp.month, .of_twoDigits hp.day, decide_eq_true hseparator,
    .of_twoDigits hp.hour, .of_twoDigits hp.minute, .of_twoDigits hp.second, hp.fraction⟩

/-- **No text is a timestamp of both kinds.** -/
theorem not_localText_of_internetText {cs : List Char} {t u : CivilTime} {o : Int}
    (h : InternetText cs t o) : ¬ LocalText cs u := by
  intro hother
  obtain ⟨q, hq, hlocal⟩ := hother
  obtain ⟨c, tail, hhead, hc⟩ := h.head
  obtain ⟨p, z, hp, hoffset, hinternet⟩ := h
  -- the text starts with a digit, so its year is read without blanks or a sign
  have hread := localFields?_of_lenient hq
  rw [← hlocal, hhead, trimStart_cons_of_not_isBlank (isBlank_of_isDigit hc), ← hhead] at hread
  have hplain : fields? (number? 4) lenientTwo? 1 (fun c => c = 'T') cs = some (u, []) := by
    rw [← hread, hhead, localFields?_of_isDigit hc]
  obtain ⟨q', hq', hsame⟩ := exists_spell_of_fields? (takes_number? 4) takes_lenientTwo? hplain
  -- one reader accepts what either kind has in front of an offset, and finds one rest
  have hwithout := fields?_append (takes_number? 4) takes_lenientTwo?
    (fun _ => noDigit_of_separator)
    (hq'.mono (fun _ _ h => h) (fun _ _ h => h) fun c hc =>
      decide_eq_true (.inl (of_decide_eq_true hc))) stops_nil
  have hwith := fields?_append (takes_number? 4) takes_lenientTwo?
    (fun _ => noDigit_of_separator)
    (hp.mono (fun _ _ ⟨n, hn, hy⟩ => ⟨n, hn.upToFour, hy⟩) (fun _ _ => .of_twoDigits)
      fun _ h => h) hoffset.stops
  rw [← hsame, hinternet, hwith] at hwithout
  exact hoffset.ne_nil (Prod.mk.inj (Option.some.inj hwithout)).2

end DeliveryDesk.Time

import DeliveryDesk.Proofs.Text.Numbers
import DeliveryDesk.Proofs.Toml.Readers
import DeliveryDesk.Proofs.Toml.Strings
import DeliveryDesk.Toml.Reading

/-!
# Documents are read as they are written

A document that is written has a line for each value: a key without quotes, a blank, the equals
sign, another blank, and the value. `Writes spelt v` says of the text of a value that it is read as
that value when a line ends behind it; strings (`writes_quoted`) and numbers of 63 bits
(`writes_number`) are written so. A number is not taken for the start of a moment, or for a number
with decimal places, because the line ends behind its digits.

`parse_lines` is the main result: a document of lines with different keys is read, and its entries
are those of the lines, in their order.
-/

namespace DeliveryDesk.Toml

open Reader Text

/-- A text that is read as a value when a line ends behind it. -/
structure Writes (spelt : List Char) (v : Toml) : Prop where
  start : ∀ rest, skipBlanks (spelt ++ '\n' :: rest) = spelt ++ '\n' :: rest
  reads : ∀ rest, Reads value (spelt ++ '\n' :: rest) v ('\n' :: rest)

/-- A value that does not start with a bracket is a scalar. -/
theorem reads_value {c : Char} {cs rest : List Char} {v : Toml} (hsquare : c ≠ '[')
    (hcurly : c ≠ '\x7b') (h : Reads (scalar c) (c :: cs) v rest) :
    Reads value (c :: cs) v rest := by
  show Reads (valueWith _ _) (c :: cs) v rest
  refine (Reads.remaining (c :: cs)).bind ?_
  split
  · next heq => cases heq
  · next heq => exact absurd (List.cons.inj heq).1 hsquare
  · next heq => exact absurd (List.cons.inj heq).1 hcurly
  · next heq =>
    obtain ⟨rfl, -⟩ := List.cons.inj heq
    exact h

/-- Where no blank stands there is nothing to skip. -/
theorem skipBlanks_cons {c : Char} (h : isInlineBlank c = false) (cs : List Char) :
    skipBlanks (c :: cs) = c :: cs :=
  List.dropWhile_cons_of_neg (by simp [h])

/-! ## Strings -/

/-- A string starts with a quote. -/
theorem exists_quotedChars_eq (cs : List Char) :
    ∃ q body, quotedChars cs = q :: body ∧ (q = '"' ∨ q = '\x27') := by
  unfold quotedChars
  dsimp only
  split
  · exact ⟨_, _, rfl, .inl rfl⟩
  split
  · exact ⟨_, _, rfl, .inr rfl⟩
  split
  · exact ⟨_, _, rfl, .inl rfl⟩
  split
  · exact ⟨_, _, rfl, .inr rfl⟩
  split
  · exact ⟨_, _, rfl, .inl rfl⟩
  · exact ⟨_, _, rfl, .inl rfl⟩

/-- A text is written in quotes and read back. -/
theorem writes_quoted (cs : List Char) :
    Writes (quotedChars cs) (.string (String.ofList cs)) := by
  obtain ⟨q, body, hcons, hquote⟩ := exists_quotedChars_eq cs
  have hread (rest : List Char) : text (quotedChars cs ++ '\n' :: rest) =
      .ok (String.ofList cs, '\n' :: rest) := text_quotedChars cs (by simp) (by simp)
  rw [hcons] at hread ⊢
  refine ⟨fun rest => ?_, fun rest => ?_⟩
  · refine skipBlanks_cons ?_ _
    rcases hquote with rfl | rfl <;> rfl
  · have hscalar : scalar q = .string <$> text := if_pos hquote
    refine reads_value ?_ ?_ ?_
    · rcases hquote with rfl | rfl <;> decide
    · rcases hquote with rfl | rfl <;> decide
    · rw [hscalar]
      exact Reads.map (hread rest)

/-! ## Numbers -/

section Number

variable {ds rest : List Char}

/-- What stands behind some of the digits of a line: another digit, or the end of the line. -/
def IsBehind (c : Char) : Prop := c.isDigit = true ∨ c = '\n'

theorem IsBehind.ne {c d : Char} (h : IsBehind c) (hdigit : d.isDigit = false) (hbreak : d ≠ '\n') :
    c ≠ d := by
  rintro rfl
  rcases h with h | h
  · rw [hdigit] at h
    cases h
  · exact hbreak h

/-- Digits at the end of a line start with one, or the line ends there. -/
theorem exists_behind (digits : AreDigits ds) (rest : List Char) :
    ∃ c more, ds ++ '\n' :: rest = c :: more ∧ IsBehind c := by
  cases ds with
  | nil => exact ⟨'\n', rest, rfl, .inr rfl⟩
  | cons c ds => exact ⟨c, ds ++ '\n' :: rest, rfl, .inl (digits c List.mem_cons_self)⟩

/-- Digits are read to the end of the line. -/
theorem moreDigits_append (digits : AreDigits ds) (rest : List Char) :
    Reads (moreDigits Char.isDigit) (ds ++ '\n' :: rest) ds ('\n' :: rest) := by
  unfold Reads
  induction ds with
  | nil => rfl
  | cons c ds ih =>
    have hc := digits c List.mem_cons_self
    have hne : c ≠ '_' := ne_of_kind hc rfl
    rw [List.cons_append, moreDigits.eq_4 _ c _ (fun h => absurd h hne)
      (fun _ _ h => absurd h hne), if_pos hc, ih fun d hd => digits d (List.mem_cons_of_mem c hd)]
    rfl

/-- The digits of a number that is written: none is in front of it, and a zero stands alone. -/
structure IsNumber (ds : List Char) : Prop where
  nonempty : ds ≠ []
  digits : AreDigits ds
  zero : ds.head? = some '0' → ds = ['0']

/-- Decimal digits are a number, without a zero in front that is too many. -/
theorem isNumber_decimalDigits (n : Nat) : IsNumber (decimalDigits n) where
  nonempty := decimalDigits_ne_nil n
  digits := areDigits_decimalDigits n
  zero := eq_zero_of_head?_decimalDigits

/-- No sign stands in front of a number. -/
theorem minus_append (number : IsNumber ds) (rest : List Char) :
    Reads minus (ds ++ '\n' :: rest) false (ds ++ '\n' :: rest) := by
  obtain ⟨c, more, heq, behind⟩ := exists_behind number.digits rest
  have hsign : isSign c = false := by
    simp [isSign, behind.ne (d := '+') rfl (by decide), behind.ne (d := '-') rfl (by decide)]
  rw [heq]
  exact (Declines.one hsign more).maybe.bind (.pure _ _)

/-- So the number is read as a decimal, without a sign. -/
theorem decimal_append (number : IsNumber ds) (rest : List Char) :
    Reads decimal (ds ++ '\n' :: rest) (false, ds) ('\n' :: rest) := by
  refine .named _ ((minus_append number rest).bind ?_)
  obtain ⟨hne, digits, zero⟩ := number
  cases ds with
  | nil => exact absurd rfl hne
  | cons c ds =>
    refine (Reads.one (p := Char.isDigit) (digits c List.mem_cons_self) _).bind ?_
    by_cases hc : c = '0'
    · subst hc
      obtain rfl : ds = [] := (List.cons.inj (zero rfl)).2
      exact .pure _ _
    · rw [if_neg hc]
      have htail := moreDigits_append (fun d hd => digits d (List.mem_cons_of_mem c hd)) rest
      exact htail.bind (.pure _ _)

/-- Neither places nor an exponent stand behind a number. -/
theorem floatText_declines (number : IsNumber ds) (rest : List Char) :
    Declines floatText (ds ++ '\n' :: rest) := by
  have hexponent : Declines exponent ('\n' :: rest) := (Declines.one rfl rest).bind
  have hplaces : Declines places ('\n' :: rest) := (Declines.char (by decide) rest).bind
  exact (decimal_append number rest).bind_declines (hexponent.maybe.bind_declines hplaces.bind)

/-- An integer is not taken for a float. -/
theorem floatValue_declines (number : IsNumber ds) (rest : List Char) :
    Declines floatValue (ds ++ '\n' :: rest) := by
  obtain ⟨c, more, heq, behind⟩ := exists_behind number.digits rest
  have hfinite : Declines finiteFloat (ds ++ '\n' :: rest) := by
    obtain ⟨s, hs, hfinal⟩ := floatText_declines number rest
    refine ⟨s, ?_, hfinal⟩
    unfold finiteFloat
    rw [hs]
  -- the words for numbers that are not finite start with letters
  have hword : ∀ word v, word.head? = some 'i' ∨ word.head? = some 'n' →
      Declines (do chars word; return (v : Toml)) (ds ++ '\n' :: rest) := by
    intro word v hword
    have hprefix : word.isPrefixOf (ds ++ '\n' :: rest) = false := by
      cases word with
      | nil => rcases hword with h | h <;> cases h
      | cons x word =>
        rw [heq, List.isPrefixOf_cons_cons, Bool.and_eq_false_iff]
        refine .inl (beq_false_of_ne (Ne.symm ?_))
        rcases hword with h | h
        · obtain rfl := Option.some.inj h
          exact behind.ne rfl (by decide)
        · obtain rfl := Option.some.inj h
          exact behind.ne rfl (by decide)
    exact (Declines.chars hprefix).bind
  exact .named _ (hfinite.orTry ((minus_append number rest).bind_declines
    ((hword _ _ (.inl rfl)).orTry (hword _ _ (.inr rfl)))))

/-- A number of some digits may be read from the front of others, but what stands behind it makes no
moment of them. -/
theorem numberWithin_declines {α : Type} {f : Nat → Reader α} (digits : AreDigits ds)
    (stops : ∀ n c more, IsBehind c → Declines (f n) (c :: more)) (count low high : Nat)
    (rest : List Char) : Declines (numberWithin count low high >>= f) (ds ++ '\n' :: rest) := by
  unfold numberWithin
  -- where there are enough digits, the next character decides
  by_cases hfit : count ≤ ds.length
  · have hcount : Reads (exactly count Char.isDigit) (ds ++ '\n' :: rest) (ds.take count)
        (ds.drop count ++ '\n' :: rest) := by
      unfold Reads exactly
      rw [List.take_append_of_le_length hfit, List.drop_append_of_le_length hfit]
      refine if_pos ⟨List.length_take_of_le hfit, List.all_eq_true.mpr fun c hc => ?_⟩
      exact digits c (List.mem_of_mem_take hc)
    by_cases hbounds : low ≤ valueOf 10 (ds.take count) ∧ valueOf 10 (ds.take count) ≤ high
    · have left : AreDigits (ds.drop count) := fun c hc => digits c (List.mem_of_mem_drop hc)
      obtain ⟨c, more, heq, behind⟩ := exists_behind left rest
      rw [heq] at hcount
      exact (hcount.checked (if_pos hbounds)).bind_declines (stops _ c more behind)
    · exact (hcount.checked_declines (if_neg hbounds)).bind
  · have hcount : Declines (exactly count Char.isDigit) (ds ++ '\n' :: rest) := by
      refine ⟨_, if_neg ?_, rfl⟩
      rintro ⟨-, hall⟩
      -- so many characters reach over the end of the line
      obtain ⟨more, hmore⟩ : ∃ more, count = ds.length + (more + 1) :=
        ⟨count - ds.length - 1, by omega⟩
      have hbreak : '\n' ∈ (ds ++ '\n' :: rest).take count := by
        rw [hmore, List.take_length_add_append, List.take_succ_cons]
        exact List.mem_append_right ds List.mem_cons_self
      exact absurd (List.all_eq_true.mp hall '\n' hbreak) (by decide)
    exact hcount.checked.bind

/-- Neither is it taken for a date or a time. -/
theorem momentValue_declines (digits : AreDigits ds) (rest : List Char) :
    Declines momentValue (ds ++ '\n' :: rest) := by
  have hdate : Declines date (ds ++ '\n' :: rest) :=
    numberWithin_declines digits (fun n c more behind =>
      (Declines.char (behind.ne (d := '-') rfl (by decide)) more).bind) 4 0 9999 rest
  have htime : Declines time (ds ++ '\n' :: rest) :=
    numberWithin_declines digits (fun n c more behind =>
      (Declines.char (behind.ne (d := ':') rfl (by decide)) more).bind) 2 0 23 rest
  exact ((hdate.bind.named _).orTry (htime.named _)).bind

/-- What an integer in another base starts with is no number that is written. -/
theorem reads_integerValue {v : Toml} {left : List Char} (number : IsNumber ds)
    (h : Reads decimalInteger (ds ++ '\n' :: rest) v left) :
    Reads integerValue (ds ++ '\n' :: rest) v left := by
  obtain ⟨hne, digits, zero⟩ := number
  have hletter : ∀ x more, x ≠ '\n' → ds ++ '\n' :: rest ≠ '0' :: x :: more := by
    intro x more hx heq
    cases ds with
    | nil => exact hne rfl
    | cons c ds =>
      obtain ⟨rfl, htail⟩ := List.cons.inj heq
      obtain rfl : ds = [] := (List.cons.inj (zero rfl)).2
      exact hx (List.cons.inj htail).1.symm
  refine (Reads.remaining _).bind ?_
  split
  · next heq => exact absurd heq (hletter 'x' _ (by decide))
  · next heq => exact absurd heq (hletter 'o' _ (by decide))
  · next heq => exact absurd heq (hletter 'b' _ (by decide))
  · exact h

/-- An integer of 63 bits is within the bounds. -/
theorem bounded_ofNat {n : Nat} (small : n < Nat.pow 2 63) : bounded n = .ok (.integer n) := by
  unfold bounded
  rw [if_neg (by omega), if_neg (by omega)]

/-- A number of 63 bits is written in digits and read back. -/
theorem writes_number {n : Nat} (small : n < Nat.pow 2 63) :
    Writes (decimalDigits n) (.integer n) := by
  have number := isNumber_decimalDigits n
  have hvalue : valueOf 10 (decimalDigits n) = n := by
    rw [valueOf, (denotes_decimalDigits n).numberIn?]
    rfl
  have hinteger (rest : List Char) :
      Reads integerValue (decimalDigits n ++ '\n' :: rest) (.integer n) ('\n' :: rest) := by
    refine reads_integerValue number ?_
    unfold Reads
    rw [decimalInteger, decimal_append number rest]
    dsimp only
    rw [hvalue, if_neg Bool.false_ne_true, bounded_ofNat small]
  have hread (rest : List Char) :
      Reads numberOrMoment (decimalDigits n ++ '\n' :: rest) (.integer n) ('\n' :: rest) :=
    (momentValue_declines number.digits rest).orTry_reads
      ((floatValue_declines number rest).orTry_reads (hinteger rest))
  generalize decimalDigits n = ds at number hread
  obtain ⟨hne, digits, -⟩ := number
  cases ds with
  | nil => exact absurd rfl hne
  | cons c ds =>
    have hdigit := digits c List.mem_cons_self
    have behind : IsBehind c := .inl hdigit
    refine ⟨fun rest => skipBlanks_cons ?_ _, fun rest => reads_value ?_ ?_ ?_⟩
    · simp [isInlineBlank, behind.ne (d := ' ') rfl (by decide),
        behind.ne (d := '\t') rfl (by decide)]
    · exact behind.ne rfl (by decide)
    · exact behind.ne rfl (by decide)
    · have hquote : ¬(c = '"' ∨ c = '\x27') := by
        rintro (h | h)
        · exact behind.ne rfl (by decide) h
        · exact behind.ne rfl (by decide) h
      rw [scalar, if_neg hquote, if_pos (by rw [hdigit, Bool.or_true])]
      exact hread rest

end Number

/-! ## Keys -/

/-- A key that is written without quotes. -/
structure IsBare (key : String) : Prop where
  nonempty : key.toList ≠ []
  bare : ∀ c ∈ key.toList, isBareChar c = true

theorem skipBlanks_of_bare {c : Char} (h : isBareChar c = true) (cs : List Char) :
    skipBlanks (c :: cs) = c :: cs := by
  refine skipBlanks_cons ?_ cs
  unfold isInlineBlank
  rw [Bool.or_eq_false_iff]
  exact ⟨beq_false_of_ne (ne_of_kind h rfl), beq_false_of_ne (ne_of_kind h rfl)⟩

section Key

variable {k : String} {rest : List Char}

/-- A bare key is read up to the blank behind it. -/
theorem keyName_append (bare : IsBare k) (rest : List Char) :
    Reads keyName (k.toList ++ ' ' :: rest) k (' ' :: rest) := by
  obtain ⟨hne, hbare⟩ := bare
  obtain ⟨cs, rfl⟩ : ∃ cs, k = String.ofList cs := ⟨k.toList, String.ofList_toList.symm⟩
  rw [String.toList_ofList] at hne hbare ⊢
  cases cs with
  | nil => exact absurd rfl hne
  | cons c cs =>
    have hc := hbare c List.mem_cons_self
    refine (Reads.remaining _).bind ?_
    split
    · next heq => exact absurd (List.cons.inj heq).1 (ne_of_kind hc rfl)
    · next heq => exact absurd (List.cons.inj heq).1 (ne_of_kind hc rfl)
    · refine (Reads.one hc _).bind ?_
      have hmany : Reads (many isBareChar) (cs ++ ' ' :: rest) cs (' ' :: rest) :=
        Reads.many (fun d hd => hbare d (List.mem_cons_of_mem c hd)) rfl
      exact hmany.bind (.pure _ _)

theorem blanks_eq {cs rest : List Char} (h : skipBlanks cs = rest) : Reads blanks cs () rest := by
  rw [← h]
  rfl

/-- To note the place of what is read does not change what is read. -/
theorem located_of_reads {α : Type} {r : Reader α} {cs rest : List Char} {a : α}
    (h : Reads r cs a rest) : ∃ place, Reads (located r) cs (a, place) rest :=
  ⟨{ start := cs, stop := rest },
    (Reads.remaining cs).bind (h.bind ((Reads.remaining rest).bind (.pure _ rest)))⟩

/-- The key of a line is read up to the equals sign. -/
theorem key_append (bare : IsBare k) (rest : List Char) :
    ∃ place, Reads key (k.toList ++ ' ' :: '=' :: rest) ⟨[], k, place⟩ ('=' :: rest) := by
  obtain ⟨place, hname⟩ := located_of_reads (keyName_append bare ('=' :: rest))
  refine ⟨place, ?_⟩
  have hstart : Reads blanks (k.toList ++ ' ' :: '=' :: rest) ()
      (k.toList ++ ' ' :: '=' :: rest) := by
    refine blanks_eq ?_
    cases hcs : k.toList with
    | nil => exact absurd hcs bare.nonempty
    | cons c cs => exact skipBlanks_of_bare (bare.bare c (hcs ▸ List.mem_cons_self)) _
  have hpart : Reads keyPart (k.toList ++ ' ' :: '=' :: rest) (k, place) ('=' :: rest) :=
    hstart.bind (hname.bind ((blanks_eq rfl).bind (.pure _ _)))
  have hlast : Declines (do char '.'; keyPart) ('=' :: rest) :=
    (Declines.char (by decide) rest).bind
  exact Reads.checked (.named _ (hpart.bind (hlast.repeated.bind (.pure _ _)))) rfl

end Key

/-! ## Lines -/

/-- A line that gives a key a value. -/
structure Line where
  key : String
  spelt : List Char
  value : Toml

namespace Line

/-- What is written. -/
def chars (l : Line) : List Char := l.key.toList ++ ' ' :: '=' :: ' ' :: (l.spelt ++ ['\n'])

/-- The entry that the line adds. -/
def entry (l : Line) : String × Toml := (l.key, l.value)

/-- The key needs no quotes, and the value is written as it should be. -/
structure IsSound (l : Line) : Prop where
  bare : IsBare l.key
  writes : Writes l.spelt l.value

/-- A line is its key, an equals sign with blanks around it, the value, and a line break. -/
theorem chars_append (l : Line) (rest : List Char) :
    l.chars ++ rest = l.key.toList ++ ' ' :: '=' :: ' ' :: (l.spelt ++ '\n' :: rest) := by
  simp [chars]

/-- A line starts with a character of its key. -/
theorem IsSound.exists_cons {l : Line} (sound : l.IsSound) (rest : List Char) :
    ∃ c more, l.chars ++ rest = c :: more ∧ isBareChar c = true := by
  obtain ⟨hne, bare⟩ := sound.bare
  rw [l.chars_append]
  cases hcs : l.key.toList with
  | nil => exact absurd hcs hne
  | cons c cs => exact ⟨c, _, rfl, bare c (hcs ▸ List.mem_cons_self)⟩

end Line

theorem fullLineEnd_append (rest : List Char) : Reads fullLineEnd ('\n' :: rest) () rest := by
  have hblanks : Reads blanks ('\n' :: rest) () ('\n' :: rest) := blanks_eq rfl
  have hcomment : Reads comment ('\n' :: rest) () ('\n' :: rest) := rfl
  exact .expecting _ (hblanks.bind (hcomment.bind ((Reads.remaining _).bind rfl)))

/-- A new key of the outermost table is added behind those that there are. -/
theorem assign_new {d : Draft} (outermost : d.header = []) {k : String} (place : Extent)
    (new : d.entries.lookup k = none) (v : Toml) (extent : Extent) :
    ∃ d', d.assign ⟨[], k, place⟩ v extent = .ok d' ∧ d'.header = [] ∧
      d'.entries = d.entries ++ [(k, v)] := by
  have hadd : insertUnder [] [] k v d.entries = .ok (d.entries ++ [(k, v)]) := by
    show addEntry (some []) k v d.entries = _
    rw [addEntry, new]
    rfl
  obtain ⟨⟨entries, places⟩, header⟩ := d
  obtain rfl : header = [] := outermost
  refine ⟨⟨⟨entries ++ [(k, v)], Places.note k extent places⟩, []⟩, ?_, rfl, rfl⟩
  unfold Draft.assign
  rw [hadd]
  rfl

/-- A line whose key is new adds its entry to the document, in the outermost table. -/
theorem entryLine_append {d : Draft} (outermost : d.header = []) {l : Line} (sound : l.IsSound)
    (new : d.entries.lookup l.key = none) (rest : List Char) :
    ∃ d', Reads (entryLine d) (l.chars ++ rest) d' rest ∧ d'.header = [] ∧
      d'.entries = d.entries ++ [l.entry] := by
  obtain ⟨place, hkey⟩ := key_append sound.bare (' ' :: (l.spelt ++ '\n' :: rest))
  obtain ⟨extent, hvalue⟩ := located_of_reads (sound.writes.reads rest)
  obtain ⟨d', hassign, houter, hentries⟩ := assign_new outermost place new l.value extent
  refine ⟨d', ?_, houter, hentries⟩
  have hblanks : Reads blanks (' ' :: (l.spelt ++ '\n' :: rest)) () (l.spelt ++ '\n' :: rest) :=
    blanks_eq (sound.writes.start rest)
  have hequals : Reads equalsSign ('=' :: ' ' :: (l.spelt ++ '\n' :: rest)) ()
      (' ' :: (l.spelt ++ '\n' :: rest)) := .expecting _ (.char '=' _)
  rw [l.chars_append]
  refine .surely (.checked (hkey.bind (hequals.bind (hblanks.bind (hvalue.bind
    ((fullLineEnd_append rest).bind (.pure _ rest)))))) ?_)
  dsimp only
  rw [hassign]
  rfl

/-- A line that starts with a key opens no table and is no comment. -/
theorem reads_anyLine {d d' : Draft} {l : Line} {rest left : List Char} (sound : l.IsSound)
    (h : Reads (entryLine d) (l.chars ++ rest) d' left) :
    Reads (anyLine d) (l.chars ++ rest) d' left := by
  obtain ⟨c, more, hline, hc⟩ := sound.exists_cons rest
  rw [hline] at h ⊢
  refine (Reads.remaining _).bind ?_
  split
  · next heq => cases heq
  · next heq => exact absurd (List.cons.inj heq).1 (ne_of_kind hc rfl)
  · next heq => exact absurd (List.cons.inj heq).1 (ne_of_kind hc rfl)
  · next heq => exact absurd (List.cons.inj heq).1 (ne_of_kind hc rfl)
  · next heq => exact absurd (List.cons.inj heq).1 (ne_of_kind hc rfl)
  · exact h

/-- No blanks stand in front of a document of lines. -/
theorem skipBlanks_lines {ls : List Line} (sound : ∀ l ∈ ls, l.IsSound) :
    skipBlanks (ls.flatMap Line.chars) = ls.flatMap Line.chars := by
  cases ls with
  | nil => rfl
  | cons l ls =>
    obtain ⟨c, more, hline, hc⟩ := (sound l List.mem_cons_self).exists_cons (ls.flatMap Line.chars)
    rw [List.flatMap_cons, hline]
    exact skipBlanks_of_bare hc more

/-- The first of several lines is read, and the others are left. -/
theorem line_append {d : Draft} (outermost : d.header = []) {l : Line} {ls : List Line}
    (sound : ∀ l' ∈ l :: ls, l'.IsSound) (new : d.entries.lookup l.key = none) :
    ∃ d', Reads (line d) ((l :: ls).flatMap Line.chars) d' (ls.flatMap Line.chars) ∧
      d'.header = [] ∧ d'.entries = d.entries ++ [l.entry] := by
  have hl := sound l List.mem_cons_self
  obtain ⟨d', hentry, houter, hentries⟩ :=
    entryLine_append outermost hl new (ls.flatMap Line.chars)
  refine ⟨d', ?_, houter, hentries⟩
  rw [List.flatMap_cons]
  refine (reads_anyLine hl hentry).bind ?_
  exact (blanks_eq (skipBlanks_lines fun l' hl' => sound l' (List.mem_cons_of_mem l hl'))).bind
    (.pure _ _)

/-- Lines with new keys add their entries. -/
theorem lines_append {ls : List Line} (sound : ∀ l ∈ ls, l.IsSound) {d : Draft}
    (outermost : d.header = []) (fresh : ((d.entries ++ ls.map Line.entry).map Prod.fst).Nodup)
    {most : Nat} (enough : ls.length ≤ most) :
    ∃ d', Reads (lines most d) (ls.flatMap Line.chars) d' [] ∧
      d'.entries = d.entries ++ ls.map Line.entry := by
  induction ls generalizing d most with
  | nil =>
    refine ⟨d, ?_, (List.append_nil _).symm⟩
    cases most with
    | zero => exact .pure d []
    | succ most =>
      have hend : Declines (line d) [] := Declines.bind ⟨_, rfl, rfl⟩
      exact hend.maybe.bind (.pure d [])
  | cons l ls ih =>
    -- the draft holds the entries of the lines in front, so the key is new to it
    obtain ⟨most, rfl⟩ : ∃ n, most = n + 1 := ⟨most - 1, by simp at enough; omega⟩
    have hnew : d.entries.lookup l.key = none := by
      rw [List.map_append, List.map_cons, List.map_cons] at fresh
      have hkey : l.key ∉ d.entries.map Prod.fst := fun hmem =>
        (List.nodup_append.mp fresh).2.2 l.key hmem l.key List.mem_cons_self rfl
      refine List.lookup_eq_none_iff.mpr fun entry hentry => ?_
      refine bne_iff_ne.mpr ?_
      rintro heq
      exact hkey (heq ▸ List.mem_map_of_mem hentry)
    obtain ⟨d', hline, houter, hentries⟩ := line_append outermost sound hnew
    have hfresh : ((d'.entries ++ ls.map Line.entry).map Prod.fst).Nodup := by
      rw [hentries, List.append_assoc]
      exact fresh
    obtain ⟨d'', hlines, hall⟩ := ih (fun l' hl' => sound l' (List.mem_cons_of_mem l hl')) houter
      hfresh (Nat.le_of_succ_le_succ enough)
    refine ⟨d'', hline.maybe.bind hlines, ?_⟩
    rw [hall, hentries, List.append_assoc]
    rfl

/-- There are no more lines than characters. -/
theorem length_le_flatMap_chars (ls : List Line) : ls.length ≤ (ls.flatMap Line.chars).length := by
  induction ls with
  | nil => exact Nat.le_refl 0
  | cons l ls ih =>
    have hl : 0 < l.chars.length := by
      rw [Line.chars, List.length_append, List.length_cons]
      omega
    rw [List.flatMap_cons, List.length_append, List.length_cons]
    omega

/-- No mark stands in front of a document of lines. -/
theorem byteOrderMark_declines {ls : List Line} (sound : ∀ l ∈ ls, l.IsSound) :
    Declines (char byteOrderMark) (ls.flatMap Line.chars) := by
  cases ls with
  | nil => exact .char_nil
  | cons l ls =>
    obtain ⟨c, more, hline, hc⟩ := (sound l List.mem_cons_self).exists_cons (ls.flatMap Line.chars)
    rw [List.flatMap_cons, hline]
    exact .char (ne_of_kind hc rfl) more

/-- **A document of lines with different keys is read**, and it has an entry for each of them. -/
theorem parse_lines {ls : List Line} (sound : ∀ l ∈ ls, l.IsSound)
    (different : (ls.map Line.key).Nodup) :
    ∃ d, parse (String.ofList (ls.flatMap Line.chars)) = .ok d ∧
      d.entries = ls.map Line.entry := by
  have hkeys : ((({} : Draft).entries ++ ls.map Line.entry).map Prod.fst).Nodup := by
    show ((ls.map Line.entry).map Prod.fst).Nodup
    rw [List.map_map]
    exact different
  obtain ⟨d, hlines, hentries⟩ :=
    lines_append sound (d := {}) rfl hkeys (length_le_flatMap_chars ls)
  refine ⟨d.toDocument, ?_, hentries⟩
  have hread : Reads document (ls.flatMap Line.chars) d [] :=
    (byteOrderMark_declines sound).maybe.bind ((blanks_eq (skipBlanks_lines sound)).bind
      ((Reads.remaining _).bind (hlines.bind ((Reads.remaining []).bind (.pure d [])))))
  unfold parse
  rw [String.toList_ofList, hread]

end DeliveryDesk.Toml

import DeliveryDesk.Toml.Quoted

/-!
# Strings are read as they are written

`quotedChars` chooses among five ways to write a text, and each of them has a reader of its own.
Character by character, what is written is read as the character that it was written for: `Spells`
says what is written between double quotes, and the `_append` lemmas read it. What takes care are
quotes within tripled quotes, where one or two may stand but not three, and those at the end touch
the closing ones (`Follows`).

`text_quotedChars` is the main result. It holds for all texts, control characters and quotes of both
kinds included.
-/

namespace DeliveryDesk.Toml

open Reader Text

/-- A character of a kind is none that is not of it. -/
theorem ne_of_kind {p : Char → Bool} {c d : Char} (h : p c = true) (hd : p d = false) : c ≠ d := by
  rintro rfl
  rw [hd] at h
  cases h

/-! ## Escapes -/

/-- What is written between double quotes for a character. -/
inductive Spells (c : Char) : List Char → Prop where
  | short {e : Char} (means : escaped? e = some c) : Spells c ['\\', e]
  | code (small : c.toNat < 0x80) : Spells c ('\\' :: 'u' :: upperHex 4 c.toNat)
  | plain (plain : isPlain c = true) (unquoted : c ≠ '"') (unescaped : c ≠ '\\') : Spells c [c]

/-- What is written for a character between double quotes spells it. -/
theorem spells_escapeChar (c : Char) : Spells c (escapeChar c) := by
  unfold escapeChar
  by_cases hquote : c = '"'
  · rw [if_pos hquote, hquote]
    exact .short rfl
  rw [if_neg hquote]
  by_cases hslash : c = '\\'
  · rw [if_pos hslash, hslash]
    exact .short rfl
  rw [if_neg hslash]
  split
  · next h => exact h ▸ .short rfl
  split
  · next h => exact h ▸ .short rfl
  split
  · next h => exact h ▸ .short rfl
  split
  · next h => exact h ▸ .short rfl
  split
  · next h => exact h ▸ .short rfl
  by_cases hplain : isPlain c = true
  · rw [if_pos hplain]
    exact .plain hplain hquote hslash
  · rw [if_neg hplain]
    refine .code ?_
    -- the characters that may not stand for themselves are the control characters of ASCII
    simp [isPlain] at hplain
    omega

/-- A code point that is written is read. -/
theorem hexChar_upperHex {n : Nat} (small : n < 0x80) (rest : List Char) :
    hexChar 4 (upperHex 4 n ++ rest) = .ok (Char.ofNat n, rest) := by
  have hlength := length_upperHex 4 n
  have htake : (upperHex 4 n ++ rest).take 4 = upperHex 4 n := List.take_left' hlength
  have hdrop : (upperHex 4 n ++ rest).drop 4 = rest := List.drop_left' hlength
  have hdigits : exactly 4 isHexDigit (upperHex 4 n ++ rest) = .ok (upperHex 4 n, rest) := by
    unfold exactly
    rw [htake, hdrop]
    exact if_pos ⟨hlength, List.all_eq_true.mpr fun c => isHexDigit_of_mem_upperHex⟩
  have hvalue : numberIn? 16 (upperHex 4 n) = some n := by
    rw [numberIn?_upperHex, Nat.mod_eq_of_lt (Nat.lt_trans small (by decide))]
  unfold hexChar surely named atStops checked
  rw [hdigits]
  dsimp only
  rw [hvalue]
  dsimp only
  rw [if_pos (Or.inl (by omega))]

/-- The four digits of a control character are read as that character. -/
theorem exists_code {c : Char} (small : c.toNat < 0x80) :
    ∃ x y z w, upperHex 4 c.toNat = [x, y, z, w] ∧
      ∀ rest, hexChar 4 (x :: y :: z :: w :: rest) = .ok (c, rest) := by
  obtain ⟨x, y, z, w, hdigits⟩ : ∃ x y z w, upperHex 4 c.toNat = [x, y, z, w] := ⟨_, _, _, _, rfl⟩
  refine ⟨x, y, z, w, hdigits, fun rest => ?_⟩
  have hread := hexChar_upperHex small rest
  rwa [hdigits, Char.ofNat_toNat] at hread

/-- A short escape is told from one by a code point. -/
theorem ne_of_escaped? {c e : Char} (means : escaped? e = some c) : e ≠ 'u' ∧ e ≠ 'U' := by
  constructor
  · rintro rfl
    cases means
  · rintro rfl
    cases means

theorem escape_short {c e : Char} (means : escaped? e = some c) (rest : List Char) :
    escape (e :: rest) = .ok (c, rest) := by
  obtain ⟨hu, hU⟩ := ne_of_escaped? means
  rw [escape.eq_4 e rest hu hU, means]

/-- A character is read from any spelling of it, whatever comes behind. -/
theorem basicText_append {c : Char} {spelt : List Char} (spells : Spells c spelt)
    (rest : List Char) : basicText (spelt ++ rest) = andRest c (basicText rest) := by
  cases spells with
  | @short e means =>
    obtain ⟨hu, hU⟩ := ne_of_escaped? means
    show basicText ('\\' :: e :: rest) = _
    rw [basicText.eq_6 e rest (fun _ _ _ _ _ h => absurd h hu)
      (fun _ _ _ _ _ _ _ _ _ h => absurd h hU), escape_short means]
  | code small =>
    obtain ⟨x, y, z, w, hdigits, hread⟩ := exists_code small
    rw [hdigits]
    show basicText ('\\' :: 'u' :: x :: y :: z :: w :: rest) = _
    rw [basicText.eq_4, hread]
  | plain plain unquoted unescaped =>
    show basicText (c :: rest) = _
    rw [basicText.eq_7 c rest unquoted (fun h => absurd h unescaped)
      (fun _ _ _ _ _ h => absurd h unescaped) (fun _ _ _ _ _ _ _ _ _ h => absurd h unescaped)
      (fun _ _ h => absurd h unescaped), if_pos plain]

/-- **A text with escapes between double quotes is read as that text.** -/
theorem basicText_escaped (cs rest : List Char) :
    basicText (cs.flatMap escapeChar ++ '"' :: rest) = .ok (cs, rest) := by
  induction cs with
  | nil => rfl
  | cons c cs ih =>
    rw [List.flatMap_cons, List.append_assoc, basicText_append (spells_escapeChar c), ih]
    rfl

/-! ## Apostrophes -/

/-- **A text between apostrophes is read as it stands.** -/
theorem literalText_plain {cs : List Char} (plain : ∀ c ∈ cs, isPlain c = true ∧ c ≠ '\x27')
    (rest : List Char) : literalText (cs ++ '\x27' :: rest) = .ok (cs, rest) := by
  induction cs with
  | nil => rfl
  | cons c cs ih =>
    obtain ⟨hplain, hquote⟩ := plain c List.mem_cons_self
    rw [List.cons_append, literalText.eq_3 c _ hquote, if_pos hplain,
      ih fun d hd => plain d (List.mem_cons_of_mem c hd)]
    rfl

/-! ## Tripled quotes -/

/-- The quotes at the end of a long text, and what stands behind them. -/
def closed (q : Char) (rest : List Char) : List Char := q :: q :: q :: rest

/-- What can follow a quote within tripled quotes: anything else, one more quote with something else
behind it, or the end, with one more quote in front of it at most. -/
inductive Follows (q : Char) : List Char → Prop where
  | other {cs : List Char} (h : goesOn q cs = true) : Follows q cs
  | quote {cs : List Char} (h : goesOn q cs = true) : Follows q (q :: cs)
  | close {rest : List Char} (h : rest.head? ≠ some q) : Follows q (closed q rest)
  | closeQuoted {rest : List Char} (h : rest.head? ≠ some q) : Follows q (q :: closed q rest)

/-- Where a text goes on, no quote stands. -/
theorem ne_cons_of_goesOn {q : Char} {cs : List Char} (plain : isPlain q = true)
    (h : goesOn q cs = true) (rest : List Char) : cs ≠ q :: rest := by
  rintro rfl
  have hbreak : atLineBreak (q :: rest) = false := by
    unfold atLineBreak
    split
    · next heq =>
      cases heq
      cases plain
    · next heq =>
      cases heq
      cases plain
    · rfl
  simp [goesOn, hbreak] at h

theorem ne_cons_of_head? {q : Char} {rest : List Char} (h : rest.head? ≠ some q)
    (more : List Char) : rest ≠ q :: more := by
  rintro rfl
  exact h rfl

theorem quotesGoOn_of_goesOn {q : Char} {cs : List Char} (h : goesOn q cs = true) :
    quotesGoOn q (q :: cs) = true ∧ quotesGoOn q (q :: q :: cs) = true := by
  cases cs with
  | nil => cases h
  | cons c cs => simp [quotesGoOn, h]

/-! ### Tripled double quotes -/

/-- The closing quotes, alone and with a quote of the text in front of them. -/
theorem longBasicText_closed {rest : List Char} (h : rest.head? ≠ some '"') :
    longBasicText false (closed '"' rest) = .ok ([], rest) ∧
      longBasicText false ('"' :: closed '"' rest) = .ok (['"'], rest) :=
  ⟨longBasicText.eq_6 false rest (fun _ => ne_cons_of_head? h _) (fun _ => ne_cons_of_head? h _),
    longBasicText.eq_5 false rest fun _ => ne_cons_of_head? h _⟩

/-- A character that is neither an escape nor a line break, and no quote where three stand. -/
theorem longBasicText_cons {c : Char} {rest : List Char} (plain : isPlain c = true)
    (unescaped : c ≠ '\\') (goes : c = '"' → quotesGoOn '"' (c :: rest) = true)
    (lone : c = '"' → ∀ more, rest ≠ '"' :: '"' :: more) :
    longBasicText false (c :: rest) = andRest c (longBasicText false rest) := by
  have hreturn : c ≠ '\r' := ne_of_kind plain rfl
  have hbreak : c ≠ '\n' := ne_of_kind plain rfl
  -- this is the last equation: its conditions say that none of the others applies
  rw [longBasicText.eq_10 false c rest (fun _ h => absurd h hreturn) hbreak
    (fun _ h => lone h _) (fun _ h => lone h _) (fun _ h => lone h _)
    (fun _ _ _ _ _ h => absurd h unescaped) (fun _ _ _ _ _ _ _ _ _ h => absurd h unescaped)
    (fun _ _ h => absurd h unescaped)]
  rw [if_neg (fun h => Bool.false_ne_true h.1), if_neg (by
    rintro ⟨hquote, hstops⟩
    rw [goes hquote] at hstops
    cases hstops), if_pos ⟨plain, .inl unescaped⟩]

/-- A quote is read as itself, whatever follows it. -/
theorem longBasicText_quote {cs : List Char} (follows : Follows '"' cs) :
    longBasicText false ('"' :: cs) = andRest '"' (longBasicText false cs) := by
  cases follows with
  | other goes =>
    have hne := ne_cons_of_goesOn rfl goes
    exact longBasicText_cons rfl (by decide) (fun _ => (quotesGoOn_of_goesOn goes).1)
      fun _ more => hne _
  | @quote cs goes =>
    have hne := ne_cons_of_goesOn rfl goes
    refine longBasicText_cons rfl (by decide) (fun _ => (quotesGoOn_of_goesOn goes).2) ?_
    intro _ more heq
    exact hne _ (List.cons.inj heq).2
  | @close rest h =>
    rw [(longBasicText_closed h).1, (longBasicText_closed h).2]
    rfl
  | @closeQuoted rest h =>
    rw [(longBasicText_closed h).2]
    rfl

/-- No line break is taken for a short escape. -/
theorem atLineBreak_escape {c e : Char} (means : escaped? e = some c) (rest : List Char) :
    atLineBreak (skipBlanks (e :: rest)) = false := by
  have hne : ∀ d, escaped? d = none → e ≠ d := by
    rintro d hd rfl
    rw [hd] at means
    cases means
  have hblank : isInlineBlank e = false := by
    simp [isInlineBlank, hne ' ' rfl, hne '\t' rfl]
  rw [skipBlanks, List.dropWhile_cons_of_neg (by simp [hblank])]
  unfold atLineBreak
  split
  · next heq => exact absurd (List.cons.inj heq).1 (hne '\n' rfl)
  · next heq => exact absurd (List.cons.inj heq).1 (hne '\r' rfl)
  · rfl

/-- Between tripled double quotes it is read from the same spellings. -/
theorem longBasicText_append {c : Char} {spelt : List Char} (spells : Spells c spelt)
    (rest : List Char) :
    longBasicText false (spelt ++ rest) = andRest c (longBasicText false rest) := by
  cases spells with
  | @short e means =>
    obtain ⟨hu, hU⟩ := ne_of_escaped? means
    show longBasicText false ('\\' :: e :: rest) = _
    rw [longBasicText.eq_9 false e rest (fun _ _ _ _ _ h => absurd h hu)
      (fun _ _ _ _ _ _ _ _ _ h => absurd h hU), atLineBreak_escape means, escape_short means]
    rfl
  | code small =>
    obtain ⟨x, y, z, w, hdigits, hread⟩ := exists_code small
    rw [hdigits]
    show longBasicText false ('\\' :: 'u' :: x :: y :: z :: w :: rest) = _
    rw [longBasicText.eq_7, hread]
  | plain plain unquoted unescaped =>
    exact longBasicText_cons plain unescaped (absurd · unquoted) (absurd · unquoted)

/-- An escape goes on with something else than a quote. -/
theorem Spells.goesOn {c : Char} {spelt : List Char} (spells : Spells c spelt)
    (rest : List Char) : goesOn '"' (spelt ++ rest) = true := by
  cases spells with
  | short means => simp [Toml.goesOn, isPlain]
  | code small => simp [Toml.goesOn, isPlain]
  | plain plain unquoted unescaped => simp [Toml.goesOn, plain, unquoted, unescaped]

/-- Where no quote stands for itself, something else than a quote is written. -/
theorem goesOn_longEscape {run : Nat} {c : Char} (cs rest : List Char)
    (spent : c = '"' → 2 ≤ run) : goesOn '"' (longEscape run (c :: cs) ++ rest) = true := by
  by_cases hquote : c = '"'
  · subst hquote
    rw [longEscape, if_neg (Nat.not_lt.mpr (spent rfl))]
    exact Spells.goesOn (c := '"') (.short rfl) (longEscape 0 cs ++ rest)
  by_cases hbreak : c = '\n'
  · subst hbreak
    rfl
  · rw [longEscape.eq_4 run c cs hquote hbreak, List.append_assoc]
    exact (spells_escapeChar c).goesOn _

/-- What is written behind a quote can follow it. -/
theorem follows_longEscape {run : Nat} (first : run < 2) (cs : List Char) {rest : List Char}
    (h : rest.head? ≠ some '"') :
    Follows '"' (longEscape (run + 1) cs ++ closed '"' rest) := by
  cases cs with
  | nil => exact .close h
  | cons c cs =>
    by_cases hquote : c = '"' ∧ run + 1 < 2
    · -- the second quote in a row is the last one that stands for itself
      obtain ⟨rfl, hrun⟩ := hquote
      obtain rfl : run = 0 := by omega
      show Follows '"' ('"' :: (longEscape 2 cs ++ closed '"' rest))
      cases cs with
      | nil => exact .closeQuoted h
      | cons c cs => exact .quote (goesOn_longEscape cs _ fun _ => Nat.le_refl 2)
    · exact .other (goesOn_longEscape cs _ fun hc => Nat.not_lt.mp fun hrun => hquote ⟨hc, hrun⟩)

/-- **A text with escapes between tripled double quotes is read as that text**, however many of
its quotes stand for themselves. -/
theorem longBasicText_longEscape (run : Nat) (cs : List Char) {rest : List Char}
    (h : rest.head? ≠ some '"') :
    longBasicText false (longEscape run cs ++ closed '"' rest) = .ok (cs, rest) := by
  -- as it is written: `run` counts the quotes in front that stand for themselves
  induction run, cs using longEscape.induct with
  | case1 run => exact (longBasicText_closed h).1
  | case2 run cs first ih =>
    rw [longEscape, if_pos first, List.cons_append,
      longBasicText_quote (follows_longEscape first cs h), ih]
    rfl
  | case3 run cs spent ih =>
    rw [longEscape, if_neg spent]
    refine (longBasicText_append (.short rfl) (longEscape 0 cs ++ closed '"' rest)).trans ?_
    rw [ih]
    rfl
  | case4 run cs ih =>
    show andRest '\n' (longBasicText false (longEscape 0 cs ++ closed '"' rest)) = _
    rw [ih]
    rfl
  | case5 run c cs hquote hbreak ih =>
    rw [longEscape.eq_4 run c cs hquote hbreak, List.append_assoc,
      longBasicText_append (spells_escapeChar c), ih]
    rfl

/-! ### Tripled apostrophes -/

/-- The closing apostrophes, alone and with an apostrophe of the text in front of them. -/
theorem longLiteralText_closed {rest : List Char} (h : rest.head? ≠ some '\x27') :
    longLiteralText (closed '\x27' rest) = .ok ([], rest) ∧
      longLiteralText ('\x27' :: closed '\x27' rest) = .ok (['\x27'], rest) :=
  ⟨longLiteralText.eq_6 rest (fun _ => ne_cons_of_head? h _) (fun _ => ne_cons_of_head? h _),
    longLiteralText.eq_5 rest fun _ => ne_cons_of_head? h _⟩

/-- A character that is no line break, and no apostrophe where three stand. -/
theorem longLiteralText_cons {c : Char} {rest : List Char} (plain : isPlain c = true)
    (goes : c = '\x27' → quotesGoOn '\x27' (c :: rest) = true)
    (lone : c = '\x27' → ∀ more, rest ≠ '\x27' :: '\x27' :: more) :
    longLiteralText (c :: rest) = andRest c (longLiteralText rest) := by
  have hreturn : c ≠ '\r' := ne_of_kind plain rfl
  have hbreak : c ≠ '\n' := ne_of_kind plain rfl
  rw [longLiteralText.eq_7 c rest (fun _ h => absurd h hreturn) hbreak
    (fun _ h => lone h _) (fun _ h => lone h _) (fun _ h => lone h _), if_neg (by
    rintro ⟨hquote, hstops⟩
    rw [goes hquote] at hstops
    cases hstops), if_pos plain]

/-- An apostrophe is read as itself, whatever follows it. -/
theorem longLiteralText_quote {cs : List Char} (follows : Follows '\x27' cs) :
    longLiteralText ('\x27' :: cs) = andRest '\x27' (longLiteralText cs) := by
  cases follows with
  | other goes =>
    have hne := ne_cons_of_goesOn rfl goes
    exact longLiteralText_cons rfl (fun _ => (quotesGoOn_of_goesOn goes).1) fun _ more => hne _
  | @quote cs goes =>
    have hne := ne_cons_of_goesOn rfl goes
    refine longLiteralText_cons rfl (fun _ => (quotesGoOn_of_goesOn goes).2) ?_
    intro _ more heq
    exact hne _ (List.cons.inj heq).2
  | @close rest h =>
    rw [(longLiteralText_closed h).1, (longLiteralText_closed h).2]
    rfl
  | @closeQuoted rest h =>
    rw [(longLiteralText_closed h).2]
    rfl

/-- A text whose characters stand for themselves, on lines of their own. -/
def Stands (cs : List Char) : Prop := ∀ c ∈ cs, isPlain c = true ∨ c = '\n'

/-- Three characters in a row are found at the start too. -/
theorem hasTriple_cons {q c : Char} {cs : List Char} (h : hasTriple q (c :: cs) = false) :
    hasTriple q cs = false := by
  match cs with
  | [] => rfl
  | [_] => rfl
  | a :: b :: cs =>
    rw [hasTriple, Bool.or_eq_false_iff] at h
    exact h.2

theorem goesOn_literal {c : Char} (cs : List Char) (stands : isPlain c = true ∨ c = '\n')
    (other : c ≠ '\x27') : goesOn '\x27' (c :: cs) = true := by
  rcases stands with plain | rfl
  · simp [goesOn, plain, other]
  · rfl

/-- What stands behind an apostrophe can follow it, unless it makes three of them. -/
theorem follows_literal {cs : List Char} (stands : Stands cs)
    (triple : hasTriple '\x27' ('\x27' :: cs) = false) {rest : List Char}
    (h : rest.head? ≠ some '\x27') : Follows '\x27' (cs ++ closed '\x27' rest) := by
  match cs with
  | [] => exact .close h
  | c :: cs =>
    by_cases hquote : c = '\x27'
    · subst hquote
      match cs with
      | [] => exact .closeQuoted h
      | d :: cs =>
        refine .quote (goesOn_literal _ (stands d (by simp)) ?_)
        rintro rfl
        simp [hasTriple] at triple
    · exact .other (goesOn_literal _ (stands c List.mem_cons_self) hquote)

/-- **A text between tripled apostrophes is read as it stands**, if no three of its apostrophes
stand in a row. -/
theorem longLiteralText_plain {cs : List Char} (stands : Stands cs)
    (triple : hasTriple '\x27' cs = false) {rest : List Char} (h : rest.head? ≠ some '\x27') :
    longLiteralText (cs ++ closed '\x27' rest) = .ok (cs, rest) := by
  induction cs with
  | nil => exact (longLiteralText_closed h).1
  | cons c cs ih =>
    have hrest : Stands cs := fun d hd => stands d (List.mem_cons_of_mem c hd)
    have hread := ih hrest (hasTriple_cons triple)
    have hstep : longLiteralText (c :: (cs ++ closed '\x27' rest)) =
        andRest c (longLiteralText (cs ++ closed '\x27' rest)) := by
      by_cases hquote : c = '\x27'
      · subst hquote
        exact longLiteralText_quote (follows_literal hrest triple h)
      · rcases stands c List.mem_cons_self with plain | rfl
        · exact longLiteralText_cons plain (absurd · hquote) (absurd · hquote)
        · rfl
    rw [List.cons_append, hstep, hread]
    rfl

/-! ## All ways to write a text -/

/-- What is read of a quoted text: a quote, the text, and a quote in front of the rest. -/
theorem between_append (q : Char) (body rest : List Char) :
    between q body ++ rest = q :: (body ++ q :: rest) := by
  simp [between]

theorem betweenLong_append (q : Char) (breaks : Bool) (body rest : List Char) :
    betweenLong q breaks body ++ rest =
      closed q ((if breaks then ['\n'] else []) ++ (body ++ closed q rest)) := by
  simp [betweenLong, closed]

theorem dropLineBreak_of_plain {c : Char} (plain : isPlain c = true) (rest : List Char) :
    dropLineBreak (c :: rest) = c :: rest := by
  unfold dropLineBreak
  split
  · next h =>
    cases h
    cases plain
  · next h =>
    cases h
    cases plain
  · rfl

theorem Spells.exists_cons {c : Char} {spelt : List Char} (spells : Spells c spelt) :
    ∃ x more, spelt = x :: more ∧ isPlain x = true := by
  cases spells with
  | short means => exact ⟨_, _, rfl, rfl⟩
  | code small => exact ⟨_, _, rfl, rfl⟩
  | plain plain unquoted unescaped => exact ⟨_, _, rfl, plain⟩

/-- A text without line breaks does not start with one. -/
theorem dropLineBreak_longEscape {cs : List Char} (unbroken : '\n' ∉ cs) (rest : List Char) :
    dropLineBreak (longEscape 0 cs ++ closed '"' rest) = longEscape 0 cs ++ closed '"' rest := by
  cases cs with
  | nil => rfl
  | cons c cs =>
    by_cases hquote : c = '"'
    · subst hquote
      rfl
    have hbreak : c ≠ '\n' := by
      rintro rfl
      exact unbroken List.mem_cons_self
    obtain ⟨x, more, hspelt, hplain⟩ := (spells_escapeChar c).exists_cons
    rw [longEscape.eq_4 0 c cs hquote hbreak, hspelt, List.cons_append, List.cons_append,
      dropLineBreak_of_plain hplain]

theorem dropLineBreak_literal {cs : List Char} (stands : Stands cs) (unbroken : '\n' ∉ cs)
    (rest : List Char) : dropLineBreak (cs ++ closed '\x27' rest) = cs ++ closed '\x27' rest := by
  cases cs with
  | nil => rfl
  | cons c cs =>
    rcases stands c List.mem_cons_self with plain | rfl
    · exact dropLineBreak_of_plain plain _
    · exact absurd List.mem_cons_self unbroken

section Text

variable {cs rest : List Char}

/-- A text with escapes is read back. -/
theorem text_escaped (h : rest.head? ≠ some '"') :
    text (between '"' (cs.flatMap escapeChar) ++ rest) = .ok (String.ofList cs, rest) := by
  -- no escape starts with a quote, so the first one is not the first of three
  have hsingle : ∀ more, cs.flatMap escapeChar ++ '"' :: rest ≠ '"' :: '"' :: more := by
    cases cs with
    | nil => exact fun more heq => ne_cons_of_head? h more (List.cons.inj heq).2
    | cons c cs =>
      intro more
      rw [List.flatMap_cons, List.append_assoc]
      exact ne_cons_of_goesOn rfl ((spells_escapeChar c).goesOn _) _
  rw [between_append, text.eq_2 _ hsingle, basicText_escaped]
  rfl

/-- So is a text between apostrophes, which has no escapes. -/
theorem text_literal (plain : ∀ c ∈ cs, isPlain c = true ∧ c ≠ '\x27')
    (h : rest.head? ≠ some '\x27') :
    text (between '\x27' cs ++ rest) = .ok (String.ofList cs, rest) := by
  -- the text holds no apostrophe, so the first one is not the first of three
  have hsingle : ∀ more, cs ++ '\x27' :: rest ≠ '\x27' :: '\x27' :: more := by
    cases cs with
    | nil => exact fun more heq => ne_cons_of_head? h more (List.cons.inj heq).2
    | cons c cs => exact fun more heq => (plain c List.mem_cons_self).2 (List.cons.inj heq).1
  rw [between_append, text.eq_4 _ hsingle, literalText_plain plain]
  rfl

/-- So is one between tripled double quotes. -/
theorem text_longEscaped (h : rest.head? ≠ some '"') :
    text (betweenLong '"' (cs.contains '\n') (longEscape 0 cs) ++ rest) =
      .ok (String.ofList cs, rest) := by
  have hbreak : dropLineBreak ((if cs.contains '\n' then ['\n'] else []) ++
      (longEscape 0 cs ++ closed '"' rest)) = longEscape 0 cs ++ closed '"' rest := by
    by_cases broken : '\n' ∈ cs
    · rw [if_pos (List.contains_iff_mem.mpr broken)]
      rfl
    · rw [if_neg (mt List.contains_iff_mem.mp broken)]
      exact dropLineBreak_longEscape broken rest
  rw [betweenLong_append, closed, text.eq_1, hbreak, longBasicText_longEscape 0 cs h]
  rfl

/-- And so is one between tripled apostrophes. -/
theorem text_longLiteral (stands : Stands cs) (triple : hasTriple '\x27' cs = false)
    (h : rest.head? ≠ some '\x27') :
    text (betweenLong '\x27' (cs.contains '\n') cs ++ rest) = .ok (String.ofList cs, rest) := by
  have hbreak : dropLineBreak ((if cs.contains '\n' then ['\n'] else []) ++
      (cs ++ closed '\x27' rest)) = cs ++ closed '\x27' rest := by
    by_cases broken : '\n' ∈ cs
    · rw [if_pos (List.contains_iff_mem.mpr broken)]
      rfl
    · rw [if_neg (mt List.contains_iff_mem.mp broken)]
      exact dropLineBreak_literal stands broken rest
  rw [betweenLong_append, closed, text.eq_3, hbreak, longLiteralText_plain stands triple h]
  rfl

/-- A text that needs no escapes can stand as it is. -/
theorem stands_of_needsEscape (h : needsEscape cs = false) : Stands cs := by
  intro c hc
  have hnone := List.any_eq_false.mp h c hc
  cases hplain : isPlain c with
  | true => exact .inl rfl
  | false => simpa [hplain] using hnone

/-- A text that fits between apostrophes is plain and has none of its own. -/
theorem plain_of_fitsLiteral (h : fitsLiteral cs = true) :
    ∀ c ∈ cs, isPlain c = true ∧ c ≠ '\x27' := by
  simp only [fitsLiteral, Bool.and_eq_true, Bool.not_eq_true', List.contains_eq_mem,
    decide_eq_false_iff_not] at h
  obtain ⟨⟨escapes, breaks⟩, quotes⟩ := h
  intro c hc
  rcases stands_of_needsEscape escapes c hc with plain | rfl
  · refine ⟨plain, ?_⟩
    rintro rfl
    exact quotes hc
  · exact absurd hc breaks

/-- **A text is read as it is written**, whatever characters it is made of, if no quote follows. -/
theorem text_quotedChars (cs : List Char) (hbasic : rest.head? ≠ some '"')
    (hliteral : rest.head? ≠ some '\x27') :
    text (quotedChars cs ++ rest) = .ok (String.ofList cs, rest) := by
  unfold quotedChars
  dsimp only
  split
  · exact text_escaped hbasic
  split
  · next fits => exact text_literal (plain_of_fitsLiteral fits) hliteral
  split
  · exact text_longEscaped hbasic
  split
  · next h =>
    rw [Bool.and_eq_true, Bool.not_eq_true', Bool.not_eq_true'] at h
    exact text_longLiteral (stands_of_needsEscape h.1) h.2 hliteral
  split
  · exact text_longEscaped hbasic
  · exact text_escaped hbasic

end Text

end DeliveryDesk.Toml

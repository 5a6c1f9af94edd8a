import DeliveryDesk.Proofs.Json.Numbers

/-!
# Documents that are written can be read

The tree of a value is what its indented form reads as, before anything in it is interpreted
(`Json.tree`). Strings come back piece by piece: a character that is escaped by its code comes back
as a unit, every other as itself. Items and members come back in their order, whatever blanks stand
between them.

The reader counts down while it works; `Json.steps` says from where it must start for a value, and
that is never more than twice what is written.

Main statement: `Json.read?_pretty`, the indented form of every value is one JSON text and its tree
is that of the value.
-/

namespace DeliveryDesk

open Text

/-! ## Strings -/

namespace RawJson

/-- The piece that a character of a string comes back as. -/
def pieceOf (c : Char) : StringPart :=
  if c.toNat < 0x20 ∧ c ∉ ['\n', '\r', '\t', '\x08', '\x0c'] then .unit c.toNat else .char c

theorem hexDigit?_hexDigit : ∀ n < 16, hexDigit? (some (Json.hexDigit n)) = some n := by decide

/-- A short escape is read as the character it stands for. -/
theorem stringParts_short {e c : Char} (h : shortEscape? e = some c) (rest : List Symbol) :
    stringParts (some '\\' :: some e :: rest) =
      (stringParts rest).map fun p => (.char c :: p.1, p.2) := by
  have hunit : e ≠ 'u' := by
    rintro rfl
    cases h
  have hread : stringParts (some '\\' :: some e :: rest) =
      (stringParts rest).bind fun p => some (.char c :: p.1, p.2) := by
    rw [stringParts]
    · rw [h]
      rfl
    · exact fun _ _ _ _ _ _ he => hunit he
  rw [hread]
  exact (Option.map_eq_bind ..).symm

/-- A character that may stand plainly is read as itself. -/
theorem stringParts_plain {c : Char} (hquote : c ≠ '"') (hescape : c ≠ '\\')
    (hvisible : 0x20 ≤ c.toNat) (rest : List Symbol) :
    stringParts (some c :: rest) = (stringParts rest).map fun p => (.char c :: p.1, p.2) := by
  rw [stringParts]
  · rw [if_neg (Nat.not_lt.mpr hvisible)]
  · exact hquote
  · exact fun _ _ _ _ _ _ he => hescape he
  · exact fun _ _ _ he => hescape he
  · exact hescape

/-- Four digits are read as the unit they denote. -/
theorem stringParts_unit {u : Nat} (hu : u < 0x20) (rest : List Symbol) :
    stringParts (some '\\' :: some 'u' :: some '0' :: some '0' ::
        some (Json.hexDigit (u / 16)) :: some (Json.hexDigit (u % 16)) :: rest) =
      (stringParts rest).map fun p => (.unit u :: p.1, p.2) := by
  have hzero : hexDigit? (some '0') = some 0 := by decide
  have hhigh := hexDigit?_hexDigit (u / 16) (by omega)
  have hlow := hexDigit?_hexDigit (u % 16) (Nat.mod_lt _ (by decide))
  have hvalue : ((0 * 16 + 0) * 16 + u / 16) * 16 + u % 16 = u := by omega
  rw [stringParts, hzero, hhigh, hlow]
  simp only [Option.bind_eq_bind, Option.bind_some, hvalue]
  exact (Option.map_eq_bind ..).symm

theorem pieceOf_of_mem {c : Char} (h : c ∈ ['\n', '\r', '\t', '\x08', '\x0c']) :
    pieceOf c = .char c := by
  rw [pieceOf, if_neg fun hc => hc.2 h]

/-- Every character from the blank on can stand for itself. -/
theorem pieceOf_of_visible {c : Char} (h : 0x20 ≤ c.toNat) : pieceOf c = .char c := by
  rw [pieceOf, if_neg fun hc => Nat.not_lt.mpr h hc.1]

/-- However a character is written, it is read as one piece. -/
theorem stringParts_escapeChar (c : Char) (rest : List Symbol) :
    stringParts ((Json.escapeChar c).map some ++ rest) =
      (stringParts rest).map fun p => (pieceOf c :: p.1, p.2) := by
  unfold Json.escapeChar
  by_cases hquote : c = '"'
  · subst hquote
    exact stringParts_short rfl rest
  by_cases hescape : c = '\\'
  · subst hescape
    exact stringParts_short rfl rest
  by_cases hshort : c ∈ ['\n', '\r', '\t', '\x08', '\x0c']
  · rw [pieceOf_of_mem hshort]
    simp only [List.mem_cons, List.not_mem_nil, or_false] at hshort
    rcases hshort with rfl | rfl | rfl | rfl | rfl
    all_goals exact stringParts_short rfl rest
  have hother : c ≠ '\n' ∧ c ≠ '\r' ∧ c ≠ '\t' ∧ c ≠ '\x08' ∧ c ≠ '\x0c' := by
    simpa only [List.mem_cons, List.not_mem_nil, or_false, not_or] using hshort
  rw [if_neg hquote, if_neg hescape, if_neg hother.1, if_neg hother.2.1, if_neg hother.2.2.1,
    if_neg hother.2.2.2.1, if_neg hother.2.2.2.2]
  by_cases hcontrol : c.toNat < 0x20
  · rw [if_pos hcontrol, pieceOf, if_pos ⟨hcontrol, hshort⟩]
    exact stringParts_unit hcontrol rest
  · rw [if_neg hcontrol, pieceOf_of_visible (Nat.not_lt.mp hcontrol)]
    exact stringParts_plain hquote hescape (Nat.not_lt.mp hcontrol) rest

/-- **A string is read back piece by piece.** -/
theorem stringParts_quoted (s : String) (rest : List Symbol) :
    ∃ body, (Json.quoted s).map some ++ rest = some '"' :: body ∧
      stringParts body = some (s.toList.map pieceOf, rest) := by
  refine ⟨(s.toList.flatMap Json.escapeChar).map some ++ some '"' :: rest, ?_, ?_⟩
  · simp [Json.quoted]
  · induction s.toList with
    | nil => rfl
    | cons c cs ih =>
      rw [List.flatMap_cons, List.map_append, List.append_assoc, stringParts_escapeChar, ih]
      rfl

end RawJson

/-! ## Trees -/

namespace Json

mutual

/-- The tree that the written form of a value is read as. -/
def tree : Json → RawJson
  | .null => .null
  | .bool b => .bool b
  | .number n => .number n.raw
  | .string s => .string (s.toList.map RawJson.pieceOf)
  | .array items => .array (treeItems items)
  | .object members => .object (treeMembers members)

/-- The trees of the items of an array. -/
def treeItems : List Json → List RawJson
  | [] => []
  | x :: xs => tree x :: treeItems xs

/-- The trees of the members of an object. -/
def treeMembers : List (String × Json) → List (List StringPart × RawJson)
  | [] => []
  | (k, x) :: rest => (k.toList.map RawJson.pieceOf, tree x) :: treeMembers rest

end

mutual

/-- How far the reader counts down for a value. -/
def steps : Json → Nat
  | .null => 1
  | .bool _ => 1
  | .number _ => 1
  | .string _ => 1
  | .array items => 1 + stepsItems items
  | .object members => 1 + stepsMembers members

/-- How far the reader counts down for the items of an array. -/
def stepsItems : List Json → Nat
  | [] => 0
  | x :: xs => 1 + steps x + stepsItems xs

/-- How far the reader counts down for the members of an object. -/
def stepsMembers : List (String × Json) → Nat
  | [] => 0
  | (_, x) :: rest => 1 + steps x + stepsMembers rest

end

end Json

/-! ## Blanks between the tokens -/

namespace RawJson

/-- Blanks in front of anything are skipped. -/
theorem skipSpace_append {blanks : List Symbol} (h : ∀ c ∈ blanks, isSpace c = true)
    (s : List Symbol) : skipSpace (blanks ++ s) = skipSpace s := by
  rw [skipSpace, skipSpace, List.dropWhile_append_of_pos h]

/-- A line break and the indentation behind it are skipped. -/
theorem skipSpace_newline (level : Nat) (s : List Symbol) :
    skipSpace ((Json.newline level).map some ++ s) = skipSpace s := by
  refine skipSpace_append (fun c hc => ?_) s
  rw [Json.newline, List.map_cons, List.map_replicate] at hc
  rcases List.mem_cons.mp hc with rfl | hblank
  · rfl
  · rw [(List.mem_replicate.mp hblank).2]
    rfl

/-- Nothing is skipped in front of anything else than a blank. -/
theorem skipSpace_cons {c : Symbol} (h : isSpace c = false) (s : List Symbol) :
    skipSpace (c :: s) = c :: s := by
  rw [skipSpace, List.dropWhile_cons_of_neg (by simp [h])]

/-- Blanks in front of a value do not count. -/
theorem value?_congr {s s' : List Symbol} (h : skipSpace s = skipSpace s') (fuel : Nat) :
    value? fuel s = value? fuel s' := by
  cases fuel with
  | zero => rfl
  | succ fuel => rw [value?, value?, h]

/-- In front of a value, a line break and its indentation make no difference. -/
theorem value?_newline (fuel level : Nat) (s : List Symbol) :
    value? fuel ((Json.newline level).map some ++ s) = value? fuel s :=
  value?_congr (skipSpace_newline level s) fuel

theorem value?_space (fuel : Nat) (s : List Symbol) :
    value? fuel (some ' ' :: s) = value? fuel s := by
  have hskip : skipSpace (some ' ' :: s) = skipSpace s := rfl
  exact value?_congr hskip fuel

/-- Nor do they make one in front of the members of an object. -/
theorem members?_newline (fuel level : Nat) (s : List Symbol) :
    members? fuel ((Json.newline level).map some ++ s) = members? fuel s := by
  cases fuel with
  | zero => rfl
  | succ fuel => rw [members?, members?, skipSpace_newline]

/-- Nor do they in front of the items of an array. -/
theorem items?_newline (fuel level : Nat) (s : List Symbol) :
    items? fuel ((Json.newline level).map some ++ s) = items? fuel s := by
  cases fuel with
  | zero => rfl
  | succ fuel => rw [items?, items?, value?_newline]

theorem isSpace_of_isDigit {c : Char} (h : c.isDigit = true) : isSpace (some c) = false := by
  cases hblank : isSpace (some c) with
  | false => rfl
  | true =>
    simp only [isSpace, Bool.or_eq_true, beq_iff_eq] at hblank
    rcases hblank with ((rfl | rfl) | rfl) | rfl <;> cases h

/-- A value that starts with a digit is a number. -/
theorem value?_digit {c : Char} (h : c.isDigit = true) (fuel : Nat) (s : List Symbol) :
    value? (fuel + 1) (some c :: s) = unsigned? false (some c :: s) := by
  rw [value?, skipSpace_cons (isSpace_of_isDigit h)]
  split
  case h_8 => rfl
  -- none of the other values starts with a digit
  all_goals
    next he =>
      cases he
      exact absurd h (by decide)

/-- A value that starts with a minus is a number. -/
theorem value?_minus (fuel : Nat) (s : List Symbol) :
    value? (fuel + 1) (some '-' :: s) = unsigned? true s := rfl

/-- A number is read as a value. -/
theorem value?_number (n : JsonNumber) (fuel : Nat) {rest : List Symbol} (hends : EndsNumber rest) :
    value? (fuel + 1) ((Json.numberText n).toList.map some ++ rest) =
      some (.number n.raw, rest) := by
  have hread := fun negative => unsigned?_append n.wellFormed_numeral negative hends
  rw [n.toList_numberText]
  cases hminus : n.isNegative with
  | true =>
    rw [if_pos rfl, List.map_cons, List.cons_append, value?_minus, hread, ← hminus]
    rfl
  | false =>
    rw [if_neg Bool.false_ne_true]
    cases hwhole : n.numeral.whole with
    | nil => exact absurd hwhole n.wellFormed_numeral.whole_ne
    | cons c cs =>
      have hc : c.isDigit = true :=
        n.wellFormed_numeral.whole c (by rw [hwhole]; exact List.mem_cons_self)
      have hchars : n.numeral.chars.map some ++ rest =
          some c ::
            ((cs ++ n.numeral.fractionChars ++ n.numeral.exponentChars).map some ++ rest) := by
        rw [Numeral.chars, hwhole]
        rfl
      rw [hchars, value?_digit hc, ← hchars, hread, ← hminus]
      rfl

/-- A string is read as a value. -/
theorem value?_string (s : String) (fuel : Nat) (rest : List Symbol) :
    value? (fuel + 1) ((Json.quoted s).map some ++ rest) =
      some (.string (s.toList.map pieceOf), rest) := by
  obtain ⟨body, hquoted, hread⟩ := stringParts_quoted s rest
  rw [hquoted]
  show (stringParts body).map _ = _
  rw [hread]
  rfl

/-- What stands between brackets is read as the items of an array. -/
theorem value?_array {fuel : Nat} {body : List Symbol} {xs : List RawJson} {rest : List Symbol}
    (hopen : (skipSpace body).head? ≠ some (some ']'))
    (hread : items? fuel body = some (xs, rest)) :
    value? (fuel + 1) (some '[' :: body) = some (.array xs, rest) := by
  have hskip : skipSpace (some '[' :: body) = some '[' :: body := skipSpace_cons rfl body
  simp only [value?, hskip]
  split
  next hclose => exact absurd (congrArg List.head? hclose) hopen
  next =>
    rw [hread]
    rfl

/-- What stands between braces is read as the members of an object. -/
theorem value?_object {fuel : Nat} {body : List Symbol}
    {ms : List (List StringPart × RawJson)} {rest : List Symbol}
    (hopen : (skipSpace body).head? ≠ some (some '\x7d'))
    (hread : members? fuel body = some (ms, rest)) :
    value? (fuel + 1) (some '\x7b' :: body) = some (.object ms, rest) := by
  have hskip : skipSpace (some '\x7b' :: body) = some '\x7b' :: body := skipSpace_cons rfl body
  simp only [value?, hskip]
  split
  next hclose => exact absurd (congrArg List.head? hclose) hopen
  next =>
    rw [hread]
    rfl

/-- An item with another one behind it. -/
theorem items?_cons {fuel : Nat} {s rest rest' : List Symbol} {x : RawJson} {xs : List RawJson}
    (hitem : value? fuel s = some (x, some ',' :: rest))
    (hothers : items? fuel rest = some (xs, rest')) :
    items? (fuel + 1) s = some (x :: xs, rest') := by
  rw [items?, hitem]
  simp only [skipSpace_cons (c := some ',') rfl, hothers]
  rfl

/-- The last item. -/
theorem items?_last {fuel : Nat} {s rest : List Symbol} {level : Nat} {x : RawJson}
    (hitem : value? fuel s = some (x, (Json.newline level).map some ++ some ']' :: rest)) :
    items? (fuel + 1) s = some ([x], rest) := by
  rw [items?, hitem]
  simp only [skipSpace_newline, skipSpace_cons (c := some ']') rfl]

/-- A member with another one behind it. -/
theorem members?_cons {fuel : Nat} {key : String} {s rest rest' : List Symbol} {x : RawJson}
    {ms : List (List StringPart × RawJson)}
    (hvalue : value? fuel (some ' ' :: s) = some (x, some ',' :: rest))
    (hothers : members? fuel rest = some (ms, rest')) :
    members? (fuel + 1) ((Json.quoted key).map some ++ some ':' :: some ' ' :: s) =
      some ((key.toList.map pieceOf, x) :: ms, rest') := by
  obtain ⟨body, hquoted, hread⟩ := stringParts_quoted key (some ':' :: some ' ' :: s)
  rw [hquoted, members?, skipSpace_cons rfl]
  simp only [hread, skipSpace_cons (c := some ':') rfl, hvalue, skipSpace_cons (c := some ',') rfl,
    hothers]
  rfl

/-- The last member. -/
theorem members?_last {fuel : Nat} {key : String} {s rest : List Symbol} {level : Nat} {x : RawJson}
    (hvalue : value? fuel (some ' ' :: s) =
      some (x, (Json.newline level).map some ++ some '\x7d' :: rest)) :
    members? (fuel + 1) ((Json.quoted key).map some ++ some ':' :: some ' ' :: s) =
      some ([(key.toList.map pieceOf, x)], rest) := by
  obtain ⟨body, hquoted, hread⟩ := stringParts_quoted key (some ':' :: some ' ' :: s)
  rw [hquoted, members?, skipSpace_cons rfl]
  simp only [hread, skipSpace_cons (c := some ':') rfl, hvalue, skipSpace_newline,
    skipSpace_cons (c := some '\x7d') rfl]

end RawJson

/-! ## Values -/

namespace Json

/-- A number ends at the end of its line. -/
theorem endsNumber_newline (level : Nat) (s : List Symbol) :
    RawJson.EndsNumber ((newline level).map some ++ s) := by
  intro c hc
  obtain rfl : some '\n' = c := Option.some.inj hc
  decide

theorem endsNumber_comma (s : List Symbol) : RawJson.EndsNumber (some ',' :: s) := by
  intro c hc
  obtain rfl : some ',' = c := Option.some.inj hc
  decide

theorem prettyChars_array (level : Nat) (x : Json) (xs : List Json) :
    prettyChars level (.array (x :: xs)) =
      '[' :: (prettyItems (level + 1) (x :: xs) ++ (newline level ++ [']'])) := by
  rw [prettyChars, List.cons_append, List.cons_append, List.append_assoc]
  exact fun h => nomatch h

theorem prettyChars_object (level : Nat) (m : String × Json) (ms : List (String × Json)) :
    prettyChars level (.object (m :: ms)) =
      '\x7b' :: (prettyMembers (level + 1) (m :: ms) ++ (newline level ++ ['\x7d'])) := by
  rw [prettyChars, List.cons_append, List.cons_append, List.append_assoc]
  exact fun h => nomatch h

/-- A value starts with neither a blank nor a closing bracket. -/
theorem head_prettyChars (level : Nat) (j : Json) :
    ∃ c cs, prettyChars level j = c :: cs ∧ RawJson.isSpace (some c) = false ∧ c ≠ ']' := by
  cases j with
  | null => exact ⟨'n', _, rfl, by decide⟩
  | bool b => cases b <;> exact ⟨_, _, rfl, by decide⟩
  | string s => exact ⟨'"', _, rfl, by decide⟩
  | array items => cases items <;> exact ⟨'[', _, rfl, by decide⟩
  | object members => cases members <;> exact ⟨'\x7b', _, rfl, by decide⟩
  | number n =>
    rw [prettyChars, n.toList_numberText]
    cases n.isNegative with
    | true => exact ⟨'-', _, rfl, by decide⟩
    | false =>
      rw [if_neg Bool.false_ne_true]
      cases hwhole : n.numeral.whole with
      | nil => exact absurd hwhole n.wellFormed_numeral.whole_ne
      | cons c cs =>
        have hc : c.isDigit = true :=
          n.wellFormed_numeral.whole c (by rw [hwhole]; exact List.mem_cons_self)
        refine ⟨c, cs ++ n.numeral.fractionChars ++ n.numeral.exponentChars, ?_, ?_, ?_⟩
        · rw [Numeral.chars, hwhole]
          rfl
        · exact RawJson.isSpace_of_isDigit hc
        · rintro rfl
          cases hc

/-- Items are written one to a line, with commas between them. -/
theorem prettyItems_cons (level : Nat) (x y : Json) (xs : List Json) :
    prettyItems level (x :: y :: xs) =
      newline level ++ (prettyChars level x ++ ',' :: prettyItems level (y :: xs)) := by
  rw [prettyItems, List.append_assoc]
  exact fun h => nomatch h

/-- So are members, each with its name and a colon in front. -/
theorem prettyMembers_cons (level : Nat) (k : String) (x : Json) (m : String × Json)
    (ms : List (String × Json)) :
    prettyMembers level ((k, x) :: m :: ms) =
      newline level ++ (quoted k ++ ':' :: ' ' :: (prettyChars level x ++
        ',' :: prettyMembers level (m :: ms))) := by
  rw [prettyMembers, List.append_assoc, List.append_assoc]
  · rfl
  · exact fun h => nomatch h

/-- Behind an opening bracket no array with items is closed at once. -/
theorem head?_prettyItems (level : Nat) (x : Json) (xs : List Json) (s : List Symbol) :
    (RawJson.skipSpace ((prettyItems level (x :: xs)).map some ++ s)).head? ≠ some (some ']') := by
  obtain ⟨behind, hitems⟩ : ∃ behind,
      prettyItems level (x :: xs) = newline level ++ (prettyChars level x ++ behind) := by
    cases xs with
    | nil => exact ⟨[], by rw [prettyItems, List.append_nil]⟩
    | cons y xs => exact ⟨_, prettyItems_cons level x y xs⟩
  obtain ⟨c, cs, hx, hblank, hclose⟩ := head_prettyChars level x
  rw [hitems, hx, List.map_append, List.append_assoc, RawJson.skipSpace_newline, List.cons_append,
    List.map_cons, List.cons_append, RawJson.skipSpace_cons hblank]
  intro h
  exact hclose (Option.some.inj (Option.some.inj h))

/-- Behind an opening brace no object with members is closed at once. -/
theorem head?_prettyMembers (level : Nat) (m : String × Json) (ms : List (String × Json))
    (s : List Symbol) :
    (RawJson.skipSpace ((prettyMembers level (m :: ms)).map some ++ s)).head? ≠
      some (some '\x7d') := by
  obtain ⟨k, x⟩ := m
  obtain ⟨behind, hmembers⟩ : ∃ behind,
      prettyMembers level ((k, x) :: ms) = newline level ++ ('"' :: behind) := by
    cases ms with
    | nil => exact ⟨_, by rw [prettyMembers, List.append_assoc]; rfl⟩
    | cons m ms => exact ⟨_, prettyMembers_cons level k x m ms⟩
  rw [hmembers, List.map_append, List.append_assoc, RawJson.skipSpace_newline, List.map_cons,
    List.cons_append, RawJson.skipSpace_cons rfl, List.head?_cons]
  decide

/-- The reader counts down at least once for every value. -/
theorem steps_pos (j : Json) : 0 < steps j := by
  cases j <;> simp only [steps] <;> omega

mutual

/-- A value is read back, and nothing of what follows it. -/
theorem value?_prettyChars : (fuel level : Nat) → (j : Json) → {rest : List Symbol} →
    steps j ≤ fuel → RawJson.EndsNumber rest →
    RawJson.value? fuel ((prettyChars level j).map some ++ rest) = some (tree j, rest)
  | 0, _, j, _, hfuel, _ => absurd (Nat.lt_of_lt_of_le (steps_pos j) hfuel) (Nat.lt_irrefl 0)
  | fuel + 1, level, .null, rest, hfuel, _ => by
    rfl
  | fuel + 1, level, .bool true, rest, hfuel, _ => by
    rfl
  | fuel + 1, level, .bool false, rest, hfuel, _ => by
    rfl
  | fuel + 1, level, .number n, rest, hfuel, hends => by
    exact RawJson.value?_number n fuel hends
  | fuel + 1, level, .string s, rest, hfuel, _ => by
    exact RawJson.value?_string s fuel rest
  | fuel + 1, level, .array [], rest, hfuel, _ => by
    rfl
  | fuel + 1, level, .object [], rest, hfuel, _ => by
    rfl
  | fuel + 1, level, .array (x :: xs), rest, hfuel, _ => by
    rw [steps] at hfuel
    have hitems := items?_prettyItems fuel (level + 1) x xs level rest (by omega)
    have hchars : (prettyChars level (.array (x :: xs))).map some ++ rest =
        some '[' :: ((prettyItems (level + 1) (x :: xs)).map some ++
          ((newline level).map some ++ some ']' :: rest)) := by
      rw [prettyChars_array]
      simp
    rw [hchars]
    exact RawJson.value?_array (head?_prettyItems _ x xs _) hitems
  | fuel + 1, level, .object (m :: ms), rest, hfuel, _ => by
    rw [steps] at hfuel
    have hmembers := members?_prettyMembers fuel (level + 1) m ms level rest (by omega)
    have hchars : (prettyChars level (.object (m :: ms))).map some ++ rest =
        some '\x7b' :: ((prettyMembers (level + 1) (m :: ms)).map some ++
          ((newline level).map some ++ some '\x7d' :: rest)) := by
      rw [prettyChars_object]
      simp
    rw [hchars]
    exact RawJson.value?_object (head?_prettyMembers _ m ms _) hmembers

/-- The items of an array are read back. -/
theorem items?_prettyItems : (fuel level : Nat) → (x : Json) → (xs : List Json) →
    (outer : Nat) → (rest : List Symbol) → stepsItems (x :: xs) ≤ fuel →
    RawJson.items? fuel ((prettyItems level (x :: xs)).map some ++
        ((newline outer).map some ++ some ']' :: rest)) =
      some (treeItems (x :: xs), rest)
  | 0, _, x, xs, _, _, hfuel => by
    rw [stepsItems] at hfuel
    omega
  | fuel + 1, level, x, [], outer, rest, hfuel => by
    rw [stepsItems, stepsItems] at hfuel
    have hitem := value?_prettyChars fuel level x (by omega)
      (endsNumber_newline outer (some ']' :: rest))
    rw [prettyItems, List.map_append, List.append_assoc, RawJson.items?_newline]
    exact RawJson.items?_last hitem
  | fuel + 1, level, x, y :: xs, outer, rest, hfuel => by
    rw [stepsItems] at hfuel
    have hothers := items?_prettyItems fuel level y xs outer rest (by omega)
    have hitem := value?_prettyChars fuel level x (by omega)
      (endsNumber_comma ((prettyItems level (y :: xs)).map some ++
        ((newline outer).map some ++ some ']' :: rest)))
    rw [prettyItems_cons, List.map_append, List.append_assoc, RawJson.items?_newline,
      List.map_append, List.append_assoc, List.map_cons, List.cons_append]
    exact RawJson.items?_cons hitem hothers

/-- The members of an object are read back. -/
theorem members?_prettyMembers : (fuel level : Nat) → (m : String × Json) →
    (ms : List (String × Json)) → (outer : Nat) → (rest : List Symbol) →
    stepsMembers (m :: ms) ≤ fuel →
    RawJson.members? fuel ((prettyMembers level (m :: ms)).map some ++
        ((newline outer).map some ++ some '\x7d' :: rest)) =
      some (treeMembers (m :: ms), rest)
  | 0, _, (k, x), ms, _, _, hfuel => by
    rw [stepsMembers] at hfuel
    omega
  | fuel + 1, level, (k, x), [], outer, rest, hfuel => by
    rw [stepsMembers, stepsMembers] at hfuel
    have hvalue := value?_prettyChars fuel level x (by omega)
      (endsNumber_newline outer (some '\x7d' :: rest))
    rw [← RawJson.value?_space] at hvalue
    have hchars : (prettyMembers level [(k, x)]).map some ++
        ((newline outer).map some ++ some '\x7d' :: rest) =
        (newline level).map some ++ ((quoted k).map some ++ some ':' :: some ' ' ::
          ((prettyChars level x).map some ++
            ((newline outer).map some ++ some '\x7d' :: rest))) := by
      rw [prettyMembers]
      simp
    rw [hchars, RawJson.members?_newline]
    exact RawJson.members?_last hvalue
  | fuel + 1, level, (k, x), m :: ms, outer, rest, hfuel => by
    rw [stepsMembers] at hfuel
    have hothers := members?_prettyMembers fuel level m ms outer rest (by omega)
    have hvalue := value?_prettyChars fuel level x (by omega)
      (endsNumber_comma ((prettyMembers level (m :: ms)).map some ++
        ((newline outer).map some ++ some '\x7d' :: rest)))
    rw [← RawJson.value?_space] at hvalue
    have hchars : (prettyMembers level ((k, x) :: m :: ms)).map some ++
        ((newline outer).map some ++ some '\x7d' :: rest) =
        (newline level).map some ++ ((quoted k).map some ++ some ':' :: some ' ' ::
          ((prettyChars level x).map some ++ some ',' ::
            ((prettyMembers level (m :: ms)).map some ++
              ((newline outer).map some ++ some '\x7d' :: rest)))) := by
      rw [prettyMembers_cons]
      simp
    rw [hchars, RawJson.members?_newline]
    exact RawJson.members?_cons hvalue hothers

end

/-! ## Whole documents -/

/-- A leaf is written with at least one character. -/
theorem steps_le_of_leaf {level : Nat} {j : Json} (hleaf : steps j = 1) :
    steps j + 1 ≤ 2 * (prettyChars level j).length := by
  obtain ⟨c, cs, hchars, -⟩ := head_prettyChars level j
  rw [hchars, hleaf, List.length_cons]
  omega

mutual

/-- A value is written with enough characters for the reader's counter. -/
theorem steps_le (level : Nat) : (j : Json) → steps j + 1 ≤ 2 * (prettyChars level j).length
  | .null => steps_le_of_leaf rfl
  | .bool _ => steps_le_of_leaf rfl
  | .number _ => steps_le_of_leaf rfl
  | .string _ => steps_le_of_leaf rfl
  | .array [] => steps_le_of_leaf rfl
  | .object [] => steps_le_of_leaf rfl
  | .array (x :: xs) => by
    have hitems := stepsItems_le (level + 1) (x :: xs)
    rw [steps, prettyChars_array]
    simp only [List.length_cons, List.length_append]
    omega
  | .object (m :: ms) => by
    have hmembers := stepsMembers_le (level + 1) (m :: ms)
    rw [steps, prettyChars_object]
    simp only [List.length_cons, List.length_append]
    omega

/-- For the items of an array it does not count down further than twice the length of what is
written. -/
theorem stepsItems_le (level : Nat) :
    (xs : List Json) → stepsItems xs ≤ 2 * (prettyItems level xs).length
  | [] => Nat.zero_le _
  | [x] => by
    have hx := steps_le level x
    rw [stepsItems, stepsItems, prettyItems, List.length_append]
    omega
  | x :: y :: xs => by
    have hx := steps_le level x
    have hothers := stepsItems_le level (y :: xs)
    rw [stepsItems, prettyItems_cons]
    simp only [List.length_cons, List.length_append]
    omega

theorem stepsMembers_le (level : Nat) :
    (ms : List (String × Json)) → stepsMembers ms ≤ 2 * (prettyMembers level ms).length
  | [] => Nat.zero_le _
  | [(k, x)] => by
    have hx := steps_le level x
    rw [stepsMembers, stepsMembers, prettyMembers]
    simp only [List.length_cons, List.length_append]
    omega
  | (k, x) :: m :: ms => by
    have hx := steps_le level x
    have hothers := stepsMembers_le level (m :: ms)
    rw [stepsMembers, prettyMembers_cons]
    simp only [List.length_cons, List.length_append]
    omega

end

/-- **Every document is one JSON text.** -/
theorem read?_pretty (j : Json) : RawJson.read? (symbols j.pretty) = some j.tree := by
  have hsymbols : symbols j.pretty = (prettyChars 0 j).map some ++ [] := by
    rw [symbols, pretty, String.toList_ofList, List.append_nil]
  have hfuel : steps j ≤ 2 * (symbols j.pretty).length + 2 := by
    have hsteps := steps_le 0 j
    rw [hsymbols, List.append_nil, List.length_map]
    omega
  have hread : RawJson.value? (2 * (symbols j.pretty).length + 2)
      ((prettyChars 0 j).map some ++ []) = some (j.tree, []) :=
    value?_prettyChars _ 0 j hfuel fun c hc => nomatch hc
  rw [RawJson.read?]
  rw [← hsymbols] at hread
  rw [hread]
  rfl

end Json

/-- A text that is one JSON document. -/
def IsDocument (s : String) : Prop := ∃ tree, RawJson.read? (symbols s) = some tree

/-- Whatever value is written, the text is a document. -/
theorem Json.isDocument_pretty (j : Json) : IsDocument j.pretty := ⟨j.tree, j.read?_pretty⟩

end DeliveryDesk

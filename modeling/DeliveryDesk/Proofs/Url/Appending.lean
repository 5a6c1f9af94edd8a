import DeliveryDesk.Url.Basic

/-!
# Segments that are appended to a path

A segment is percent-encoded before it is appended, and what was encoded can be decoded again
(`decode_encode`), so that the segment stands for the text it was made from
(`decodeText?_encodedSegment`).

Not every text becomes a segment of its own, though. `IsPlain` holds of those that do. The others
are the two names for "here" and "one level up", and the texts with a tab or a line break, which
are dropped; `push_of_not_isPlain` says what is appended for them instead.

The segments that an address is built from beside the identifiers are fixed words (`IsFixed`). They
are plain and need no encoding, so appending them is appending to the list (`foldl_push_fixed`).
-/

namespace DeliveryDesk.Url

open Text

/-! ## Percent encoding can be undone -/

/-- A byte that is encoded is decoded again. -/
theorem decode_encodeByte (b : UInt8) (rest : List Char) :
    decode (encodeByte b ++ rest) = b :: decode rest := by
  have hb : b.toNat < 256 := b.toNat_lt
  have hhigh : b.toNat / 16 < 16 := by omega
  have hlow : b.toNat % 16 < 16 := by omega
  simp only [encodeByte, List.cons_append, List.nil_append, decode, digitIn?_upperHexDigit _ hhigh,
    digitIn?_upperHexDigit _ hlow]
  rw [Nat.div_add_mod, UInt8.ofNat_toNat]

/-- So are several of them, and what follows is decoded for itself. -/
theorem decode_encodeBytes (bytes : List UInt8) (rest : List Char) :
    decode (bytes.flatMap encodeByte ++ rest) = bytes ++ decode rest := by
  induction bytes with
  | nil => rfl
  | cons b bytes ih =>
    rw [List.flatMap_cons, List.append_assoc, decode_encodeByte, ih, List.cons_append]

/-- Any character but the percent sign stands for itself. -/
theorem decode_cons_of_ne {c : Char} (hc : c ≠ '%') (rest : List Char) :
    decode (c :: rest) = encodeChar c ++ decode rest := by
  rw [decode.eq_def]
  split
  · next h => cases h
  · next h =>
    cases h
    exact absurd rfl hc
  · next h =>
    cases h
    rfl

/-- **Percent encoding can be undone**, as long as the percent sign itself is encoded. -/
theorem decode_encode {escaped : Char → Bool} (hpercent : escaped '%' = true) (cs : List Char) :
    decode (encode escaped cs) = cs.flatMap encodeChar := by
  induction cs with
  | nil => rfl
  | cons c cs ih =>
    have hstep : encode escaped (c :: cs) =
        (if escaped c then (encodeChar c).flatMap encodeByte else [c]) ++ encode escaped cs :=
      List.flatMap_cons
    rw [hstep, List.flatMap_cons]
    cases hc : escaped c with
    | true => rw [if_pos rfl, decode_encodeBytes, ih]
    | false =>
      have hne : c ≠ '%' := by
        rintro rfl
        rw [hpercent] at hc
        cases hc
      rw [if_neg Bool.false_ne_true, List.singleton_append, decode_cons_of_ne hne, ih]

/-- The text that a segment stands for, if its bytes are UTF-8. -/
def decodeText? (segment : String) : Option String :=
  String.fromUTF8? (decode segment.toList).toByteArray

/-- **A text that is encoded is decoded again**, whichever characters are, as long as the percent
sign is one of them. -/
theorem decodeText?_encode {escaped : Char → Bool} (hpercent : escaped '%' = true)
    (cs : List Char) :
    decodeText? (String.ofList (encode escaped cs)) = some (String.ofList cs) := by
  have hbytes : (cs.flatMap encodeChar).toByteArray = (String.ofList cs).toByteArray := rfl
  rw [decodeText?, String.toList_ofList, decode_encode hpercent, hbytes]
  simp only [String.fromUTF8?, dif_pos (String.ofList cs).isValidUTF8]
  rfl

/-! ## Appending one text -/

/-- A text as a segment. -/
def encodedSegment (wellKnown : Bool) (s : String) : String :=
  String.ofList (encode (escapedInSegment wellKnown) s.toList)

theorem escapedInSegment_percent (wellKnown : Bool) : escapedInSegment wellKnown '%' = true := by
  cases wellKnown <;> decide

/-- A segment stands for the text it was made from. -/
theorem decodeText?_encodedSegment (wellKnown : Bool) (s : String) :
    decodeText? (encodedSegment wellKnown s) = some s := by
  rw [encodedSegment, decodeText?_encode (escapedInSegment_percent wellKnown), String.ofList_toList]

/-- No two texts become one segment. -/
theorem encodedSegment_injective {wellKnown : Bool} {s t : String}
    (h : encodedSegment wellKnown s = encodedSegment wellKnown t) : s = t := by
  have hs := decodeText?_encodedSegment wellKnown s
  rw [h, decodeText?_encodedSegment] at hs
  exact (Option.some.inj hs).symm

/-- What becomes a segment of its own: neither of the two names for "here" and "one level up", and
nothing with a tab or a line break. -/
def IsPlain (s : String) : Prop :=
  s ≠ "." ∧ s ≠ ".." ∧ ∀ c ∈ s.toList, isDropped c = false

instance (s : String) : Decidable (IsPlain s) :=
  decidable_of_iff (s ≠ "." ∧ s ≠ ".." ∧ s.toList.all (fun c => !isDropped c) = true)
    (by simp [IsPlain])

/-- The characters that are left of a text. -/
def kept (s : String) : List Char := s.toList.filter fun c => !isDropped c

/-- A text is kept as it is unless it has characters that are dropped from addresses. -/
theorem kept_eq_toList_iff {s : String} :
    kept s = s.toList ↔ ∀ c ∈ s.toList, isDropped c = false := by
  simp [kept, List.filter_eq_self]

/-- A plain text is appended as one segment. -/
theorem push_of_isPlain {s : String} (plain : IsPlain s) (wellKnown : Bool) (list : List String) :
    push wellKnown list s = below list ++ [encodedSegment wellKnown s] := by
  obtain ⟨hhere, hup, hkept⟩ := plain
  have hchars : (s.toList.filter fun c => !isDropped c) = s.toList := kept_eq_toList_iff.mpr hkept
  have hhere' : s.toList ≠ ['.'] := fun h => hhere (String.toList_inj.mp h)
  have hup' : s.toList ≠ ['.', '.'] := fun h => hup (String.toList_inj.mp h)
  simp only [push, hhere, hup, hchars, hhere', hup', or_self, if_false, encodedSegment]

/-- For any other text there is appended nothing, or an empty segment one level up, or a segment
that does not stand for the text. -/
theorem push_of_not_isPlain {s : String} (h : ¬ IsPlain s) (wellKnown : Bool)
    (list : List String) :
    push wellKnown list s = list ∨ push wellKnown list s = shorten (below list) ++ [""] ∨
      ∃ segment, push wellKnown list s = below list ++ [segment] ∧ decodeText? segment ≠ some s := by
  unfold push
  split
  · exact .inl rfl
  · next hdots =>
    obtain ⟨hhere, hup⟩ := not_or.mp hdots
    -- something is dropped from the text, so it is not what a segment could be decoded to
    have hdropped : kept s ≠ s.toList := fun hkept => h ⟨hhere, hup, kept_eq_toList_iff.mp hkept⟩
    have hdecoded : ∀ cs, cs = kept s →
        decodeText? (String.ofList (encode (escapedInSegment wellKnown) cs)) ≠ some s := by
      rintro cs rfl hs
      rw [decodeText?_encode (escapedInSegment_percent wellKnown)] at hs
      exact hdropped ((String.toList_ofList (l := kept s)).symm.trans
        (congrArg String.toList (Option.some.inj hs)))
    dsimp only
    split
    · exact .inr (.inl rfl)
    · split
      · refine .inr (.inr ⟨"", rfl, ?_⟩)
        rintro ⟨⟩
        exact hdropped rfl
      · exact .inr (.inr ⟨_, rfl, hdecoded _ rfl⟩)

/-- Every text makes a path at most one segment longer. -/
theorem length_push_le (wellKnown : Bool) (list : List String) (s : String) :
    (push wellKnown list s).length ≤ list.length + 1 := by
  have hbelow : (below list).length ≤ list.length := by
    unfold below
    split <;> simp
  have hshorten : (shorten (below list)).length ≤ list.length := by
    refine Nat.le_trans ?_ hbelow
    unfold shorten
    split <;> simp
  by_cases plain : IsPlain s
  · rw [push_of_isPlain plain, List.length_append]
    exact Nat.add_le_add_right hbelow 1
  · rcases push_of_not_isPlain plain wellKnown list with h | h | ⟨segment, h, -⟩
    · rw [h]
      exact Nat.le_succ _
    · rw [h, List.length_append]
      exact Nat.add_le_add_right hshorten 1
    · rw [h, List.length_append]
      exact Nat.add_le_add_right hbelow 1

/-- No segment adds more than itself to a path. -/
theorem length_foldl_push_le (wellKnown : Bool) (segments list : List String) :
    (segments.foldl (push wellKnown) list).length ≤ list.length + segments.length := by
  induction segments generalizing list with
  | nil => exact Nat.le_refl _
  | cons s rest ih =>
    have hpush := length_push_le wellKnown list s
    have hrest := ih (push wellKnown list s)
    rw [List.foldl_cons, List.length_cons]
    omega

/-! ## Appending fixed words -/

/-- A word that is appended as it is. -/
def IsFixed (s : String) : Prop :=
  s ≠ "" ∧ IsPlain s ∧ isDrive s.toList = false ∧
    encodedSegment true s = s ∧ encodedSegment false s = s

instance (s : String) : Decidable (IsFixed s) := inferInstanceAs (Decidable (_ ∧ _ ∧ _ ∧ _ ∧ _))

/-- A path that is more than a slash is the one that something is appended to. -/
theorem below_of_ne {list : List String} (h : list ≠ [""]) : below list = list := if_neg h

theorem below_concat {s : String} (hs : s ≠ "") (list : List String) :
    below (list ++ [s]) = list ++ [s] := by
  refine below_of_ne fun h => ?_
  cases list with
  | nil => exact hs (List.singleton_inj.mp h)
  | cons => simp at h

/-- Shortening a path takes its last segment. -/
theorem shorten_concat {s : String} (hs : IsFixed s) (list : List String) :
    shorten (list ++ [s]) = list := by
  simp [shorten, hs.2.2.1]

/-- A fixed segment is appended as it is. -/
theorem push_of_isFixed {s : String} (hs : IsFixed s) (wellKnown : Bool) (list : List String) :
    push wellKnown list s = below list ++ [s] := by
  obtain ⟨-, plain, -, htrue, hfalse⟩ := hs
  rw [push_of_isPlain plain]
  cases wellKnown with
  | true => rw [htrue]
  | false => rw [hfalse]

/-- Words are appended one after the other. -/
theorem foldl_push_fixed {words : List String} (hwords : ∀ s ∈ words, IsFixed s)
    (hne : words ≠ []) (wellKnown : Bool) (list : List String) :
    words.foldl (push wellKnown) list = below list ++ words := by
  induction words generalizing list with
  | nil => exact absurd rfl hne
  | cons s rest ih =>
    have hs := hwords s (List.mem_cons_self ..)
    rw [List.foldl_cons, push_of_isFixed hs]
    cases rest with
    | nil => rfl
    | cons t rest =>
      rw [ih (fun x hx => hwords x (List.mem_cons_of_mem _ hx)) (List.cons_ne_nil t rest),
        below_concat hs.1, List.append_assoc, List.singleton_append]

/-- So are words, or none at all, behind a path that is more than a slash. -/
theorem foldl_push_behind {words : List String} (hwords : ∀ s ∈ words, IsFixed s)
    (wellKnown : Bool) {list : List String} (hlist : list ≠ [""]) :
    words.foldl (push wellKnown) list = list ++ words := by
  cases words with
  | nil => exact (List.append_nil _).symm
  | cons s rest => rw [foldl_push_fixed hwords (List.cons_ne_nil s rest), below_of_ne hlist]

/-! ## Appending a text between fixed words -/

section Behind

variable {word id : String} {back : List String}

theorem concat_concat_ne (list : List String) (s t : String) : list ++ [s] ++ [t] ≠ [""] := by
  intro h
  have hlength := congrArg List.length h
  simp at hlength

/-- A plain text has a segment of its own behind a word. -/
theorem foldl_push_of_isPlain (hword : IsFixed word) (hback : ∀ s ∈ back, IsFixed s)
    (plain : IsPlain id) (wellKnown : Bool) (list : List String) :
    (id :: back).foldl (push wellKnown) (list ++ [word]) =
      list ++ [word] ++ encodedSegment wellKnown id :: back := by
  rw [List.foldl_cons, push_of_isPlain plain, below_concat hword.1,
    foldl_push_behind hback _ (concat_concat_ne _ _ _), List.append_assoc, List.singleton_append]

/-- Any other text has none. -/
theorem isPlain_of_foldl_push (hword : IsFixed word) (hback : ∀ s ∈ back, IsFixed s)
    {wellKnown : Bool} {list : List String} {segment : String}
    (hpath : (id :: back).foldl (push wellKnown) (list ++ [word]) =
      list ++ [word] ++ segment :: back)
    (hsegment : decodeText? segment = some id) : IsPlain id := by
  refine Decidable.byContradiction fun h => ?_
  have hlength := congrArg List.length hpath
  rw [List.foldl_cons] at hpath hlength
  rw [List.length_append, List.length_cons] at hlength
  have hlist : (list ++ [word]).length = list.length + 1 := by simp
  rcases push_of_not_isPlain h wellKnown (list ++ [word]) with hpush | hpush | ⟨other, hpush, hother⟩
  · -- nothing is appended, so the path is too short
    have hle := length_foldl_push_le wellKnown back (list ++ [word])
    rw [hpush] at hlength
    omega
  · -- the word itself is lost, so the path is too short
    have hle := length_foldl_push_le wellKnown back (list ++ [""])
    rw [hpush, below_concat hword.1, shorten_concat hword] at hlength
    simp only [List.length_append, List.length_singleton] at hle hlength
    omega
  · rw [hpush, below_concat hword.1, foldl_push_behind hback _ (concat_concat_ne _ _ _),
      List.append_assoc, List.singleton_append] at hpath
    obtain ⟨-, hsame⟩ := List.append_inj hpath rfl
    rw [(List.cons.inj hsame).1] at hother
    exact hother hsegment

end Behind

/-! ## The path below which something is appended -/

/-- A path without the empty segment that it may end with. -/
def withoutEmptyLast (list : List String) : List String :=
  if list.getLast? = some "" then list.dropLast else list

/-- Segments are appended to the path without the empty segment at its end. If there are two empty
segments and nothing else, both are lost. -/
theorem below_dropEmptyLast {list : List String} (h : list ≠ ["", ""]) :
    below (dropEmptyLast list) = withoutEmptyLast list := by
  unfold withoutEmptyLast dropEmptyLast
  split
  · next hdrop =>
    obtain ⟨front, rfl⟩ := List.getLast?_eq_some_iff.mp hdrop.2
    rw [if_pos hdrop.2, List.dropLast_concat]
    refine below_of_ne ?_
    rintro rfl
    exact h rfl
  · next hkeep =>
    split
    · next hempty =>
      obtain ⟨front, rfl⟩ := List.getLast?_eq_some_iff.mp hempty
      cases front with
      | nil => rfl
      | cons s rest => exact absurd ⟨by simp, hempty⟩ hkeep
    · next hnonempty =>
      refine below_of_ne ?_
      rintro rfl
      exact hnonempty rfl

end DeliveryDesk.Url

import DeliveryDesk.Proofs.Text.Numbers
import DeliveryDesk.Proofs.Url.Appending
import DeliveryDesk.Url.Host

/-!
# Plain host names

Most hosts have a name in letters, digits and hyphens, with points between its labels
(`IsPlainName`). None of what can go wrong with a name in other characters concerns them:
`Host.read_of_isPlainName` says that every one of them is read, as the same name in lower case.
-/

namespace DeliveryDesk.Url

open Text Unicode

/-- Whether a character may stand in a plain name. -/
def isPlainChar (c : Char) : Bool := c.isAlphanum || c == '-' || c == '.'

/-- A name without special characters. No label bears the mark of those that are encoded, and the
last one is no number. -/
structure IsPlainName (cs : List Char) : Prop where
  nonempty : cs ≠ []
  chars : ∀ c ∈ cs, isPlainChar c = true
  unencoded : ∀ label ∈ splitAt '.' (cs.map Char.toLower), ¬ encodedMark <+: label
  unnumbered : endsInNumber (cs.map Char.toLower) = false

/-! ## Texts in ASCII -/

/-- All characters are in ASCII. -/
def InAscii (cs : List Char) : Prop := ∀ c ∈ cs, c.toNat < 128

/-- What holds of the characters of ASCII, one by one. -/
theorem forall_ascii {P : Char → Prop} (h : ∀ n < 128, P (Char.ofNat n)) {c : Char}
    (hc : c.toNat < 128) : P c := by
  have hchar := h c.toNat hc
  rwa [Char.ofNat_toNat] at hchar

/-- A text in ASCII stays in it in lower case. -/
theorem inAscii_toLower {cs : List Char} (h : InAscii cs) : InAscii (cs.map Char.toLower) := by
  intro c hc
  obtain ⟨d, hd, rfl⟩ := List.mem_map.mp hc
  exact forall_ascii (P := fun d => d.toLower.toNat < 128) (by decide) (h d hd)

/-- So do its labels. -/
theorem inAscii_label {cs label : List Char} {sep : Char} (h : InAscii cs)
    (hlabel : label ∈ splitAt sep cs) : InAscii label := by
  induction cs generalizing label with
  | nil =>
    rw [splitAt, List.mem_singleton] at hlabel
    rw [hlabel]
    exact fun c hc => absurd hc List.not_mem_nil
  | cons c cs ih =>
    have htail : ∀ {label}, label ∈ splitAt sep cs → InAscii label :=
      ih fun d hd => h d (List.mem_cons_of_mem c hd)
    rw [splitAt] at hlabel
    cases hsplit : splitAt sep cs with
    | nil => exact absurd hsplit (splitAt_ne_nil sep cs)
    | cons piece pieces =>
      rw [hsplit] at hlabel htail
      dsimp only at hlabel
      split at hlabel
      · rcases List.mem_cons.mp hlabel with rfl | hmem
        · exact fun d hd => absurd hd List.not_mem_nil
        · exact htail hmem
      · rcases List.mem_cons.mp hlabel with rfl | hmem
        · intro d hd
          rcases List.mem_cons.mp hd with rfl | hd
          · exact h d List.mem_cons_self
          · exact htail List.mem_cons_self d hd
        · exact htail (List.mem_cons_of_mem _ hmem)

/-! ## Bytes -/

/-- Without a percent sign there is nothing to decode. -/
theorem decode_unescaped {cs : List Char} (h : '%' ∉ cs) : decode cs = cs.flatMap encodeChar := by
  induction cs with
  | nil => rfl
  | cons c cs ih =>
    have hc : c ≠ '%' := by
      rintro rfl
      exact h List.mem_cons_self
    rw [decode_cons_of_ne hc, ih fun hmem => h (List.mem_cons_of_mem c hmem), List.flatMap_cons]

/-- A character of ASCII is a byte of its own. -/
theorem sequence?_ascii {c : Char} (hc : c.toNat < 128) (rest : List UInt8) :
    sequence? (UInt8.ofNat c.toNat :: rest) = some (c, 0) := by
  have hbyte : (UInt8.ofNat c.toNat).toNat = c.toNat :=
    UInt8.toNat_ofNat_of_lt' (Nat.lt_trans hc (by decide))
  have hsmall : UInt8.ofNat c.toNat < 0x80 := by
    rw [UInt8.lt_iff_toNat_lt, hbyte]
    exact hc
  unfold sequence?
  dsimp only
  rw [if_pos hsmall, hbyte, Char.ofNat_toNat]

/-- A text in ASCII is read back from its bytes. -/
theorem decodeUtf8_ascii {cs : List Char} (h : InAscii cs) :
    decodeUtf8 (cs.flatMap encodeChar) = cs.map some := by
  induction cs with
  | nil => rfl
  | cons c cs ih =>
    have hc := h c List.mem_cons_self
    have hbytes : encodeChar c = [UInt8.ofNat c.toNat] :=
      forall_ascii (P := fun c => encodeChar c = [UInt8.ofNat c.toNat]) (by decide) hc
    have hrest := ih fun d hd => h d (List.mem_cons_of_mem c hd)
    unfold decodeUtf8 at hrest ⊢
    rw [List.flatMap_cons, hbytes, List.singleton_append, decodeFrom, sequence?_ascii hc]
    dsimp only
    rw [hrest, List.map_cons]

/-! ## Names -/

/-- Characters in ASCII are not made of others. -/
theorem decompose_ascii {cs : List Char} (h : InAscii cs) :
    decompose (cs.map Char.toNat) = cs.map Char.toNat := by
  induction cs with
  | nil => rfl
  | cons c cs ih =>
    have hrest := ih fun d hd => h d (List.mem_cons_of_mem c hd)
    have hpoint : decomposePoint c.toNat = [c.toNat] :=
      if_pos (Nat.lt_trans (h c List.mem_cons_self) (by decide))
    unfold decompose at hrest ⊢
    rw [List.map_cons, List.flatMap_cons, hpoint, hrest]
    rfl

/-- A name in ASCII is mapped to lower case. -/
theorem mapName_ascii {cs : List Char} (h : InAscii cs) :
    mapName cs = some (cs.map Char.toLower) := by
  have hmapped : (cs.map Char.toNat).mapM mapPoint =
      some ((cs.map Char.toNat).map fun n => [(Char.ofNat n).toLower.toNat]) := by
    refine mapM_eq_some_map fun n hn => ?_
    obtain ⟨c, hc, rfl⟩ := List.mem_map.mp hn
    exact if_pos (decide_eq_true (h c hc))
  have himages : ((cs.map Char.toNat).map fun n => [(Char.ofNat n).toLower.toNat]).flatten =
      (cs.map Char.toLower).map Char.toNat := by
    rw [← List.flatMap_def, ← List.map_eq_flatMap, List.map_map, List.map_map]
    simp only [Function.comp_def, Char.ofNat_toNat]
  have hmarks : ((cs.map Char.toLower).map Char.toNat).all (· < firstMark) = true := by
    refine List.all_eq_true.mpr fun n hn => ?_
    obtain ⟨c, hc, rfl⟩ := List.mem_map.mp hn
    exact decide_eq_true (Nat.lt_trans (inAscii_toLower h c hc) (by decide))
  unfold mapName
  rw [decompose_ascii h, hmapped, Option.map_some, himages, Unicode.normalize, if_pos hmarks]
  simp [Function.comp_def]

/-- There are no joiners in ASCII that could be out of place. -/
theorem joinersFit_ascii {label : List Char} (before : List Nat) (h : InAscii label) :
    joinersFit before (label.map Char.toNat) = true := by
  induction label generalizing before with
  | nil => rfl
  | cons c label ih =>
    have hc := h c List.mem_cons_self
    have hnon : (c.toNat == nonJoiner) = false :=
      beq_false_of_ne (Nat.ne_of_lt (Nat.lt_trans hc (by decide)))
    have hjoiner : (c.toNat == joiner) = false :=
      beq_false_of_ne (Nat.ne_of_lt (Nat.lt_trans hc (by decide)))
    rw [List.map_cons, joinersFit, hnon, hjoiner]
    exact ih _ fun d hd => h d (List.mem_cons_of_mem c hd)

/-- A label in ASCII is well placed. -/
theorem isWellPlaced_ascii {label : List Char} (h : InAscii label) :
    isWellPlaced (label.map Char.toNat) = true := by
  have hfirst : (label.map Char.toNat).head?.any isMark = false := by
    cases label with
    | nil => rfl
    | cons c label =>
      have hc : ¬ firstMark ≤ c.toNat :=
        Nat.not_le_of_lt (Nat.lt_trans (h c List.mem_cons_self) (by decide))
      simp [isMark, hc]
  rw [isWellPlaced, hfirst, joinersFit_ascii [] h]
  rfl

theorem directionsFit_ascii {labels : List (List Char)} (h : ∀ label ∈ labels, InAscii label) :
    directionsFit (labels.map (·.map Char.toNat)) = true := by
  have hpoint : ∀ n < 128, (directionOf n).isRightward = false := by decide
  have hleft : ((labels.map (·.map Char.toNat)).map (·.map directionOf)).any
      (·.any Direction.isRightward) = false := by
    refine List.any_eq_false.mpr fun directions hdirections => ?_
    rw [List.map_map] at hdirections
    obtain ⟨label, hlabel, rfl⟩ := List.mem_map.mp hdirections
    refine Bool.not_eq_true _ ▸ List.any_eq_false.mpr fun d hd => ?_
    rw [Function.comp_apply, List.map_map] at hd
    obtain ⟨c, hc, rfl⟩ := List.mem_map.mp hd
    exact Bool.not_eq_true _ ▸ hpoint c.toNat (h label hlabel c hc)
  unfold directionsFit
  dsimp only
  rw [hleft]
  rfl

/-- A label without the mark of the encoded ones is taken as it is. -/
theorem plainLabel?_eq_some {label : List Char} (unencoded : ¬ encodedMark <+: label) :
    plainLabel? label = some label := by
  unfold plainLabel?
  split
  · next encoded => exact absurd ⟨encoded, rfl⟩ unencoded
  · rfl

theorem asciiLabel?_eq_some {label : List Char} (h : InAscii label) :
    asciiLabel? label = some label :=
  if_pos (List.all_eq_true.mpr fun c hc => decide_eq_true (h c hc))

/-- A name in ASCII, none of whose labels is encoded, is written as it is, in lower case. -/
theorem asciiDomain?_ascii {cs : List Char} (h : InAscii cs)
    (allowed : ∀ c ∈ cs, isForbidden c.toLower = false)
    (unencoded : ∀ label ∈ splitAt '.' (cs.map Char.toLower), ¬ encodedMark <+: label) :
    asciiDomain? (cs.flatMap encodeChar) = some (cs.map Char.toLower) := by
  have hlabels : ∀ label ∈ splitAt '.' (cs.map Char.toLower), InAscii label :=
    fun label => inAscii_label (inAscii_toLower h)
  have hread : (cs.map some).mapM id = some cs := by
    rw [List.mapM_map]
    exact mapM_eq_some_self fun c _ => rfl
  have hplain : (splitAt '.' (cs.map Char.toLower)).mapM plainLabel? =
      some (splitAt '.' (cs.map Char.toLower)) :=
    mapM_eq_some_self fun label hlabel => plainLabel?_eq_some (unencoded label hlabel)
  have hascii : (splitAt '.' (cs.map Char.toLower)).mapM asciiLabel? =
      some (splitAt '.' (cs.map Char.toLower)) :=
    mapM_eq_some_self fun label hlabel => asciiLabel?_eq_some (hlabels label hlabel)
  have hforbidden : (cs.map Char.toLower).any isForbidden = false := by
    rw [List.any_map]
    exact List.any_eq_false.mpr fun c hc => Bool.not_eq_true _ ▸ allowed c hc
  have hplaced : ((splitAt '.' (cs.map Char.toLower)).map (·.map Char.toNat)).all isWellPlaced =
      true := by
    rw [List.all_map]
    exact List.all_eq_true.mpr fun label hlabel => isWellPlaced_ascii (hlabels label hlabel)
  unfold asciiDomain?
  -- step by step: once in lower case, the name passes every check and is not changed any more
  dsimp only [bind, Option.bind]
  rw [decodeUtf8_ascii h, hread]
  dsimp only
  rw [mapName_ascii h]
  dsimp only
  rw [hforbidden, hplain]
  dsimp only [guard, Bool.not_false, if_true]
  rw [hplaced, directionsFit_ascii hlabels, hascii]
  exact congrArg some (intercalate_splitAt '.' _)

/-! ## Hosts -/

/-- The characters of plain names are in ASCII. -/
theorem isPlainChar_ascii {c : Char} (h : isPlainChar c = true) : c.toNat < 128 := by
  have hupto (last : Char) (small : last.toNat < 128) (below : c.val ≤ last.val) :
      c.toNat < 128 :=
    Nat.lt_of_le_of_lt (UInt32.le_iff_toNat_le.mp below) small
  rw [isPlainChar, Bool.or_eq_true, Bool.or_eq_true, beq_iff_eq, beq_iff_eq] at h
  obtain (hletter | rfl) | rfl := h
  · rcases (Bool.or_eq_true _ _).mp hletter with hletter | hdigit
    · rcases (Bool.or_eq_true _ _).mp hletter with hupper | hlower
      · exact hupto 'Z' (by decide) (of_decide_eq_true hupper).2
      · exact hupto 'z' (by decide) (of_decide_eq_true ((Bool.and_eq_true _ _).mp hlower).2)
    · exact hupto '9' (by decide) (of_decide_eq_true ((Bool.and_eq_true _ _).mp hdigit).2)
  · decide
  · decide

/-- **Plain names are read**, in lower case. -/
theorem Host.read_of_isPlainName {cs : List Char} (h : IsPlainName cs) :
    Host.read cs = .ok (.domain (String.ofList (cs.map Char.toLower))) := by
  have ascii : InAscii cs := fun c hc => isPlainChar_ascii (h.chars c hc)
  have allowed : ∀ c ∈ cs, isForbidden c.toLower = false := fun c hc =>
    forall_ascii (P := fun c => isPlainChar c = true → isForbidden c.toLower = false) (by decide)
      (ascii c hc) (h.chars c hc)
  have unescaped : '%' ∉ cs := fun hmem => absurd (h.chars _ hmem) (by decide)
  unfold Host.read
  split
  · next rest => exact absurd (h.chars '[' List.mem_cons_self) (by decide)
  · rw [decode_unescaped unescaped, asciiDomain?_ascii ascii allowed h.unencoded]
    split
    · next hnone => cases hnone
    · next hnil =>
      have hcs := List.map_eq_nil_iff.mp (Option.some.inj hnil)
      exact absurd hcs h.nonempty
    · next name hempty hname =>
      obtain rfl := Option.some.inj hname
      rw [if_neg (Bool.not_eq_true _ ▸ h.unnumbered)]

end DeliveryDesk.Url

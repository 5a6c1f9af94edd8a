import DeliveryDesk.Toml.Reader

/-!
# What readers read

`Reads r cs a rest` says that a reader reads `a` and leaves `rest`, and `Declines r cs` that it
stops and leaves it to others to try the same place. There is a rule for each way to build a reader
from others, so that what a reader does is put together from what its parts do. A stop that is final
is not covered: documents that are written never lead to one.
-/

namespace DeliveryDesk.Toml.Reader

variable {α β : Type} {r r' : Reader α} {f : α → Reader β} {cs mid rest : List Char} {a : α} {b : β}

/-- The reader reads something and leaves the rest behind. -/
def Reads (r : Reader α) (cs : List Char) (a : α) (rest : List Char) : Prop :=
  r cs = .ok (a, rest)

/-- The reader stops, and another one may try. -/
def Declines (r : Reader α) (cs : List Char) : Prop := ∃ s, r cs = .error s ∧ s.final = false

/-! ## One reader after the other -/

/-- A reader that needs nothing of the text leaves all of it behind. -/
theorem Reads.pure (a : α) (cs : List Char) : Reads (Pure.pure a) cs a cs := rfl

/-- The second reader starts where the first one has stopped reading. -/
theorem bind_apply (r : Reader α) (f : α → Reader β) (cs : List Char) :
    (r >>= f) cs = (r cs).bind fun p => f p.1 p.2 := rfl

/-- What the first reader leaves behind is read by the second. -/
theorem Reads.bind (first : Reads r cs a mid) (second : Reads (f a) mid b rest) :
    Reads (r >>= f) cs b rest := by
  rw [Reads, bind_apply, first]
  exact second

/-- What has been read can be turned into something else. -/
theorem Reads.map {g : α → β} (first : Reads r cs a rest) : Reads (g <$> r) cs (g a) rest := by
  show (r >>= fun a => Pure.pure (g a)) cs = _
  exact first.bind (.pure (g a) rest)

/-- If the second reader declines, so does the whole, although the first has read something. -/
theorem Reads.bind_declines (first : Reads r cs a mid) (second : Declines (f a) mid) :
    Declines (r >>= f) cs := by
  obtain ⟨s, hs, hfinal⟩ := second
  refine ⟨s, ?_, hfinal⟩
  rw [bind_apply, first]
  exact hs

/-- If the first reader declines, the second is never asked. -/
theorem Declines.bind (first : Declines r cs) : Declines (r >>= f) cs := by
  obtain ⟨s, hs, hfinal⟩ := first
  refine ⟨s, ?_, hfinal⟩
  rw [bind_apply, hs]
  rfl

theorem Declines.map {g : α → β} (first : Declines r cs) : Declines (g <$> r) cs := by
  show Declines (r >>= fun a => Pure.pure (g a)) cs
  exact first.bind

/-! ## Stops -/

/-- Where nothing stops the reader, it does not matter how its stops would be told. -/
theorem Reads.atStops (change : Stop → Stop) (h : Reads r cs a rest) :
    Reads (r.atStops change) cs a rest := by
  unfold Reads Reader.atStops
  rw [h]

/-- Stops may be told in another way, as long as they stay as final as they were. -/
theorem Declines.atStops {change : Stop → Stop} (keeps : ∀ s, (change s).final = s.final)
    (h : Declines r cs) : Declines (r.atStops change) cs := by
  obtain ⟨s, hs, hfinal⟩ := h
  refine ⟨change s, ?_, (keeps s).trans hfinal⟩
  unfold Reader.atStops
  rw [hs]

/-- A reader that reads is not bothered by having to. -/
theorem Reads.surely (h : Reads r cs a rest) : Reads (surely r) cs a rest := h.atStops _

/-- A name for what is read only matters where it cannot be read. -/
theorem Reads.named (label : String) (h : Reads r cs a rest) : Reads (named label r) cs a rest :=
  h.atStops _

/-- A reader with a name declines what the reader declines. -/
theorem Declines.named (label : String) (h : Declines r cs) : Declines (named label r) cs :=
  h.atStops fun _ => rfl

/-- What was expected does not matter to a reader that reads. -/
theorem Reads.expecting (expected : List String) (h : Reads r cs a rest) :
    Reads (expecting expected r) cs a rest :=
  h.atStops _

/-! ## Alternatives -/

/-- If the first reader reads, the second is not tried. -/
theorem Reads.orTry (h : Reads r cs a rest) : Reads (orTry r r') cs a rest := by
  unfold Reads Reader.orTry
  rw [h]

/-- If the first reader declines, the second reads from the same place. -/
theorem Declines.orTry_reads (first : Declines r cs) (second : Reads r' cs a rest) :
    Reads (orTry r r') cs a rest := by
  obtain ⟨s, hs, hfinal⟩ := first
  unfold Reads Reader.orTry
  rw [hs]
  dsimp only
  rw [hfinal]
  exact second

/-- If both readers decline, there is nobody left. -/
theorem Declines.orTry (first : Declines r cs) (second : Declines r' cs) :
    Declines (orTry r r') cs := by
  obtain ⟨s, hs, hfinal⟩ := first
  obtain ⟨s', hs', hfinal'⟩ := second
  refine ⟨s', ?_, hfinal'⟩
  unfold Reader.orTry
  rw [hs]
  dsimp only
  rw [hfinal]
  exact hs'

/-- What may be missing and is there is read. -/
theorem Reads.maybe (h : Reads r cs a rest) : Reads (maybe r) cs (some a) rest := h.map.orTry

/-- What may be missing and is missing costs nothing of the text. -/
theorem Declines.maybe (h : Declines r cs) : Reads (maybe r) cs none cs :=
  h.map.orTry_reads (.pure none cs)

/-- A reader that reads nothing even once. -/
theorem Declines.repeated (h : Declines r cs) : Reads (repeated r) cs [] cs := by
  unfold Reads Reader.repeated
  cases cs with
  | nil => rfl
  | cons c cs => exact h.maybe.bind (.pure [] _)

/-- What passes a check is read as what the check makes of it. -/
theorem Reads.checked {check : α → Except String β} (h : Reads r cs a rest)
    (passes : check a = .ok b) : Reads (checked r check) cs b rest := by
  unfold Reads Reader.checked
  rw [h]
  dsimp only
  rw [passes]

theorem Declines.checked {check : α → Except String β} (h : Declines r cs) :
    Declines (checked r check) cs := by
  obtain ⟨s, hs, hfinal⟩ := h
  refine ⟨s, ?_, hfinal⟩
  unfold Reader.checked
  rw [hs]

/-- What does not pass a check leaves the place to others, although it was read. -/
theorem Reads.checked_declines {check : α → Except String β} (h : Reads r cs a rest)
    {cause : String} (refused : check a = .error cause) : Declines (Reader.checked r check) cs := by
  refine ⟨{ rest := cs, notes := { cause := some cause } }, ?_, rfl⟩
  unfold Reader.checked
  rw [h]
  dsimp only
  rw [refused]

/-! ## Characters -/

/-- Looking at what is left does not read it. -/
theorem Reads.remaining (cs : List Char) : Reads remaining cs cs cs := rfl

section One

variable {p : Char → Bool} {c d : Char}

/-- A character of the right kind is read. -/
theorem Reads.one (h : p c = true) (rest : List Char) :
    Reads (Reader.one p) (c :: rest) c rest := if_pos h

/-- A character of another kind is left to others. -/
theorem Declines.one (h : p c = false) (rest : List Char) :
    Declines (Reader.one p) (c :: rest) := by
  refine ⟨_, if_neg ?_, rfl⟩
  rw [h]
  exact Bool.false_ne_true

theorem Declines.one_nil : Declines (Reader.one p) [] := ⟨_, rfl, rfl⟩

/-- A certain character is read where it stands. -/
theorem Reads.char (c : Char) (rest : List Char) : Reads (Reader.char c) (c :: rest) () rest :=
  (Reads.one (p := (· == c)) (beq_self_eq_true c) rest).bind (.pure () rest)

/-- Any other character is left to others. -/
theorem Declines.char (h : d ≠ c) (rest : List Char) : Declines (Reader.char c) (d :: rest) :=
  (Declines.one (p := (· == c)) (beq_false_of_ne h) rest).bind

theorem Declines.char_nil : Declines (Reader.char c) [] := Declines.one_nil.bind

/-- A word is left to others unless the text starts with the whole of it. -/
theorem Declines.chars {word : List Char} (h : word.isPrefixOf cs = false) :
    Declines (Reader.chars word) cs := by
  refine ⟨_, if_neg ?_, rfl⟩
  rw [h]
  exact Bool.false_ne_true

/-- All characters of a kind, up to the first one of another kind. -/
theorem Reads.many {front : List Char} (h : ∀ x ∈ front, p x = true) (hc : p c = false) :
    Reads (Reader.many p) (front ++ c :: rest) front (c :: rest) := by
  have hstop : ¬ p c = true := by
    rw [hc]
    exact Bool.false_ne_true
  unfold Reads Reader.many
  rw [List.takeWhile_append_of_pos h, List.dropWhile_append_of_pos h,
    List.takeWhile_cons_of_neg hstop, List.dropWhile_cons_of_neg hstop, List.append_nil]

end One

end DeliveryDesk.Toml.Reader

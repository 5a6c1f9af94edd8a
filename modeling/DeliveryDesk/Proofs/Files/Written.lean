import DeliveryDesk.Files.Tree

/-!
# A file that was written can be read

A path is followed name by name (`Steps`). `Accepts` says what it takes to write a file, which does
not depend on the text (`write_eq_ok_iff`). Writing takes no directory away, so every way through
the tree stays open (`follow_mono`), and the path that led to the directory of the file leads to the
file itself (`read_of_write`).

`HasRoom` is said of a path if the directories on the way to the file can be made and the file can
be written then; making directories leaves all files alone (`files_of_encloseFile`).
-/

namespace DeliveryDesk.FileTree

open Files

variable {t t' : FileTree} {path text : String} {l l' : Location}

/-! ## Ways through a tree -/

/-- One name of a path leads from one location to another. -/
inductive Steps (t : FileTree) : Location → String → Location → Prop where
  | here {l : Location} (directory : t.hasDirectory l = true) : Steps t l hereName l
  | above {l : Location} (directory : t.hasDirectory l = true) : Steps t l aboveName l.tail
  | into {l : Location} {name : String} (directory : t.hasDirectory l = true)
      (named : name ≠ hereName ∧ name ≠ aboveName) (short : ¬ maxName < name.utf8ByteSize)
      (present : (t.node? (name :: l)).isNone = false) : Steps t l name (name :: l)

/-- A path is followed step by step. -/
theorem follow_cons_iff {name : String} {rest : List String} :
    t.follow l (name :: rest) = .ok l' ↔
      ∃ mid, t.Steps l name mid ∧ t.follow mid rest = .ok l' := by
  have habove : aboveName ≠ hereName := by decide
  rw [follow]
  constructor
  · intro h
    split at h
    · cases h
    next hdirectory =>
    have directory : t.hasDirectory l = true := by simpa using hdirectory
    split at h
    · next hname => exact ⟨l, hname ▸ .here directory, h⟩
    next hhere =>
    split at h
    · next hname => exact ⟨l.tail, hname ▸ .above directory, h⟩
    next hup =>
    split at h
    · cases h
    next short =>
    split at h
    · cases h
    next present =>
    exact ⟨name :: l, .into directory ⟨hhere, hup⟩ short (Bool.not_eq_true _ ▸ present), h⟩
  · rintro ⟨mid, steps, h⟩
    cases steps with
    | here directory => rw [directory, if_neg (by simp), if_pos rfl, h]
    | above directory => rw [directory, if_neg (by simp), if_neg habove, if_pos rfl, h]
    | into directory named short present =>
      rw [directory, if_neg (by simp), if_neg named.1, if_neg named.2, if_neg short, present,
        if_neg Bool.false_ne_true, h]

/-- Two paths, one behind the other, are followed one after the other. -/
theorem follow_append {front back : List String} {mid : Location}
    (first : t.follow l front = .ok mid) (second : t.follow mid back = .ok l') :
    t.follow l (front ++ back) = .ok l' := by
  induction front generalizing l with
  | nil =>
    cases first
    exact second
  | cons name front ih =>
    obtain ⟨next, steps, hfront⟩ := follow_cons_iff.mp first
    exact follow_cons_iff.mpr ⟨next, steps, ih hfront⟩

/-- Everything in one tree is in another one too, and directories are directories there. -/
structure Within (t t' : FileTree) : Prop where
  directories : ∀ l, t.hasDirectory l = true → t'.hasDirectory l = true
  nodes : ∀ l, (t.node? l).isNone = false → (t'.node? l).isNone = false

/-- What can be entered stays so when there are more files. -/
theorem Steps.mono (within : Within t t') {name : String} (steps : t.Steps l name l') :
    t'.Steps l name l' := by
  cases steps with
  | here directory => exact .here (within.directories _ directory)
  | above directory => exact .above (within.directories _ directory)
  | into directory named short present =>
    exact .into (within.directories _ directory) named short (within.nodes _ present)

/-- So a path leads to the same place then. -/
theorem follow_mono (within : Within t t') {names : List String}
    (h : t.follow l names = .ok l') : t'.follow l names = .ok l' := by
  induction names generalizing l with
  | nil => exact h
  | cons name names ih =>
    obtain ⟨mid, steps, hrest⟩ := follow_cons_iff.mp h
    exact follow_cons_iff.mpr ⟨mid, steps.mono within, ih hrest⟩

/-! ## Writing -/

/-- The path ends with a name in a directory, and a file can have that name there. -/
structure Accepts (t : FileTree) (path : String) (l : Location) (name : String) : Prop where
  ending : t.ending path = .ok (l, some name)
  closed : endsOpen path = false
  short : ¬ maxName < name.utf8ByteSize
  free : t.hasDirectory (name :: l) = false

/-- The tree with a file at a location. -/
def holding (t : FileTree) (l : Location) (text : String) : FileTree :=
  { t with files := (l, text) :: (t.without l).files }

/-- A text is written where the path is accepted, and it is held there afterwards. -/
theorem write_eq_ok_iff :
    t.write path text = .ok t' ↔
      ∃ l name, t.Accepts path l name ∧ t.holding (name :: l) text = t' := by
  unfold write
  constructor
  · intro h
    cases hending : t.ending path with
    | error fault =>
      rw [hending] at h
      cases h
    | ok ending =>
      obtain ⟨l, name?⟩ := ending
      rw [hending] at h
      cases name? with
      | none => cases h
      | some name =>
        change (if endsOpen path = true then _ else _) = _ at h
        split at h
        · cases h
        next closed =>
        split at h
        · cases h
        next short =>
        split at h
        · cases h
        next free =>
        exact ⟨l, name, ⟨hending, by simpa using closed, short, by simpa using free⟩,
          Except.ok.inj h⟩
  · rintro ⟨l, name, ⟨hending, closed, short, free⟩, rfl⟩
    rw [hending]
    show (if endsOpen path = true then _ else _) = _
    rw [closed, if_neg Bool.false_ne_true, if_neg short, free, if_neg Bool.false_ne_true]
    rfl

/-- Taking a file away leaves all others. -/
theorem lookup_without (t : FileTree) (hne : l' ≠ l) :
    (t.without l).files.lookup l' = t.files.lookup l' := by
  show (t.files.filter fun file => file.1 != l).lookup l' = _
  induction t.files with
  | nil => rfl
  | cons file files ih =>
    obtain ⟨k, text⟩ := file
    by_cases hk : k = l
    · have hmiss : (l' == k) = false := beq_false_of_ne (hk ▸ hne)
      rw [List.filter_cons, if_neg (by simp [hk]), ih, List.lookup_cons, hmiss]
    · rw [List.filter_cons, if_pos (bne_iff_ne.mpr hk), List.lookup_cons, List.lookup_cons, ih]

/-- What stands at a location once a file is held at that one or at another one. -/
theorem node?_holding (t : FileTree) (l : Location) (text : String) (l' : Location) :
    (t.holding l text).node? l' = if l' = l then some (.file text) else t.node? l' := by
  have hfiles : (t.holding l text).files = (l, text) :: (t.without l).files := rfl
  unfold node?
  rw [hfiles]
  by_cases heq : l' = l
  · rw [heq, List.lookup_cons_self, if_pos rfl]
  · have hmiss : (l' == l) = false := beq_false_of_ne heq
    have hlookup : ((l, text) :: (t.without l).files).lookup l' = t.files.lookup l' := by
      rw [List.lookup_cons, hmiss]
      exact lookup_without t heq
    rw [hlookup]
    exact (if_neg heq).symm

/-- A text that is held where no directory is takes the place of nothing else. -/
theorem within_holding (free : t.hasDirectory l = false) : Within t (t.holding l text) where
  directories l' h := by
    have hne : l' ≠ l := by
      rintro rfl
      rw [free] at h
      cases h
    rw [hasDirectory, node?_holding, if_neg hne]
    exact h
  nodes l' h := by
    rw [node?_holding]
    by_cases heq : l' = l
    · rw [if_pos heq]
      rfl
    · rw [if_neg heq]
      exact h

/-- How a path leads to the name it ends with. -/
theorem ending_eq_ok {name : String} (h : t.ending path = .ok (l, some name)) :
    checkPath path = .ok () ∧ (∃ front, names path = front ++ [name] ∧
      t.follow (t.start path) front = .ok l) ∧ t.hasDirectory l = true ∧
      name ≠ hereName ∧ name ≠ aboveName := by
  unfold ending at h
  cases hpath : checkPath path with
  | error fault =>
    rw [hpath] at h
    cases h
  | ok _ =>
  rw [hpath] at h
  cases hlast : (names path).getLast? with
  | none =>
    rw [hlast] at h
    cases h
  | some last =>
  obtain ⟨front, hnames⟩ := List.getLast?_eq_some_iff.mp hlast
  rw [hlast, hnames, List.dropLast_concat] at h
  cases hfollow : t.follow (t.start path) front with
  | error fault =>
    rw [hfollow] at h
    cases h
  | ok dir =>
  rw [hfollow] at h
  change (if (!t.hasDirectory dir) = true then _ else Except.ok (dir, _)) = _ at h
  split at h
  · cases h
  next hdirectory =>
  obtain ⟨rfl, hname⟩ := Prod.mk.inj (Except.ok.inj h)
  split at hname
  · cases hname
  next hpoints =>
  obtain rfl := Option.some.inj hname
  exact ⟨rfl, ⟨front, hnames, hfollow⟩, by simpa using hdirectory,
    fun h => hpoints (.inl h), fun h => hpoints (.inr h)⟩

/-- **A file that was written holds what was written.** -/
theorem read_of_write (h : t.write path text = .ok t') : t'.read path = .ok text := by
  obtain ⟨l, name, ⟨hending, closed, short, free⟩, rfl⟩ := write_eq_ok_iff.mp h
  obtain ⟨hpath, ⟨front, hnames, hfollow⟩, directory, named⟩ := ending_eq_ok hending
  have within : Within t (t.holding (name :: l) text) := within_holding free
  -- the file itself is the last step, and the only one that was not there before
  have hlast : (t.holding (name :: l) text).follow l [name] = .ok (name :: l) := by
    refine follow_cons_iff.mpr ⟨_, .into (within.directories l directory) named short ?_, rfl⟩
    rw [node?_holding, if_pos rfl]
    rfl
  have hlocate : (t.holding (name :: l) text).locate path = .ok (name :: l) := by
    unfold locate
    rw [hpath, closed, if_neg Bool.false_ne_true, List.append_nil, hnames]
    exact follow_append (follow_mono within hfollow) hlast
  unfold read
  rw [hlocate]
  dsimp only [bind, Except.bind]
  rw [node?_holding, if_pos rfl]
  rfl

/-! ## Room for a file -/

/-- The directories of a file can be made, and the file can be written then. -/
def HasRoom (t : FileTree) (path : String) : Prop :=
  ∃ enclosed l name, t.encloseFile path = .ok enclosed ∧ enclosed.Accepts path l name

/-- What there is room for does not depend on what is written. -/
theorem hasRoom_iff (text : String) :
    t.HasRoom path ↔
      ∃ enclosed t', t.encloseFile path = .ok enclosed ∧ enclosed.write path text = .ok t' := by
  constructor
  · rintro ⟨enclosed, l, name, hmade, accepts⟩
    exact ⟨enclosed, _, hmade, write_eq_ok_iff.mpr ⟨l, name, accepts, rfl⟩⟩
  · rintro ⟨enclosed, t', hmade, hwrite⟩
    obtain ⟨l, name, accepts, -⟩ := write_eq_ok_iff.mp hwrite
    exact ⟨enclosed, l, name, hmade, accepts⟩

theorem files_of_makeDirectory (h : t.makeDirectory path = .ok t') : t'.files = t.files := by
  unfold makeDirectory at h
  cases hending : t.ending path with
  | error fault =>
    rw [hending] at h
    cases h
  | ok ending =>
    obtain ⟨l, name?⟩ := ending
    rw [hending] at h
    cases name? with
    | none => cases h
    | some name =>
      change (if maxName < name.utf8ByteSize then _ else _) = _ at h
      split at h
      · cases h
      split at h
      · cases h
      · cases h
        rfl

theorem files_of_ensureDirectory (h : t.ensureDirectory path = .ok t') : t'.files = t.files := by
  unfold ensureDirectory at h
  cases hmade : t.makeDirectory path with
  | ok made =>
    rw [hmade] at h
    cases h
    exact files_of_makeDirectory hmade
  | error fault =>
    rw [hmade] at h
    dsimp only at h
    split at h
    · cases h
      rfl
    · cases h

theorem files_of_ensureDirectories {paths : List String}
    (h : t.ensureDirectories paths = .ok t') : t'.files = t.files := by
  induction paths generalizing t' with
  | nil => cases h
  | cons path above ih =>
    rw [ensureDirectories] at h
    split at h
    · cases h
      rfl
    split at h
    · -- the directory above comes first
      cases habove : t.ensureDirectories above with
      | error fault =>
        rw [habove] at h
        cases h
      | ok made =>
        rw [habove] at h
        exact (files_of_ensureDirectory h).trans (ih habove)
    · exact files_of_ensureDirectory h

/-- Making directories leaves all files alone. -/
theorem files_of_encloseFile (h : t.encloseFile path = .ok t') : t'.files = t.files := by
  unfold encloseFile at h
  split at h
  · cases h
    rfl
  · exact files_of_ensureDirectories h

end DeliveryDesk.FileTree

import DeliveryDesk.Json.Record
import Mathlib.Data.List.Nodup
import Mathlib.Data.List.Pairwise

/-!
# The fields of a record, as written and as read

Two things are said of the combinators that records are decoded with, once for all records.

`Inverts decode encode` says that a decoder reads back what an encoder writes. It holds of texts and
words, passes from the items to lists, and gives the value of a field back however the field is
written: always, left out when absent (`Inverts.optional_map`), or null when absent
(`Inverts.optional_orNull`).

`Lenient declared mayBeNull decode` says in which forms an object may be written without a
difference to what is read. Main statement: `lenient_of_fields?`, a decoder that goes by the
declared fields alone is lenient.
-/

namespace DeliveryDesk

namespace Record

open RecordSource (shape?)

/-! ## What is written comes back -/

section Inverts

variable {β : Type} {decode : Json → Option β} {encode : β → Json}

/-- The decoder reads back what the encoder writes, and what it writes is never null. -/
structure Inverts (decode : Json → Option β) (encode : β → Json) : Prop where
  decode_encode (b : β) : decode (encode b) = some b
  ne_null (b : β) : encode b ≠ .null

/-- Texts are written as strings and read back. -/
theorem inverts_text : Inverts text .string := ⟨fun _ => rfl, nofun⟩

/-- Words of 32 bits are written as numbers and read back. -/
theorem inverts_word32 : Inverts word32 (fun n => .nat n.toNat) where
  decode_encode n := by
    have hn : n.toNat < Nat.pow 2 32 := n.toNat_lt
    simp [word32, natBelow, shape?, Json.nat, hn]
  ne_null := nofun

/-- So are words of 16 bits. -/
theorem inverts_word16 : Inverts word16 (fun n => .nat n.toNat) where
  decode_encode n := by
    have hn : n.toNat < Nat.pow 2 16 := n.toNat_lt
    simp [word16, natBelow, shape?, Json.nat, hn]
  ne_null := nofun

/-- If every item comes back, so does a list of them, in its order. -/
theorem Inverts.list (h : Inverts decode encode) :
    Inverts (list decode) (fun bs => .array (bs.map encode)) where
  decode_encode bs := by
    change (bs.map encode).mapM decode = some bs
    induction bs with
    | nil => rfl
    | cons b bs ih => simp [h.decode_encode, ih]
  ne_null := nofun

theorem inverts_texts : Inverts (Record.list text) Json.texts := inverts_text.list

/-- A field that may be null is read like any other if it is not. -/
theorem nullable_of_ne_null {j : Json} (hj : j ≠ .null) :
    nullable decode j = (decode j).map some := by
  cases j with
  | null => exact absurd rfl hj
  | _ => rfl

/-- What is written is not taken for a field that is null. -/
theorem Inverts.nullable_encode (h : Inverts decode encode) (b : β) :
    nullable decode (encode b) = some (some b) := by
  rw [nullable_of_ne_null (h.ne_null b), h.decode_encode, Option.map_some]

/-- A field that has to be there and is written is read back. -/
theorem Inverts.required_encode (h : Inverts decode encode) (b : β) :
    required decode (some (encode b)) = some b := h.decode_encode b

/-- A field that is left out when it is absent. -/
theorem Inverts.optional_map (h : Inverts decode encode) (o : Option β) :
    optional decode (o.map encode) = some o := by
  cases o with
  | none => rfl
  | some b => exact h.nullable_encode b

/-- A field that is written as null when it is absent. -/
theorem Inverts.optional_orNull (h : Inverts decode encode) (o : Option β) :
    optional decode (some (Json.orNull encode o)) = some o := by
  cases o with
  | none => rfl
  | some b => exact h.nullable_encode b

end Inverts

/-! ## The members of an object, name by name -/

section Lenient

variable {β : Type} {decode : Json → Option β} {declared : List (List String)}
  {ms ms' : List (String × Json)} {k k' : String} {v : Json} {names : List String}

/-- The order of members does not matter to the search for the one with a name. -/
theorem uniqueMember?_perm (h : ms.Perm ms') :
    uniqueMember? names ms = uniqueMember? names ms' := by
  have perm := h.filter fun m => names.contains m.1
  unfold uniqueMember?
  -- only the number of matches and a single match matter, and no reordering changes these
  cases hms : ms.filter fun m => names.contains m.1 with
  | nil =>
    rw [hms] at perm
    rw [perm.nil_eq]
  | cons m rest =>
    rw [hms] at perm
    cases rest with
    | nil => rw [List.singleton_perm.1 perm]
    | cons m' rest =>
      cases hms' : ms'.filter fun m => names.contains m.1 with
      | nil => rw [hms'] at perm; exact absurd perm.symm.nil_eq nofun
      | cons n rest' =>
        cases rest' with
        | nil => rw [hms'] at perm; exact absurd perm.length_eq (by simp)
        | cons n' rest' => rfl

/-- A member with another name does not matter to it. -/
theorem uniqueMember?_cons_of_notMem (h : k ∉ names) :
    uniqueMember? names ((k, v) :: ms) = uniqueMember? names ms := by
  rw [uniqueMember?, uniqueMember?, List.filter_cons_of_neg (by simpa using h)]

/-- Where no member has the name, the field is missing. -/
theorem uniqueMember?_of_absent (h : ∀ m ∈ ms, m.1 ∉ names) :
    uniqueMember? names ms = some none := by
  rw [uniqueMember?, List.filter_eq_nil_iff.2 (by simpa using h)]

/-- Where one member has the name, the field is its value. -/
theorem uniqueMember?_cons_of_mem (hk : k ∈ names) (h : ∀ m ∈ ms, m.1 ∉ names) :
    uniqueMember? names ((k, v) :: ms) = some (some v) := by
  rw [uniqueMember?, List.filter_cons_of_pos (by simpa using hk),
    List.filter_eq_nil_iff.2 (by simpa using h)]

/-- It does not matter by which of its names a member goes. -/
theorem uniqueMember?_congr_name (h : k ∈ names ↔ k' ∈ names) :
    uniqueMember? names ((k, v) :: ms) = uniqueMember? names ((k', v) :: ms) := by
  by_cases hk : k ∈ names
  · have hk' := h.1 hk
    simp only [uniqueMember?, List.filter_cons, List.contains_iff_mem, hk, hk', if_true]
    cases ms.filter fun m => names.contains m.1 <;> rfl
  · rw [uniqueMember?_cons_of_notMem hk, uniqueMember?_cons_of_notMem (mt h.2 hk)]

/-- Two objects have the same fields if the search for each declared one ends alike in both. -/
theorem fields?_congr
    (h : ∀ names ∈ declared, uniqueMember? names ms = uniqueMember? names ms') :
    fields? declared (Json.object ms) = fields? declared (Json.object ms') := by
  change declared.mapM (uniqueMember? · ms) = declared.mapM (uniqueMember? · ms')
  induction declared with
  | nil => rfl
  | cons names rest ih =>
    rw [List.mapM_cons, List.mapM_cons, h names List.mem_cons_self,
      ih fun names hmem => h names (List.mem_cons_of_mem _ hmem)]

/-- Every declared field has its place. -/
theorem length_of_fields? {fields : List (Option Json)}
    (h : fields? declared (Json.object ms) = some fields) : fields.length = declared.length := by
  change declared.mapM (uniqueMember? · ms) = some fields at h
  induction declared generalizing fields with
  | nil =>
    cases h
    rfl
  | cons names rest ih =>
    simp only [List.mapM_cons, Option.bind_eq_bind, Option.bind_eq_some_iff] at h
    obtain ⟨field, -, others, hothers, h⟩ := h
    cases h
    rw [List.length_cons, List.length_cons, ih hothers]

/-- Distinct fields have no name in common. -/
theorem mem_iff_mem_of_nodup (nodup : declared.flatten.Nodup) {given : List String}
    (hgiven : given ∈ declared) (hk : k ∈ given) (hk' : k' ∈ given) (hnames : names ∈ declared) :
    k ∈ names ↔ k' ∈ names := by
  have apart := (List.nodup_flatten.1 nodup).2
  by_cases same : given = names
  · subst same
    exact iff_of_true hk hk'
  · have symm : Std.Symm (@List.Disjoint String) := ⟨fun _ _ h _ ha hb => h hb ha⟩
    have disjoint := apart.forall hgiven hnames same
    exact iff_of_false (disjoint hk) (disjoint hk')

/-- The names of an array's items: each stands for the field in its place, by its first name. -/
def named (declared : List (List String)) (items : List Json) : List (String × Json) :=
  (declared.map fun names => names.headD "").zip items

/-- The first item stands for the first declared field. -/
theorem named_cons (names : List String) (a : Json) (as : List Json) :
    named (names :: declared) (a :: as) = (names.headD "", a) :: named declared as := rfl

/-- An item that stands for a field goes by a declared name. -/
theorem fst_mem_flatten_of_mem_named (nonempty : [] ∉ declared) {items : List Json}
    {m : String × Json} (h : m ∈ named declared items) : m.1 ∈ declared.flatten := by
  obtain ⟨k, v⟩ := m
  have hk := (List.of_mem_zip h).1
  simp only [List.mem_map] at hk
  obtain ⟨names, hnames, rfl⟩ := hk
  cases names with
  | nil => exact absurd hnames nonempty
  | cons name names => exact List.mem_flatten.2 ⟨_, hnames, List.mem_cons_self⟩

/-- Reading an array by its places is searching for the fields that its items stand for. -/
theorem positional?_eq_mapM (nodup : declared.flatten.Nodup) (nonempty : [] ∉ declared)
    {items : List Json} (h : items.length ≤ declared.length) :
    positional? declared items = declared.mapM (uniqueMember? · (named declared items)) := by
  induction declared generalizing items with
  | nil =>
    cases items with
    | nil => rfl
    | cons => simp at h
  | cons names rest ih =>
    rw [List.flatten_cons, List.nodup_append] at nodup
    obtain ⟨-, nodup, apart⟩ := nodup
    rw [List.mem_cons, not_or] at nonempty
    cases items with
    | nil =>
      -- the array has ended, and the remaining fields are missing
      have empty (declared) : named declared [] = [] := List.zip_nil_right
      rw [positional?, ih nodup nonempty.2 (Nat.zero_le _), empty, empty, List.mapM_cons,
        uniqueMember?_of_absent (by simp)]
      cases rest.mapM (uniqueMember? · ([] : List (String × Json))) <;> rfl
    | cons a as =>
      have head : names.headD "" ∈ names := by
        cases names with
        | nil => exact absurd rfl nonempty.1
        | cons name names => exact List.mem_cons_self
      have absent : ∀ m ∈ named rest as, m.1 ∉ names := fun m hm hname =>
        apart m.1 hname m.1 (fst_mem_flatten_of_mem_named nonempty.2 hm) rfl
      have others : rest.mapM (uniqueMember? · (named (names :: rest) (a :: as))) =
          rest.mapM (uniqueMember? · (named rest as)) :=
        fields?_congr fun given hgiven => uniqueMember?_cons_of_notMem fun hhead =>
          apart _ head _ (List.mem_flatten.2 ⟨given, hgiven, hhead⟩) rfl
      rw [positional?, ih nodup nonempty.2 (Nat.le_of_succ_le_succ h), List.mapM_cons, others,
        named_cons, uniqueMember?_cons_of_mem head absent]
      cases rest.mapM (uniqueMember? · (named rest as)) <;> rfl

/-- The fields of two objects whose members differ, field by field, by some change. -/
theorem fields?_eq_map_zipWith {change : List String → Option Json → Option Json}
    (h : ∀ names ∈ declared, uniqueMember? names ms' = (uniqueMember? names ms).map (change names)) :
    fields? declared (Json.object ms') =
      (fields? declared (Json.object ms)).map (List.zipWith change declared) := by
  change declared.mapM (uniqueMember? · ms') =
    (declared.mapM (uniqueMember? · ms)).map (List.zipWith change declared)
  induction declared with
  | nil => rfl
  | cons names rest ih =>
    rw [List.mapM_cons, List.mapM_cons, h names List.mem_cons_self,
      ih fun names hnames => h names (List.mem_cons_of_mem _ hnames)]
    cases uniqueMember? names ms with
    | none => rfl
    | some field => cases rest.mapM (uniqueMember? · ms) <;> rfl

/-- The fields with `x` in every place that may have the given name. -/
def fill (declared : List (List String)) (k : String) (x : Option Json) :
    List (Option Json) → List (Option Json) :=
  List.zipWith (fun names field => if k ∈ names then x else field) declared

/-- A member for a field that is missing fills it with its value. -/
theorem fields?_cons_of_absent (h : ∀ names ∈ declared, k ∈ names → ∀ m ∈ ms, m.1 ∉ names) :
    fields? declared (Json.object ((k, v) :: ms)) =
      (fields? declared (Json.object ms)).map (fill declared k (some v)) := by
  refine fields?_eq_map_zipWith fun names hnames => ?_
  by_cases hk : k ∈ names
  · rw [uniqueMember?_cons_of_mem hk (h names hnames hk),
      uniqueMember?_of_absent (h names hnames hk)]
    simp [hk]
  · simp [uniqueMember?_cons_of_notMem hk, hk]

/-- A field that is missing is one that nothing fills. -/
theorem fields?_of_absent (h : ∀ names ∈ declared, k ∈ names → ∀ m ∈ ms, m.1 ∉ names) :
    fields? declared (Json.object ms) =
      (fields? declared (Json.object ms)).map (fill declared k none) := by
  refine fields?_eq_map_zipWith fun names hnames => ?_
  by_cases hk : k ∈ names
  · rw [uniqueMember?_of_absent (h names hnames hk)]
    simp [hk]
  · simp [hk]

/-- What a reader of records owes to the one who writes them: the members of an object may come in
any order and with unknown ones among them, a field goes by each of its names, one that may be null
may be missing, and an array stands for the object that names its items in declared order. -/
structure Lenient (declared : List (List String)) (mayBeNull : List String)
    (decode : Json → Option β) : Prop where
  order {ms ms' : List (String × Json)} : ms.Perm ms' → decode (.object ms) = decode (.object ms')
  unknown {k : String} {v : Json} {ms : List (String × Json)} :
    k ∉ declared.flatten → decode (.object ((k, v) :: ms)) = decode (.object ms)
  otherName {names : List String} {k k' : String} {v : Json} {ms : List (String × Json)} :
    names ∈ declared → k ∈ names → k' ∈ names →
      decode (.object ((k, v) :: ms)) = decode (.object ((k', v) :: ms))
  null {k : String} {ms : List (String × Json)} : k ∈ mayBeNull →
    (∀ names ∈ declared, k ∈ names → ∀ m ∈ ms, m.1 ∉ names) →
      decode (.object ((k, .null) :: ms)) = decode (.object ms)
  positional {items : List Json} : items.length ≤ declared.length →
    decode (.array items) = decode (.object (named declared items))

/-- A decoder that goes by the declared fields is lenient, if it takes a null for a missing field
where it may be one. -/
theorem lenient_of_fields? {mayBeNull : List String} {read : List (Option Json) → Option β}
    (nodup : declared.flatten.Nodup) (nonempty : [] ∉ declared)
    (h : ∀ j, decode j = (fields? declared j).bind read)
    (null : ∀ k ∈ mayBeNull, ∀ fields, fields.length = declared.length →
      read (fill declared k (some .null) fields) = read (fill declared k none fields)) :
    Lenient declared mayBeNull decode where
  order perm := by rw [h, h, fields?_congr fun names _ => uniqueMember?_perm perm]
  unknown {k v ms} hk := by
    rw [h, h, fields?_congr fun names hnames => uniqueMember?_cons_of_notMem fun hmem =>
      hk (List.mem_flatten.2 ⟨names, hnames, hmem⟩)]
  otherName hgiven hk hk' := by
    rw [h, h, fields?_congr fun names hnames =>
      uniqueMember?_congr_name (mem_iff_mem_of_nodup nodup hgiven hk hk' hnames)]
  null {k ms} hk absent := by
    calc decode (.object ((k, .null) :: ms))
        = ((fields? declared (Json.object ms)).map (fill declared k (some .null))).bind read := by
          rw [h, fields?_cons_of_absent absent]
      _ = ((fields? declared (Json.object ms)).map (fill declared k none)).bind read := by
          cases hfields : fields? declared (Json.object ms) with
          | none => rfl
          | some fields => exact null k hk fields (length_of_fields? hfields)
      _ = decode (.object ms) := by rw [← fields?_of_absent absent, h]
  positional hlength := by
    have positions := positional?_eq_mapM nodup nonempty hlength
    rw [h, h]
    exact congrArg (Option.bind · read) positions

end Lenient

end Record

end DeliveryDesk

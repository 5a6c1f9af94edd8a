import DeliveryDesk.Json.Reading
import DeliveryDesk.Proofs.Json.Written
import Mathlib.Data.String.Basic

/-!
# What a document means

A document that is written reads as the tree of its value, but the tree must still be interpreted:
digits become a number, pieces a string, and members are put in order under their names. For the
values that reading gives in the first place, and whose numbers are integers, interpreting the tree
gives the value back.

`Json.Exact` describes these values by their shape: nested at most so deep, the members of every
object in increasing order of their names, every number an integer that 64 bits hold.
`exact_of_ofSymbols?` shows that reading gives no other values, floating-point numbers apart, and
`parse?_pretty` that these are read back. A floating-point number need not come back, because
reading does not always round to the nearest one.

Main statement: `Json.parse?_pretty_of_read`.
-/

namespace DeliveryDesk

open Text

/-! ## Integers -/

namespace RawNumber

/-- A number does not shrink when digits are appended. -/
theorem le_foldl_digits (ds : List Nat) (n : Nat) : n ≤ ds.foldl (fun n d => n * 10 + d) n := by
  induction ds generalizing n with
  | nil => exact Nat.le_refl n
  | cons d ds ih =>
    have htail := ih (n * 10 + d)
    rw [List.foldl_cons]
    omega

/-- If the whole number fits, no digit is left over. -/
theorem absorb_of_fits {n : Nat} {ds : List Nat}
    (fits : ds.foldl (fun n d => n * 10 + d) n ≤ maxUnsigned64) :
    absorb n ds = (ds.foldl (fun n d => n * 10 + d) n, []) := by
  induction ds generalizing n with
  | nil => rfl
  | cons d ds ih =>
    rw [List.foldl_cons] at fits
    have hnext : n * 10 + d ≤ maxUnsigned64 := Nat.le_trans (le_foldl_digits ds _) fits
    rw [absorb, if_pos hnext, ih fits, List.foldl_cons]

/-- What was taken fits. -/
theorem absorb_le {n : Nat} (hn : n ≤ maxUnsigned64) (ds : List Nat) :
    (absorb n ds).1 ≤ maxUnsigned64 := by
  induction ds generalizing n with
  | nil => exact hn
  | cons d ds ih =>
    rw [absorb]
    split
    · next hnext => exact ih hnext
    · exact hn

end RawNumber

/-- The digits of a number denote it. -/
theorem foldl_digitValue_decimalDigits (n : Nat) :
    ((decimalDigits n).map digitValue).foldl (fun n d => n * 10 + d) 0 = n := by
  have hdigits : Nat.ofDigitChars 10 (decimalDigits n) 0 = n :=
    Nat.ofDigitChars_toDigits (by decide) (by decide)
  rw [List.foldl_map]
  simpa only [Nat.ofDigitChars, digitValue, Nat.mul_comm] using hdigits

/-- An integer that 64 bits hold, unsigned or signed. -/
def IsWide (i : Int) : Prop := -(maxMagnitude64 : Int) ≤ i ∧ i ≤ maxUnsigned64

namespace JsonNumber

/-- Whether a number is an integer. -/
def isInteger : JsonNumber → Bool
  | .int _ => true
  | .float _ => false

theorem exists_of_isInteger {n : JsonNumber} (h : n.isInteger = true) : ∃ i, n = .int i := by
  cases n with
  | int i => exact ⟨i, rfl⟩
  | float x => cases h

/-- An integer is read back if 64 bits hold it. -/
theorem value?_raw_int {i : Int} (wide : IsWide i) :
    (JsonNumber.int i).raw.value? = some (.int i) := by
  obtain ⟨hlower, hupper⟩ := wide
  have hmagnitude : maxMagnitude64 ≤ maxUnsigned64 := by decide
  have hdigits := foldl_digitValue_decimalDigits i.natAbs
  have hfits : ((decimalDigits i.natAbs).map digitValue).foldl (fun n d => n * 10 + d) 0 ≤
      maxUnsigned64 := by
    rw [hdigits]
    omega
  have habsorb := RawNumber.absorb_of_fits hfits
  rw [hdigits] at habsorb
  have hraw : (JsonNumber.int i).raw =
      ⟨decide (i < 0), (decimalDigits i.natAbs).map digitValue, none, none⟩ := rfl
  rw [hraw, RawNumber.value?]
  simp only [habsorb, List.isEmpty_nil, if_true]
  by_cases hminus : i < 0
  · have hvalue : -(i.natAbs : Int) = i := by omega
    have hrange : 0 < i.natAbs ∧ i.natAbs ≤ maxMagnitude64 := by omega
    simp only [hminus, decide_true, Bool.true_eq_false, if_false, hrange, and_self, if_true, hvalue]
  · have hvalue : (i.natAbs : Int) = i := by omega
    simp only [hminus, decide_false, if_true, hvalue]

end JsonNumber

/-- An integer that is read is held by 64 bits. -/
theorem RawNumber.isWide_of_value? {n : RawNumber} {i : Int} (h : n.value? = some (.int i)) :
    IsWide i := by
  have htaken := absorb_le (Nat.zero_le maxUnsigned64) n.whole
  have hmagnitude : (0 : Int) ≤ (maxMagnitude64 : Int) := Int.natCast_nonneg _
  rw [value?] at h
  dsimp only at h
  split at h
  · split at h
    · split at h
      · cases h
        exact ⟨by omega, by omega⟩
      · split at h
        · next hrange =>
          cases h
          exact ⟨by omega, by omega⟩
        · simp at h
    · simp at h
  · simp at h

/-! ## Strings -/

namespace RawJson

/-- The piece that a character comes back as is that character. -/
theorem characters?_cons_pieceOf (c : Char) (rest : List StringPart) :
    characters? (pieceOf c :: rest) = (characters? rest).map (c :: ·) := by
  unfold pieceOf
  split
  · next hcontrol =>
    have hlow : ¬(0xDC00 ≤ c.toNat ∧ c.toNat < 0xE000) := by omega
    have hhigh : ¬(0xD800 ≤ c.toNat ∧ c.toNat < 0xDC00) := by omega
    rw [characters?.eq_def]
    simp only [hlow, hhigh, if_false, Char.ofNat_toNat]
  · rw [characters?]

/-- **A string is read back.** -/
theorem textOf?_pieces (s : String) : textOf? (s.toList.map pieceOf) = some s := by
  have hcharacters : characters? (s.toList.map pieceOf) = some s.toList := by
    induction s.toList with
    | nil => rfl
    | cons c cs ih =>
      rw [List.map_cons, characters?_cons_pieceOf, ih]
      rfl
  rw [textOf?, hcharacters, Option.map_some, String.ofList_toList]

end RawJson

/-! ## Members -/

namespace Json

/-- Members in increasing order of their names; so no name stands twice. -/
def Ordered (members : List (String × Json)) : Prop := members.Pairwise fun m m' => m.1 < m'.1

/-- Putting a member in its place adds that member and no other. -/
theorem mem_insertMember {key : String} {value : Json} {members : List (String × Json)}
    {m : String × Json} (h : m ∈ insertMember key value members) :
    m = (key, value) ∨ m ∈ members := by
  induction members with
  | nil => exact .inl (List.mem_singleton.mp h)
  | cons m' rest ih =>
    rw [insertMember] at h
    split at h
    · exact List.mem_cons.mp h
    · split at h
      · exact (List.mem_cons.mp h).imp_right (List.mem_cons_of_mem _)
      · rcases List.mem_cons.mp h with rfl | htail
        · exact .inr List.mem_cons_self
        · exact (ih htail).imp_right (List.mem_cons_of_mem _)

/-- A member is put in its place. -/
theorem Ordered.insertMember {members : List (String × Json)} (h : Ordered members) (key : String)
    (value : Json) : Ordered (insertMember key value members) := by
  induction members with
  | nil => exact List.pairwise_singleton _ _
  | cons m rest ih =>
    obtain ⟨hfirst, hrest⟩ := List.pairwise_cons.mp h
    rw [Json.insertMember]
    split
    · next hbelow =>
      refine List.pairwise_cons.mpr ⟨fun m' hm' => ?_, h⟩
      rcases List.mem_cons.mp hm' with rfl | hm'
      · exact hbelow
      · exact String.lt_trans hbelow (hfirst m' hm')
    · split
      · next heq =>
        exact List.pairwise_cons.mpr ⟨fun m' hm' => heq ▸ hfirst m' hm', hrest⟩
      · next hnotBelow hne =>
        refine List.pairwise_cons.mpr ⟨fun m' hm' => ?_, ih hrest⟩
        rcases mem_insertMember hm' with rfl | hm'
        · exact lt_of_le_of_ne (not_lt.mp hnotBelow) fun heq => hne heq.symm
        · exact hfirst m' hm'

/-- A member with the greatest name goes to the end. -/
theorem insertMember_of_greatest {key : String} {members : List (String × Json)}
    (greatest : ∀ m ∈ members, m.1 < key) (value : Json) :
    insertMember key value members = members ++ [(key, value)] := by
  induction members with
  | nil => rfl
  | cons m rest ih =>
    have hm : m.1 < key := greatest m List.mem_cons_self
    rw [insertMember, if_neg (lt_asymm hm), if_neg (ne_of_gt hm),
      ih fun m' hm' => greatest m' (List.mem_cons_of_mem m hm'), List.cons_append]

/-- Members that are in order stay as they are when they are put in their places one by one. -/
theorem foldl_insertMember_of_ordered {front members : List (String × Json)}
    (h : Ordered (front ++ members)) :
    members.foldl (fun acc m => insertMember m.1 m.2 acc) front = front ++ members := by
  induction members generalizing front with
  | nil => exact (List.append_nil front).symm
  | cons m rest ih =>
    have hfront : ∀ m' ∈ front, m'.1 < m.1 := fun m' hm' =>
      (List.pairwise_append.mp h).2.2 m' hm' m List.mem_cons_self
    rw [List.append_cons] at h ⊢
    rw [List.foldl_cons, insertMember_of_greatest hfront, ih h]

/-- Members that are in order already stay as they are. -/
theorem ofMembers_of_ordered {members : List (String × Json)} (h : Ordered members) :
    ofMembers members = .object members :=
  congrArg Json.object (foldl_insertMember_of_ordered (List.nil_append members ▸ h))

/-- Members put in their places one by one are in order, and none but those given are there. -/
theorem ordered_foldl_insertMember {acc : List (String × Json)} (hacc : Ordered acc)
    (members : List (String × Json)) :
    Ordered (members.foldl (fun acc m => Json.insertMember m.1 m.2 acc) acc) ∧
      ∀ m ∈ members.foldl (fun acc m => Json.insertMember m.1 m.2 acc) acc,
        m ∈ acc ∨ m ∈ members := by
  induction members generalizing acc with
  | nil => exact ⟨hacc, fun m hm => .inl hm⟩
  | cons m rest ih =>
    obtain ⟨hordered, hmem⟩ := ih (hacc.insertMember m.1 m.2)
    refine ⟨hordered, fun m' hm' => ?_⟩
    rcases hmem m' hm' with hm' | hm'
    · rcases mem_insertMember hm' with rfl | hm'
      · exact .inr List.mem_cons_self
      · exact .inl hm'
    · exact .inr (List.mem_cons_of_mem m hm')

/-- However members are written, they are put in order, and none is invented. -/
theorem exists_ofMembers (members : List (String × Json)) :
    ∃ members', ofMembers members = .object members' ∧ Ordered members' ∧
      ∀ m ∈ members', m ∈ members := by
  obtain ⟨hordered, hmem⟩ := ordered_foldl_insertMember List.Pairwise.nil members
  exact ⟨_, rfl, hordered, fun m hm => (hmem m hm).resolve_left List.not_mem_nil⟩

/-! ## Values -/

mutual

/-- The numbers that stand anywhere in a value. -/
def numbers : Json → List JsonNumber
  | .null => []
  | .bool _ => []
  | .number n => [n]
  | .string _ => []
  | .array items => numbersOfItems items
  | .object members => numbersOfMembers members

/-- The numbers in the items of an array. -/
def numbersOfItems : List Json → List JsonNumber
  | [] => []
  | x :: xs => numbers x ++ numbersOfItems xs

/-- The numbers in the members of an object. -/
def numbersOfMembers : List (String × Json) → List JsonNumber
  | [] => []
  | (_, x) :: rest => numbers x ++ numbersOfMembers rest

end

/-- All numbers in a value are integers. -/
def IsIntegral (v : Json) : Prop := ∀ n ∈ v.numbers, n.isInteger = true

/-- A value that is nested at most `depth` deep, whose objects have their members in order, and
whose numbers are integers that 64 bits hold. -/
inductive Exact : (depth : Nat) → Json → Prop where
  | null {depth : Nat} : Exact depth .null
  | bool {depth : Nat} (b : Bool) : Exact depth (.bool b)
  | int {depth : Nat} {i : Int} (wide : IsWide i) : Exact depth (.number (.int i))
  | string {depth : Nat} (s : String) : Exact depth (.string s)
  | array {depth : Nat} {items : List Json} (each : ∀ x ∈ items, Exact depth x) :
      Exact (depth + 1) (.array items)
  | object {depth : Nat} {members : List (String × Json)} (ordered : Ordered members)
      (each : ∀ m ∈ members, Exact depth m.2) : Exact (depth + 1) (.object members)

theorem mem_numbersOfItems_iff {n : JsonNumber} {items : List Json} :
    n ∈ numbersOfItems items ↔ ∃ x ∈ items, n ∈ x.numbers := by
  induction items with
  | nil => simp [numbersOfItems]
  | cons x xs ih => simp [numbersOfItems, ih]

theorem mem_numbersOfMembers_iff {n : JsonNumber} {members : List (String × Json)} :
    n ∈ numbersOfMembers members ↔ ∃ m ∈ members, n ∈ m.2.numbers := by
  induction members with
  | nil => simp [numbersOfMembers]
  | cons m rest ih => simp [numbersOfMembers, ih]

/-- The numbers of an array are integers if those of all its items are. -/
theorem isIntegral_array_iff {items : List Json} :
    IsIntegral (.array items) ↔ ∀ x ∈ items, IsIntegral x := by
  constructor
  · exact fun h x hx n hn => h n (mem_numbersOfItems_iff.mpr ⟨x, hx, hn⟩)
  · intro h n hn
    obtain ⟨x, hx, hn⟩ := mem_numbersOfItems_iff.mp hn
    exact h x hx n hn

/-- Those of an object are if those of all its members are. -/
theorem isIntegral_object_iff {members : List (String × Json)} :
    IsIntegral (.object members) ↔ ∀ m ∈ members, IsIntegral m.2 := by
  constructor
  · exact fun h m hm n hn => h n (mem_numbersOfMembers_iff.mpr ⟨m, hm, hn⟩)
  · intro h n hn
    obtain ⟨m, hm, hn⟩ := mem_numbersOfMembers_iff.mp hn
    exact h m hm n hn

/-! ## Reading gives values of this shape -/

mutual

/-- What a tree stands for is nested at most as deep as the tree may be. -/
theorem exact_of_toJson? : (depth : Nat) → (raw : RawJson) → {v : Json} →
    raw.toJson? depth = some v → v.IsIntegral → v.Exact depth
  | depth, .null, v, h, _ => by
    obtain rfl := Option.some.inj h
    exact .null
  | depth, .bool b, v, h, _ => by
    obtain rfl := Option.some.inj h
    exact .bool b
  | depth, .number n, v, h, integral => by
    obtain ⟨number, hvalue, rfl⟩ := Option.map_eq_some_iff.mp h
    obtain ⟨i, rfl⟩ := JsonNumber.exists_of_isInteger (integral number List.mem_cons_self)
    exact .int (RawNumber.isWide_of_value? hvalue)
  | depth, .string parts, v, h, _ => by
    obtain ⟨s, -, rfl⟩ := Option.map_eq_some_iff.mp h
    exact .string s
  | 0, .array items, v, h, _ => nomatch h
  | depth + 1, .array items, v, h, integral => by
    obtain ⟨values, hvalues, rfl⟩ := Option.map_eq_some_iff.mp h
    exact .array (exact_of_toJsonItems? depth items hvalues (isIntegral_array_iff.mp integral))
  | 0, .object members, v, h, _ => nomatch h
  | depth + 1, .object members, v, h, integral => by
    obtain ⟨values, hvalues, rfl⟩ := Option.map_eq_some_iff.mp h
    obtain ⟨ordered, hobject, hordered, hmem⟩ := exists_ofMembers values
    rw [hobject] at integral ⊢
    -- a repeated name may hide a number that is no integer, so only what is left is looked at
    have hintegral := isIntegral_object_iff.mp integral
    exact .object hordered fun m hm =>
      exact_of_toJsonMembers? depth members hvalues m (hmem m hm) (hintegral m hm)

/-- What the trees of all items stand for is nested no deeper either. -/
theorem exact_of_toJsonItems? : (depth : Nat) → (items : List RawJson) → {values : List Json} →
    RawJson.toJsonItems? depth items = some values → (∀ v ∈ values, v.IsIntegral) →
    ∀ v ∈ values, v.Exact depth
  | depth, [], values, h, _ => by
    obtain rfl := Option.some.inj h
    exact fun v hv => nomatch hv
  | depth, x :: xs, values, h, integral => by
    simp only [RawJson.toJsonItems?, Option.bind_eq_bind, Option.bind_eq_some_iff] at h
    obtain ⟨v, hv, vs, hvs, hvalues⟩ := h
    obtain rfl := Option.some.inj hvalues
    obtain ⟨hfirst, hothers⟩ := List.forall_mem_cons.mp integral
    exact List.forall_mem_cons.mpr
      ⟨exact_of_toJson? depth x hv hfirst, exact_of_toJsonItems? depth xs hvs hothers⟩

/-- Nor is what the trees of all members stand for. -/
theorem exact_of_toJsonMembers? : (depth : Nat) →
    (members : List (List StringPart × RawJson)) → {values : List (String × Json)} →
    RawJson.toJsonMembers? depth members = some values →
    ∀ m ∈ values, m.2.IsIntegral → m.2.Exact depth
  | depth, [], values, h => by
    obtain rfl := Option.some.inj h
    exact fun m hm => nomatch hm
  | depth, (k, x) :: rest, values, h => by
    simp only [RawJson.toJsonMembers?, Option.bind_eq_bind, Option.bind_eq_some_iff] at h
    obtain ⟨key, -, v, hv, vs, hvs, hvalues⟩ := h
    obtain rfl := Option.some.inj hvalues
    intro m hm integral
    rcases List.mem_cons.mp hm with rfl | hm
    · exact exact_of_toJson? depth x hv integral
    · exact exact_of_toJsonMembers? depth rest hvs m hm integral

end

/-- A value that is read and has no other numbers than integers is exact. -/
theorem exact_of_ofSymbols? {s : List Symbol} {v : Json} (read : ofSymbols? s = some v)
    (integral : v.IsIntegral) : v.Exact maxDepth := by
  obtain ⟨raw, -, hmeaning⟩ := Option.bind_eq_some_iff.mp read
  exact exact_of_toJson? maxDepth raw hmeaning integral

/-! ## Values of this shape are read back -/

/-- Items that all come back from their trees come back together. -/
theorem toJsonItems?_tree {depth : Nat} {items : List Json}
    (each : ∀ x ∈ items, x.tree.toJson? depth = some x) :
    RawJson.toJsonItems? depth (treeItems items) = some items := by
  induction items with
  | nil => rfl
  | cons x xs ih =>
    obtain ⟨hfirst, hothers⟩ := List.forall_mem_cons.mp each
    rw [treeItems, RawJson.toJsonItems?, hfirst, ih hothers]
    rfl

/-- So do members. -/
theorem toJsonMembers?_tree {depth : Nat} {members : List (String × Json)}
    (each : ∀ m ∈ members, m.2.tree.toJson? depth = some m.2) :
    RawJson.toJsonMembers? depth (treeMembers members) = some members := by
  induction members with
  | nil => rfl
  | cons m rest ih =>
    obtain ⟨hfirst, hothers⟩ := List.forall_mem_cons.mp each
    rw [treeMembers, RawJson.toJsonMembers?, RawJson.textOf?_pieces, hfirst, ih hothers]
    rfl

/-- **The tree of an exact value stands for that value.** -/
theorem Exact.toJson?_tree {depth : Nat} {v : Json} (exact : v.Exact depth) :
    v.tree.toJson? depth = some v := by
  induction exact with
  | null => rfl
  | bool b => rfl
  | int wide =>
    rw [tree, RawJson.toJson?, JsonNumber.value?_raw_int wide]
    rfl
  | string s =>
    rw [tree, RawJson.toJson?, RawJson.textOf?_pieces]
    rfl
  | array _ ih =>
    rw [tree, RawJson.toJson?, toJsonItems?_tree ih]
    rfl
  | object ordered _ ih =>
    rw [tree, RawJson.toJson?, toJsonMembers?_tree ih, Option.map_some,
      ofMembers_of_ordered ordered]

/-- An exact value is what its indented form is read as. -/
theorem Exact.parse?_pretty {v : Json} (exact : v.Exact maxDepth) : parse? v.pretty = some v := by
  rw [parse?, ofSymbols?, read?_pretty, Option.bind_some, exact.toJson?_tree]

/-- **What was read is read again from its indented form**, as long as its numbers are integers. -/
theorem parse?_pretty_of_read {s : List Symbol} {v : Json} (read : ofSymbols? s = some v)
    (integral : v.IsIntegral) : parse? v.pretty = some v :=
  (exact_of_ofSymbols? read integral).parse?_pretty

end Json

end DeliveryDesk

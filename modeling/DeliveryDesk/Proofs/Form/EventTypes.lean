import DeliveryDesk.Console.Form
import Mathlib.Data.List.DropRight

/-!
# Lists of event types, as typed and as shown

A list of event types is typed with commas between the types, and shown with a comma and a blank
between them. `eventTypeList` reads what was typed: the pieces between the commas, trimmed, as far
as anything is left of them.

The two meet when a form is filled with a list that is shown and is then read again. `IsEventType`
says which texts can be in a list that was read, and the reading of a joined list is the reading of
its texts one after the other:

> `eventTypeList_join`: `eventTypeList (join ", " types) = types.flatMap eventTypeList`.

Main statements:

- `flatMap_eventTypeList_eq_self_iff`: a list comes back exactly if all its texts are event types.
- `SeparatesEntries.eq`: there is only one reading for which commas separate, and blanks surround,
  the entries of a list.
- `event_types_read_back`: the reading of the forms is that one, it never gives an empty list, and a
  list that was read is read again from where it is shown.
-/

namespace DeliveryDesk

namespace Text

/-! ## Pieces -/

/-- Splitting at a character is the library's. -/
theorem splitAt_eq_splitOn (sep : Char) (cs : List Char) : splitAt sep cs = cs.splitOn sep := by
  induction cs with
  | nil => rfl
  | cons c cs ih =>
    rw [splitAt, ih, List.splitOn_cons_eq_if_modifyHead]
    have hne : cs.splitOn sep ≠ [] := List.splitOn_ne_nil _ _
    cases hpieces : cs.splitOn sep with
    | nil => exact absurd hpieces hne
    | cons piece pieces => by_cases hc : c = sep <;> simp [hc]

/-- The pieces of a text between its commas. -/
def pieces (s : String) : List String := (s.toList.splitOn ',').map String.ofList

/-- A comma separates the pieces before it from those behind it. -/
theorem pieces_append (a b : String) : pieces (a ++ "," ++ b) = pieces a ++ pieces b := by
  have hlist : (a ++ "," ++ b).toList = a.toList ++ ',' :: b.toList := by
    simp [String.toList_append]
  rw [pieces, hlist, List.splitOn_append_cons_self, List.map_append]
  rfl

/-- A text without a comma is one piece. -/
theorem pieces_of_notMem {s : String} (h : ',' ∉ s.toList) : pieces s = [s] := by
  rw [pieces, List.splitOn_eq_singleton h, List.map_singleton, String.ofList_toList]

theorem notMem_of_mem_splitOn {sep : Char} {cs piece : List Char} (h : piece ∈ cs.splitOn sep) :
    sep ∉ piece := by
  induction cs generalizing piece with
  | nil =>
    rw [List.splitOn_nil, List.mem_singleton] at h
    rw [h]
    exact List.not_mem_nil
  | cons c cs ih =>
    rw [List.splitOn_cons_eq_if_modifyHead] at h
    by_cases hc : c = sep
    · rw [if_pos (beq_iff_eq.mpr hc)] at h
      rcases List.mem_cons.mp h with rfl | hrest
      · exact List.not_mem_nil
      · exact ih hrest
    · rw [if_neg (by simpa using hc)] at h
      cases hpieces : cs.splitOn sep with
      | nil => exact absurd hpieces (List.splitOn_ne_nil _ _)
      | cons first rest =>
        rw [hpieces, List.modifyHead_cons] at h
        rcases List.mem_cons.mp h with rfl | hrest
        · have hfirst : sep ∉ first := ih (by rw [hpieces]; exact List.mem_cons_self)
          exact List.not_mem_cons_of_ne_of_not_mem (fun he => hc he.symm) hfirst
        · exact ih (by rw [hpieces]; exact List.mem_cons_of_mem _ hrest)

/-- No piece has a comma. -/
theorem notMem_of_mem_pieces {s piece : String} (h : piece ∈ pieces s) : ',' ∉ piece.toList := by
  obtain ⟨cs, hcs, rfl⟩ := List.mem_map.mp h
  rw [String.toList_ofList]
  exact notMem_of_mem_splitOn hcs

/-! ## Trimming -/

/-- Taking blanks off the end is dropping from the right. -/
theorem trimEnd_eq_rdropWhile (cs : List Char) : trimEnd cs = cs.rdropWhile isBlank := by
  induction cs with
  | nil => rfl
  | cons c cs ih =>
    rw [trimEnd, ih, List.rdropWhile, List.rdropWhile, List.reverse_cons, List.dropWhile_append]
    cases hend : cs.reverse.dropWhile isBlank with
    | nil => cases hc : isBlank c <;> simp [hc]
    | cons d ds => simp

theorem trimStart_suffix (cs : List Char) : trimStart cs <:+ cs := List.dropWhile_suffix _

theorem trimEnd_isPrefix (cs : List Char) : trimEnd cs <+: cs := by
  rw [trimEnd_eq_rdropWhile]
  exact List.rdropWhile_prefix _ _

/-- What is left after trimming was there before. -/
theorem mem_of_mem_trimChars {c : Char} {cs : List Char} (h : c ∈ trimChars cs) : c ∈ cs :=
  (trimStart_suffix cs).subset ((trimEnd_isPrefix _).subset h)

theorem trimStart_eq_self_iff {cs : List Char} :
    trimStart cs = cs ↔ ∀ c ∈ cs.head?, isBlank c = false := by
  rw [trimStart, List.dropWhile_eq_self_iff]
  cases cs <;> simp

theorem trimEnd_eq_self_iff {cs : List Char} :
    trimEnd cs = cs ↔ ∀ c ∈ cs.getLast?, isBlank c = false := by
  rw [trimEnd_eq_rdropWhile, List.rdropWhile_eq_self_iff]
  constructor
  · intro h c hc
    obtain ⟨hne, rfl⟩ := List.mem_getLast?_eq_getLast hc
    simpa using h hne
  · intro h hne
    simpa using h _ (List.getLast?_eq_some_getLast hne)

/-- Trimming leaves a text alone that neither starts nor ends with a blank. -/
theorem trim_eq_self_iff {s : String} : trim s = s ↔
    (∀ c ∈ s.toList.head?, isBlank c = false) ∧ ∀ c ∈ s.toList.getLast?, isBlank c = false := by
  rw [← trimStart_eq_self_iff, ← trimEnd_eq_self_iff, trim, ← String.toList_inj,
    String.toList_ofList, trimChars]
  constructor
  · intro h
    -- neither end can lose anything where nothing is lost on the whole
    have hlength : s.toList.length ≤ (trimStart s.toList).length := by
      calc s.toList.length = (trimEnd (trimStart s.toList)).length := by rw [h]
        _ ≤ (trimStart s.toList).length := (trimEnd_isPrefix _).length_le
    have hstart := (trimStart_suffix s.toList).eq_of_length_le hlength
    rw [hstart] at h
    exact ⟨hstart, h⟩
  · rintro ⟨hstart, hend⟩
    rw [hstart, hend]

/-- Blanks at the front do not count. -/
theorem trimStart_append_of_blank {front : List Char} (blank : ∀ c ∈ front, isBlank c = true)
    (cs : List Char) : trimStart (front ++ cs) = trimStart cs :=
  List.dropWhile_append_of_pos blank

/-- Blanks at the end do not count. -/
theorem trimEnd_append_of_blank {back : List Char} (blank : ∀ c ∈ back, isBlank c = true)
    (cs : List Char) : trimEnd (cs ++ back) = trimEnd cs := by
  have hreverse : ∀ c ∈ back.reverse, isBlank c = true :=
    fun c hc => blank c (List.mem_reverse.mp hc)
  rw [trimEnd_eq_rdropWhile, trimEnd_eq_rdropWhile, List.rdropWhile, List.rdropWhile,
    List.reverse_append, List.dropWhile_append_of_pos hreverse]

/-- What stands in `s` between the blanks at its ends is `t`. -/
structure IsCore (s t : String) : Prop where
  surrounded : ∃ front back, s.toList = front ++ t.toList ++ back ∧
    (∀ c ∈ front, isBlank c = true) ∧ ∀ c ∈ back, isBlank c = true
  noLeadingBlank : ∀ c ∈ t.toList.head?, isBlank c = false
  noTrailingBlank : ∀ c ∈ t.toList.getLast?, isBlank c = false

/-- Trimming takes all blanks off the ends and nothing else. -/
theorem trim_eq_iff {s t : String} : trim s = t ↔ IsCore s t := by
  constructor
  · rintro rfl
    obtain ⟨hstart, hend⟩ := trim_eq_self_iff.mp (trim_trim s)
    refine ⟨⟨s.toList.takeWhile isBlank, (trimStart s.toList).rtakeWhile isBlank, ?_,
      fun _ => List.mem_takeWhile_imp, fun _ => List.mem_rtakeWhile_imp⟩, hstart, hend⟩
    calc s.toList = s.toList.takeWhile isBlank ++ trimStart s.toList :=
          List.takeWhile_append_dropWhile.symm
      _ = s.toList.takeWhile isBlank ++
            (trimChars s.toList ++ (trimStart s.toList).rtakeWhile isBlank) := by
          rw [trimChars, trimEnd_eq_rdropWhile, List.rdropWhile_append_rtakeWhile]
      _ = _ := by rw [trim, String.toList_ofList, List.append_assoc]
  · rintro ⟨⟨front, back, hs, hfront, hback⟩, hstart, hend⟩
    rw [trim, ← String.toList_inj, String.toList_ofList, trimChars, hs, List.append_assoc,
      trimStart_append_of_blank hfront]
    -- where nothing stands between the blanks, those at the end go with those at the front
    cases ht : t.toList with
    | nil =>
      rw [List.nil_append, trimStart, List.dropWhile_eq_nil_iff.mpr hback]
      rfl
    | cons c rest =>
      rw [ht] at hstart hend
      rw [List.cons_append, trimStart_cons_of_not_isBlank (hstart c rfl), ← List.cons_append,
        trimEnd_append_of_blank hback, trimEnd_eq_self_iff.mpr hend]

/-- Nothing is left of a text exactly if it has blanks only. -/
theorem trim_eq_empty_iff_all {s : String} : trim s = "" ↔ s.toList.all isBlank = true := by
  rw [trim_eq_iff, List.all_eq_true]
  constructor
  · rintro ⟨⟨front, back, hs, hfront, hback⟩, -, -⟩ c hc
    rw [hs, String.toList_empty, List.append_nil, List.mem_append] at hc
    exact hc.elim (hfront c) (hback c)
  · intro blank
    exact ⟨⟨s.toList, [], by simp, blank, by simp⟩, by simp, by simp⟩

/-- A blank in front of a text does not show in its trimmed pieces. -/
theorem map_trim_pieces_blank_append (s : String) :
    (pieces (" " ++ s)).map trim = (pieces s).map trim := by
  have hlist : (" " ++ s).toList = ' ' :: s.toList := by simp [String.toList_append]
  rw [pieces, hlist, List.splitOn_cons_eq_if_modifyHead, if_neg (by decide), pieces]
  cases hpieces : s.toList.splitOn ',' with
  | nil => exact absurd hpieces (List.splitOn_ne_nil _ _)
  | cons first rest =>
    have hfirst : trim (String.ofList (' ' :: first)) = trim (String.ofList first) := by
      rw [trim, trim, String.toList_ofList, String.toList_ofList, trimChars,
        trimStart_cons_of_isBlank rfl]
      rfl
    rw [List.modifyHead_cons, List.map_cons, List.map_cons, hfirst, List.map_cons, List.map_cons]

end Text

namespace Console

open Text

/-- A text that can be in a list of event types that was read. -/
structure IsEventType (t : String) : Prop where
  nonempty : t ≠ ""
  noComma : ',' ∉ t.toList
  noLeadingBlank : ∀ c ∈ t.toList.head?, isBlank c = false
  noTrailingBlank : ∀ c ∈ t.toList.getLast?, isBlank c = false

/-- A text that can be in a list has no blanks to take off. -/
theorem IsEventType.trim_eq {t : String} (h : IsEventType t) : trim t = t :=
  trim_eq_self_iff.mpr ⟨h.noLeadingBlank, h.noTrailingBlank⟩

/-- A text can be in a list exactly if it is not empty, has no comma, and trimming leaves it as it
is. -/
theorem isEventType_iff {t : String} :
    IsEventType t ↔ t ≠ "" ∧ ',' ∉ t.toList ∧ trim t = t := by
  constructor
  · intro h
    exact ⟨h.nonempty, h.noComma, h.trim_eq⟩
  · rintro ⟨hne, hcomma, htrim⟩
    obtain ⟨hstart, hend⟩ := trim_eq_self_iff.mp htrim
    exact ⟨hne, hcomma, hstart, hend⟩

instance : DecidablePred IsEventType := fun _ => decidable_of_iff _ isEventType_iff.symm

/-! ## Reading a list -/

/-- The entries of a list: its pieces without the blanks around them, as far as anything is left. -/
def entries (s : String) : List String := ((pieces s).map trim).filter (· ≠ "")

/-- What a list of the form is read as: its entries. -/
theorem eventTypeList_eq_entries (s : String) : eventTypeList s = entries s := by
  have hpiece : (fun piece => String.ofList (trimChars piece)) = trim ∘ String.ofList := by
    funext piece
    rw [Function.comp_apply, trim, String.toList_ofList]
  have hkept : (fun t : String => !t.isEmpty) = fun t => decide (t ≠ "") := by
    funext t
    by_cases ht : t = "" <;> simp [ht]
  rw [eventTypeList, splitAt_eq_splitOn, entries, pieces, List.map_map, hpiece, hkept]

/-- Every text of a list that was read is an event type. -/
theorem isEventType_of_mem {s t : String} (h : t ∈ eventTypeList s) : IsEventType t := by
  rw [eventTypeList_eq_entries, entries, List.mem_filter, List.mem_map] at h
  obtain ⟨⟨piece, hpiece, rfl⟩, hne⟩ := h
  refine isEventType_iff.mpr ⟨by simpa using hne, fun hcomma => ?_, trim_trim piece⟩
  rw [trim, String.toList_ofList] at hcomma
  exact notMem_of_mem_pieces hpiece (mem_of_mem_trimChars hcomma)

/-- A text without a comma is one entry unless it is blank. -/
theorem eventTypeList_of_notMem {s : String} (h : ',' ∉ s.toList) :
    eventTypeList s = if s.toList.all isBlank then [] else [trim s] := by
  rw [eventTypeList_eq_entries, entries, pieces_of_notMem h, List.map_singleton]
  by_cases hblank : s.toList.all isBlank = true
  · rw [if_pos hblank, trim_eq_empty_iff_all.mpr hblank]
    rfl
  · have hne : trim s ≠ "" := fun he => hblank (trim_eq_empty_iff_all.mp he)
    rw [if_neg hblank]
    simp [hne]

/-- An event type reads as itself. -/
theorem eventTypeList_of_isEventType {t : String} (h : IsEventType t) : eventTypeList t = [t] := by
  have hne : ¬t.toList.all isBlank = true := fun blank =>
    h.nonempty (h.trim_eq.symm.trans (trim_eq_empty_iff_all.mpr blank))
  rw [eventTypeList_of_notMem h.noComma, if_neg hne, h.trim_eq]

/-- There is no entry exactly if every piece is blank. -/
theorem entries_eq_nil_iff {s : String} :
    entries s = [] ↔ ∀ piece ∈ pieces s, trim piece = "" := by
  rw [entries, List.filter_eq_nil_iff]
  simp

/-- A comma separates what is read before it from what is read behind it. -/
theorem eventTypeList_append (a b : String) :
    eventTypeList (a ++ "," ++ b) = eventTypeList a ++ eventTypeList b := by
  rw [eventTypeList_eq_entries, eventTypeList_eq_entries, eventTypeList_eq_entries, entries,
    pieces_append, List.map_append, List.filter_append]
  rfl

/-- A blank in front of a list does not count. -/
theorem eventTypeList_blank_append (s : String) : eventTypeList (" " ++ s) = eventTypeList s := by
  rw [eventTypeList_eq_entries, entries, map_trim_pieces_blank_append, eventTypeList_eq_entries,
    entries]

/-- What is read of a list that is shown is what is read of each of its texts. -/
theorem eventTypeList_join (types : List String) :
    eventTypeList (join ", " types) = types.flatMap eventTypeList := by
  induction types with
  | nil => rfl
  | cons t rest ih =>
    cases rest with
    | nil => rw [join, String.intercalate_singleton, List.flatMap_singleton]
    | cons u rest =>
      have hcut : join ", " (t :: u :: rest) = t ++ "," ++ (" " ++ join ", " (u :: rest)) := by
        rw [join, String.intercalate_cons_cons, ← String.toList_inj]
        simp [String.toList_append, join]
      rw [hcut, eventTypeList_append, eventTypeList_blank_append, ih, ← List.flatMap_cons]

/-- The entries of a joined list are those of its parts, one after the other. -/
theorem entries_join (types : List String) : entries (join ", " types) = types.flatMap entries := by
  have hread : eventTypeList = entries := funext eventTypeList_eq_entries
  rw [← hread]
  exact eventTypeList_join types

/-- **A list comes back exactly if all its texts are event types.** -/
theorem flatMap_eventTypeList_eq_self_iff {types : List String} :
    types.flatMap eventTypeList = types ↔ ∀ t ∈ types, IsEventType t := by
  constructor
  · intro h t ht
    rw [← h] at ht
    obtain ⟨u, -, hread⟩ := List.mem_flatMap.mp ht
    exact isEventType_of_mem hread
  · intro h
    induction types with
    | nil => rfl
    | cons t rest ih =>
      have hrest := ih fun u hu => h u (List.mem_cons_of_mem _ hu)
      rw [List.flatMap_cons, eventTypeList_of_isEventType (h t List.mem_cons_self), hrest]
      rfl

/-- A joined list is read as it was exactly if all its texts are event types. -/
theorem eventTypeList_join_eq_self_iff {types : List String} :
    eventTypeList (join ", " types) = types ↔ ∀ t ∈ types, IsEventType t := by
  rw [eventTypeList_join, flatMap_eventTypeList_eq_self_iff]

/-! ## The laws of reading -/

/-- A reading for which a comma separates two lists, and a text without a comma is one entry, its
blanks taken off, or none if it has blanks only. -/
structure SeparatesEntries (read : String → List String) : Prop where
  append : ∀ a b, read (a ++ "," ++ b) = read a ++ read b
  entry : ∀ s, ',' ∉ s.toList → read s = if s.toList.all isBlank then [] else [trim s]

theorem separatesEntries_eventTypeList : SeparatesEntries eventTypeList :=
  ⟨eventTypeList_append, fun _ => eventTypeList_of_notMem⟩

/-- The laws leave no choice: any two readings that keep to them are the same. -/
theorem SeparatesEntries.eq {f g : String → List String} (hf : SeparatesEntries f)
    (hg : SeparatesEntries g) (s : String) : f s = g s := by
  by_cases hcomma : ',' ∈ s.toList
  · -- any comma will do: what stands on its two sides is shorter
    obtain ⟨front, back, hs⟩ := List.append_of_mem hcomma
    have hcut : s = String.ofList front ++ "," ++ String.ofList back := by
      rw [← String.toList_inj, hs]
      simp [String.toList_append]
    have hlength : front.length + (back.length + 1) = s.length := by
      rw [← String.length_toList, hs, List.length_append, List.length_cons]
    have hfront := SeparatesEntries.eq hf hg (String.ofList front)
    have hback := SeparatesEntries.eq hf hg (String.ofList back)
    rw [hcut, hf.append, hg.append, hfront, hback]
  · rw [hf.entry s hcomma, hg.entry s hcomma]
termination_by s.length
decreasing_by all_goals (rw [String.length_ofList]; omega)

/-! ## Lists that are typed and shown -/

/-- The entries of a list are read, and a list without any as nothing. -/
theorem parseEventTypes_eq (s : String) :
    parseEventTypes s = if entries s = [] then none else some (entries s) := by
  rw [parseEventTypes, eventTypeList_eq_entries]
  cases entries s <;> rfl

/-- The event types that are listed in a text, if any. -/
def listedTypes (s : String) : List String := (parseEventTypes s).getD []

/-- Reading a list for a request is reading it for the form, where nothing listed is the empty list.
-/
theorem listedTypes_eq_eventTypeList : listedTypes = eventTypeList := by
  funext s
  rw [listedTypes, parseEventTypes_eq, eventTypeList_eq_entries]
  by_cases hnone : entries s = []
  · rw [if_pos hnone, hnone]
    rfl
  · rw [if_neg hnone]
    rfl

/-- There is no list without entries. -/
theorem parseEventTypes_ne_some_nil (s : String) : parseEventTypes s ≠ some [] := by
  rw [parseEventTypes_eq]
  by_cases hnone : entries s = []
  · rw [if_pos hnone]
    exact nofun
  · rw [if_neg hnone]
    exact fun h => hnone (Option.some.inj h)

/-- **What is typed is read entry by entry, and what was read is read again from where it is
shown.** -/
theorem event_types_read_back :
    SeparatesEntries listedTypes ∧
    (∀ read, SeparatesEntries read → read = listedTypes) ∧
    (∀ s, parseEventTypes s ≠ some []) ∧
    (∀ s, listedTypes (join ", " (listedTypes s)) = listedTypes s) ∧
    (∀ types, listedTypes (join ", " types) = types ↔ ∀ t ∈ types, IsEventType t) := by
  rw [listedTypes_eq_eventTypeList]
  refine ⟨separatesEntries_eventTypeList, ?_, parseEventTypes_ne_some_nil, ?_, ?_⟩
  · intro read laws
    exact funext (laws.eq separatesEntries_eventTypeList)
  · intro s
    exact eventTypeList_join_eq_self_iff.mpr fun t => isEventType_of_mem
  · exact fun types => eventTypeList_join_eq_self_iff

/-- Blanks of all kinds go, those inside of an entry stay, and a blank entry is none. -/
theorem event_types_read_back_blanks :
    listedTypes ("\u3000order created\u00a0" ++ "," ++ "\u2003") = ["order created"] ∧
    eventTypeList = listedTypes ∧
    listedTypes (join ", " ["order created", "a"]) = ["order created", "a"] := by
  obtain ⟨laws, unique, -, -, back⟩ := event_types_read_back
  refine ⟨?_, unique _ separatesEntries_eventTypeList, (back _).mpr (by decide)⟩
  rw [laws.append, laws.entry _ (by decide), laws.entry _ (by decide), if_neg (by decide),
    if_pos (by decide)]
  decide

end Console

end DeliveryDesk

import DeliveryDesk.Proofs.Settings.Editing
import DeliveryDesk.Proofs.Toml.Documents
import DeliveryDesk.Settings.Document

/-!
# Preferences and the document that stores them

The document of some preferences has one line per value (`Preferences.lines`), and reading it gives
the preferences back (`parse_of_document`). That is so for every text, because texts are quoted, but
a timeout must keep to the signed integers that documents have; `IsStorable` says so, and
`document_eq` that nothing else stands in the way.

Checking a value when it is set does not look at that bound, so there are preferences which an
operator can set and which cannot be stored.
-/

namespace DeliveryDesk.Preferences

open Text

/-! ## What is stored -/

/-- The timeout fits a signed integer of 64 bits. -/
def IsStorable (p : Preferences) : Prop := ∀ t, p.timeoutSeconds = some t → t.toNat < Nat.pow 2 63

/-- What is written for the value of a key, and the value that this is. -/
def written (p : Preferences) : PreferenceKey → Option (List Char × Toml)
  | .apiUrl => p.apiUrl.map fun s => (Toml.quotedChars s.toList, .string s)
  | .outputFormat => p.outputFormat.map fun s => (Toml.quotedChars s.toList, .string s)
  | .timeoutSeconds => p.timeoutSeconds.map fun t => (decimalDigits t.toNat, .integer t.toNat)
  | .defaultEventType => p.defaultEventType.map fun s => (Toml.quotedChars s.toList, .string s)

/-- The line of a key. -/
def line? (p : Preferences) (key : PreferenceKey) : Option Toml.Line :=
  (p.written key).map fun (spelt, value) => ⟨key.name, spelt, value⟩

/-- The lines of the document. -/
def lines (p : Preferences) : List Toml.Line := PreferenceKey.all.filterMap p.line?

/-- The line of a preference is written as its document has it, or left out. -/
theorem lineOf_written (p : Preferences) (key : PreferenceKey) :
    lineOf key ((p.written key).map fun w => String.ofList w.1) =
      String.ofList ((p.line? key).toList.flatMap Toml.Line.chars) := by
  unfold line?
  cases p.written key with
  | none => rfl
  | some w =>
    apply String.toList_inj.mp
    simp [lineOf, Toml.Line.chars]

/-- What can be stored is what the writer does not complain of. -/
theorem isStorable_iff (p : Preferences) :
    p.IsStorable ↔ ¬ (p.timeoutSeconds.any fun t => storableBound ≤ t.toNat) = true := by
  have hbound : storableBound = Nat.pow 2 63 := rfl
  unfold IsStorable
  cases p.timeoutSeconds with
  | none => simp
  | some t => simp [hbound]

/-- The document of storable preferences is that of their lines; there is none of others. -/
theorem document_eq (p : Preferences) :
    p.document =
      if p.timeoutSeconds.any fun t => storableBound ≤ t.toNat then .error .unstorableTimeout
      else .ok (String.ofList (p.lines.flatMap Toml.Line.chars)) := by
  have htext : lineOf .apiUrl (p.apiUrl.map Toml.quoted) ++
      lineOf .outputFormat (p.outputFormat.map Toml.quoted) ++
      lineOf .timeoutSeconds (p.timeoutSeconds.map fun t => decimalText t.toNat) ++
      lineOf .defaultEventType (p.defaultEventType.map Toml.quoted) =
        String.ofList (p.lines.flatMap Toml.Line.chars) := by
    have hurl := lineOf_written p .apiUrl
    have hformat := lineOf_written p .outputFormat
    have htimeout := lineOf_written p .timeoutSeconds
    have hevent := lineOf_written p .defaultEventType
    simp only [written, Option.map_map] at hurl hformat htimeout hevent
    rw [lines, List.filterMap_eq_flatMap_toList, PreferenceKey.all]
    simp only [List.flatMap_cons, List.flatMap_nil, List.append_nil, List.flatMap_append,
      String.ofList_append, ← hurl, ← hformat, ← htimeout, ← hevent, String.append_assoc]
    rfl
  unfold document
  rw [htext]

/-- Preferences can be written down exactly if they are storable. -/
theorem document_eq_ok_iff {p : Preferences} {text : String} :
    p.document = .ok text ↔
      p.IsStorable ∧ String.ofList (p.lines.flatMap Toml.Line.chars) = text := by
  rw [document_eq, isStorable_iff]
  split
  · next h => exact iff_of_false (by simp) fun hs => hs.1 h
  · next h => exact ⟨fun heq => ⟨h, Except.ok.inj heq⟩, fun hs => congrArg Except.ok hs.2⟩

/-- There is no document for a timeout that is too large. -/
theorem document_of_not_isStorable {p : Preferences} (h : ¬ p.IsStorable) :
    p.document = .error .unstorableTimeout := by
  rw [document_eq, if_pos (not_not.mp (mt (isStorable_iff p).mpr h))]

/-! ## What is read -/

/-- The names of preferences need no quotes as keys. -/
theorem isBare_name (key : PreferenceKey) : Toml.IsBare key.name := by
  cases key with
  | _ => exact ⟨by decide, List.all_eq_true.mp (by decide)⟩

/-- Each value is written so that it is read as itself. -/
theorem writes_written {p : Preferences} (storable : p.IsStorable) {key : PreferenceKey}
    {w : List Char × Toml} (h : p.written key = some w) : Toml.Writes w.1 w.2 := by
  have hquoted (s : String) : Toml.Writes (Toml.quotedChars s.toList) (.string s) := by
    have hwrites := Toml.writes_quoted s.toList
    rwa [String.ofList_toList] at hwrites
  cases key with
  | apiUrl | outputFormat | defaultEventType =>
    obtain ⟨s, -, rfl⟩ := Option.map_eq_some_iff.mp h
    exact hquoted s
  | timeoutSeconds =>
    obtain ⟨t, ht, rfl⟩ := Option.map_eq_some_iff.mp h
    exact Toml.writes_number (storable t ht)

/-- The lines of preferences that can be stored are read as they are meant. -/
theorem isSound_lines {p : Preferences} (storable : p.IsStorable) :
    ∀ l ∈ p.lines, l.IsSound := by
  intro l hl
  obtain ⟨key, -, hkey⟩ := List.mem_filterMap.mp hl
  obtain ⟨w, hw, rfl⟩ := Option.map_eq_some_iff.mp hkey
  exact ⟨isBare_name key, writes_written storable hw⟩

/-- A line goes by the name of its preference. -/
theorem key_of_line? {p : Preferences} {key : PreferenceKey} {l : Toml.Line}
    (h : p.line? key = some l) : l.key = key.name := by
  obtain ⟨w, -, rfl⟩ := Option.map_eq_some_iff.mp h
  rfl

/-- The keys of the lines come in the order of the preferences, and some may be missing. -/
theorem keys_sublist (p : Preferences) (keys : List PreferenceKey) :
    ((keys.filterMap p.line?).map Toml.Line.key).Sublist (keys.map PreferenceKey.name) := by
  induction keys with
  | nil => exact .slnil
  | cons key keys ih =>
    cases hline : p.line? key with
    | none =>
      rw [List.filterMap_cons_none hline]
      exact ih.cons _
    | some l =>
      rw [List.filterMap_cons_some hline, List.map_cons, List.map_cons, key_of_line? hline]
      exact ih.cons_cons _

/-- No key has two lines. -/
theorem nodup_keys_lines (p : Preferences) : (p.lines.map Toml.Line.key).Nodup :=
  (keys_sublist p PreferenceKey.all).nodup (by decide)

/-- The preferences with the value that others have for a key, if they have one. -/
def adopt (p q : Preferences) : PreferenceKey → Preferences
  | .apiUrl => { q with apiUrl := p.apiUrl.orElse fun _ => q.apiUrl }
  | .outputFormat => { q with outputFormat := p.outputFormat.orElse fun _ => q.outputFormat }
  | .timeoutSeconds =>
    { q with timeoutSeconds := p.timeoutSeconds.orElse fun _ => q.timeoutSeconds }
  | .defaultEventType =>
    { q with defaultEventType := p.defaultEventType.orElse fun _ => q.defaultEventType }

/-- Reading the line of a key gives the preferences its value. -/
theorem takeEntry_line {p : Preferences} (d : Toml.Document) (q : Preferences)
    {key : PreferenceKey} {l : Toml.Line} (h : p.line? key = some l) :
    takeEntry d q l.entry = .ok (p.adopt q key) := by
  obtain ⟨w, hw, rfl⟩ := Option.map_eq_some_iff.mp h
  have hnamed : PreferenceKey.named? key.name = some key := PreferenceKey.named?_name key
  unfold takeEntry Toml.Line.entry
  dsimp only
  rw [hnamed]
  dsimp only
  cases key with
  | apiUrl | outputFormat | defaultEventType =>
    obtain ⟨s, hs, rfl⟩ := Option.map_eq_some_iff.mp hw
    simp [take, textOf, adopt, hs, Except.map, Except.mapError]
  | timeoutSeconds =>
    obtain ⟨t, ht, rfl⟩ := Option.map_eq_some_iff.mp hw
    simp [take, numberOf, adopt, ht, Except.map, Except.mapError]

/-- Reading the lines of some keys gives the preferences the values of these keys. -/
theorem foldlM_takeEntry {p : Preferences} (d : Toml.Document) (keys : List PreferenceKey)
    (q : Preferences) :
    ((keys.filterMap p.line?).map Toml.Line.entry).foldlM (takeEntry d) q =
      .ok (keys.foldl p.adopt q) := by
  induction keys generalizing q with
  | nil => rfl
  | cons key keys ih =>
    cases hline : p.line? key with
    | none =>
      -- a key without a line has no value to give
      have hkeep : p.adopt q key = q := by
        have hunset := Option.map_eq_none_iff.mp hline
        cases key with
        | _ => simp [adopt, Option.map_eq_none_iff.mp hunset]
      rw [List.filterMap_cons_none hline, List.foldl_cons, hkeep]
      exact ih q
    | some l =>
      rw [List.filterMap_cons_some hline, List.map_cons, List.foldlM_cons,
        takeEntry_line d q hline]
      exact ih _

theorem foldl_adopt_all (p : Preferences) : PreferenceKey.all.foldl p.adopt {} = p := by
  obtain ⟨apiUrl, outputFormat, timeoutSeconds, defaultEventType⟩ := p
  cases apiUrl <;> cases outputFormat <;> cases timeoutSeconds <;> cases defaultEventType <;> rfl

/-- **What is written down is read back.** -/
theorem parse_of_document {p : Preferences} {text : String} (h : p.document = .ok text) :
    parse text = .ok p := by
  obtain ⟨storable, rfl⟩ := document_eq_ok_iff.mp h
  obtain ⟨d, hparse, hentries⟩ :=
    Toml.parse_lines (isSound_lines storable) (nodup_keys_lines p)
  have hfold : ofDocument d = .ok p := by
    rw [ofDocument, hentries, lines, foldlM_takeEntry, foldl_adopt_all]
  rw [parse, hparse, Except.bind, hfold]
  rfl

end DeliveryDesk.Preferences

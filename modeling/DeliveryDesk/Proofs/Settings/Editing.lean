import DeliveryDesk.Proofs.Form.EventTypes
import DeliveryDesk.Proofs.Text.Numbers
import DeliveryDesk.Proofs.Time.Digits
import DeliveryDesk.Settings.Basic

/-!
# Preferences that are edited

An operator edits the preferences value by value, and any of the edits may be refused. `Accepts`
says which texts are accepted for a key and what is shown for the key afterwards, without a word
about how texts are read; `set_outcome` says that an edit does just that and nothing else.

What is shown is in canonical form (`Canonical`), and a text in canonical form is accepted as it is
(`Canonical.accepts`). Hence the invariant of all edits, `canonical_edited`, which also keeps the
preferences fit for use: a format that was stored can be read back, so the settings of a command can
always be resolved (`IsCanonical.resolve`).

Main statement: `edited_preferences_are_sound`.
-/

namespace DeliveryDesk

open Text

/-! ## Keys and formats by name -/

namespace PreferenceKey

/-- A preference is found by its name and by nothing else. -/
theorem named?_eq_some_iff {s : String} {k : PreferenceKey} : named? s = some k ↔ k.name = s := by
  constructor
  · intro h
    unfold named? at h
    have hname := List.find?_some h
    exact eq_of_beq hname
  · rintro rfl
    cases k <;> rfl

theorem named?_name (k : PreferenceKey) : named? k.name = some k := named?_eq_some_iff.mpr rfl

/-- No two preferences have one name. -/
theorem name_injective {k k' : PreferenceKey} (h : k.name = k'.name) : k = k' := by
  have hnamed := named?_name k
  rw [h, named?_name] at hnamed
  exact (Option.some.inj hnamed).symm

end PreferenceKey

namespace OutputFormat

/-- A format is found by any of its names. -/
theorem named?_eq_some_iff {s : String} {f : OutputFormat} :
    named? s = some f ↔ (s, f) ∈ names := by
  constructor
  · intro h
    obtain ⟨front, back, hnames, -⟩ := List.lookup_eq_some_iff.mp h
    rw [hnames]
    exact List.mem_append_right front List.mem_cons_self
  · intro h
    -- no name stands twice in the list
    have hall : ∀ entry ∈ names, named? entry.1 = some entry.2 := by decide
    exact hall (s, f) h

/-- The name of a format is read as that format. -/
theorem parse?_name (f : OutputFormat) : parse? f.name = some f := by
  cases f <;> decide

end OutputFormat

/-! ## What is accepted, and what is shown -/

namespace PreferenceKey

/-- A text that starts like an address of the web. -/
def IsWeb (s : String) : Prop :=
  "http://".toList <+: s.toList ∨ "https://".toList <+: s.toList

/-- A trimmed text that is accepted as the value of a key, and what is shown for the key then. -/
inductive Accepts : PreferenceKey → String → Option String → Prop where
  | apiUrl {s : String} (web : IsWeb s) : Accepts .apiUrl s (some s)
  | outputFormat {s : String} {f : OutputFormat} (named : (lowerAscii s, f) ∈ OutputFormat.names) :
      Accepts .outputFormat s (some f.name)
  | timeoutSeconds {s : String} {n : Nat} (written : IsWhole s.toList n) (positive : 0 < n)
      (fits : n ≤ maxWord64) : Accepts .timeoutSeconds s (some (decimalText n))
  | eventType {s : String} (nonempty : s ≠ "") : Accepts .defaultEventType s (some s)
  | noEventType : Accepts .defaultEventType "" none

/-- The form in which the value of a key is shown. -/
inductive Canonical : PreferenceKey → String → Prop where
  | apiUrl {s : String} (trimmed : trim s = s) (web : IsWeb s) : Canonical .apiUrl s
  | outputFormat (f : OutputFormat) : Canonical .outputFormat f.name
  /-- Digits without a sign and without zeros in front. -/
  | timeoutSeconds {s : String} {n : Nat} (digits : Denotes s.toList n)
      (unpadded : s.toList.head? ≠ some '0') (fits : n ≤ maxWord64) : Canonical .timeoutSeconds s
  | eventType {s : String} (trimmed : trim s = s) (nonempty : s ≠ "") :
      Canonical .defaultEventType s

/-- The decimal text of a timeout is canonical. -/
theorem Canonical.timeoutText {n : Nat} (positive : 0 < n) (fits : n ≤ maxWord64) :
    Canonical .timeoutSeconds (decimalText n) := by
  refine .timeoutSeconds (n := n) ?_ ?_ fits
  · rw [decimalText, String.toList_ofList]
    exact denotes_decimalDigits n
  · rw [decimalText, String.toList_ofList]
    exact head?_decimalDigits_ne_zero positive

/-- What is shown for a text that was accepted is canonical. -/
theorem Accepts.canonical {k : PreferenceKey} {text s : String} (h : k.Accepts text (some s))
    (trimmed : trim text = text) : k.Canonical s := by
  cases h with
  | apiUrl web => exact .apiUrl trimmed web
  | outputFormat named => exact .outputFormat _
  | timeoutSeconds written positive fits => exact .timeoutText positive fits
  | eventType nonempty => exact .eventType trimmed nonempty

/-- A canonical text has no blanks around it. -/
theorem Canonical.trim_eq {k : PreferenceKey} {s : String} (h : k.Canonical s) : trim s = s := by
  cases h with
  | apiUrl trimmed web => exact trimmed
  | outputFormat f => cases f <;> decide
  | timeoutSeconds digits unpadded fits =>
    refine trim_eq_self_iff.mpr ⟨fun c hc => ?_, fun c hc => ?_⟩
    · exact Time.isBlank_of_isDigit (digits.digits c (List.mem_of_mem_head? hc))
    · exact Time.isBlank_of_isDigit (digits.digits c (List.mem_of_getLast? hc))
  | eventType trimmed nonempty => exact trimmed

end PreferenceKey

namespace Preferences

open PreferenceKey

/-- A text is taken for an address of the web if it starts like one. -/
theorem isWebAddress_iff {s : String} : isWebAddress s = true ↔ IsWeb s := by
  unfold isWebAddress IsWeb
  rw [Bool.or_eq_true, List.isPrefixOf_iff_prefix, List.isPrefixOf_iff_prefix]

/-! ## One edit -/

/-- The preferences agree but for the value of a key. -/
structure AgreesExcept (k : PreferenceKey) (p p' : Preferences) : Prop where
  apiUrl : k ≠ .apiUrl → p'.apiUrl = p.apiUrl
  outputFormat : k ≠ .outputFormat → p'.outputFormat = p.outputFormat
  timeoutSeconds : k ≠ .timeoutSeconds → p'.timeoutSeconds = p.timeoutSeconds
  defaultEventType : k ≠ .defaultEventType → p'.defaultEventType = p.defaultEventType

/-- What agrees except for one preference has the same value for any other. -/
theorem AgreesExcept.value?_eq {k k' : PreferenceKey} {p p' : Preferences}
    (h : AgreesExcept k p p') (hne : k ≠ k') : p'.value? k' = p.value? k' := by
  cases k' with
  | apiUrl => exact h.apiUrl hne
  | outputFormat => exact h.outputFormat hne
  | timeoutSeconds => exact congrArg (Option.map _) (h.timeoutSeconds hne)
  | defaultEventType => exact h.defaultEventType hne

/-- A timeout is stored if it is a positive number of 64 bits. -/
theorem store_timeoutSeconds {s : String} {n : Nat} (p : Preferences) (written : IsWhole s.toList n)
    (positive : 0 < n) (fits : n ≤ maxWord64) :
    p.store .timeoutSeconds s = .ok { p with timeoutSeconds := some (UInt64.ofNat n) } := by
  have hread := readWhole_eq_ok_iff.mpr ⟨written, fits⟩
  simp only [store, hread]
  cases n with
  | zero => exact absurd rfl (Nat.ne_of_gt positive)
  | succ n => rfl

/-- A value that is accepted is stored, and what should be shown for it is shown. -/
theorem store_eq_ok {k : PreferenceKey} {s : String} {v : Option String} (p : Preferences)
    (trimmed : trim s = s) (accepts : k.Accepts s v) :
    ∃ p', p.store k s = .ok p' ∧ p'.value? k = v ∧ AgreesExcept k p p' := by
  cases accepts with
  | apiUrl web =>
    refine ⟨{ p with apiUrl := some s }, if_pos (isWebAddress_iff.mpr web), rfl, ?_⟩
    exact ⟨fun h => absurd rfl h, fun _ => rfl, fun _ => rfl, fun _ => rfl⟩
  | @outputFormat _ f named =>
    have hparse : OutputFormat.parse? s = some f := by
      rw [OutputFormat.parse?, trimmed]
      exact OutputFormat.named?_eq_some_iff.mpr named
    refine ⟨{ p with outputFormat := some f.name }, ?_, rfl, ?_⟩
    · simp only [store, hparse]
    · exact ⟨fun _ => rfl, fun h => absurd rfl h, fun _ => rfl, fun _ => rfl⟩
  | @timeoutSeconds _ n written positive fits =>
    have hword : (UInt64.ofNat n).toNat = n :=
      UInt64.toNat_ofNat_of_lt' (Nat.lt_of_le_of_lt fits (by decide))
    refine ⟨_, store_timeoutSeconds p written positive fits, ?_, ?_⟩
    · exact congrArg (fun m => some (decimalText m)) hword
    · exact ⟨fun _ => rfl, fun _ => rfl, fun h => absurd rfl h, fun _ => rfl⟩
  | eventType nonempty =>
    refine ⟨{ p with defaultEventType := some s }, ?_, rfl, ?_⟩
    · simp [store, nonempty]
    · exact ⟨fun _ => rfl, fun _ => rfl, fun _ => rfl, fun h => absurd rfl h⟩
  | noEventType =>
    refine ⟨{ p with defaultEventType := none }, rfl, rfl, ?_⟩
    exact ⟨fun _ => rfl, fun _ => rfl, fun _ => rfl, fun h => absurd rfl h⟩

/-- What was stored was accepted. -/
theorem exists_accepts_of_store {k : PreferenceKey} {s : String} {p p' : Preferences}
    (trimmed : trim s = s) (stored : p.store k s = .ok p') : ∃ v, k.Accepts s v := by
  cases k with
  | apiUrl =>
    by_cases web : isWebAddress s = true
    · exact ⟨_, .apiUrl (isWebAddress_iff.mp web)⟩
    · simp only [store, if_neg web] at stored
      cases stored
  | outputFormat =>
    cases hparse : OutputFormat.parse? s with
    | none =>
      simp only [store, hparse] at stored
      cases stored
    | some f =>
      rw [OutputFormat.parse?, trimmed] at hparse
      exact ⟨_, .outputFormat (OutputFormat.named?_eq_some_iff.mp hparse)⟩
  | timeoutSeconds =>
    cases hread : readWhole maxWord64 s.toList with
    | error cause =>
      simp only [store, hread] at stored
      cases stored
    | ok n =>
      obtain ⟨written, fits⟩ := readWhole_eq_ok_iff.mp hread
      cases n with
      | zero =>
        simp only [store, hread] at stored
        cases stored
      | succ n => exact ⟨_, .timeoutSeconds written (Nat.succ_pos n) fits⟩
  | defaultEventType =>
    by_cases hempty : s = ""
    · rw [hempty]
      exact ⟨_, .noEventType⟩
    · exact ⟨_, .eventType hempty⟩

/-- One call of `set`. -/
structure Edit where
  key : String
  value : String
deriving DecidableEq, Repr

/-- The preferences after an edit. One that is refused leaves them as they are. -/
def edit (p : Preferences) (e : Edit) : Preferences :=
  match p.set e.key e.value with
  | .ok p' => p'
  | .error _ => p

/-- What comes of an edit: a value that is accepted is the only thing that changes, and one that is
not accepted changes nothing. -/
inductive Outcome (p : Preferences) (e : Edit) : Prop where
  | accepted {k : PreferenceKey} {v : Option String} {p' : Preferences} (named : k.name = e.key)
      (accepts : k.Accepts (trim e.value) v) (set : p.set e.key e.value = .ok p')
      (edit : p.edit e = p') (shown : p'.get e.key = .ok v) (rest : AgreesExcept k p p')
  | refused {fault : SettingsFault}
      (unaccepted : ∀ (k : PreferenceKey) v, k.name = e.key → ¬ k.Accepts (trim e.value) v)
      (set : p.set e.key e.value = .error fault) (edit : p.edit e = p)

/-- Every edit has one of the outcomes. -/
theorem set_outcome (p : Preferences) (e : Edit) : p.Outcome e := by
  obtain ⟨key, value⟩ := e
  cases hkey : named? key with
  | none =>
    have hset : p.set key value = .error (.unknownKey key) := by rw [set, hkey]
    refine .refused ?_ hset (by rw [edit, hset])
    rintro k v rfl -
    rw [named?_name] at hkey
    cases hkey
  | some k =>
    obtain rfl := named?_eq_some_iff.mp hkey
    have hstore : p.set k.name value = p.store k (trim value) := by rw [set, hkey]
    by_cases haccepts : ∃ v, k.Accepts (trim value) v
    · obtain ⟨v, accepts⟩ := haccepts
      obtain ⟨p', stored, shown, rest⟩ := store_eq_ok p (trim_trim value) accepts
      have hset := hstore.trans stored
      refine .accepted rfl accepts hset (by rw [edit, hset]) ?_ rest
      rw [get, hkey]
      exact congrArg Except.ok shown
    · cases hstored : p.store k (trim value) with
      | ok p' => exact absurd (exists_accepts_of_store (trim_trim value) hstored) haccepts
      | error fault =>
        have hset := hstore.trans hstored
        refine .refused ?_ hset (by rw [edit, hset])
        intro k' v hname accepts
        obtain rfl := name_injective hname
        exact haccepts ⟨v, accepts⟩

/-! ## Canonical preferences -/

/-- Everything that is shown is in canonical form. -/
def IsCanonical (p : Preferences) : Prop := ∀ k s, p.value? k = some s → k.Canonical s

/-- Preferences that were never edited are canonical, since they hold nothing. -/
theorem isCanonical_default : IsCanonical {} := by
  intro k s h
  cases k <;> cases h

/-- **An edit keeps the preferences canonical.** -/
theorem IsCanonical.edit {p : Preferences} (h : p.IsCanonical) (e : Edit) :
    (p.edit e).IsCanonical := by
  cases p.set_outcome e with
  | refused unaccepted set edit =>
    rw [edit]
    exact h
  | @accepted k v p' named accepts set edit shown rest =>
    rw [edit]
    intro k' s hs
    -- the value that was set is shown in canonical form, and the others are as they were
    by_cases hkey : k = k'
    · subst hkey
      rw [get, ← named, named?_name] at shown
      obtain rfl : v = some s := (Except.ok.inj shown).symm.trans hs
      exact accepts.canonical (trim_trim e.value)
    · rw [rest.value?_eq hkey] at hs
      exact h k' s hs

/-- The preferences after some edits, from the first one on. -/
def edited (edits : List Edit) : Preferences := edits.foldl edit {}

theorem edited_concat (edits : List Edit) (e : Edit) :
    edited (edits ++ [e]) = (edited edits).edit e := List.foldl_concat ..

/-- **Whatever edits are made, what is stored stays canonical.** -/
theorem canonical_edited (edits : List Edit) : (edited edits).IsCanonical := by
  induction edits using List.reverseRecOn with
  | nil => exact isCanonical_default
  | append_singleton edits e ih =>
    rw [edited_concat]
    exact ih.edit e

/-- A text in canonical form is accepted, and is shown as it is. -/
theorem store_of_canonical {p : Preferences} {k : PreferenceKey} {s : String}
    (canonical : k.Canonical s) (shown : p.value? k = some s) : p.store k s = .ok p := by
  obtain ⟨apiUrl, outputFormat, timeoutSeconds, defaultEventType⟩ := p
  cases canonical with
  | apiUrl trimmed web =>
    obtain rfl : apiUrl = some s := shown
    exact if_pos (isWebAddress_iff.mpr web)
  | outputFormat f =>
    obtain rfl : outputFormat = some f.name := shown
    simp only [store, OutputFormat.parse?_name]
  | @timeoutSeconds _ n digits unpadded fits =>
    obtain ⟨t, rfl, htext⟩ := Option.map_eq_some_iff.mp shown
    have hn : n = t.toNat := by
      have hdenotes := denotes_decimalDigits t.toNat
      rw [← htext, decimalText, String.toList_ofList] at digits
      exact digits.value.symm.trans hdenotes.value
    rw [store_timeoutSeconds _ (.inl digits) (digits.pos unpadded) fits, hn, UInt64.ofNat_toNat]
  | eventType trimmed nonempty =>
    obtain rfl : defaultEventType = some s := shown
    simp [store, nonempty]

/-- What is shown can be set again, and this changes nothing. -/
theorem IsCanonical.set_shown {p : Preferences} (h : p.IsCanonical) {key s : String}
    (shown : p.get key = .ok (some s)) : p.set key s = .ok p := by
  unfold get at shown
  unfold set
  cases hkey : named? key with
  | none =>
    rw [hkey] at shown
    cases shown
  | some k =>
    rw [hkey] at shown
    have hvalue : p.value? k = some s := Except.ok.inj shown
    have hcanonical := h k s hvalue
    dsimp only
    rw [hcanonical.trim_eq]
    exact store_of_canonical hcanonical hvalue

/-! ## Fit for use -/

/-- The first that is given: what overrides, else what is stored, else the default. -/
inductive Chosen {α : Type} (default : α) : Option α → Option α → α → Prop where
  | overriding (a : α) (stored : Option α) : Chosen default (some a) stored a
  | stored (a : α) : Chosen default none (some a) a
  | default : Chosen default none none default

/-- Where a setting is given it counts, else the one that is stored, else the default. -/
theorem chosen_getD {α : Type} (default : α) (override stored : Option α) :
    Chosen default override stored ((override.orElse fun _ => stored).getD default) := by
  cases override with
  | some a => exact .overriding a stored
  | none =>
    cases stored with
    | some a => exact .stored a
    | none => exact .default

/-- The settings in which each value is chosen on its own. -/
structure FollowsFrom (p : Preferences) (o : Overrides) (s : Settings) : Prop where
  apiUrl : Chosen defaultApiUrl o.apiUrl p.apiUrl s.apiUrl
  format : ∃ stored : Option OutputFormat, p.outputFormat = stored.map OutputFormat.name ∧
    Chosen .text o.format stored s.format
  timeoutSeconds : Chosen defaultTimeoutSeconds o.timeoutSeconds p.timeoutSeconds s.timeoutSeconds
  defaultEventType : s.defaultEventType = p.defaultEventType

/-- The format that is stored is the name of one. -/
theorem IsCanonical.outputFormat_eq {p : Preferences} (h : p.IsCanonical) :
    ∃ stored : Option OutputFormat, p.outputFormat = stored.map OutputFormat.name := by
  cases hstored : p.outputFormat with
  | none => exact ⟨none, rfl⟩
  | some s =>
    cases h .outputFormat s hstored with
    | outputFormat f => exact ⟨some f, rfl⟩

/-- So the format to write in is always known. -/
theorem IsCanonical.effectiveFormat_eq {p : Preferences} {stored : Option OutputFormat}
    (hstored : p.outputFormat = stored.map OutputFormat.name) (o : Overrides) :
    p.effectiveFormat o = .ok ((o.format.orElse fun _ => stored).getD .text) := by
  unfold effectiveFormat
  rw [hstored]
  cases o.format with
  | some f => rfl
  | none =>
    cases stored with
    | none => rfl
    | some f =>
      simp only [Option.map_some, OutputFormat.parse?_name]
      rfl

/-- **Canonical preferences can be used**, whatever overrides them. -/
theorem IsCanonical.resolve {p : Preferences} (h : p.IsCanonical) (o : Overrides) :
    ∃ s, p.resolve o = .ok s ∧ p.FollowsFrom o s := by
  obtain ⟨stored, hstored⟩ := h.outputFormat_eq
  have hformat := effectiveFormat_eq hstored o
  refine ⟨_, by rw [Preferences.resolve, hformat]; rfl, ?_⟩
  exact ⟨chosen_getD .., ⟨stored, hstored, chosen_getD ..⟩, chosen_getD .., rfl⟩

/-- Preferences with which every command can work. -/
structure Sound (p : Preferences) : Prop where
  canonical : p.IsCanonical
  apiUrl_isWeb : ∀ url, p.apiUrl = some url → IsWeb url
  timeoutSeconds_pos : ∀ t, p.timeoutSeconds = some t → 0 < t
  defaultEventType_not_blank : ∀ s, p.defaultEventType = some s → isBlankText s = false

theorem IsCanonical.sound {p : Preferences} (h : p.IsCanonical) : p.Sound where
  canonical := h
  apiUrl_isWeb url hurl := by
    cases h .apiUrl url hurl with
    | apiUrl trimmed web => exact web
  timeoutSeconds_pos t ht := by
    have hvalue : p.value? .timeoutSeconds = some (decimalText t.toNat) :=
      congrArg (Option.map _) ht
    cases h .timeoutSeconds _ hvalue with
    | timeoutSeconds digits unpadded fits =>
      have hpos := digits.pos unpadded
      rw [decimalText, String.toList_ofList] at digits
      rw [digits.value.symm.trans (denotes_decimalDigits t.toNat).value] at hpos
      exact UInt64.lt_iff_toNat_lt.mpr hpos
  defaultEventType_not_blank s hs := by
    cases h .defaultEventType s hs with
    | eventType trimmed nonempty =>
      refine trim_ne_empty_iff.mp ?_
      rw [trimmed]
      exact nonempty

/-- **Preferences stay sound however they are edited.** An edit changes the value of its key alone,
or nothing at all if it is refused; what is shown can be set again, which changes nothing; and the
settings of a command can be resolved, each of them on its own. -/
theorem edited_preferences_are_sound (edits : List Edit) :
    (∀ e, (edited edits).Outcome e) ∧
    (∀ key s, (edited edits).get key = .ok (some s) →
      (edited edits).set key s = .ok (edited edits)) ∧
    (edited edits).Sound ∧
    ∀ o, ∃ s, (edited edits).resolve o = .ok s ∧ (edited edits).FollowsFrom o s :=
  ⟨(edited edits).set_outcome, fun _ _ => (canonical_edited edits).set_shown,
    (canonical_edited edits).sound, (canonical_edited edits).resolve⟩

/-- A second name of a format, a sign and zeros do not survive, and neither do edits that are
refused; what is shown for the timeout can be set again. -/
theorem edited_preferences_are_sound_timeout :
    ∃ edits : List Edit, edits = [⟨"api_url", " https://hooks.example/ "⟩, ⟨"output_format", "YML"⟩,
        ⟨"timeout_seconds", "+0090"⟩, ⟨"timeout_seconds", "0"⟩, ⟨"colour", "blue"⟩] ∧
      (edited edits).get "timeout_seconds" = .ok (some "90") ∧
      (edited edits).set "timeout_seconds" "90" = .ok (edited edits) ∧
      edited edits =
        { apiUrl := some "https://hooks.example/", outputFormat := some "yaml",
          timeoutSeconds := some 90 } := by
  refine ⟨_, rfl, by decide +kernel, ?_, by decide +kernel⟩
  exact (edited_preferences_are_sound _).2.1 "timeout_seconds" "90" (by decide +kernel)

end Preferences

end DeliveryDesk

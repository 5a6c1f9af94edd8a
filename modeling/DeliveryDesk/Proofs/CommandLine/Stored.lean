import DeliveryDesk.CommandLine.Program
import DeliveryDesk.Proofs.CommandLine.Conduct

/-!
# What commands do to the stored preferences

Everything starts with reading the file: `Loads` says what is read from it, and `Resolves` what
settings follow, which is how every command begins that calls the service. `ConfigCommand.Done` says
what a command about the preferences is for. `Stored.run_conduct` is the main result: such a command
succeeds exactly if it has done that, and it leaves its failure to be reported.
-/

namespace DeliveryDesk

/-- What can be set can be looked up. -/
theorem Preferences.get_of_set {p p' : Preferences} {key value : String}
    (set : p.set key value = .ok p') : ∃ stored, p'.get key = .ok stored := by
  unfold Preferences.set at set
  unfold Preferences.get
  cases hkey : PreferenceKey.named? key with
  | none =>
    rw [hkey] at set
    cases set
  | some k => exact ⟨_, rfl⟩

namespace CommandLine

open Text Console Errand

/-! ## Loading -/

/-- The preferences that are read from the file. -/
def stored? : Except FileFault String → Option Preferences
  | .error fault => if fault.isAbsence then some {} else none
  | .ok text => (Preferences.parse text).toOption

/-- The events start with reading the file, which stores these preferences; the rest follows. -/
def Loads (env : Environment) (p : Preferences) (t rest : List Event) : Prop :=
  ∃ path file, Stored.path env = pure path ∧ t = .read path file :: rest ∧ stored? file = some p

/-- The settings of a command are read, and the rest follows. -/
def Resolves (env : Environment) (overrides : Overrides) (settings : Settings)
    (t rest : List Event) : Prop :=
  ∃ p, Loads env p t rest ∧ p.resolve overrides = .ok settings

/-- What a command about the preferences has done once it succeeds. -/
def ConfigCommand.Done (env : Environment) : ConfigCommand → List Event → Prop
  | .list, t => ∃ p rest, Loads env p t rest
  | .get key, t => ∃ p value rest, Loads env p t rest ∧ p.get key = .ok value
  | .set key value, t =>
    ∃ p p' text path rest, Loads env p t rest ∧ p.set key value = .ok p' ∧ p'.document = .ok text ∧
      Stored.path env = pure path ∧ .wrote path text (.ok ()) ∈ rest
  | .reset _, t =>
    ∃ path, Stored.path env = pure path ∧
      (.removed path (.ok ()) ∈ t ∨ .removed path (.error .missing) ∈ t)
  | .path, _ => ∃ path, Stored.path env = pure path

/-- Whether a command about the preferences does without prompts. -/
def ConfigCommand.isUnprompted : ConfigCommand → Bool
  | .reset force => force
  | _ => true

section Load

variable {α : Type} {Q : List Event → Except Failure α → Prop}

/-- The path of the file may not be known; nothing happens then. -/
theorem ensures_path_bind {env : Environment} {f : String → Errand α}
    (unknown : (∀ path, Stored.path env ≠ pure path) → ∀ message causes,
      Q [] (.error (.failed message causes)))
    (known : ∀ path, Stored.path env = pure path → Ensures (f path) Q) :
    Ensures (Stored.path env >>= f) Q := by
  have hcases : (∃ path, Stored.path env = pure path) ∨
      ∃ message causes, Stored.path env = fail message causes := by
    unfold Stored.path
    split
    · exact .inl ⟨_, rfl⟩
    · exact .inl ⟨_, rfl⟩
    · exact .inr ⟨_, _, rfl⟩
  rcases hcases with ⟨path, hpath⟩ | ⟨message, causes, hpath⟩
  · rw [hpath]
    exact known path hpath
  · rw [hpath]
    refine unknown (fun path hknown => ?_) message causes
    cases hknown.symm.trans hpath

/-- The file is read once, and what is stored there is loaded, or the errand fails. -/
theorem ensures_load_bind {path : String} {f : Preferences → Errand α}
    (unloaded : ∀ file, stored? file = none → ∀ message causes,
      Q [.read path file] (.error (.failed message causes)))
    (loaded : ∀ file p, stored? file = some p →
      Ensures (f p) fun t r => Q (.read path file :: t) r) :
    Ensures (Stored.load path >>= f) Q := by
  unfold Stored.load
  refine ensures_bind.mpr (ensures_read_bind.mpr fun file => ?_)
  cases file with
  | error fault =>
    show Ensures (if fault.isAbsence = true then pure ({} : Preferences) else fail _ _) _
    by_cases habsent : fault.isAbsence = true
    · rw [if_pos habsent]
      exact loaded (.error fault) {} (if_pos habsent)
    · rw [if_neg habsent]
      exact unloaded (.error fault) (if_neg habsent) _ _
  | ok text =>
    cases hparse : Preferences.parse text with
    | error report =>
      simp only [hparse]
      exact unloaded _ (by rw [stored?, hparse]; rfl) _ _
    | ok p =>
      simp only [hparse]
      exact loaded _ _ (by rw [stored?, hparse]; rfl)

/-- Settings that are at fault make the errand fail, and nothing happens. -/
theorem ensures_ofSettings_bind {β : Type} {r : Except SettingsFault β} {f : β → Errand α}
    (refused : ∀ fault, r = .error fault → ∀ message causes, Q [] (.error (.failed message causes)))
    (accepted : ∀ b, r = .ok b → Ensures (f b) Q) : Ensures (ofSettings r >>= f) Q := by
  cases r with
  | error fault => exact refused fault rfl _ _
  | ok b => exact accepted b rfl

end Load

/-- The settings of a command are read first; nothing else happens if there are none. -/
theorem ensures_settingsFor_bind {α : Type} {env : Environment} {overrides : Overrides}
    {f : Settings → Errand α} {Q : List Event → Except Failure α → Prop}
    (unresolved : ∀ t, (∀ format, ComesTo format t [] [] []) →
      (∀ settings rest, ¬ Resolves env overrides settings t rest) → ∀ message causes,
        Q t (.error (.failed message causes)))
    (resolved : ∀ settings path file,
      (∀ rest, Resolves env overrides settings (.read path file :: rest) rest) →
        Ensures (f settings) fun t r => Q (.read path file :: t) r) :
    Ensures (settingsFor env overrides >>= f) Q := by
  refine ensures_bind.mpr ?_
  unfold settingsFor
  refine ensures_path_bind (fun unknown message causes => ?_) fun path known => ?_
  · refine unresolved [] .nil ?_ message causes
    rintro settings rest ⟨p, ⟨path, file, known, -⟩, -⟩
    exact unknown path known
  refine ensures_load_bind (fun file unloaded message causes => ?_) fun file p loaded => ?_
  · refine unresolved _ (fun format => .read format path file) ?_ message causes
    rintro settings rest ⟨p, ⟨path', file', known', hread, loaded⟩, -⟩
    cases hread
    cases unloaded.symm.trans loaded
  cases hresolve : p.resolve overrides with
  | error fault =>
    refine unresolved _ (fun format => .read format path file) ?_ _ _
    rintro settings rest ⟨p', ⟨path', file', known', hread, loaded'⟩, resolves⟩
    cases hread
    cases loaded.symm.trans loaded'
    cases hresolve.symm.trans resolves
  | ok settings =>
    exact resolved settings path file fun rest =>
      ⟨p, ⟨path, file, known, rfl, loaded⟩, hresolve⟩

/-! ## Commands -/

namespace Stored

variable {v : Viewer} {env : Environment} {path : String}

/-- To list all preferences it takes no more than a file that can be loaded. -/
theorem list_conduct (known : Stored.path env = pure path) :
    Ensures (list v path) (Conduct v (ConfigCommand.list.Done env)) := by
  unfold list
  refine ensures_load_bind (fun file unloaded message causes => ?_) fun file p loaded => ?_
  · refine .unstarted rfl ?_
    rintro ⟨p, rest, path', file', -, hread, loaded⟩
    cases hread
    cases unloaded.symm.trans loaded
  have hprints : OnlyPrints (do
      field v "File" path
      PreferenceKey.all.forM fun key => field v key.name ((p.value? key).getD (faint v notSet))) :=
    .bind (.line _) fun _ => .forM (fun key => .line _) _
  exact hprints.conduct (t := [_]) rfl fun t => ⟨p, t, path, file, known, rfl, loaded⟩

/-- To show one of them its key has to be one, too. -/
theorem get_conduct (known : Stored.path env = pure path) (key : String) :
    Ensures (get v path key) (Conduct v ((ConfigCommand.get key).Done env)) := by
  unfold get
  refine ensures_load_bind (fun file unloaded message causes => ?_) fun file p loaded => ?_
  · refine .unstarted rfl ?_
    rintro ⟨p, value, rest, ⟨path', file', -, hread, loaded⟩, -⟩
    cases hread
    cases unloaded.symm.trans loaded
  refine ensures_ofSettings_bind (fun fault refused message causes => ?_) fun value got => ?_
  · refine .unstarted rfl ?_
    rintro ⟨p', value, rest, ⟨path', file', -, hread, loaded'⟩, got⟩
    cases hread
    cases loaded.symm.trans loaded'
    cases refused.symm.trans got
  have achieves : ∀ t, (ConfigCommand.get key).Done env ([.read path file] ++ t) :=
    fun t => ⟨p, value, t, ⟨path, file, known, rfl, loaded⟩, got⟩
  cases value with
  | none => exact (OnlyPrints.line _).conduct rfl achieves
  | some value => exact (OnlyPrints.line _).conduct rfl achieves

/-- Storing preferences may fail before the file is written. -/
theorem ensures_save_bind {p : Preferences} {f : Unit → Errand Unit}
    {Q : List Event → Except Failure Unit → Prop}
    (unsaved : ∀ t, Event.errors t = [] → (∀ text, .wrote path text (.ok ()) ∉ t) →
      ∀ message causes, Q t (.error (.failed message causes)))
    (saved : ∀ t text, Event.errors t = [] → p.document = .ok text →
      .wrote path text (.ok ()) ∈ t → Ensures (f ()) fun t' r => Q (t ++ t') r) :
    Ensures (save path p >>= f) Q := by
  refine ensures_bind.mpr fun enclosed => ?_
  cases enclosed with
  | error fault => exact unsaved [.enclosed path _] rfl (by simp) _ _
  | ok enclosed =>
    refine ensures_ofSettings_bind (fun fault unwritten message causes => ?_) fun text writes => ?_
    · exact unsaved [.enclosed path _] rfl (by simp) _ _
    intro written
    cases written with
    | error fault => exact unsaved [.enclosed path _, .wrote path text _] rfl (by simp) _ _
    | ok written =>
      exact saved [.enclosed path _, .wrote path text _] text rfl writes
        (List.mem_cons_of_mem _ List.mem_cons_self)

/-- To set one of them the file has to be written as well. -/
theorem set_conduct (known : Stored.path env = pure path) (key value : String) :
    Ensures (set v path key value) (Conduct v ((ConfigCommand.set key value).Done env)) := by
  unfold set
  refine ensures_load_bind (fun file unloaded message causes => ?_) fun file p loaded => ?_
  · refine .unstarted rfl ?_
    rintro ⟨p, p', text, path', rest, ⟨path'', file', -, hread, loaded⟩, -⟩
    cases hread
    cases unloaded.symm.trans loaded
  refine ensures_ofSettings_bind (fun fault refused message causes => ?_) fun p' set => ?_
  · refine .unstarted rfl ?_
    rintro ⟨p', p'', text, path', rest, ⟨path'', file', -, hread, loaded'⟩, set, -⟩
    cases hread
    cases loaded.symm.trans loaded'
    cases refused.symm.trans set
  refine ensures_save_bind (fun t herrors unwritten message causes => ?_)
    fun t text herrors writes written => ?_
  · refine .unstarted herrors ?_
    rintro ⟨p', p'', text, path', rest, ⟨path'', file', -, hread, -⟩, -, -, known', written⟩
    cases hread
    cases known.symm.trans known'
    exact unwritten text written
  -- what was set is looked up to be told, which cannot fail any more
  obtain ⟨stored, got⟩ := Preferences.get_of_set set
  rw [got]
  refine (OnlyPrints.line _).conduct (t := .read path file :: t) herrors fun t' => ?_
  exact ⟨p, p', text, path, t ++ t', ⟨path, file, known, rfl, loaded⟩, set, writes, known,
    List.mem_append_left _ written⟩

/-- To reset them the file only has to be gone in the end. -/
theorem reset_conduct (known : Stored.path env = pure path) :
    Ensures (reset v path true) (Conduct v ((ConfigCommand.reset true).Done env)) := by
  unfold reset
  intro removed
  cases removed with
  | ok done =>
    exact (OnlyPrints.line _).conduct (t := [.removed path (.ok ())]) rfl fun t =>
      ⟨path, known, .inl List.mem_cons_self⟩
  | error fault =>
    cases fault with
    | missing =>
      exact (OnlyPrints.line _).conduct (t := [.removed path (.error .missing)]) rfl fun t =>
        ⟨path, known, .inr List.mem_cons_self⟩
    | denied | «exists» | notDirectory | isDirectory | nameTooLong =>
      refine .unstarted rfl ?_
      rintro ⟨path', known', hremoved | hmissing⟩
      · cases List.mem_singleton.mp hremoved
      · cases List.mem_singleton.mp hmissing

/-- Nothing is done where the path of the file is not known. -/
theorem not_done_of_unknown (unknown : ∀ path, Stored.path env ≠ pure path)
    (command : ConfigCommand) (t : List Event) : ¬ command.Done env t := by
  cases command with
  | list => exact fun ⟨_, _, path, _, known, _⟩ => unknown path known
  | get key => exact fun ⟨_, _, _, ⟨path, _, known, _⟩, _⟩ => unknown path known
  | set key value => exact fun ⟨_, _, _, path, _, _, _, _, known, _⟩ => unknown path known
  | reset force => exact fun ⟨path, known, _⟩ => unknown path known
  | path => exact fun ⟨path, known⟩ => unknown path known

/-- **A command about the preferences succeeds exactly if it has done what it is for.** -/
theorem run_conduct {command : ConfigCommand} (unprompted : command.isUnprompted = true) :
    Ensures (Stored.run v env command) (Conduct v (command.Done env)) := by
  unfold Stored.run
  refine ensures_path_bind (fun unknown message causes => ?_) fun path known => ?_
  · exact .unstarted rfl (not_done_of_unknown unknown command [])
  cases command with
  | list => exact list_conduct known
  | get key => exact get_conduct known key
  | set key value => exact set_conduct known key value
  | reset force =>
    obtain rfl : force = true := unprompted
    exact reset_conduct known
  | path => exact (OnlyPrints.line path).conduct (t := []) rfl fun t => ⟨path, known⟩

end Stored

end CommandLine

end DeliveryDesk

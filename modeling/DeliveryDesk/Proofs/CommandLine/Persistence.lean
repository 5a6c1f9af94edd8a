import DeliveryDesk.Proofs.CommandLine.Execution
import DeliveryDesk.Proofs.Files.Written
import DeliveryDesk.Proofs.Settings.Storing

/-!
# What becomes of preferences that are stored

An errand is followed step by step through a world (`Ends`), so that what one command has written is
there for the next one. Preferences that are saved are loaded again (`save_ends`, `load_ends`) if
they can be stored and there is room for the file; otherwise saving fails, and all files are as they
were (`save_fails`).

`settings_survive` puts this together, up to two processes of which one sets a value and the other
one asks for it. That not all values can be stored which can be set is shown by
`set_timeout_is_lost`.
-/

namespace DeliveryDesk.CommandLine

open Text Console Errand

variable {σ α β : Type} {exchange : HttpRequest → σ → HttpOutcome × σ}

/-! ## Errands in a world -/

/-- The errand comes to its end in a world, and leaves another one behind. -/
def Errand.Ends (exchange : HttpRequest → σ → HttpOutcome × σ) (x : Errand α) (w : World σ)
    (r : Except Failure α) (w' : World σ) : Prop :=
  Run.play exchange x.run w = (some r, w')

namespace Errand.Ends

variable {x : Errand α} {f : α → Errand β} {w w' w'' : World σ} {a : α} {r : Except Failure β}

/-- Two errands end where the second one does, which starts in the world that the first one leaves.
-/
theorem bind (first : Ends exchange x w (.ok a) w') (second : Ends exchange (f a) w' r w'') :
    Ends exchange (x >>= f) w r w'' := by
  show Run.play exchange (x.run.andThen (ExceptT.bindCont f)) w = _
  rw [Run.play_andThen (congrArg Prod.fst first), first]
  exact second

/-- A failure of the first is the end of both. -/
theorem bind_failed {failure : Failure} (first : Ends exchange x w (.error failure) w') :
    Ends exchange (x >>= f) w (.error failure) w' := by
  show Run.play exchange (x.run.andThen (ExceptT.bindCont f)) w = _
  rw [Run.play_andThen (congrArg Prod.fst first), first]
  rfl

variable {op : Errand (Except FileFault Unit)} {result : Except FileFault FileTree}
  {files : FileTree} {fault : FileFault}

/-- Work on the files that succeeds is seen in the world. -/
theorem onFiles (work : Ends exchange op w (.ok (w.withFiles result).1) (w.withFiles result).2)
    (h : result = .ok files) : Ends exchange op w (.ok (.ok ())) { w with files } := by
  rwa [h] at work

/-- Work on files that fails changes nothing. -/
theorem onFiles_failed
    (work : Ends exchange op w (.ok (w.withFiles result).1) (w.withFiles result).2)
    (h : result = .error fault) : Ends exchange op w (.ok (.error fault)) w := by
  rwa [h] at work

end Errand.Ends

namespace Stored

variable {w : World σ} {path : String} {p : Preferences}

/-! ## Saving and loading -/

/-- Loading the preferences changes nothing, and brings what is stored. -/
theorem load_ends (loaded : stored? (w.files.read path) = some p) :
    Ends exchange (load path) w (.ok p) w := by
  have hread : Ends exchange (ofRun (.readFile path .done)) w (.ok (w.files.read path)) w := rfl
  refine hread.bind ?_
  cases hfile : w.files.read path with
  | error fault =>
    rw [hfile] at loaded
    change (if fault.isAbsence then some {} else none) = some p at loaded
    dsimp only
    split at loaded
    · next habsent =>
      rw [if_pos habsent, Option.some.inj loaded]
      rfl
    · cases loaded
  | ok text =>
    rw [hfile, stored?] at loaded
    dsimp only
    cases hparse : Preferences.parse text with
    | error report =>
      rw [hparse] at loaded
      cases loaded
    | ok parsed =>
      rw [hparse] at loaded
      obtain rfl := Option.some.inj loaded
      rfl

variable (exchange) in
/-- Storable preferences are saved where there is room, and the file holds them then. -/
theorem save_ends (storable : p.IsStorable) (room : w.files.HasRoom path) :
    ∃ files, Ends exchange (save path p) w (.ok ()) { w with files } ∧
      stored? (files.read path) = some p := by
  have hdocument := Preferences.document_eq_ok_iff.mpr ⟨storable, rfl⟩
  obtain ⟨enclosed, files, henclosed, hwritten⟩ :=
    (FileTree.hasRoom_iff (String.ofList (p.lines.flatMap Toml.Line.chars))).mp room
  generalize String.ofList (p.lines.flatMap Toml.Line.chars) = text at hdocument hwritten
  refine ⟨files, ?_, ?_⟩
  · have hwrite : Ends exchange (ofRun (.writeFile path text .done)) { w with files := enclosed }
        (.ok (.ok ())) { w with files } := .onFiles rfl hwritten
    unfold save
    rw [hdocument]
    exact Ends.bind (.onFiles rfl henclosed) (Ends.bind rfl (Ends.bind rfl (hwrite.bind rfl)))
  · rw [FileTree.read_of_write hwritten, stored?, Preferences.parse_of_document hdocument]
    rfl

variable (exchange) in
/-- Nothing is saved where there is no room, or what cannot be stored; no file changes then. -/
theorem save_fails (h : ¬ (p.IsStorable ∧ w.files.HasRoom path)) :
    ∃ failure files, Ends exchange (save path p) w (.error failure) { w with files } ∧
      files.files = w.files.files := by
  unfold save
  cases henclosed : w.files.encloseFile path with
  | error fault =>
    exact ⟨_, w.files, Ends.bind (.onFiles_failed rfl henclosed) (Ends.bind_failed rfl), rfl⟩
  | ok enclosed =>
    have hfiles := FileTree.files_of_encloseFile henclosed
    by_cases storable : p.IsStorable
    · have hdocument := Preferences.document_eq_ok_iff.mpr ⟨storable, rfl⟩
      generalize String.ofList (p.lines.flatMap Toml.Line.chars) = text at hdocument
      cases hwritten : enclosed.write path text with
      | ok written =>
        exact absurd ⟨storable, (FileTree.hasRoom_iff text).mpr ⟨_, _, henclosed, hwritten⟩⟩ h
      | error fault =>
        have hwrite : Ends exchange (ofRun (.writeFile path text .done))
            { w with files := enclosed } (.ok (.error fault)) { w with files := enclosed } :=
          .onFiles_failed rfl hwritten
        refine ⟨.failed fault.message [], enclosed,
          Ends.bind (.onFiles rfl henclosed) (Ends.bind rfl ?_), hfiles⟩
        rw [hdocument]
        exact Ends.bind rfl (hwrite.bind rfl)
    · refine ⟨.failed SettingsFault.unstorableTimeout.message [], enclosed,
        Ends.bind (.onFiles rfl henclosed) (Ends.bind rfl ?_), hfiles⟩
      rw [Preferences.document_of_not_isStorable storable]
      exact Ends.bind_failed rfl

/-! ## Setting and getting -/

/-- The line that shows what is stored. -/
def shownLine (v : Viewer) (stored : Option String) : String := stored.getD (faint v notSet)

/-- The operator is shown what is stored for a key. -/
theorem get_ends {v : Viewer} {key : String} {stored : Option String}
    (loaded : stored? (w.files.read path) = some p) (got : p.get key = .ok stored) :
    Ends exchange (get v path key) w (.ok ())
      { w with output := w.output ++ [shownLine v stored] } := by
  unfold get
  refine (load_ends loaded).bind ?_
  rw [got]
  cases stored <;> rfl

variable (exchange) in
/-- A value that is set is stored, if the preferences can be and there is room, and the operator is
told of it. -/
theorem set_ends {v : Viewer} {key value : String} {p' : Preferences} {stored : Option String}
    (loaded : stored? (w.files.read path) = some p) (set : p.set key value = .ok p')
    (got : p'.get key = .ok stored) (storable : p'.IsStorable) (room : w.files.HasRoom path) :
    ∃ files, Ends exchange (Stored.set v path key value) w (.ok ())
        { w with
          files
          output := w.output ++ [successLine v (key ++ " = " ++ stored.getD "")] } ∧
      stored? (files.read path) = some p' := by
  obtain ⟨files, hsave, hstored⟩ := save_ends exchange storable room
  refine ⟨files, ?_, hstored⟩
  unfold Stored.set
  refine (load_ends loaded).bind ?_
  rw [set]
  refine Ends.bind rfl (hsave.bind ?_)
  rw [got]
  rfl

variable (exchange) in
/-- Otherwise setting it fails, and no file changes. -/
theorem set_fails {v : Viewer} {key value : String} {p' : Preferences}
    (loaded : stored? (w.files.read path) = some p) (set : p.set key value = .ok p')
    (h : ¬ (p'.IsStorable ∧ w.files.HasRoom path)) :
    ∃ failure files, Ends exchange (Stored.set v path key value) w (.error failure)
        { w with files } ∧
      files.files = w.files.files := by
  obtain ⟨failure, files, hsave, hfiles⟩ := save_fails exchange h
  refine ⟨failure, files, ?_, hfiles⟩
  unfold Stored.set
  refine (load_ends loaded).bind ?_
  rw [set]
  exact Ends.bind rfl hsave.bind_failed

/-- To show a value is to do so with the file that the environment names. -/
theorem run_get {v : Viewer} {env : Environment} {key : String}
    (known : Stored.path env = pure path) : Stored.run v env (.get key) = get v path key := by
  unfold Stored.run
  rw [known]
  rfl

theorem run_set {v : Viewer} {env : Environment} {key value : String}
    (known : Stored.path env = pure path) :
    Stored.run v env (.set key value) = Stored.set v path key value := by
  unfold Stored.run
  rw [known]
  rfl

end Stored

/-! ## Processes -/

section Process

variable {v : Viewer} {env : Environment} {rounds : Nat} {words : List String} {i : Invocation}
  {w w' : World σ}

/-- A process that works on the preferences comes to the end that its command comes to. -/
theorem play_config {command : ConfigCommand} {r : Except Failure Unit}
    (parsed : Invocation.parse (w.environment env) words = .ok i)
    (works : i.command = .config command)
    (ends : Ends exchange (Stored.run (i.viewer v) (w.environment env) command)
      (w.opened (i.viewer v) (w.environment env) i) r w') :
    Run.play exchange (program v env rounds words) w =
      (some (exitCode r),
        { w' with errors := w'.errors ++ finalReport (i.viewer v) i.verbose r }) := by
  have hexecute : execute (i.viewer v) (w.environment env) rounds i =
      Stored.run (i.viewer v) (w.environment env) command := by
    unfold execute
    rw [works]
  rw [play_program_eq exchange v rounds parsed, hexecute,
    Run.play_andThen (congrArg Prod.fst ends), ends]
  exact play_report i.verbose r

/-- What becomes of a value that a process sets: the process succeeds exactly if the preferences can
be stored and there is room for them, and any process that asks for the value then is told it. -/
structure Stays (exchange : HttpRequest → σ → HttpOutcome × σ) (v : Viewer) (path key : String)
    (p : Preferences) (w w' : World σ) (code : Option UInt8) : Prop where
  succeeds_iff : code = some success ↔ p.IsStorable ∧ w.files.HasRoom path
  found : code = some success → ∀ (env : Environment) (rounds : Nat) (words : List String)
    (i : Invocation) (stored : Option String),
    Invocation.parse (w'.environment env) words = .ok i → i.command = .config (.get key) →
    Stored.path (w'.environment env) = pure path → p.get key = .ok stored →
      (Run.play exchange (program v env rounds words) w').1 = some success ∧
      (Run.play exchange (program v env rounds words) w').2.output =
        w'.output ++ [Stored.shownLine (i.viewer v) stored]
  unchanged : code ≠ some success → w'.files.files = w.files.files

/-- A process that asks for a value is told what is stored. -/
theorem play_get {path key : String} {p : Preferences} {stored : Option String}
    (parsed : Invocation.parse (w.environment env) words = .ok i)
    (gets : i.command = .config (.get key)) (known : Stored.path (w.environment env) = pure path)
    (loaded : stored? (w.files.read path) = some p) (got : p.get key = .ok stored) :
    (Run.play exchange (program v env rounds words) w).1 = some success ∧
      (Run.play exchange (program v env rounds words) w).2.output =
        w.output ++ [Stored.shownLine (i.viewer v) stored] := by
  have ends : Ends exchange (Stored.run (i.viewer v) (w.environment env) (.get key))
      (w.opened (i.viewer v) (w.environment env) i) (.ok ())
      { w.opened (i.viewer v) (w.environment env) i with
        output := w.output ++ [Stored.shownLine (i.viewer v) stored] } := by
    rw [Stored.run_get known]
    exact Stored.get_ends loaded got
  rw [play_config parsed gets ends]
  exact ⟨rfl, rfl⟩

/-- What becomes of a value that a process sets. -/
theorem play_set {path key value : String} {p p' : Preferences}
    (parsed : Invocation.parse (w.environment env) words = .ok i)
    (sets : i.command = .config (.set key value))
    (known : Stored.path (w.environment env) = pure path)
    (loaded : stored? (w.files.read path) = some p) (set : p.set key value = .ok p') :
    Stays exchange v path key p' w (Run.play exchange (program v env rounds words) w).2
      (Run.play exchange (program v env rounds words) w).1 := by
  -- the log is opened first, which leaves the files alone
  by_cases h : p'.IsStorable ∧ w.files.HasRoom path
  · obtain ⟨stored, got⟩ := Preferences.get_of_set set
    obtain ⟨files, hset, hstored⟩ := Stored.set_ends exchange (v := i.viewer v)
      (w := w.opened (i.viewer v) (w.environment env) i)
      loaded set got h.1 h.2
    rw [← Stored.run_set known] at hset
    rw [play_config parsed sets hset]
    exact ⟨iff_of_true rfl h,
      fun _ env rounds words i stored parsed gets known got =>
        play_get parsed gets known hstored got,
      fun hfailed => absurd rfl hfailed⟩
  · obtain ⟨fault, files, hset, hfiles⟩ := Stored.set_fails exchange (v := i.viewer v)
      (w := w.opened (i.viewer v) (w.environment env) i)
      loaded set h
    have hcode : some failure ≠ some success := by decide
    rw [← Stored.run_set known] at hset
    rw [play_config parsed sets hset]
    exact ⟨iff_of_false hcode h, fun hdone => absurd hdone hcode, fun _ => hfiles⟩

/-- **What is set is found again exactly if it can be stored**, and there is room for the file.
Saved preferences are loaded as they were, and a value that one process sets is what another one is
told, whatever text it is; but a timeout of 64 bits is not stored, and then no file changes. -/
theorem settings_survive (exchange : HttpRequest → σ → HttpOutcome × σ) (v : Viewer) :
    (∀ (w : World σ) (path : String) (p : Preferences),
      p.IsStorable → w.files.HasRoom path →
        ∃ files, Ends exchange (Stored.save path p) w (.ok ()) { w with files } ∧
          Ends exchange (Stored.load path) { w with files } (.ok p) { w with files }) ∧
    (∀ (w : World σ) (path : String) (p : Preferences),
      ¬ (p.IsStorable ∧ w.files.HasRoom path) →
        ∃ failure files, Ends exchange (Stored.save path p) w (.error failure) { w with files } ∧
          files.files = w.files.files) ∧
    ∀ (w : World σ) (env : Environment) (rounds : Nat) (words : List String) (i : Invocation)
      (path key value : String) (p p' : Preferences),
      Invocation.parse (w.environment env) words = .ok i →
      i.command = .config (.set key value) → Stored.path (w.environment env) = pure path →
      stored? (w.files.read path) = some p → p.set key value = .ok p' →
        Stays exchange v path key p' w (Run.play exchange (program v env rounds words) w).2
          (Run.play exchange (program v env rounds words) w).1 := by
  refine ⟨fun w path p storable room => ?_, fun w path p => Stored.save_fails exchange,
    fun w env rounds words i path key value p p' => play_set⟩
  obtain ⟨files, hsave, hstored⟩ := Stored.save_ends exchange storable room
  exact ⟨files, hsave, Stored.load_ends hstored⟩

end Process

/-! ## Two values -/

/-- Where there are no files there is room for one. -/
theorem bareWorld_hasRoom : bareWorld.files.HasRoom "config.toml" :=
  (FileTree.hasRoom_iff "").mpr ⟨_, _, rfl, rfl⟩

/-- A text with quotes of both kinds, three in a row, and line breaks. -/
def quotedText : String := "a\"\"\"b\x27\x27\x27\n\r c"

/-- The preferences with that text. -/
def quotedPreferences : Preferences where
  defaultEventType := some quotedText

/-- A command line that sets the text. -/
def setQuoted : Invocation where
  overrides := {}
  logFilter := defaultLogFilter
  verbose := false
  colours := true
  command := .config (.set "default_event_type" quotedText)

/-- A timeout that is a number of 64 bits, and more than an integer of a document can hold. -/
def longTimeout : Preferences where
  timeoutSeconds := some 9223372036854775808

/-- What is left behind when the text is set. -/
def quotedWorld : World Unit :=
  (Run.play unreachable
    (program {} namedFile 0 ["config", "set", "default_event_type", quotedText]) bareWorld).2

/-- The text is stored and found again, and the timeout is not. -/
theorem settings_survive_quotes :
    (∃ files, Ends unreachable (Stored.save "config.toml" quotedPreferences) bareWorld (.ok ())
        { bareWorld with files } ∧
      Ends unreachable (Stored.load "config.toml") { bareWorld with files } (.ok quotedPreferences)
        { bareWorld with files }) ∧
    (∃ failure files, Ends unreachable (Stored.save "config.toml" longTimeout) bareWorld
        (.error failure) { bareWorld with files } ∧
      files.files = bareWorld.files.files) ∧
    (Run.play unreachable
      (program {} namedFile 0 ["config", "set", "default_event_type", quotedText])
      bareWorld).1 = some success ∧
    (Run.play unreachable (program {} namedFile 0 ["config", "get", "default_event_type"])
      quotedWorld).2.output = quotedWorld.output ++ [quotedText] := by
  obtain ⟨saves, fails, sets⟩ := settings_survive unreachable ({} : Viewer)
  have storable : quotedPreferences.IsStorable := by
    intro t h
    cases h
  have unstorable : ¬ longTimeout.IsStorable := fun h => absurd (h _ rfl) (by decide)
  have known : Stored.path (bareWorld.environment namedFile) = pure "config.toml" := rfl
  have stays : Stays unreachable {} "config.toml" "default_event_type" quotedPreferences bareWorld
      quotedWorld (Run.play unreachable
        (program {} namedFile 0 ["config", "set", "default_event_type", quotedText]) bareWorld).1 :=
    sets bareWorld namedFile 0 ["config", "set", "default_event_type", quotedText] setQuoted
      "config.toml" "default_event_type" quotedText {} quotedPreferences (by decide +kernel) rfl
      known rfl (by decide +kernel)
  have succeeded := stays.succeeds_iff.mpr ⟨storable, bareWorld_hasRoom⟩
  -- the file that was written holds no variables
  have henvironment : quotedWorld.environment namedFile = bareWorld.environment namedFile := by
    decide +kernel
  have parsed : Invocation.parse (quotedWorld.environment namedFile)
      ["config", "get", "default_event_type"] =
        .ok { setQuoted with command := .config (.get "default_event_type") } := by
    rw [henvironment]
    decide +kernel
  have found := stays.found succeeded namedFile 0 ["config", "get", "default_event_type"] _
    (some quotedText) parsed rfl (henvironment ▸ known) rfl
  exact ⟨saves _ _ _ storable bareWorld_hasRoom, fails _ _ _ fun h => unstorable h.1, succeeded,
    found.2⟩

/-- A timeout that is accepted when it is set, and lost: there is no document for it, and the
process that sets it fails although there is room for the file. -/
theorem set_timeout_is_lost :
    ({} : Preferences).set "timeout_seconds" "9223372036854775808" = .ok longTimeout ∧
      longTimeout.document = .error .unstorableTimeout ∧
      bareWorld.files.HasRoom "config.toml" ∧
      (Run.play unreachable
        (program {} namedFile 0 ["config", "set", "timeout_seconds", "9223372036854775808"])
        bareWorld).1 = some failure :=
  ⟨by decide +kernel, by decide +kernel, bareWorld_hasRoom, by decide +kernel⟩

end DeliveryDesk.CommandLine

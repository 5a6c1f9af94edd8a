import DeliveryDesk.Proofs.CommandLine.Deliveries
import DeliveryDesk.Proofs.CommandLine.Stored

/-!
# What a command line comes to

`Invocation.Achieves` says of the events of a command that it has achieved what it is for: it was
answered by the service, or it has done its work on the preferences. `Executes` tells how an
invocation goes that needs settings, and with it `execute_conduct` how all of them go that do
without prompts.

Around the command there is little. A file with variables is read before, there may be a warning,
and a failure that was not reported is reported in the end: `play_program` says what stands on the
two streams then, and what the exit code is.
-/

namespace DeliveryDesk.CommandLine

open Text Console Errand

/-! ## Commands -/

/-- Whether a command about subscriptions does without prompts. -/
def SubscriptionCommand.isUnprompted : SubscriptionCommand → Bool
  | .create url _ _ => url.isSome
  | .edit _ flags => Subscriptions.hasFlags flags
  | .delete _ force => force
  | _ => true

/-- Whether a command does without prompts. -/
def Command.isUnprompted : Command → Bool
  | .subscription command => command.isUnprompted
  | .delivery taskId interactive => !(interactive && !isBlankText taskId)
  | .console => false
  | .config command => command.isUnprompted
  | _ => true

/-- Whether a command needs settings. -/
def Command.needsSettings : Command → Bool
  | .config _ => false
  | .completions _ => false
  | _ => true

/-- How a command ends that needs settings. -/
structure Serves (v : Viewer) (format : OutputFormat) (command : Command) (t : List Event)
    (r : Except Failure Unit) : Prop extends Conduct v command.Answered t r where
  tidy : (∀ options, command ≠ .send options) → Tidy format t r
  shows_answer : ∀ options, command = .send options → options.inspect = false →
    Deliveries.ShowsAnswer format t r

section Serves

variable {v : Viewer} {settings : Settings}

/-- A command that prints its result and nothing else serves, unless it sends a test delivery. -/
theorem Sound.serves {format : OutputFormat} {command : Command} {t : List Event}
    {r : Except Failure Unit} (sound : Sound v format command.Answered t r)
    (unsent : ∀ options, command ≠ .send options) : Serves v format command t r where
  toConduct := sound.toConduct
  tidy _ := sound.tidy
  shows_answer options sends := absurd sends (unsent options)

/-- The version is shown whatever the service is like. -/
theorem version_sound (all : Bool) :
    Ensures (version v settings all)
      (Sound v settings.format (Command.version all).Answered) := by
  unfold version
  refine (ensures_printResult (.bind (.line _) fun _ => .either ?_ .done)).mono ?_
  · exact .bind (.line _) fun _ => .line _
  rintro t r ⟨rfl, result⟩
  show Sound _ _ _ ([] ++ t) _
  exact .finished (.nil _) result trivial

/-- Every command that needs settings serves once it has them. -/
theorem carryOut_serves (rounds : Nat) {command : Command}
    (needs : command.needsSettings = true) (unprompted : command.isUnprompted = true) :
    Ensures (carryOut v settings rounds command) (Serves v settings.format command) := by
  cases command with
  | subscription command =>
    suffices sound : Ensures (Subscriptions.run v settings command)
        (Sound v settings.format command.Answered) from
      sound.mono fun t r h =>
        Sound.serves (show Sound v _ (Command.subscription command).Answered t r from h) nofun
    cases command with
    | list page => exact Subscriptions.list_sound page
    | view id => exact Subscriptions.view_sound id
    | create url secret eventTypes =>
      obtain ⟨url, rfl⟩ := Option.isSome_iff_exists.mp unprompted
      exact Subscriptions.create_sound url secret eventTypes
    | edit id flags => exact Subscriptions.edit_sound id unprompted
    | delete id force =>
      obtain rfl : force = true := unprompted
      exact Subscriptions.delete_sound id
  | send options =>
    refine (Deliveries.send_sent options).mono fun t r sent => ?_
    exact ⟨sent.toConduct, fun unsent => absurd rfl (unsent options), by
      rintro _ ⟨⟩
      exact sent.shows_answer⟩
  | delivery taskId interactive =>
    have once := (Bool.not_eq_true' _).mp unprompted
    exact (Deliveries.delivery_sound rounds taskId once).mono fun t r h => h.serves nofun
  | logs chosen limit => exact (Deliveries.logs_sound chosen limit).mono fun t r h => h.serves nofun
  | health => exact Deliveries.health_sound.mono fun t r h => h.serves nofun
  | console => cases unprompted
  | config command => cases needs
  | completions shell => cases needs
  | version all => exact (version_sound all).mono fun t r h => h.serves nofun

end Serves

/-! ## Invocations -/

/-- The viewer of an invocation, which may want no colours. -/
def Invocation.viewer (i : Invocation) (v : Viewer) : Viewer :=
  { v with colours := v.colours && i.colours }

/-- What an invocation is for has been achieved. -/
def Invocation.Achieves (i : Invocation) (env : Environment) (t : List Event) : Prop :=
  match i.command with
  | .config command => command.Done env t
  | .completions _ => True
  | command => ∃ settings rest, Resolves env i.overrides settings t rest ∧ command.Answered rest

/-- How an invocation goes that needs settings: there are none, or the command is carried out. -/
inductive Executes (v : Viewer) (env : Environment) (i : Invocation) :
    List Event → Except Failure Unit → Prop where
  | unresolved {t : List Event} (nothing : ∀ format, ComesTo format t [] [] [])
      (none : ∀ settings rest, ¬ Resolves env i.overrides settings t rest)
      (message : String) (causes : List String) :
      Executes v env i t (.error (.failed message causes))
  | resolved {settings : Settings} {path : String} {file : Except FileFault String}
      {rest : List Event} {r : Except Failure Unit}
      (resolves : Resolves env i.overrides settings (.read path file :: rest) rest)
      (serves : Serves v settings.format i.command rest r) :
      Executes v env i (.read path file :: rest) r

section Execute

variable {v : Viewer} {env : Environment} {i : Invocation} {t : List Event}
  {r : Except Failure Unit}

/-- A command that needs settings achieves what it is for if there are some and it is answered. -/
theorem Invocation.achieves_iff (needs : i.command.needsSettings = true) :
    i.Achieves env t ↔
      ∃ settings rest, Resolves env i.overrides settings t rest ∧ i.command.Answered rest := by
  unfold Invocation.Achieves
  split
  · next h =>
    rw [h] at needs
    cases needs
  · next h =>
    rw [h] at needs
    cases needs
  · exact Iff.rfl

/-- A command that needs settings looks for them first. -/
theorem execute_of_needsSettings (rounds : Nat) (needs : i.command.needsSettings = true) :
    execute v env rounds i =
      settingsFor env i.overrides >>= fun settings => carryOut v settings rounds i.command := by
  unfold execute
  split
  · next h =>
    rw [h] at needs
    cases needs
  · next h =>
    rw [h] at needs
    cases needs
  · rfl

/-- **An invocation that needs settings goes in one of these ways.** -/
theorem execute_executes (rounds : Nat) (needs : i.command.needsSettings = true)
    (unprompted : i.command.isUnprompted = true) :
    Ensures (execute v env rounds i) (Executes v env i) := by
  rw [execute_of_needsSettings rounds needs]
  refine ensures_settingsFor_bind (fun _ => .unresolved) fun settings path file resolves => ?_
  exact (carryOut_serves rounds needs unprompted).mono fun rest r serves =>
    .resolved (resolves rest) serves

/-- The file is read once, so there is one way to resolve the settings. -/
theorem Resolves.unique {overrides : Overrides} {settings settings' : Settings}
    {rest rest' : List Event} (h : Resolves env overrides settings t rest)
    (h' : Resolves env overrides settings' t rest') : settings' = settings ∧ rest' = rest := by
  obtain ⟨p, ⟨path, file, -, rfl, loaded⟩, resolves⟩ := h
  obtain ⟨p', ⟨path', file', -, hread, loaded'⟩, resolves'⟩ := h'
  cases hread
  cases loaded.symm.trans loaded'
  cases resolves.symm.trans resolves'
  exact ⟨rfl, rfl⟩

/-- A format that is given on the command line counts. -/
theorem Resolves.format_eq {overrides : Overrides} {settings : Settings} {rest : List Event}
    (h : Resolves env overrides settings t rest) {format : OutputFormat}
    (given : overrides.format = some format) : settings.format = format := by
  obtain ⟨p, -, resolves⟩ := h
  unfold Preferences.resolve Preferences.effectiveFormat at resolves
  rw [given] at resolves
  cases resolves
  rfl

/-- Reading the file of the preferences before a command leaves its reports as they are. -/
theorem Reports.cons_read {path : String} {file : Except FileFault String}
    (reports : Reports v t r) : Reports v (.read path file :: t) r := by
  cases r with
  | ok done =>
    refine reports.imp id ?_
    rintro ⟨fault, ⟨change, client, page, accepted, follows⟩, herrors⟩
    refine ⟨fault, ⟨change, client, page, accepted, ?_⟩, herrors⟩
    exact follows.trans (List.suffix_cons _ t).isInfix
  | error failure =>
    cases failure with
    | reported => exact reports
    | failed message causes => exact reports

/-- However an invocation goes, it succeeds if it achieves what it is for, and it reports once. -/
theorem Executes.conduct (needs : i.command.needsSettings = true) (h : Executes v env i t r) :
    Conduct v (i.Achieves env) t r := by
  cases h with
  | unresolved nothing none message causes =>
    refine .unstarted (nothing .text).errors_eq fun achieves => ?_
    obtain ⟨settings, rest, resolves, -⟩ := (Invocation.achieves_iff needs).mp achieves
    exact none settings rest resolves
  | @resolved settings path file rest r resolves serves =>
    refine ⟨serves.ok_iff.trans ?_, serves.reports.cons_read⟩
    rw [Invocation.achieves_iff needs]
    -- the settings are the only ones that the file resolves to, and so is what follows it
    refine ⟨fun answered => ⟨settings, rest, resolves, answered⟩, ?_⟩
    rintro ⟨settings', rest', resolves', answered⟩
    obtain ⟨-, rfl⟩ := resolves.unique resolves'
    exact answered

/-- **A command that does without prompts succeeds exactly if it achieves what it is for, and what
it says about a failure is one complaint at most.** -/
theorem execute_conduct (rounds : Nat) (unprompted : i.command.isUnprompted = true) :
    Ensures (execute v env rounds i) (Conduct v (i.Achieves env)) := by
  by_cases needs : i.command.needsSettings = true
  · exact (execute_executes rounds needs unprompted).mono fun t r h => h.conduct needs
  · obtain ⟨overrides, logFilter, verbose, colours, command⟩ := i
    cases command with
    | config command => exact Stored.run_conduct unprompted
    | completions shell => exact (OnlyPrints.line _).conduct (t := []) rfl fun t => trivial
    | subscription | send | delivery | logs | health | console | version => exact absurd rfl needs

end Execute

/-! ## The program -/

section Program

variable {σ : Type}

/-- The environment of a run: variables that are lacking may stand in a file. -/
def World.environment (w : World σ) (env : Environment) : Environment :=
  match w.files.read environmentFile with
  | .error _ => env
  | .ok file => env.extend file

/-- The warning that nothing is logged, if there is one. -/
def unloggedWarning (v : Viewer) (env : Environment) (i : Invocation) : List String :=
  if (logFilter? env i).isSome then []
  else [v.paint (.of .yellow) "Warning" ++ ": Failed to create environment filter"]

/-- The report of a failure that the operator has not been told of. -/
def errorReport (v : Viewer) (verbose : Bool) (message : String) (causes : List String) :
    List String :=
  (v.paint (.boldOf .red) "Error" ++ ": " ++ message) ::
    if verbose then causes.map fun cause => v.paint (.of .yellow) "Caused by" ++ ": " ++ cause
    else []

/-- What is reported of how a command ended. -/
def finalReport (v : Viewer) (verbose : Bool) : Except Failure Unit → List String
  | .ok () => []
  | .error .reported => []
  | .error (.failed message causes) => errorReport v verbose message causes

/-- The exit code of a command. -/
def exitCode : Except Failure Unit → UInt8
  | .ok () => success
  | .error _ => failure

/-- The events of the command that a command line invokes. -/
def Invocation.trace (exchange : HttpRequest → σ → HttpOutcome × σ) (v : Viewer)
    (env : Environment) (rounds : Nat) (i : Invocation) (w : World σ) : List Event :=
  (execute (i.viewer v) (w.environment env) rounds i).run.trace exchange w

/-- The world in which the command of an invocation starts: the operator may have been warned, and
the log is open. -/
def World.opened (w : World σ) (v : Viewer) (env : Environment) (i : Invocation) : World σ :=
  { w with
    errors := w.errors ++ unloggedWarning v env i
    log := { w.log with filter := logFilter? env i } }

variable {exchange : HttpRequest → σ → HttpOutcome × σ} {v : Viewer} {w : World σ}

/-- Lines of a report go to the error stream in their order, and nothing else happens. -/
theorem play_warnings (lines : List String) (code : UInt8) :
    Run.play exchange (lines.foldr (fun line rest => .warn line rest) (.done code)) w =
      (some code, { w with errors := w.errors ++ lines }) := by
  induction lines generalizing w with
  | nil =>
    rw [List.append_nil]
    rfl
  | cons line lines ih =>
    refine ih.trans ?_
    rw [List.append_assoc]
    rfl

/-- The report of a failure is all that follows a command. -/
theorem play_report (verbose : Bool) (r : Except Failure Unit) :
    Run.play exchange (report v verbose r) w =
      (some (exitCode r), { w with errors := w.errors ++ finalReport v verbose r }) := by
  cases r with
  | ok done =>
    rw [finalReport, List.append_nil]
    rfl
  | error failure =>
    cases failure with
    | reported =>
      rw [finalReport, List.append_nil]
      rfl
    | failed message causes => exact play_warnings _ _

variable {env : Environment} {rounds : Nat} {words : List String} {i : Invocation}
  {Q : List Event → Except Failure Unit → Prop}

variable (exchange v rounds) in
/-- The program carries out the command of the invocation in a world where the log is open, and then
reports. -/
theorem play_program_eq (parsed : Invocation.parse (w.environment env) words = .ok i) :
    Run.play exchange (program v env rounds words) w =
      Run.play exchange
        ((execute (i.viewer v) (w.environment env) rounds i).run.andThen
          (report (i.viewer v) i.verbose))
        (w.opened (i.viewer v) (w.environment env) i) := by
  have hfile : Run.play exchange (program v env rounds words) w =
      Run.play exchange (understood v (w.environment env) rounds words) w := by
    unfold program World.environment
    rw [Run.play]
    cases w.files.read environmentFile with
    | error fault => rfl
    | ok file => rfl
  rw [hfile, understood, parsed]
  dsimp only
  unfold openLog World.opened unloggedWarning
  by_cases hlog : (logFilter? (w.environment env) i).isSome = true
  · rw [if_pos hlog, if_pos hlog, List.append_nil]
    rfl
  · rw [if_neg hlog, if_neg hlog]
    rfl

variable (exchange v) in
/-- What a command ensures decides about the exit code and about the streams, and the log is one
that the invocation has opened and the command has added to. -/
theorem play_program (parsed : Invocation.parse (w.environment env) words = .ok i)
    (ensures : Ensures (execute (i.viewer v) (w.environment env) rounds i) Q) :
    ∃ r, Q (i.trace exchange v env rounds w) r ∧
      (Run.play exchange (program v env rounds words) w).1 = some (exitCode r) ∧
      (Run.play exchange (program v env rounds words) w).2.output =
        w.output ++ Event.output (i.trace exchange v env rounds w) ∧
      (Run.play exchange (program v env rounds words) w).2.errors =
        w.errors ++ unloggedWarning (i.viewer v) (w.environment env) i ++
          (Event.errors (i.trace exchange v env rounds w) ++
            finalReport (i.viewer v) i.verbose r) ∧
      (w.opened (i.viewer v) (w.environment env) i).log.Extends
        (Run.play exchange (program v env rounds words) w).2.log := by
  -- a warning and the log are there before the command starts, which does not notice
  have hplay := play_program_eq exchange v rounds parsed
  have htrace : (execute (i.viewer v) (w.environment env) rounds i).run.trace exchange
      (w.opened (i.viewer v) (w.environment env) i) = i.trace exchange v env rounds w :=
    Run.trace_streams exchange _ w w.output _ _
  obtain ⟨r, hr, hensured⟩ := ensures.of_play exchange (w.opened (i.viewer v) _ i)
  obtain ⟨houtput, herrors⟩ := Run.play_streams exchange
    (execute (i.viewer v) (w.environment env) rounds i).run (w.opened (i.viewer v) _ i)
  rw [htrace] at hensured houtput herrors
  have hlog := ensures.log_extends exchange (w.opened (i.viewer v) (w.environment env) i)
  rw [hplay, Run.play_andThen hr, play_report]
  refine ⟨r, hensured, rfl, houtput, ?_, hlog⟩
  show _ ++ _ = _
  rw [herrors]
  exact List.append_assoc _ _ _

end Program

/-! ## A desk without a service -/

/-- An environment that names the file of the preferences. -/
def namedFile : Environment := [(Stored.fileVariable, "config.toml")]

/-- A world without files. -/
def bareWorld : World Unit where
  service := ()

/-- A service that answers nothing. -/
def unreachable (_ : HttpRequest) (s : Unit) : HttpOutcome × Unit := (.failed, s)

end DeliveryDesk.CommandLine

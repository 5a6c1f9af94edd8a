import DeliveryDesk.Proofs.CommandLine.Execution

/-!
# What programs can read

Where the format is JSON, the standard output of a command is to hold one document or nothing, so
that programs can read it, and texts about failures belong on the error stream. `Prints` lists what
there can be on it: nothing, the result of a command that succeeds, the answer to a test delivery,
and one thing more. A test delivery that fails without a body in the answer leaves a line about its
failure, which is no document. `output_is_clean_iff` is the main result: nothing else spoils the
output, and this does.
-/

namespace DeliveryDesk.CommandLine

open Text Console Errand Deliveries

/-- What a command prints that writes documents. -/
inductive Prints (command : Command) (t : List Event) : UInt8 → List String → Prop where
  | nothing (code : UInt8) : Prints command t code []
  | result {document : String} (h : IsDocument document) : Prints command t success [document]
  | answer (code : UInt8) {options : SendOptions} (sends : command = .send options) {body : Json}
      (answers : AnswersWith t body) : Prints command t code [body.pretty]
  | failureText {options : SendOptions} (sends : command = .send options) {fault : Fault}
      (undocumented : Undocumented t fault) :
      Prints command t failure ["Error: " ++ fault.message]

/-- No document starts like a text about a failure. -/
theorem not_isDocument_error (message : String) : ¬ IsDocument ("Error: " ++ message) := by
  rintro ⟨tree, hread⟩
  rw [symbols, String.toList_append, List.map_append] at hread
  cases hread

/-- A line about a failure is not clean. -/
theorem not_isClean_error (message : String) : ¬ IsClean ["Error: " ++ message] := by
  rintro (hnil | ⟨document, hdocument, hlines⟩)
  · cases hnil
  · obtain rfl := List.singleton_inj.mp hlines
    exact not_isDocument_error message hdocument

/-- The output of a command is clean unless it is a test delivery of which nothing can be shown. -/
structure PrintsClean (command : Command) (t : List Event) (code : UInt8) (lines : List String) :
    Prop where
  prints : Prints command t code lines
  isClean_iff : IsClean lines ↔
    ∀ options fault, command = .send options → ¬ Undocumented t fault

theorem Tidy.printsClean {command : Command} {rest : List Event} {r : Except Failure Unit}
    (tidy : Tidy .json rest r) (unsent : ∀ options, command ≠ .send options) (t : List Event) :
    PrintsClean command t (exitCode r) (Event.output rest) := by
  obtain ⟨clean, silent⟩ := tidy rfl
  refine ⟨?_, iff_of_true clean fun options _ sends => absurd sends (unsent options)⟩
  rcases clean with hnil | ⟨document, hdocument, hlines⟩
  · rw [hnil]
    exact .nothing _
  · cases r with
    | ok done =>
      rw [hlines]
      exact .result hdocument
    | error failure =>
      rw [silent nofun]
      exact .nothing _

theorem Deliveries.ShowsAnswer.printsClean {options : SendOptions} {t : List Event}
    {r : Except Failure Unit} (shows : ShowsAnswer .json t r) :
    PrintsClean (.send options) t (exitCode r) (Event.output t) := by
  obtain ⟨fails, answers⟩ := shows rfl
  by_cases hfault : ∃ fault, Undocumented t fault
  · obtain ⟨fault, undocumented⟩ := hfault
    obtain ⟨failed, hlines⟩ := fails fault undocumented
    rw [hlines]
    refine ⟨?_, iff_of_false (not_isClean_error _) fun h => h options fault rfl undocumented⟩
    cases r with
    | ok done => exact absurd rfl failed
    | error failure => exact .failureText rfl undocumented
  · have documented : ∀ fault, ¬ Undocumented t fault := fun fault h => hfault ⟨fault, h⟩
    rcases answers documented with hnil | ⟨body, answered, hlines⟩
    · rw [hnil]
      exact ⟨.nothing _, iff_of_true (.inl rfl) fun _ fault _ => documented fault⟩
    · rw [hlines]
      refine ⟨.answer _ rfl answered, iff_of_true (.inr ⟨_, body.isDocument_pretty, rfl⟩) ?_⟩
      exact fun _ fault _ => documented fault

/-- What is read first is no answer. -/
theorem undocumented_cons_read {path : String} {file : Except FileFault String} {t : List Event}
    {fault : Fault} : Undocumented (.read path file :: t) fault ↔ Undocumented t fault := by
  refine and_congr_right fun _ => ?_
  refine exists_congr fun client => exists_congr fun id => exists_congr fun payload =>
    exists_congr fun eventType => ?_
  exact List.mem_cons.trans (or_iff_right Event.noConfusion)

theorem PrintsClean.cons_read {command : Command} {t : List Event} {code : UInt8}
    {lines : List String} (h : PrintsClean command t code lines) (path : String)
    (file : Except FileFault String) : PrintsClean command (.read path file :: t) code lines where
  prints := by
    cases h.prints with
    | nothing => exact .nothing _
    | result hdocument => exact .result hdocument
    | answer _ sends answers =>
      obtain ⟨client, id, payload, eventType, reply, hasked, hbody⟩ := answers
      exact .answer _ sends
        ⟨client, id, payload, eventType, reply, List.mem_cons_of_mem _ hasked, hbody⟩
    | failureText sends undocumented =>
      exact .failureText sends (undocumented_cons_read.mpr undocumented)
  isClean_iff := by
    simp only [undocumented_cons_read]
    exact h.isClean_iff

/-- Nothing is printed where nothing is asked. -/
theorem ComesTo.printsClean {t : List Event} {format : OutputFormat}
    (nothing : ComesTo format t [] [] []) (command : Command) (code : UInt8) :
    PrintsClean command t code [] := by
  refine ⟨.nothing code, iff_of_true (.inl rfl) ?_⟩
  rintro options fault - ⟨-, client, id, payload, eventType, hasked⟩
  exact absurd (nothing.asked_mem_iff.mp hasked) List.not_mem_nil

variable {σ : Type}

/-- **Where the format is JSON, the output of a command is nothing or one document**, unless a test
delivery failed of which there is no answer to show: then it is a line about the failure. -/
theorem output_is_clean_iff (exchange : HttpRequest → σ → HttpOutcome × σ) (v : Viewer)
    (env : Environment) (rounds : Nat) (words : List String) (w : World σ) {i : Invocation}
    (parsed : Invocation.parse (w.environment env) words = .ok i)
    (needs : i.command.needsSettings = true) (unprompted : i.command.isUnprompted = true)
    (uninspected : ∀ options, i.command = .send options → options.inspect = false)
    (json : ∀ settings rest,
      Resolves (w.environment env) i.overrides settings (i.trace exchange v env rounds w) rest →
        settings.format = .json) :
    ∃ code lines,
      (Run.play exchange (program v env rounds words) w).1 = some code ∧
      (Run.play exchange (program v env rounds words) w).2.output = w.output ++ lines ∧
      PrintsClean i.command (i.trace exchange v env rounds w) code lines := by
  obtain ⟨r, executes, hcode, houtput, -, -⟩ :=
    play_program exchange v parsed (execute_executes rounds needs unprompted)
  refine ⟨exitCode r, _, hcode, houtput, ?_⟩
  generalize i.trace exchange v env rounds w = t at executes json ⊢
  cases executes with
  | unresolved nothing none message causes =>
    rw [(nothing .json).output_eq rfl]
    exact (nothing .json).printsClean i.command _
  | @resolved settings path file rest r resolves serves =>
    have hjson := json settings rest resolves
    rw [hjson] at serves
    refine PrintsClean.cons_read ?_ path file
    by_cases hsend : ∃ options, i.command = .send options
    · obtain ⟨options, sends⟩ := hsend
      rw [sends]
      exact ShowsAnswer.printsClean (serves.shows_answer options sends (uninspected options sends))
    · have unsent : ∀ options, i.command ≠ .send options := fun options h => hsend ⟨options, h⟩
      exact (serves.tidy unsent).printsClean unsent rest

/-- A command line that sends a test delivery and wants documents. -/
def sendWords : List String :=
  ["--format", "json", "send", "sub-1", "--payload", "\x7b\"a\":1\x7d"]

/-- What the words mean. -/
def sendInvocation : Invocation where
  overrides := { format := some .json }
  logFilter := defaultLogFilter
  verbose := false
  colours := true
  command := .send { subscriptionId := "sub-1", payload := some "\x7b\"a\":1\x7d" }

/-- A service that accepts everything and answers with an empty object. -/
def accepting (_ : HttpRequest) (s : Unit) : HttpOutcome × Unit :=
  (.answered 202 [0x7b, 0x7d], s)

/-- An accepted test delivery leaves one document. -/
theorem output_is_clean_iff_accepted :
    Invocation.parse (bareWorld.environment namedFile) sendWords = .ok sendInvocation ∧
      sendInvocation.command.needsSettings = true ∧
      sendInvocation.command.isUnprompted = true ∧
      (∀ options, sendInvocation.command = .send options → options.inspect = false) ∧
      (∀ settings rest, Resolves (bareWorld.environment namedFile) sendInvocation.overrides
        settings (sendInvocation.trace accepting {} namedFile 0 bareWorld) rest →
          settings.format = .json) ∧
      (Run.play accepting (program {} namedFile 0 sendWords) bareWorld).1 = some success ∧
      IsClean (Run.play accepting (program {} namedFile 0 sendWords) bareWorld).2.output := by
  have parsed : Invocation.parse (bareWorld.environment namedFile) sendWords =
      .ok sendInvocation := by decide +kernel
  have uninspected : ∀ options, sendInvocation.command = .send options →
      options.inspect = false := by
    rintro _ ⟨⟩
    rfl
  have succeeded : (Run.play accepting (program {} namedFile 0 sendWords) bareWorld).1 =
      some success := by decide +kernel
  refine ⟨parsed, rfl, rfl, uninspected, fun _ _ resolves => resolves.format_eq rfl, succeeded, ?_⟩
  obtain ⟨code, lines, hcode, houtput, clean⟩ := output_is_clean_iff accepting {} namedFile 0
    sendWords bareWorld parsed rfl rfl uninspected fun _ _ resolves => resolves.format_eq rfl
  have hsuccess : code = success := Option.some.inj (hcode.symm.trans succeeded)
  rw [houtput]
  show IsClean lines
  cases clean.prints with
  | nothing => exact .inl rfl
  | result hdocument => exact .inr ⟨_, hdocument, rfl⟩
  | answer _ sends answers => exact .inr ⟨_, Json.isDocument_pretty _, rfl⟩
  | failureText sends undocumented => exact absurd hsuccess (by decide)

/-- A test delivery that never got an answer leaves a line on the output that is no document. -/
theorem dropped_dispatch_spoils_output :
    Invocation.parse (bareWorld.environment namedFile) sendWords = .ok sendInvocation ∧
      sendInvocation.overrides.format = some .json ∧
      (Run.play unreachable (program {} namedFile 0 sendWords) bareWorld).2.output =
        ["Error: request failed: error sending request"] ∧
      ¬ IsClean ["Error: request failed: error sending request"] := by
  refine ⟨by decide +kernel, rfl, by decide +kernel, ?_⟩
  exact not_isClean_error "request failed: error sending request"

end DeliveryDesk.CommandLine

import DeliveryDesk.Proofs.CommandLine.Execution
import DeliveryDesk.Proofs.Form.Requests

/-!
# What an edit asks of the service

An edit with flags fetches the subscription, puts the flags in place of what was fetched, and sends
the result back. Each flag has a meaning of its own when it is empty: an empty secret is none, and
event types that name nothing clear the filter like the flag that says so. `EditFlags.body` is the
body that is sent, written down from the flags and the subscription alone.

`EditCalls` lists what can be asked, call by call, and tells whether the change was accepted;
`edit_calls` says that a command asks just that, and `edits_ask_exactly` says it of a whole command
line, with its exit code. There is nothing else to be asked where there are no settings, no client
or no identifier (`EditRun`).
-/

namespace DeliveryDesk.CommandLine

open Text Console Errand

/-! ## The body -/

/-- The address that is asked for: that of the flag, else that of the subscription. -/
def EditFlags.targetUrl (flags : EditFlags) (s : Subscription) : String :=
  flags.url.getD s.targetUrl

/-- The event types that are asked for. Those of the subscription are shown with commas between them
and are read again. -/
def EditFlags.types (flags : EditFlags) (s : Subscription) : List String :=
  if flags.clearEventTypes then []
  else
    match flags.eventTypes, s.eventFilter with
    | some typed, _ => entries typed
    | none, some own => entries (join ", " own)
    | none, none => []

/-- The body of an edit: the address always, the secret only if one was given that is not empty, and
a null for event types of which there are none. -/
def EditFlags.body (flags : EditFlags) (s : Subscription) : Json :=
  .object <|
    [("target_url", .string (trim (flags.targetUrl s)))] ++
    (match flags.secret with
      | some secret => if secret = "" then [] else [("secret", .string secret)]
      | none => []) ++
    [("event_types",
      if flags.types s = [] then .null else .array ((flags.types s).map .string))]

namespace Subscriptions

/-- The form that an edit fills in. -/
def editedForm (flags : EditFlags) (s : Subscription) : EditForm :=
  applyFlags flags (EditForm.ofSubscription s)

theorem entries_editedForm (flags : EditFlags) (s : Subscription) :
    entries (editedForm flags s).eventTypes = flags.types s := by
  unfold editedForm applyFlags EditForm.ofSubscription EditFlags.types
  cases flags.clearEventTypes with
  | true => rfl
  | false =>
    cases flags.eventTypes with
    | some typed => rfl
    | none => cases s.eventFilter <;> rfl

theorem body_editedForm (flags : EditFlags) (s : Subscription) :
    (editedForm flags s).body = flags.body s := by
  rw [EditForm.body, entries_editedForm, requestBody]
  unfold EditFlags.body
  cases hsecret : flags.secret with
  | none =>
    have hnone : (editedForm flags s).secret = "" := by
      simp [editedForm, applyFlags, hsecret, EditForm.ofSubscription]
    rw [hnone]
    rfl
  | some secret =>
    have hsome : (editedForm flags s).secret = secret := by simp [editedForm, applyFlags, hsecret]
    rw [hsome]
    rfl

/-- The request of an edit has an address to send events to, and the body that is written down. -/
theorem request_of_filled {flags : EditFlags} {s : Subscription} {change : SubscriptionChange}
    (filled : (editedForm flags s).toRequest = .ok change) :
    trim (flags.targetUrl s) ≠ "" ∧ change.encode = flags.body s := by
  have exact := EditForm.asksExactly (editedForm flags s)
  have addressed : trim (flags.targetUrl s) ≠ "" := by
    intro blank
    obtain ⟨fault, unfilled⟩ := exact.fails_iff.mpr blank
    cases filled.symm.trans unfilled
  obtain ⟨change', filled', body⟩ := exact.asks addressed
  obtain rfl := Except.ok.inj (filled.symm.trans filled')
  exact ⟨addressed, body.trans (body_editedForm flags s)⟩

/-! ## The calls -/

/-- What an edit asks of the service once there is a client, and whether the change is accepted. -/
inductive EditCalls (client : Client) (id : String) (flags : EditFlags) :
    List Event → Bool → Prop where
  | unfetched (fault : Fault) :
      EditCalls client id flags [.asked client (.getSubscription id) (.error fault)] false
  /-- There is no address to send events to. -/
  | unaddressed (s : Subscription) (blank : trim (flags.targetUrl s) = "") :
      EditCalls client id flags [.asked client (.getSubscription id) (.ok s)] false
  | refused (s : Subscription) (change : SubscriptionChange)
      (addressed : trim (flags.targetUrl s) ≠ "") (body : change.encode = flags.body s)
      (fault : Fault) :
      EditCalls client id flags
        [.asked client (.getSubscription id) (.ok s),
          .asked client (.updateSubscription s.id change) (.error fault)] false
  | accepted (s : Subscription) (change : SubscriptionChange)
      (addressed : trim (flags.targetUrl s) ≠ "") (body : change.encode = flags.body s)
      (updated : Subscription) (reload : Except Fault (List Subscription)) :
      EditCalls client id flags
        [.asked client (.getSubscription id) (.ok s),
          .asked client (.updateSubscription s.id change) (.ok updated),
          .asked client (.listSubscriptions {}) reload] true

/-- How an edit goes whose settings are known: there is no client, or the identifier is blank, or
the service is asked. -/
inductive Edits (settings : Settings) (id : String) (flags : EditFlags) :
    List Event → Bool → Prop where
  | unbuilt {fault : Fault} (unbuilt : Client.build settings.apiUrl none = .error fault) :
      Edits settings id flags [] false
  | unnamed (blank : trim id = "") : Edits settings id flags [] false
  | asking {client : Client} {asked : List Event} {accepted : Bool}
      (built : Client.build settings.apiUrl none = .ok client) (named : trim id ≠ "")
      (calls : EditCalls client id flags asked accepted) : Edits settings id flags asked accepted

/-- Telling what came of an action asks nothing. -/
theorem questions_append_told (v : Viewer) (format : OutputFormat) (t : List Event)
    (ns : List Notification) :
    Event.questions (t ++ told v format ns) = Event.questions t := by
  rw [Event.questions_append, questions_told, List.append_nil]

/-- Printing a result asks nothing. -/
theorem ensures_printResult_questions {format : OutputFormat} {value : Json}
    {asText : Errand Unit} (text : OnlyPrints asText) :
    Ensures (printResult format value asText) fun t r => r = .ok () ∧ Event.questions t = [] := by
  cases format with
  | text =>
    refine text.mono fun t r h => ?_
    obtain ⟨rfl, lines, rfl⟩ := h
    refine ⟨rfl, List.filter_eq_nil_iff.mpr fun e he => ?_⟩
    obtain ⟨line, -, rfl⟩ := List.mem_map.mp he
    exact Bool.false_ne_true
  | json | yaml => exact ⟨rfl, rfl⟩

section Edit

variable {v : Viewer} {settings : Settings} {flags : EditFlags}

/-- What is left of an edit once the subscription is there. -/
theorem submit_calls (client : Client) (id : String) (s : Subscription) :
    Ensures (do
        let (c, updated) ← hold client (({} : Console).submitEdit (editedForm flags s))
        finish v settings.format c updated)
      fun t r => ∃ accepted,
        EditCalls client id flags
          (.asked client (.getSubscription id) (.ok s) :: Event.questions t) accepted ∧
        (r = .ok () ↔ accepted = true) := by
  refine ensures_hold_bind (Console.submitEdit_course _ _) ?_
  rintro t ⟨c, updated⟩ course -
  -- the form is refused, or the update fails, or it is accepted and the list is read again
  cases course with
  | refused refuses =>
    cases refuses with
    | update unfilled =>
      obtain ⟨blank, -⟩ := EditForm.toRequest_eq_error_iff.mp unfilled
      refine ensures_settle_bind_of_failed.mpr ⟨false, ?_, by simp⟩
      rw [questions_append_told]
      exact .unaddressed s blank
  | failed asks fault =>
    cases asks with
    | update filled =>
      obtain ⟨addressed, body⟩ := request_of_filled filled
      refine ensures_settle_bind_of_failed.mpr ⟨false, ?_, by simp⟩
      rw [questions_append_told]
      exact .refused s _ addressed body fault
  | updated asks updated reload =>
    cases asks with
    | update filled =>
      obtain ⟨addressed, body⟩ := request_of_filled filled
      refine ensures_settle_bind.mpr
        ((ensures_printResult_questions (onlyPrints_printFields ..)).mono ?_)
      rintro t r ⟨rfl, unasked⟩
      refine ⟨true, ?_, by simp⟩
      rw [Event.questions_append, Event.questions_append, questions_told, unasked]
      exact .accepted s _ addressed body updated reload

variable (v settings) in
/-- **An edit with flags asks what the flags say, and succeeds exactly if it is accepted.** -/
theorem edit_calls {id : String} (given : hasFlags flags = true) :
    Ensures (edit v settings id flags) fun t r => ∃ accepted,
      Edits settings id flags (Event.questions t) accepted ∧ (r = .ok () ↔ accepted = true) := by
  unfold edit clientFor
  cases built : Client.build settings.apiUrl none with
  | error fault => exact ⟨false, .unbuilt built, by simp⟩
  | ok client =>
    refine ensures_hold_bind (Console.openEdit_course _ _) ?_
    rintro t ⟨c, opened⟩ course -
    cases course with
    | refused refuses =>
      cases refuses with
      | fetch blank =>
        refine ensures_settle_bind_of_failed.mpr ⟨false, ?_, by simp⟩
        rw [questions_append_told]
        exact .unnamed (trim_eq_empty_iff.mpr blank)
    | failed asks fault =>
      cases asks with
      | fetch named =>
        refine ensures_settle_bind_of_failed.mpr ⟨false, ?_, by simp⟩
        rw [questions_append_told]
        exact .asking built (trim_ne_empty_iff.mpr named) (.unfetched fault)
    | fetched asks s =>
      cases asks with
      | fetch named =>
        dsimp only
        rw [if_pos given]
        refine (submit_calls client id s).mono ?_
        rintro t r ⟨accepted, calls, ok_iff⟩
        exact ⟨accepted, .asking built (trim_ne_empty_iff.mpr named) calls, ok_iff⟩

end Edit

/-! ## The command line -/

/-- What a command line asks that edits a subscription, and its exit code: there are no settings and
nothing is asked, or the edit is made with those that there are. -/
inductive EditRun (env : Environment) (overrides : Overrides) (id : String) (flags : EditFlags)
    (t : List Event) : UInt8 → Prop where
  | unresolved (none : ∀ settings rest, ¬ Resolves env overrides settings t rest)
      (unasked : Event.questions t = []) : EditRun env overrides id flags t failure
  | resolved {settings : Settings} {rest : List Event} {accepted : Bool}
      (resolves : Resolves env overrides settings t rest)
      (edits : Edits settings id flags (Event.questions t) accepted) :
      EditRun env overrides id flags t (if accepted then success else failure)

/-- **A command line that edits a subscription with flags fetches it, sends what the flags make of
it, and reads the list again, each only after the call before it succeeded.** It succeeds exactly if
the change is accepted. -/
theorem edits_ask_exactly {σ : Type} (exchange : HttpRequest → σ → HttpOutcome × σ) (v : Viewer)
    (env : Environment) (rounds : Nat) (words : List String) (w : World σ) {i : Invocation}
    {id : String} {flags : EditFlags}
    (parsed : Invocation.parse (w.environment env) words = .ok i)
    (edits : i.command = .subscription (.edit id flags)) (given : hasFlags flags = true) :
    ∃ code, (Run.play exchange (program v env rounds words) w).1 = some code ∧
      EditRun (w.environment env) i.overrides id flags (i.trace exchange v env rounds w) code := by
  have ensures : Ensures (execute (i.viewer v) (w.environment env) rounds i) fun t r =>
      EditRun (w.environment env) i.overrides id flags t (exitCode r) := by
    rw [execute_of_needsSettings rounds (by rw [edits]; rfl), edits]
    refine ensures_settingsFor_bind (fun t nothing none message causes => ?_)
      fun settings path file resolves => ?_
    · exact .unresolved none (nothing .text).questions_eq
    refine (edit_calls (i.viewer v) settings given).mono ?_
    rintro rest r ⟨accepted, asked, ok_iff⟩
    have hcode : exitCode r = if accepted then success else failure := by
      cases r with
      | ok done => rw [if_pos (ok_iff.mp rfl)]; rfl
      | error fault => rw [if_neg fun h => nomatch ok_iff.mpr h]; rfl
    rw [hcode]
    exact .resolved (resolves rest) asked
  obtain ⟨r, run, hcode, -, -⟩ := play_program exchange v parsed ensures
  exact ⟨exitCode r, hcode, run⟩

/-- A service that answers every request with one subscription. -/
def resounding (_ : HttpRequest) (s : Unit) : HttpOutcome × Unit :=
  let body := "\x7b\"id\":\"sub-1\",\"target_url\":\"http://localhost/\"\x7d"
  (.answered 200 (body.toList.flatMap encodeChar), s)

/-- A command line that gives an empty secret and event types. -/
def editWords : List String :=
  ["subscription", "edit", "sub-1", "--secret", "", "--event-types", " ,a"]

/-- What the words ask for. -/
def editFlags : EditFlags where
  secret := some ""
  eventTypes := some " ,a"

/-- The edit is accepted, and no harm is done by a list that cannot be read. -/
theorem edits_ask_exactly_unlisted :
    ∃ i, Invocation.parse (bareWorld.environment namedFile) editWords = .ok i ∧
      i.command = .subscription (.edit "sub-1" editFlags) ∧ hasFlags editFlags = true ∧
      (Run.play resounding (program {} namedFile 0 editWords) bareWorld).1 = some success ∧
      ∃ settings rest, Resolves (bareWorld.environment namedFile) i.overrides settings
          (i.trace resounding {} namedFile 0 bareWorld) rest ∧
        Edits settings "sub-1" editFlags
          (Event.questions (i.trace resounding {} namedFile 0 bareWorld)) true := by
  have parsed : Invocation.parse (bareWorld.environment namedFile) editWords =
      .ok ⟨{}, defaultLogFilter, false, true, .subscription (.edit "sub-1" editFlags)⟩ := by
    decide +kernel
  have succeeded : (Run.play resounding (program {} namedFile 0 editWords) bareWorld).1 =
      some success := by decide +kernel
  refine ⟨_, parsed, rfl, rfl, succeeded, ?_⟩
  obtain ⟨code, hcode, run⟩ :=
    edits_ask_exactly resounding {} namedFile 0 editWords bareWorld parsed rfl rfl
  have hsuccess : code = success := Option.some.inj (hcode.symm.trans succeeded)
  cases run with
  | unresolved => exact absurd hsuccess (by decide)
  | @resolved settings rest accepted resolves edits =>
    cases accepted with
    | false => exact absurd hsuccess (by decide)
    | true => exact ⟨settings, rest, resolves, edits⟩

end Subscriptions

end DeliveryDesk.CommandLine

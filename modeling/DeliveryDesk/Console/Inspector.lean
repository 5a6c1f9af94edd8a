import DeliveryDesk.Json.Reading
import DeliveryDesk.Service
import DeliveryDesk.Text.Blank

/-!
# The delivery inspector

The inspector dispatches a test delivery and shows the state of one delivery task at a time.
Both exchanges are cut in two halves: `beginDispatch` and `beginInspect` check the input and
note what is in flight, `completeDispatch` and `completeInspect` apply what came back. So
several polls can be in flight at once and come back in any order.

A poll is held by a ticket. It is applied only if its task is still the one that was asked for
last and the inspection was not closed since; otherwise it is discarded, whatever it brought.
The task on display is always one poll's answer as a whole, never a mixture.
-/

namespace DeliveryDesk.Console

open Text

/-- What the operator types to dispatch a test delivery. -/
structure DispatchForm where
  subscriptionId : String
  payload : String
  eventType : String
deriving DecidableEq, Repr

/-- A dispatch that is ready to be sent. -/
structure DispatchRequest where
  subscriptionId : String
  payload : Json
  eventType : Option String
deriving Repr, BEq

/-- A text without surrounding blanks, if anything is left of it. -/
def nonBlank? (s : String) : Option String :=
  if isBlankText s then none else some (trim s)

/-- Nothing is left of a blank text, and of any other what stands between the blanks around it. -/
theorem nonBlank?_eq (s : String) : nonBlank? s = if trim s = "" then none else some (trim s) := by
  simp only [nonBlank?, trim_eq_empty_iff]

/-- Nothing is left of a text exactly if it is blank. -/
theorem nonBlank?_eq_none_iff {s : String} : nonBlank? s = none ↔ trim s = "" := by
  simp [nonBlank?_eq]

/-- What is left of a text is what trimming leaves, and that is not empty. -/
theorem nonBlank?_eq_some_iff {s t : String} : nonBlank? s = some t ↔ trim s ≠ "" ∧ t = trim s := by
  rw [nonBlank?_eq]
  by_cases missing : trim s = ""
  · simp [missing]
  · simp [missing, eq_comm]

/-- Checks a form: a subscription must be chosen, and the payload must be JSON. -/
def DispatchForm.parse (f : DispatchForm) : Except Fault DispatchRequest :=
  match nonBlank? f.subscriptionId with
  | none => .error (.validation "Please select a subscription")
  | some subscriptionId =>
    match Json.parse? f.payload with
    | none => .error (.validation "Invalid JSON payload. Please check your input.")
    | some payload => .ok { subscriptionId, payload, eventType := nonBlank? f.eventType }

/-- What a form that is right becomes. -/
theorem DispatchForm.parse_eq_ok_iff {f : DispatchForm} {request : DispatchRequest} :
    f.parse = .ok request ↔ trim f.subscriptionId ≠ "" ∧ ∃ payload,
      Json.parse? f.payload = some payload ∧
        request = ⟨trim f.subscriptionId, payload, nonBlank? f.eventType⟩ := by
  unfold parse
  cases hid : nonBlank? f.subscriptionId with
  | none => simp [nonBlank?_eq_none_iff.mp hid]
  | some id =>
    obtain ⟨named, rfl⟩ := nonBlank?_eq_some_iff.mp hid
    cases Json.parse? f.payload with
    | none => simp
    | some payload => simp [named, eq_comm]

/-- The answer to the last dispatch as the operator sees it. -/
structure ResponsePanel where
  content : String
  isError : Bool
deriving DecidableEq, Repr

/-- A poll in flight: its number and the task it asks for. -/
structure PollTicket where
  seq : UInt64
  taskId : String
deriving DecidableEq, Repr

/-- What became of a poll. -/
inductive PollOutcome where
  | rendered
  | discarded
deriving DecidableEq, Repr

/-- The task on display and the number of the poll that brought it. -/
structure Surface where
  task : DeliveryTask
  seq : UInt64
deriving Repr, BEq

/-- Where the inspector is between dispatching and displaying. -/
inductive Phase where
  | idle
  | dispatching
  | dispatched
  | polling
  | rendered
deriving DecidableEq, Repr

/-- The state of the inspector. Polls are numbered and counted in 64-bit words. -/
structure Inspector where
  dispatching : Bool := false
  response : Option ResponsePanel := none
  checkTarget : Option String := none
  latestTarget : Option String := none
  surface : Option Surface := none
  lastSeq : UInt64 := 0
  inFlight : UInt64 := 0
deriving Repr, BEq

namespace Inspector

/-- The phase: a dispatch in flight comes before polls in flight, those before a task on
display, and that before a task that could be checked. -/
def phase (i : Inspector) : Phase :=
  if i.dispatching then .dispatching
  else if 0 < i.inFlight then .polling
  else if i.surface.isSome then .rendered
  else if i.checkTarget.isSome then .dispatched
  else .idle

/-- The task that a refresh asks for: the one on display, else the one asked for last. -/
def refreshTarget (i : Inspector) : Option String :=
  match i.surface with
  | some s => some s.task.id
  | none => i.latestTarget

/-- Starts a dispatch, unless one is in flight or the form is wrong. -/
def beginDispatch (i : Inspector) (form : DispatchForm) :
    Except Fault (DispatchRequest × Inspector) :=
  if i.dispatching then .error (.validation "A test webhook is already being sent")
  else
    match form.parse with
    | .error fault => .error fault
    | .ok request => .ok (request, { i with dispatching := true })

/-- The panel of a dispatch that failed: the body of the answer, or the fault's text. -/
def failurePanel (fault : Fault) : ResponsePanel where
  content :=
    match fault.body? with
    | some body => body.pretty
    | none => "Error: " ++ fault.message
  isError := true

/-- Applies the reply to a dispatch. The panel is replaced in any case. -/
def completeDispatch (i : Inspector) (reply : Except Fault Receipt) :
    Inspector × Except Fault (Option String) :=
  match reply with
  | .ok receipt =>
    ({ i with
        dispatching := false
        checkTarget := receipt.taskId?
        response := some ⟨receipt.prettyBody, false⟩ },
      .ok receipt.taskId?)
  | .error fault =>
    ({ i with
        dispatching := false
        checkTarget := none
        response := some (failurePanel fault) },
      .error fault)

/-- Starts a poll of a task and makes it the one asked for last. -/
def beginInspect (i : Inspector) (taskId : String) : Except Fault (PollTicket × Inspector) :=
  match nonBlank? taskId with
  | none => .error (.validation "Please enter a delivery task ID")
  | some taskId =>
    let seq := i.lastSeq + 1
    .ok (⟨seq, taskId⟩,
      { i with latestTarget := some taskId, lastSeq := seq, inFlight := i.inFlight + 1 })

/-- One less, but never below zero. -/
def countDown (n : UInt64) : UInt64 := if n = 0 then 0 else n - 1

/-- Counting down is subtraction of natural numbers. -/
theorem toNat_countDown (n : UInt64) : (countDown n).toNat = n.toNat - 1 := by
  unfold countDown
  split
  · next hzero => simp [hzero]
  · next hpos =>
    have hne : n.toNat ≠ 0 := fun h0 => hpos (UInt64.toNat_inj.mp h0)
    have hle : 1 ≤ n := UInt64.le_iff_toNat_le.mpr (Nat.one_le_iff_ne_zero.mpr hne)
    rw [UInt64.toNat_sub_of_le _ _ hle]
    rfl

/-- Applies the reply to a poll, if its task is still the one asked for last. -/
def completeInspect (i : Inspector) (ticket : PollTicket) (reply : Except Fault DeliveryTask) :
    Inspector × Except Fault PollOutcome :=
  let i := { i with inFlight := countDown i.inFlight }
  if i.latestTarget ≠ some ticket.taskId then (i, .ok .discarded)
  else
    match reply with
    | .ok task => ({ i with surface := some ⟨task, ticket.seq⟩ }, .ok .rendered)
    | .error fault => (i, .error fault)

/-- Closes the inspection; polls in flight will be discarded. -/
def close (i : Inspector) : Inspector :=
  { i with surface := none, latestTarget := none }

/-! ## Whole exchanges -/

/-- A record of the inspector. -/
def record (level : LogLevel) (message : String) (fields : List (String × LogValue)) :
    LogRecord where
  level
  target := "hookdesk_console::inspector"
  message
  fields

/-- What is logged when a dispatch starts. -/
def dispatchStarted (request : DispatchRequest) : LogRecord :=
  record .debug "dispatch started" [("subscription_id", .text request.subscriptionId)]

/-- What is logged when the reply to a dispatch is applied. -/
def dispatchCompleted : Except Fault Receipt → LogRecord
  | .ok receipt =>
    match receipt.taskId? with
    | some taskId => record .info "test webhook dispatched" [("task_id", .text taskId)]
    | none =>
      record .info "dispatch accepted without a task" [("reply", .optional receipt.message?)]
  | .error fault =>
    record .warn "test webhook dispatch failed" [("error", .text fault.message)]

/-- What is logged when a poll starts. A task that is not yet the one asked for last is logged
first. -/
def pollStarted (i : Inspector) (ticket : PollTicket) : List LogRecord :=
  (if i.latestTarget = some ticket.taskId then []
    else [record .debug "inspection target switched"
      [("previous", .optional i.latestTarget), ("task_id", .text ticket.taskId)]]) ++
  [record .debug "poll started"
    [("seq", .number ticket.seq.toNat), ("task_id", .text ticket.taskId)]]

/-- What is logged when the reply to a poll is applied. -/
def pollCompleted (i : Inspector) (ticket : PollTicket) (reply : Except Fault DeliveryTask) :
    LogRecord :=
  let seq : String × LogValue := ("seq", .number ticket.seq.toNat)
  if i.latestTarget ≠ some ticket.taskId then
    record .debug "stale poll discarded" [seq, ("task_id", .text ticket.taskId)]
  else
    match reply with
    | .ok task =>
      record .info "delivery status rendered"
        [seq, ("task_id", .text task.id), ("status", .text task.status),
          ("attempts", .number task.attemptCount.toNat)]
    | .error fault =>
      record .warn "delivery status fetch failed"
        [seq, ("task_id", .text ticket.taskId), ("error", .text fault.message)]

/-- Dispatches a test delivery. -/
def dispatch (i : Inspector) (form : DispatchForm) :
    Conversation (Inspector × Except Fault (Option String)) :=
  match i.beginDispatch form with
  | .error fault => .done (i, .error fault)
  | .ok (request, i) =>
    .log (dispatchStarted request) <|
      .ask (.sendTest request.subscriptionId request.payload request.eventType) fun reply =>
        .log (dispatchCompleted reply) (.done (i.completeDispatch reply))

/-- Fetches a task and puts it on display. -/
def inspect (i : Inspector) (taskId : String) :
    Conversation (Inspector × Except Fault PollOutcome) :=
  match i.beginInspect taskId with
  | .error fault => .done (i, .error fault)
  | .ok (ticket, begun) =>
    .after (i.pollStarted ticket) <|
      .ask (.getDelivery ticket.taskId) fun reply =>
        .log (begun.pollCompleted ticket reply) (.done (begun.completeInspect ticket reply))

/-- Fetches the inspected task again. -/
def refresh (i : Inspector) : Conversation (Inspector × Except Fault PollOutcome) :=
  match i.refreshTarget with
  | none => .done (i, .error (.validation "No delivery is being inspected"))
  | some taskId => i.inspect taskId

end Inspector

end DeliveryDesk.Console

import DeliveryDesk.Json.Record
import DeliveryDesk.Json.Printing

/-!
# Delivery tasks, attempts and receipts

A dispatched event becomes a delivery task, and every attempt to deliver it an entry of the
task's log. The receipt of a dispatch is the service's raw answer: it names the task that
was created, or says why there is none.
-/

namespace DeliveryDesk

/-- One delivery attempt. -/
structure LogEntry where
  id : Option String
  taskId : Option String
  subscriptionId : Option String
  targetUrl : Option String
  attemptNumber : UInt32
  status : String
  statusCode : Option UInt16
  errorDetails : Option String
  createdAt : String
deriving DecidableEq, Repr, Inhabited

namespace LogEntry

/-- The names of the fields in declared order. The task may be named in two ways. -/
def fieldNames : List (List String) :=
  [["id"], ["task_id", "delivery_task_id"], ["subscription_id"], ["target_url"],
    ["attempt_number"], ["status"], ["status_code"], ["error_details"], ["created_at"]]

/-- Reads a log entry. -/
def decode {α : Type} [RecordSource α] (a : α) : Option LogEntry := do
  match ← Record.fields? fieldNames a with
  | [id, taskId, subscriptionId, targetUrl, attemptNumber, status, statusCode, errorDetails,
      createdAt] =>
    return {
      id := ← Record.optional Record.text id
      taskId := ← Record.optional Record.text taskId
      subscriptionId := ← Record.optional Record.text subscriptionId
      targetUrl := ← Record.optional Record.text targetUrl
      attemptNumber := ← Record.required Record.word32 attemptNumber
      status := ← Record.required Record.text status
      statusCode := ← Record.optional Record.word16 statusCode
      errorDetails := ← Record.optional Record.text errorDetails
      createdAt := ← Record.required Record.text createdAt }
  | _ => none

/-- Writes a log entry; the identifiers of the entry and of its subscription are left out
when they are unknown. -/
def encode (e : LogEntry) : Json :=
  .object <|
    Json.memberIfAny "id" .string e.id ++
    [("task_id", Json.orNull Json.string e.taskId)] ++
    Json.memberIfAny "subscription_id" .string e.subscriptionId ++
    [("target_url", Json.orNull Json.string e.targetUrl),
      ("attempt_number", .nat e.attemptNumber.toNat), ("status", .string e.status),
      ("status_code", Json.orNull (fun c => Json.nat c.toNat) e.statusCode),
      ("error_details", Json.orNull Json.string e.errorDetails),
      ("created_at", .string e.createdAt)]

end LogEntry

/-- A delivery task with its log. -/
structure DeliveryTask where
  id : String
  status : String
  attemptCount : UInt32
  /-- Absent when no further attempt is planned. -/
  nextAttemptAt : Option String
  createdAt : String
  subscriptionId : Option String
  eventType : Option String
  payload : Option Json
  logs : List LogEntry
deriving Repr, BEq, Inhabited

namespace DeliveryTask

/-- The names of the fields in declared order. -/
def fieldNames : List (List String) :=
  [["id"], ["status"], ["attempt_count"], ["next_attempt_at"], ["created_at"],
    ["subscription_id"], ["event_type"], ["payload"], ["logs"]]

/-- A payload that may be missing or null. -/
def decodePayload {α : Type} [RecordSource α] : Option α → Option (Option Json)
  | none => some none
  | some a => Record.freeForm a

/-- Reads a delivery task. -/
def decode {α : Type} [RecordSource α] (a : α) : Option DeliveryTask := do
  match ← Record.fields? fieldNames a with
  | [id, status, attemptCount, nextAttemptAt, createdAt, subscriptionId, eventType, payload,
      logs] =>
    return {
      id := ← Record.required Record.text id
      status := ← Record.required Record.text status
      attemptCount := ← Record.required Record.word32 attemptCount
      nextAttemptAt := ← Record.optional Record.text nextAttemptAt
      createdAt := ← Record.required Record.text createdAt
      subscriptionId := ← Record.optional Record.text subscriptionId
      eventType := ← Record.optional Record.text eventType
      payload := ← decodePayload payload
      logs := ← Record.defaulted [] (Record.list LogEntry.decode) logs }
  | _ => none

/-- Writes a delivery task; subscription, event type and payload are left out when they are
unknown. -/
def encode (t : DeliveryTask) : Json :=
  .object <|
    [("id", .string t.id), ("status", .string t.status),
      ("attempt_count", .nat t.attemptCount.toNat),
      ("next_attempt_at", Json.orNull Json.string t.nextAttemptAt),
      ("created_at", .string t.createdAt)] ++
    Json.memberIfAny "subscription_id" .string t.subscriptionId ++
    Json.memberIfAny "event_type" .string t.eventType ++
    Json.memberIfAny "payload" (fun p => p) t.payload ++
    [("logs", .array (t.logs.map LogEntry.encode))]

end DeliveryTask

/-- The service's answer to an accepted dispatch. -/
structure Receipt where
  status : UInt16
  body : Json
deriving Repr, BEq, Inhabited

namespace Receipt

/-- The delivery task that was created, if one was. -/
def taskId? (r : Receipt) : Option String :=
  ((r.body.member? "id").bind Json.text?).filter (!·.isEmpty)

/-- A task was created if the answer names one, by a text that is not empty. -/
theorem taskId?_eq_some_iff {r : Receipt} {id : String} :
    r.taskId? = some id ↔ r.body.member? "id" = some (.string id) ∧ id ≠ "" := by
  rw [taskId?, Option.filter_eq_some_iff]
  cases r.body.member? "id" with
  | none => simp
  | some v => cases v <;> simp [Json.text?]

/-- What the service says instead of creating a task. -/
def message? (r : Receipt) : Option String :=
  (r.body.member? "message").bind Json.text?

/-- The body as it is shown to the operator. -/
def prettyBody (r : Receipt) : String := r.body.pretty

/-- Writes a receipt. -/
def encode (r : Receipt) : Json :=
  .object [("status", .nat r.status.toNat), ("body", r.body)]

end Receipt

end DeliveryDesk

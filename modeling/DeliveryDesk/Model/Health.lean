import DeliveryDesk.Json.Record

/-!
# Service health

A snapshot of the service and of the three dependencies it checks: its database, its cache
and its pool of workers.
-/

namespace DeliveryDesk

/-- The health of one dependency. -/
structure Dependency where
  status : String
  error : Option String
  /-- The active workers, which only the worker pool reports. -/
  workers : Option (List String)
deriving DecidableEq, Repr, Inhabited

/-- The one status that counts as healthy. -/
def healthyStatus : String := "healthy"

namespace Dependency

/-- Whether the dependency is healthy. -/
def isHealthy (d : Dependency) : Bool := d.status == healthyStatus

/-- Reads the health of a dependency. -/
def decode {α : Type} [RecordSource α] (a : α) : Option Dependency := do
  match ← Record.fields? [["status"], ["error"], ["workers"]] a with
  | [status, error, workers] =>
    return {
      status := ← Record.required Record.text status
      error := ← Record.optional Record.text error
      workers := ← Record.optional (Record.list Record.text) workers }
  | _ => none

/-- Writes the health of a dependency. -/
def encode (d : Dependency) : Json :=
  .object <|
    [("status", .string d.status)] ++ Json.memberIfAny "error" .string d.error ++
    Json.memberIfAny "workers" Json.texts d.workers

end Dependency

/-- The three dependencies. -/
structure Dependencies where
  database : Dependency
  redis : Dependency
  celery : Dependency
deriving DecidableEq, Repr, Inhabited

namespace Dependencies

/-- Reads the dependencies. -/
def decode {α : Type} [RecordSource α] (a : α) : Option Dependencies := do
  match ← Record.fields? [["database"], ["redis"], ["celery"]] a with
  | [database, redis, celery] =>
    return {
      database := ← Record.required Dependency.decode database
      redis := ← Record.required Dependency.decode redis
      celery := ← Record.required Dependency.decode celery }
  | _ => none

/-- Writes the dependencies. -/
def encode (d : Dependencies) : Json :=
  .object [("database", d.database.encode), ("redis", d.redis.encode),
    ("celery", d.celery.encode)]

end Dependencies

/-- The health of the service at one moment. -/
structure HealthSnapshot where
  status : String
  service : String
  dependencies : Dependencies
deriving DecidableEq, Repr, Inhabited

namespace HealthSnapshot

/-- Whether the service calls itself healthy. -/
def isHealthy (h : HealthSnapshot) : Bool := h.status == healthyStatus

/-- Reads a snapshot. -/
def decode {α : Type} [RecordSource α] (a : α) : Option HealthSnapshot := do
  match ← Record.fields? [["status"], ["service"], ["dependencies"]] a with
  | [status, service, dependencies] =>
    return {
      status := ← Record.required Record.text status
      service := ← Record.required Record.text service
      dependencies := ← Record.required Dependencies.decode dependencies }
  | _ => none

/-- Writes a snapshot. -/
def encode (h : HealthSnapshot) : Json :=
  .object [("status", .string h.status), ("service", .string h.service),
    ("dependencies", h.dependencies.encode)]

end HealthSnapshot

end DeliveryDesk

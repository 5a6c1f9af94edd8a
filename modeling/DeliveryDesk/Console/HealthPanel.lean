import DeliveryDesk.Console.Viewer

/-!
# The health panel

The panel shows the last health snapshot. A failed load replaces it by the reason of the
failure, so what is shown is never stale.
-/

namespace DeliveryDesk.Console

open Text

/-- What the health panel shows. -/
inductive HealthPanel where
  /-- Nothing was loaded yet. -/
  | empty
  | snapshot (s : HealthSnapshot)
  /-- The last load failed with this text. -/
  | failed (message : String)
deriving DecidableEq, Repr

namespace HealthPanel

/-- The panel of a fault. -/
def ofFault (f : Fault) : HealthPanel := .failed f.message

/-- The snapshot on display. -/
def snapshot? : HealthPanel → Option HealthSnapshot
  | .snapshot s => some s
  | _ => none

/-- What is logged of a check that failed. -/
def checkFailed (fault : Fault) : LogRecord where
  level := .warn
  target := "hookdesk_console::health"
  message := "health check failed"
  fields := [("error", .text fault.message)]

/-- Fetches a snapshot. The panel is replaced in any case. -/
def load : Conversation (HealthPanel × Except Fault Unit) := do
  match ← Conversation.call .status with
  | .ok s => return (.snapshot s, .ok ())
  | .error fault =>
    Conversation.note (checkFailed fault)
    return (ofFault fault, .error fault)

/-- The lines of a dependency. -/
def renderDependency (v : Viewer) (title : String) (d : Dependency) : String :=
  let status := if d.isHealthy then v.paint (Ink.of .green) "Healthy"
    else v.paint (Ink.of .red) "Unhealthy"
  "\n  " ++ v.paint { bold := true } title ++ "\n    Status: " ++ status ++ "\n" ++
    (match d.error with
      | some e => "    " ++ v.paint (Ink.of .red) "Error:" ++ " " ++ e ++ "\n"
      | none => "") ++
    (match d.workers with
      | some [] => "    Active Workers: none\n"
      | some workers => "    Active Workers: " ++ join ", " workers ++ "\n"
      | none => "")

/-- The page of a snapshot. -/
def renderSnapshot (v : Viewer) (s : HealthSnapshot) : String :=
  let overall := if s.isHealthy then v.paint (Ink.boldOf .green) "Healthy"
    else v.paint (Ink.boldOf .yellow) "Degraded"
  "Overall Status: " ++ overall ++ "\nService: " ++ s.service ++ "\n\nDependencies\n" ++
    renderDependency v "Database" s.dependencies.database ++
    renderDependency v "Redis Cache" s.dependencies.redis ++
    renderDependency v "Celery Worker" s.dependencies.celery

/-- The panel as text. -/
def render (v : Viewer) : HealthPanel → String
  | .empty => v.paint { dimmed := true } "Health status not loaded."
  | .failed message =>
    v.paint (Ink.boldOf .red) "Error Loading Health Status" ++ "\n  " ++ message
  | .snapshot s => renderSnapshot v s

end HealthPanel

end DeliveryDesk.Console

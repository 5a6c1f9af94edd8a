import DeliveryDesk.Console.Inspector
import DeliveryDesk.Console.Status
import DeliveryDesk.Text.Table
import DeliveryDesk.Time.Display

/-!
# How deliveries are shown

What an operator sees depends on the zone of their clock and on whether their terminal shows
colours; both make up the `Viewer`. This module holds the rows of an attempt and the page of
the task on display.
-/

namespace DeliveryDesk.Console

open Text Time

/-- The operator's zone, and whether colours are on. -/
structure Viewer where
  zone : Zone := .utc
  colours : Bool := false
deriving DecidableEq, Repr

/-- What stands in for a status code that is absent. -/
def notAvailable : String := "N/A"

namespace Viewer

/-- A timestamp. -/
def timestamp (v : Viewer) (raw : String) : String := formatTimestamp v.zone raw

/-- A timestamp that may be absent. -/
def optionalTimestamp (v : Viewer) (raw : Option String) : String :=
  formatOptionalTimestamp v.zone raw

/-- A text in an ink. -/
def paint (v : Viewer) (ink : Ink) (s : String) : String := Text.paint v.colours ink s

/-- A status in the colour of its tone. -/
def status (v : Viewer) (s : String) : String := styledStatus v.colours s

end Viewer

/-- The text of a status code. -/
def statusCodeText : Option UInt16 → String
  | some code => decimalText code.toNat
  | none => notAvailable

/-- The text of the details of an attempt; empty details count as absent. -/
def detailsText : Option String → String
  | some details => if details.isEmpty then noneText else details
  | none => noneText

/-- An attempt as it is shown. -/
structure AttemptRow where
  date : String
  attempt : UInt32
  status : String
  statusCode : String
  details : String
deriving DecidableEq, Repr

namespace AttemptRow

/-- The row of a log entry. -/
def ofEntry (v : Viewer) (e : LogEntry) : AttemptRow where
  date := v.timestamp e.createdAt
  attempt := e.attemptNumber
  status := markedStatus e.status
  statusCode := statusCodeText e.statusCode
  details := detailsText e.errorDetails

/-- The header of a table of attempts. -/
def header : List String := ["Date", "Attempt", "Status", "Status Code", "Details"]

/-- The cells of a row. -/
def cells (r : AttemptRow) : List String :=
  [r.date, decimalText r.attempt.toNat, r.status, r.statusCode, r.details]

end AttemptRow

/-- A task as it is shown, with what stands in for absent values. -/
structure TaskView where
  id : String
  status : String
  createdAt : String
  attemptCount : String
  nextAttempt : String
  subscriptionId : Option String
  eventType : Option String
deriving DecidableEq, Repr

namespace Surface

/-- The task as it is shown. -/
def view (s : Surface) (v : Viewer) : TaskView where
  id := s.task.id
  status := s.task.status
  createdAt := v.timestamp s.task.createdAt
  attemptCount := decimalText s.task.attemptCount.toNat
  nextAttempt := v.optionalTimestamp s.task.nextAttemptAt
  subscriptionId := s.task.subscriptionId
  eventType := s.task.eventType

/-- The attempts in the order in which the service reported them. -/
def attempts (s : Surface) (v : Viewer) : List AttemptRow :=
  s.task.logs.map (AttemptRow.ofEntry v)

/-- A label and a value on a line of their own. -/
def detailLine (label value : String) : String :=
  "  " ++ String.ofList (label.toList ++ List.replicate (15 - label.length) ' ') ++ " " ++
    value ++ "\n"

/-- The line of a value that may be absent. -/
def optionalLine (label : String) : Option String → String
  | some value => detailLine label value
  | none => ""

/-- What is shown in place of an empty table of attempts. -/
def noAttempts : String := "No delivery logs available yet."

/-- The page of the task. -/
def render (s : Surface) (v : Viewer) : String :=
  let t := s.view v
  let status := v.status t.status
  "Delivery Status: " ++ status ++ "\n\n" ++
    detailLine "ID:" t.id ++
    detailLine "Created At:" t.createdAt ++
    detailLine "Status:" status ++
    detailLine "Attempt Count:" t.attemptCount ++
    detailLine "Next Attempt:" t.nextAttempt ++
    optionalLine "Subscription:" t.subscriptionId ++
    optionalLine "Event Type:" t.eventType ++
    "\nDelivery Logs\n" ++
    (match s.attempts v with
      | [] => noAttempts
      | rows => drawTable AttemptRow.header (rows.map AttemptRow.cells))

end Surface

end DeliveryDesk.Console

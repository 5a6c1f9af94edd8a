import DeliveryDesk.Console.Viewer

/-!
# The delivery log browser

The browser shows the delivery attempts of one subscription. For a chosen subscription a
failed fetch is reported and the rows stay as they are. When none is chosen the first
subscription of a fresh list is taken, and whatever goes wrong on the way leaves an empty
table.
-/

namespace DeliveryDesk.Console

open Text

/-- The entries on display, how many are asked for, and the page of the subscription list
from which the first one is taken. -/
structure LogBrowser where
  entries : List LogEntry := []
  limit : Option UInt32 := none
  page : Page := {}
deriving DecidableEq, Repr

namespace LogBrowser

/-- A record of the browser. -/
def record (level : LogLevel) (message : String) (fields : List (String × LogValue)) :
    LogRecord where
  level
  target := "hookdesk_console::log_browser"
  message
  fields

/-- What is logged when the list has no first subscription to offer because it failed. -/
def listFailed (fault : Fault) : LogRecord :=
  record .warn "could not list subscriptions for delivery log" [("error", .text fault.message)]

/-- What is logged when the first subscription of the list shows no entries because that
failed. -/
def defaultFailed (id : String) (fault : Fault) : LogRecord :=
  record .warn "could not load delivery log"
    [("subscription_id", .text id), ("error", .text fault.message)]

/-- What is logged when the entries are replaced. -/
def entriesReplaced (entries : List LogEntry) : LogRecord :=
  record .debug "delivery log replaced" [("count", .number entries.length)]

/-- The entries of the first subscription of the list, or none. -/
def defaultEntries (b : LogBrowser) : Conversation (List LogEntry) := do
  match ← Conversation.call (.listSubscriptions b.page) with
  | .error fault =>
    Conversation.note (listFailed fault)
    return []
  | .ok [] => return []
  | .ok (first :: _) =>
    match ← Conversation.call (.listDeliveries first.id b.limit) with
    | .error fault =>
      Conversation.note (defaultFailed first.id fault)
      return []
    | .ok entries => return entries

/-- Loads the entries of the chosen subscription, or of the first one. -/
def load (b : LogBrowser) (subscriptionId : Option String) :
    Conversation (LogBrowser × Except Fault Unit) := do
  match subscriptionId.bind nonBlank? with
  | some id =>
    match ← Conversation.call (.listDeliveries id b.limit) with
    | .error fault => return (b, .error fault)
    | .ok entries =>
      Conversation.note (entriesReplaced entries)
      return ({ b with entries }, .ok ())
  | none =>
    let entries ← b.defaultEntries
    Conversation.note (entriesReplaced entries)
    return ({ b with entries }, .ok ())

/-- What is shown in place of an empty table. -/
def emptyText : String := "No delivery logs found."

/-- The header of the table. -/
def header : List String :=
  ["Date", "Task ID", "Target URL", "Status", "Attempt", "Status Code", "Details"]

/-- The cells of an entry. -/
def row (v : Viewer) (e : LogEntry) : List String :=
  [v.timestamp e.createdAt, e.taskId.getD Time.noneText, e.targetUrl.getD Time.noneText,
    markedStatus e.status, decimalText e.attemptNumber.toNat, statusCodeText e.statusCode,
    detailsText e.errorDetails]

/-- The table of the entries. -/
def renderTable (b : LogBrowser) (v : Viewer) : String :=
  if b.entries.isEmpty then emptyText
  else drawTable header (b.entries.map (row v))

end LogBrowser

end DeliveryDesk.Console

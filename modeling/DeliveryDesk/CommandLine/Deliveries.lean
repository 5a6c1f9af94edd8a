import DeliveryDesk.CommandLine.Subscriptions

/-!
# Commands about deliveries

Sending a test delivery, inspecting a delivery task, reading the delivery log and checking the
service's health. An open inspection offers one more check after every check, whether it
failed or not, until the operator closes it; `rounds` bounds how often it is offered.
-/

namespace DeliveryDesk.CommandLine

open Text Console Errand

namespace Deliveries

open Subscriptions (printResult printTable)

/-! ## Inspection -/

/-- Prints the task on display. -/
def printSurface (v : Viewer) (format : OutputFormat) (c : Console) : Errand Unit :=
  match c.inspector.surface with
  | none => return
  | some s =>
    printResult format s.task.encode do
      print ""
      print (s.render v)

/-- Fetches a task and prints it. The console is kept whatever happens; the second part says
how the check failed, if it did. -/
def inspect (v : Viewer) (client : Client) (format : OutputFormat) (c : Console)
    (taskId : String) : Errand (Console × Option Failure) := do
  let (c, rendered) ← hold client (c.checkDeliveryStatus taskId)
  let (waiting, c) := c.takeNotifications
  notifications v format waiting
  if rendered then
    printSurface v format c
    return (c, none)
  else return (c, some .reported)

/-- Whether a task is on display. -/
def isShowing (c : Console) (taskId : String) : Bool :=
  c.inspector.surface.any fun s => s.task.id == taskId

/-- What is said when an operator goes on forever. -/
def endless : String := "too many rounds"

/-- Offers checks of a task until the operator closes the inspection. -/
def inspectionLoop (v : Viewer) (client : Client) (format : OutputFormat) (taskId : String) :
    (rounds : Nat) → Console → Errand Console
  | 0, _ => fail endless []
  | rounds + 1, c => do
    let check := if isShowing c taskId then "Refresh Status" else "Check Delivery Status"
    let choice ← prompt (.choose ("Delivery task " ++ taskId) [check, "Close"])
    if choice = 0 then
      let (c, _) ← inspect v client format c taskId
      inspectionLoop v client format taskId rounds c
    else return c.closeInspection

/-- Shows a delivery task. -/
def delivery (v : Viewer) (settings : Settings) (rounds : Nat) (taskId : String)
    (interactive : Bool) : Errand Unit := do
  let client ← clientFor settings
  let (c, failure) ← inspect v client settings.format {} taskId
  if interactive && !isBlankText taskId then
    let _ ← inspectionLoop v client settings.format (trim taskId) rounds c
  else
    match failure with
    | some f => throw f
    | none => return

/-! ## Test deliveries -/

/-- Prints the response panel. -/
def printPanel (v : Viewer) (format : OutputFormat) (panel : ResponsePanel) : Errand Unit := do
  if format.isText then heading v "Response"
  if panel.isError && format.isText then print (v.paint (.of .red) panel.content)
  else print panel.content

/-- Dispatches a form and prints the response, whether the service accepted it or not. -/
def dispatch (v : Viewer) (client : Client) (format : OutputFormat) (c : Console)
    (form : DispatchForm) : Errand (Console × Option Failure × Option String) := do
  let (c, taskId) ← hold client (c.sendTest form)
  match c.inspector.response with
  | some panel => printPanel v format panel
  | none => pure ()
  let (waiting, c) := c.takeNotifications
  notifications v format waiting
  return (c, if waiting.any Notification.isError then some .reported else none, taskId)

/-- The payload of a test delivery. -/
def payloadOf (options : SendOptions) : Errand String :=
  match options.payload, options.file with
  | some payload, _ => return payload
  | none, some path => do
    ofFiles ("Could not read payload file " ++ path) (← ofRun (.readFile path .done))
  | none, none => fail "Provide a payload with --payload or --file" []

/-- Sends a test delivery. -/
def send (v : Viewer) (settings : Settings) (options : SendOptions) : Errand Unit := do
  let payload ← payloadOf options
  let eventType := (options.eventType.orElse fun _ => settings.defaultEventType).getD ""
  let client ← clientFor settings
  let form : DispatchForm := ⟨options.subscriptionId, payload, eventType⟩
  let (c, failure, taskId) ← dispatch v client settings.format {} form
  match failure, taskId with
  | some f, _ => throw f
  | none, none => return
  | none, some taskId =>
    if options.inspect then
      let (_, failure) ← inspect v client settings.format c taskId
      match failure with
      | some f => throw f
      | none => return
    else if settings.format.isText then
      hint v ("Check the delivery status with: hookdesk delivery " ++ taskId)

/-! ## Log and health -/

/-- Shows the delivery log. -/
def logs (v : Viewer) (settings : Settings) (subscription : Option String)
    (limit : Option UInt32) : Errand Unit := do
  let client ← clientFor settings
  let (c, loaded) ← hold client ((({} : Console).setLogLimit limit).loadDeliveryLogs subscription)
  let c ← settle v settings.format c loaded
  printResult settings.format (.array (c.logs.entries.map LogEntry.encode))
    (printTable v c.logs.entries.isEmpty (c.logs.renderTable v))

/-- Shows the service's health. -/
def health (v : Viewer) (settings : Settings) : Errand Unit := do
  let client ← clientFor settings
  let (c, loaded) ← hold client ({} : Console).loadHealth
  match c.health.snapshot?.bind fun s => documentOf? settings.format s.encode with
  | some document => print document
  | none => pure ()
  if settings.format.isText then print (c.health.render v)
  let _ ← settle v settings.format c loaded

end Deliveries

end DeliveryDesk.CommandLine

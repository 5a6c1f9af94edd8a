import DeliveryDesk.CommandLine.Deliveries

/-!
# Interactive sessions

A session shows one tab per view and does what the operator chooses: nothing is fetched unless
the operator asks for it. A failed action is reported and the session goes on. `rounds` bounds
how many choices are offered in a row.
-/

namespace DeliveryDesk.CommandLine

open Text Console Errand

namespace Session

open Subscriptions (promptCreate promptEdit)
open Deliveries (dispatch inspectionLoop endless)

/-- The tabs of a session. -/
def tabs : List String :=
  ["Subscriptions", "Send test webhook", "Delivery logs", "System health", "Quit"]

/-- What can be done on the tab of subscriptions. -/
def subscriptionActions : List String := ["Refresh", "Create", "Edit", "Delete", "Back"]

/-- Reports what the console has to say. -/
def flush (v : Viewer) (c : Console) : Errand Console := do
  let (waiting, c) := c.takeNotifications
  notifications v .text waiting
  return c

/-- Lets the operator pick an option. -/
def pick (title : String) (options : List DropdownOption) : Errand String := do
  let choice ← prompt (.choose title (options.map DropdownOption.label))
  return (options[choice]?.map DropdownOption.value).getD ""

/-- Creates a subscription. -/
def create (client : Client) (c : Console) : Errand Console := do
  let form ← promptCreate none none
  return (← hold client (c.createSubscription form)).1

/-- Changes a subscription. -/
def edit (client : Client) (c : Console) : Errand Console := do
  let id ← pick "Subscription to edit" c.registry.dispatchOptions
  let (c, opened) ← hold client (c.openEdit id)
  match opened with
  | none => return c
  | some form => return (← hold client (c.submitEdit (← promptEdit form))).1

/-- Deletes a subscription. Nothing needs to be confirmed where none was picked. -/
def delete (client : Client) (c : Console) : Errand Console := do
  let id ← pick "Subscription to delete" c.registry.dispatchOptions
  let confirmed ← if id.isEmpty then pure true else prompt (.confirm deletePrompt)
  return (← ofRun (Run.hold client confirmed (c.deleteSubscription id))).1

/-- The tab of subscriptions. -/
def subscriptionsTab (v : Viewer) (client : Client) : (rounds : Nat) → Console → Errand Console
  | 0, _ => fail endless []
  | rounds + 1, c => do
    let (c, _) ← hold client c.refreshSubscriptions
    let c ← flush v c
    heading v "Subscriptions"
    print c.registry.renderTable
    match ← prompt (.choose "Action" subscriptionActions) with
    | 0 => subscriptionsTab v client rounds c
    | 1 => subscriptionsTab v client rounds (← flush v (← create client c))
    | 2 => subscriptionsTab v client rounds (← flush v (← edit client c))
    | 3 => subscriptionsTab v client rounds (← flush v (← delete client c))
    | _ => return c

/-- The tab for test deliveries. An accepted delivery is inspected right away. -/
def sendTab (v : Viewer) (client : Client) (settings : Settings) (rounds : Nat) (c : Console) :
    Errand Console := do
  heading v "Send test webhook"
  let subscriptionId ← pick "Subscription" c.registry.dispatchOptions
  let payload ← prompt (.line "Payload (JSON)" "\x7b\x7d" false)
  let eventType ←
    prompt (.line "Event type (optional)" (settings.defaultEventType.getD "") true)
  let (c, failure, _) ← dispatch v client .text c ⟨subscriptionId, payload, eventType⟩
  match failure, c.inspector.checkTarget with
  | none, some taskId => inspectionLoop v client .text taskId rounds c
  | _, _ => return c

/-- The tab of the delivery log. -/
def logsTab (v : Viewer) (client : Client) (c : Console) : Errand Console := do
  heading v "Delivery logs"
  let id ← pick "Subscription" c.registry.logFilterOptions
  let (c, loaded) ← hold client (c.loadDeliveryLogs (if id.isEmpty then none else some id))
  let c ← flush v c
  if loaded then print (c.logs.renderTable v)
  return c

/-- The tab of the service's health. -/
def healthTab (v : Viewer) (client : Client) (c : Console) : Errand Console := do
  heading v "System health"
  let (c, _) ← hold client c.loadHealth
  print (c.health.render v)
  flush v c

/-- Lets the operator go from tab to tab. -/
def tabLoop (v : Viewer) (client : Client) (settings : Settings) :
    (rounds : Nat) → Console → Errand Unit
  | 0, _ => fail endless []
  | rounds + 1, c => do
    print ""
    match ← prompt (.choose "Tab" tabs) with
    | 0 => tabLoop v client settings rounds (← subscriptionsTab v client rounds c)
    | 1 => tabLoop v client settings rounds (← sendTab v client settings rounds c)
    | 2 => tabLoop v client settings rounds (← logsTab v client c)
    | 3 => tabLoop v client settings rounds (← healthTab v client c)
    | _ => return

/-- A whole session. -/
def run (v : Viewer) (settings : Settings) (rounds : Nat) : Errand Unit := do
  let client ← clientFor settings
  print (v.paint (.boldOf .cyan) "hookdesk console" ++ " " ++ faint v settings.apiUrl)
  hint v "Nothing refreshes on its own; pick an action to fetch fresh data."
  let (c, _) ← hold client ({} : Console).refreshSubscriptions
  tabLoop v client settings rounds (← flush v c)

end Session

end DeliveryDesk.CommandLine

import DeliveryDesk.Console.HealthPanel
import DeliveryDesk.Console.Inspector
import DeliveryDesk.Console.LogBrowser
import DeliveryDesk.Console.Notification
import DeliveryDesk.Console.Registry

/-!
# The operator's console

The console brings the views together: the subscription registry, the delivery inspector, the
log browser and the health panel. Every action of the operator runs to its end, changes only
the view it concerns, and reports its outcome by notifications, which wait in order until they
are taken.
-/

namespace DeliveryDesk

/-- The state of the console. -/
structure Console where
  registry : Console.Registry := {}
  inspector : Console.Inspector := {}
  logs : Console.LogBrowser := {}
  health : Console.HealthPanel := .empty
  notifications : List Console.Notification := []
deriving Repr

namespace Console

/-- The console with another page of the subscription list. Nothing is loaded yet. -/
def withPage (c : Console) (page : Page) : Console :=
  { c with registry := { page }, logs := { page } }

/-- Queues a notification. -/
def notify (c : Console) (n : Notification) : Console :=
  { c with notifications := c.notifications ++ [n] }

/-- Takes all notifications, in the order in which they were queued. -/
def takeNotifications (c : Console) : List Notification × Console :=
  (c.notifications, { c with notifications := [] })

/-- Queues the reports of an accepted change: its success, and the failure of the reload if
there was one. -/
def finishMutation {α : Type} (c : Console) (m : Mutation α) (message : String) : Console :=
  let c := c.notify (.success message)
  match m.reloadFault with
  | some fault => c.notify (.failure "load subscriptions" fault)
  | none => c

/-- Reloads the subscription list. -/
def refreshSubscriptions (c : Console) : Conversation (Console × Bool) := do
  let (registry, result) ← c.registry.reload
  let c := { c with registry }
  match result with
  | .ok () => return (c, true)
  | .error fault => return (c.notify (.failure "load subscriptions" fault), false)

/-- Creates a subscription. -/
def createSubscription (c : Console) (form : SubscriptionForm) :
    Conversation (Console × Option Subscription) := do
  let (registry, result) ← c.registry.create form
  let c := { c with registry }
  match result with
  | .ok m => return (c.finishMutation m "Subscription created successfully!", some m.value)
  | .error fault => return (c.notify (.failure "create subscription" fault), none)

/-- Fetches a subscription and fills the form that changes it. -/
def openEdit (c : Console) (id : String) : Conversation (Console × Option EditForm) := do
  match ← Registry.loadForEdit id with
  | .ok form => return (c, some form)
  | .error fault => return (c.notify (.failure "load subscription details" fault), none)

/-- Changes a subscription. -/
def submitEdit (c : Console) (form : EditForm) :
    Conversation (Console × Option Subscription) := do
  let (registry, result) ← c.registry.update form
  let c := { c with registry }
  match result with
  | .ok m => return (c.finishMutation m "Subscription updated successfully!", some m.value)
  | .error fault => return (c.notify (.failure "update subscription" fault), none)

/-- Deletes a subscription once the operator confirms. The result says whether it was
deleted. -/
def deleteSubscription (c : Console) (id : String) : Conversation (Console × Bool) := do
  let (registry, result) ← c.registry.delete id
  let c := { c with registry }
  match result with
  | .ok (some m) => return (c.finishMutation m "Subscription deleted successfully!", true)
  | .ok none => return (c, false)
  | .error fault => return (c.notify (.failure "delete subscription" fault), false)

/-- The report of a dispatch that failed: the service rejected it, or it never got an
answer. -/
def dispatchFailure (fault : Fault) : Notification :=
  match fault.kind with
  | .backend => .error ("Webhook failed: " ++ fault.message)
  | _ => .failure "send webhook" fault

/-- Whether a loaded list lacks the subscription a form names. -/
def isUnknown (c : Console) (form : DispatchForm) : Bool :=
  match nonBlank? form.subscriptionId with
  | some id => c.registry.loaded && !c.registry.contains id
  | none => false

/-- A form passes that names no subscription, or one of the list, or any before a list is
loaded. -/
theorem isUnknown_eq_false_iff {c : Console} {form : DispatchForm} :
    c.isUnknown form = false ↔ Text.trim form.subscriptionId = "" ∨ c.registry.loaded = false ∨
      ∃ s ∈ c.registry.subscriptions, s.id = Text.trim form.subscriptionId := by
  unfold isUnknown
  cases hid : nonBlank? form.subscriptionId with
  | none => simp [nonBlank?_eq_none_iff.mp hid]
  | some id =>
    obtain ⟨named, rfl⟩ := nonBlank?_eq_some_iff.mp hid
    cases c.registry.loaded <;> simp [named, Registry.contains]

/-- Dispatches a test delivery. The result is the task that was created, if one was. -/
def sendTest (c : Console) (form : DispatchForm) : Conversation (Console × Option String) := do
  if c.isUnknown form then
    return (c.notify (.error "Please select a subscription"), none)
  let (inspector, result) ← c.inspector.dispatch form
  let c := { c with inspector }
  match result with
  | .ok taskId => return (c.notify (.success "Webhook sent successfully!"), taskId)
  | .error fault => return (c.notify (dispatchFailure fault), none)

/-- The console after a poll. The result says whether the poll's task is on display. -/
def finishPoll (c : Console) (inspector : Inspector) (result : Except Fault PollOutcome) :
    Console × Bool :=
  let c := { c with inspector }
  match result with
  | .ok outcome => (c, outcome == .rendered)
  | .error fault => (c.notify (.failure "check delivery status" fault), false)

/-- Fetches a delivery task and puts it on display. -/
def checkDeliveryStatus (c : Console) (taskId : String) : Conversation (Console × Bool) := do
  let (inspector, result) ← c.inspector.inspect taskId
  return c.finishPoll inspector result

/-- Fetches the inspected task again. -/
def refreshDeliveryStatus (c : Console) : Conversation (Console × Bool) := do
  let (inspector, result) ← c.inspector.refresh
  return c.finishPoll inspector result

/-- Closes the inspection. -/
def closeInspection (c : Console) : Console :=
  { c with inspector := c.inspector.close }

/-- Limits how many log entries are asked for. -/
def setLogLimit (c : Console) (limit : Option UInt32) : Console :=
  { c with logs := { c.logs with limit } }

/-- Loads the delivery log of a subscription, or of the first one. -/
def loadDeliveryLogs (c : Console) (subscriptionId : Option String) :
    Conversation (Console × Bool) := do
  let (logs, result) ← c.logs.load subscriptionId
  let c := { c with logs }
  match result with
  | .ok () => return (c, true)
  | .error fault => return (c.notify (.failure "load delivery logs" fault), false)

/-- Loads a health snapshot. -/
def loadHealth (c : Console) : Conversation (Console × Bool) := do
  let (health, result) ← HealthPanel.load
  let c := { c with health }
  match result with
  | .ok () => return (c, true)
  | .error fault => return (c.notify (.failure "load health status" fault), false)

end Console

end DeliveryDesk

import DeliveryDesk.Console.Form
import DeliveryDesk.Service
import DeliveryDesk.Text.Table

/-!
# The subscription registry

The registry holds the list that the service reported last. It is only ever replaced as a
whole: the table and the options of both dropdowns are derived from it, and every accepted
change is followed by a reload. A failed reload leaves the list as it was.
-/

namespace DeliveryDesk.Console

open Text

/-- One entry of a dropdown; the placeholder has an empty value. -/
structure DropdownOption where
  value : String
  label : String
deriving DecidableEq, Repr

namespace DropdownOption

/-- Whether nothing is chosen by the entry. -/
def isPlaceholder (o : DropdownOption) : Bool := o.value.isEmpty

/-- The entry of a subscription: its address, and the event types it filters on. -/
def ofSubscription (s : Subscription) : DropdownOption where
  value := s.id
  label :=
    match s.eventFilter with
    | some types => s.targetUrl ++ " (" ++ join ", " types ++ ")"
    | none => s.targetUrl

end DropdownOption

/-- A dropdown: the placeholder, then the subscriptions in order. -/
def dropdownOptions (placeholder : String) (subscriptions : List Subscription) :
    List DropdownOption :=
  ⟨"", placeholder⟩ :: subscriptions.map DropdownOption.ofSubscription

/-- The first entry of the dropdown for dispatches. -/
def dispatchPlaceholder : String := "-- Select a subscription --"

/-- The first entry of the dropdown for delivery logs. -/
def logFilterPlaceholder : String := "All subscriptions"

/-- What the operator confirms before a subscription is deleted. -/
def deletePrompt : String :=
  "Are you sure you want to delete this subscription? This action cannot be undone."

/-- The fault of an action on a subscription when none is chosen. -/
def noSubscriptionChosen : Fault := .validation "Please select a subscription"

/-- The list of subscriptions, whether one was ever loaded, and the page that is asked
for. -/
structure Registry where
  subscriptions : List Subscription := []
  loaded : Bool := false
  page : Page := {}
deriving DecidableEq, Repr

/-- An accepted change, and why the reload after it failed if it did. -/
structure Mutation (α : Type) where
  value : α
  reloadFault : Option Fault

/-- The fault of a result that may have failed. -/
def faultOf {α : Type} : Except Fault α → Option Fault
  | .ok _ => none
  | .error f => some f

namespace Registry

/-- Whether the list has a subscription with an identifier. -/
def contains (r : Registry) (id : String) : Bool :=
  r.subscriptions.any fun s => s.id == id

/-- Replaces the list. -/
def apply (r : Registry) (subscriptions : List Subscription) : Registry :=
  { r with subscriptions, loaded := true }

/-- The dropdown for dispatches. -/
def dispatchOptions (r : Registry) : List DropdownOption :=
  dropdownOptions dispatchPlaceholder r.subscriptions

/-- The dropdown for delivery logs. -/
def logFilterOptions (r : Registry) : List DropdownOption :=
  dropdownOptions logFilterPlaceholder r.subscriptions

/-- A record of the registry. -/
def record (level : LogLevel) (message : String) (field : String × LogValue) : LogRecord where
  level
  target := "hookdesk_console::registry"
  message
  fields := [field]

/-- What is logged when the list is replaced. -/
def listReplaced (subscriptions : List Subscription) : LogRecord :=
  record .debug "subscription list replaced" ("count", .number subscriptions.length)

/-- What is logged of a change that the service has accepted. -/
def changeAccepted (message id : String) : LogRecord := record .info message ("id", .text id)

/-- What is logged when the operator does not confirm a deletion. -/
def deleteDeclined (id : String) : LogRecord := record .debug "delete declined" ("id", .text id)

/-- Fetches the list and replaces it, unless that fails. -/
def reload (r : Registry) : Conversation (Registry × Except Fault Unit) := do
  match ← Conversation.call (.listSubscriptions r.page) with
  | .ok subscriptions =>
    Conversation.note (listReplaced subscriptions)
    return (r.apply subscriptions, .ok ())
  | .error fault => return (r, .error fault)

/-- Reloads after an accepted change. -/
def reloadAfter {α : Type} (r : Registry) (value : α) :
    Conversation (Registry × Mutation α) := do
  let (r, result) ← r.reload
  return (r, ⟨value, faultOf result⟩)

/-- Makes a change and, once the service has accepted it, logs that and reloads the list. -/
def mutate (r : Registry) (change : Call) (accepted : change.Answer → LogRecord) :
    Conversation (Registry × Except Fault (Mutation change.Answer)) := do
  match ← Conversation.call change with
  | .error fault => return (r, .error fault)
  | .ok value =>
    Conversation.note (accepted value)
    let (r, mutation) ← r.reloadAfter value
    return (r, .ok mutation)

/-- Creates a subscription. -/
def create (r : Registry) (form : SubscriptionForm) :
    Conversation (Registry × Except Fault (Mutation Subscription)) :=
  match form.toRequest with
  | .error fault => .done (r, .error fault)
  | .ok request =>
    r.mutate (.createSubscription request) fun created =>
      changeAccepted "subscription created" created.id

/-- Fetches a subscription afresh and fills the form that changes it. -/
def loadForEdit (id : String) : Conversation (Except Fault EditForm) := do
  if isBlankText id then return .error noSubscriptionChosen
  match ← Conversation.call (.getSubscription id) with
  | .error fault => return .error fault
  | .ok subscription => return .ok (EditForm.ofSubscription subscription)

/-- Changes a subscription. -/
def update (r : Registry) (form : EditForm) :
    Conversation (Registry × Except Fault (Mutation Subscription)) :=
  match form.toRequest with
  | .error fault => .done (r, .error fault)
  | .ok request =>
    r.mutate (.updateSubscription form.id request) fun updated =>
      changeAccepted "subscription updated" updated.id

/-- Deletes a subscription once the operator confirms; nothing is asked of the service if
not. -/
def delete (r : Registry) (id : String) :
    Conversation (Registry × Except Fault (Option (Mutation Unit))) :=
  if isBlankText id then .done (r, .error noSubscriptionChosen)
  else
    .confirm deletePrompt fun
      | false => .log (deleteDeclined id) (.done (r, .ok none))
      | true => do
        let (r, result) ← r.mutate (.deleteSubscription id) fun _ =>
          changeAccepted "subscription deleted" id
        return (r, result.map some)

/-- What is shown in place of an empty table. -/
def emptyText : String := "No subscriptions found. Create one to get started."

/-- The row of a subscription. -/
def row (s : Subscription) : List String :=
  [s.id, s.targetUrl, s.eventTypesLabel, s.maskedSecret.getD "None"]

/-- The table of the subscriptions. -/
def renderTable (r : Registry) : String :=
  if r.subscriptions.isEmpty then emptyText
  else drawTable ["ID", "Target URL", "Event Types", "Secret"] (r.subscriptions.map row)

end Registry

end DeliveryDesk.Console

import DeliveryDesk.CommandLine.Errand
import DeliveryDesk.CommandLine.Command

/-!
# Commands about subscriptions

Listing, showing, creating, changing and deleting subscriptions. Where a command line leaves
out what a form needs, the operator is prompted for it.
-/

namespace DeliveryDesk.CommandLine

open Text Console Errand

namespace Subscriptions

/-- Prints a value as a document, or as text where the format is text. -/
def printResult (format : OutputFormat) (value : Json) (asText : Errand Unit) : Errand Unit :=
  match documentOf? format value with
  | some document => print document
  | none => asText

/-- Prints a table, or what stands in for one that is empty. -/
def printTable (v : Viewer) (isEmpty : Bool) (table : String) : Errand Unit :=
  if isEmpty then hint v table else print table

/-- Prints the fields of a subscription. -/
def printFields (v : Viewer) (s : Subscription) : Errand Unit := do
  field v "ID" s.id
  field v "Target URL" s.targetUrl
  field v "Event Types" s.eventTypesLabel
  field v "Secret" (s.maskedSecret.getD Time.noneText)
  field v "Created" (v.optionalTimestamp s.createdAt)
  if s.updatedAt.isSome then field v "Updated" (v.optionalTimestamp s.updatedAt)

/-- Prints a subscription. -/
def printSubscription (v : Viewer) (format : OutputFormat) (s : Subscription) : Errand Unit :=
  printResult format s.encode (printFields v s)

/-! ## Prompts -/

/-- The title of the prompt for event types. -/
def eventTypesTitle : String := "Event types (comma-separated, empty for all)"

/-- A value that was given, or else the answer of a prompt. -/
def givenOr (given : Option String) (ask : Errand String) : Errand String :=
  match given with
  | some s => return s
  | none => ask

/-- Prompts for what a new subscription lacks. -/
def promptCreate (secret eventTypes : Option String) : Errand SubscriptionForm := do
  let targetUrl ← prompt (.line "Target URL" "" false)
  let secret ← givenOr secret (prompt (.secret "Secret (optional)"))
  let eventTypes ← givenOr eventTypes (prompt (.line eventTypesTitle "" true))
  return { targetUrl, secret, eventTypes }

/-- Prompts for every field of a changed subscription, starting with the present values. -/
def promptEdit (form : EditForm) : Errand EditForm := do
  let targetUrl ← prompt (.line "Target URL" form.targetUrl false)
  let secret ← prompt (.secret "New secret (leave empty to keep the current one)")
  let eventTypes ← prompt (.line eventTypesTitle form.eventTypes true)
  return { form with targetUrl, secret, eventTypes }

/-! ## Commands -/

/-- Lists a page of subscriptions. -/
def list (v : Viewer) (settings : Settings) (page : Page) : Errand Unit := do
  let client ← clientFor settings
  let (c, loaded) ← hold client (({} : Console).withPage page).refreshSubscriptions
  let c ← settle v settings.format c loaded
  let subscriptions := c.registry.subscriptions
  printResult settings.format (.array (subscriptions.map Subscription.encode))
    (printTable v subscriptions.isEmpty c.registry.renderTable)

/-- Shows one subscription. -/
def view (v : Viewer) (settings : Settings) (id : String) : Errand Unit := do
  let client ← clientFor settings
  match ← hold client (Conversation.call (.getSubscription id)) with
  | .ok s => printSubscription v settings.format s
  | .error fault =>
    complain v (Notification.failure "load subscription details" fault).message
    throw .reported

/-- Reports a changed subscription. -/
def finish (v : Viewer) (format : OutputFormat) (c : Console) (result : Option Subscription) :
    Errand Unit := do
  let _ ← settle v format c result.isSome
  match result with
  | some s => printSubscription v format s
  | none => return

/-- Creates a subscription. -/
def create (v : Viewer) (settings : Settings) (url secret eventTypes : Option String) :
    Errand Unit := do
  let form ←
    match url with
    | some targetUrl =>
      pure { targetUrl, secret := secret.getD "", eventTypes := eventTypes.getD "" }
    | none => promptCreate secret eventTypes
  let client ← clientFor settings
  let (c, created) ← hold client (({} : Console).createSubscription form)
  finish v settings.format c created

/-- A form with the values of flags in place of its own. -/
def applyFlags (flags : EditFlags) (form : EditForm) : EditForm :=
  { form with
    targetUrl := flags.url.getD form.targetUrl
    secret := flags.secret.getD form.secret
    eventTypes := if flags.clearEventTypes then "" else flags.eventTypes.getD form.eventTypes }

/-- Whether there is any flag. -/
def hasFlags (flags : EditFlags) : Bool :=
  flags.url.isSome || flags.secret.isSome || flags.eventTypes.isSome || flags.clearEventTypes

/-- Changes a subscription. -/
def edit (v : Viewer) (settings : Settings) (id : String) (flags : EditFlags) :
    Errand Unit := do
  let client ← clientFor settings
  let (c, opened) ← hold client (({} : Console).openEdit id)
  match opened with
  | none => let _ ← settle v settings.format c false
  | some form =>
    let form ← if hasFlags flags then pure (applyFlags flags form) else promptEdit form
    let (c, updated) ← hold client (c.submitEdit form)
    finish v settings.format c updated

/-- Deletes a subscription. The operator is asked to confirm it, unless told otherwise. -/
def delete (v : Viewer) (settings : Settings) (id : String) (force : Bool) : Errand Unit := do
  let client ← clientFor settings
  let confirmed ← if force then pure true else prompt (.confirm deletePrompt)
  let (c, deleted) ←
    ofRun (Run.hold client confirmed (({} : Console).deleteSubscription id))
  if confirmed then let _ ← settle v settings.format c deleted
  else print (v.paint (.of .yellow) "Cancelled.")

/-- Carries out a command about subscriptions. -/
def run (v : Viewer) (settings : Settings) : SubscriptionCommand → Errand Unit
  | .list page => list v settings page
  | .view id => view v settings id
  | .create url secret eventTypes => create v settings url secret eventTypes
  | .edit id flags => edit v settings id flags
  | .delete id force => delete v settings id force

end Subscriptions

end DeliveryDesk.CommandLine

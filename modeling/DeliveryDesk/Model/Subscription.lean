import DeliveryDesk.Json.Record
import DeliveryDesk.Text.Blank

/-!
# Subscriptions

A subscription asks the service to deliver events to a target address, all of them or only
those of the listed types. The service never shows the signing secret, only a masked form of
it. Creating and changing a subscription send requests of their own, `NewSubscription` and
`SubscriptionChange`; a change can leave the filter alone, clear it or set it, and these
three are told apart in what is sent.
-/

namespace DeliveryDesk

/-- A subscription as the service reports it. -/
structure Subscription where
  id : String
  targetUrl : String
  eventTypes : Option (List String)
  maskedSecret : Option String
  createdAt : Option String
  updatedAt : Option String
deriving DecidableEq, Repr, Inhabited

namespace Subscription

/-- The event types the subscription filters on. An empty list filters nothing. -/
def eventFilter (s : Subscription) : Option (List String) :=
  match s.eventTypes with
  | some (t :: ts) => some (t :: ts)
  | _ => none

/-- What is shown when every event is delivered. -/
def allEvents : String := "All events"

/-- The event types as one text. -/
def eventTypesLabel (s : Subscription) : String :=
  match s.eventFilter with
  | some types => Text.join ", " types
  | none => allEvents

/-- The names of the fields in declared order. -/
def fieldNames : List (List String) :=
  [["id"], ["target_url"], ["event_types"], ["masked_secret"], ["created_at"], ["updated_at"]]

/-- Reads a subscription. -/
def decode {α : Type} [RecordSource α] (a : α) : Option Subscription := do
  match ← Record.fields? fieldNames a with
  | [id, targetUrl, eventTypes, maskedSecret, createdAt, updatedAt] =>
    return {
      id := ← Record.required Record.text id
      targetUrl := ← Record.required Record.text targetUrl
      eventTypes := ← Record.optional (Record.list Record.text) eventTypes
      maskedSecret := ← Record.optional Record.text maskedSecret
      createdAt := ← Record.optional Record.text createdAt
      updatedAt := ← Record.optional Record.text updatedAt }
  | _ => none

/-- Writes a subscription; the two times are left out when they are unknown. -/
def encode (s : Subscription) : Json :=
  .object <|
    [("id", .string s.id), ("target_url", .string s.targetUrl),
      ("event_types", Json.orNull Json.texts s.eventTypes),
      ("masked_secret", Json.orNull Json.string s.maskedSecret)] ++
    Json.memberIfAny "created_at" .string s.createdAt ++
    Json.memberIfAny "updated_at" .string s.updatedAt

end Subscription

/-- A page of the subscription list. -/
structure Page where
  skip : UInt32 := 0
  limit : UInt32 := 100
deriving DecidableEq, Repr, Inhabited

/-- The request that creates a subscription. -/
structure NewSubscription where
  targetUrl : String
  secret : Option String
  eventTypes : Option (List String)
deriving DecidableEq, Repr

/-- Writes the request; what is not given is left out. -/
def NewSubscription.encode (n : NewSubscription) : Json :=
  .object <|
    [("target_url", .string n.targetUrl)] ++
    Json.memberIfAny "secret" .string n.secret ++
    Json.memberIfAny "event_types" Json.texts n.eventTypes

namespace NewSubscription

/-- The address of a new subscription is always sent. -/
theorem member?_targetUrl (n : NewSubscription) :
    n.encode.member? "target_url" = some (.string n.targetUrl) := by
  obtain ⟨targetUrl, secret, eventTypes⟩ := n
  cases secret <;> cases eventTypes <;> rfl

/-- Its secret is sent if there is one. -/
theorem member?_secret (n : NewSubscription) :
    n.encode.member? "secret" = n.secret.map .string := by
  obtain ⟨targetUrl, secret, eventTypes⟩ := n
  cases secret <;> cases eventTypes <;> rfl

/-- Its event types are sent if there are any. -/
theorem member?_eventTypes (n : NewSubscription) :
    n.encode.member? "event_types" = n.eventTypes.map Json.texts := by
  obtain ⟨targetUrl, secret, eventTypes⟩ := n
  cases secret <;> cases eventTypes <;> rfl

end NewSubscription

/-- What a change does to a field that may be empty. -/
inductive FieldChange (α : Type) where
  | keep
  | clear
  | set (value : α)
deriving DecidableEq, Repr

/-- The request that changes a subscription. Without a secret the stored one stays. -/
structure SubscriptionChange where
  targetUrl : String
  secret : Option String
  eventTypes : FieldChange (List String)
deriving DecidableEq, Repr

/-- Writes the request. A kept filter is left out, a cleared one is null. -/
def SubscriptionChange.encode (c : SubscriptionChange) : Json :=
  .object <|
    [("target_url", .string c.targetUrl)] ++
    Json.memberIfAny "secret" .string c.secret ++
    match c.eventTypes with
    | .keep => []
    | .clear => [("event_types", .null)]
    | .set types => [("event_types", Json.texts types)]

/-- The member that tells the service what to do with a field, if it is to be told anything. -/
def FieldChange.member? {α : Type} (f : α → Json) : FieldChange α → Option Json
  | .keep => none
  | .clear => some .null
  | .set value => some (f value)

namespace SubscriptionChange

/-- The address is always sent with a change. -/
theorem member?_targetUrl (c : SubscriptionChange) :
    c.encode.member? "target_url" = some (.string c.targetUrl) := by
  obtain ⟨targetUrl, secret, eventTypes⟩ := c
  cases secret <;> cases eventTypes <;> rfl

/-- The secret is sent only to be replaced. -/
theorem member?_secret (c : SubscriptionChange) :
    c.encode.member? "secret" = c.secret.map .string := by
  obtain ⟨targetUrl, secret, eventTypes⟩ := c
  cases secret <;> cases eventTypes <;> rfl

/-- The event types are sent to be replaced or, as null, to be cleared. -/
theorem member?_eventTypes (c : SubscriptionChange) :
    c.encode.member? "event_types" = c.eventTypes.member? Json.texts := by
  obtain ⟨targetUrl, secret, eventTypes⟩ := c
  cases secret <;> cases eventTypes <;> rfl

end SubscriptionChange

end DeliveryDesk

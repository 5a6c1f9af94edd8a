import DeliveryDesk.Fault
import DeliveryDesk.Model.Subscription

/-!
# Subscription forms

What the operator types into the forms that create and change a subscription, and the
requests they become. The target address is trimmed and must not be blank; the secret is
taken as it is and left out when empty; event types are separated by commas. In the form that
changes a subscription no event types at all means that the filter is cleared.
-/

namespace DeliveryDesk.Console

open Text

/-- The event types of a comma-separated list: its pieces without surrounding blanks, blank
pieces left out. -/
def eventTypeList (input : String) : List String :=
  ((splitAt ',' input.toList).map fun piece => String.ofList (trimChars piece)).filter
    (!·.isEmpty)

/-- The event types of a comma-separated list, if it names any. -/
def parseEventTypes (input : String) : Option (List String) :=
  match eventTypeList input with
  | [] => none
  | types => some types

/-- The fault of a form without a target address. -/
def targetUrlMissing : Fault := .validation "Target URL is required"

/-- The target address of a form. -/
def requireTargetUrl (input : String) : Except Fault String :=
  if isBlankText input then .error targetUrlMissing
  else .ok (trim input)

/-- What is made from a target address fails exactly when the address is missing. -/
theorem requireTargetUrl_eq_error_iff {α : Type} {input : String} {make : String → α}
    {fault : Fault} :
    (do return make (← requireTargetUrl input)) = Except.error fault ↔
      trim input = "" ∧ fault = targetUrlMissing := by
  rw [trim_eq_empty_iff, requireTargetUrl]
  cases isBlankText input with
  | true => simp [bind, Except.bind, eq_comm]
  | false => simp [bind, Except.bind, pure, Except.pure]

/-- A request that was made was made of the address. -/
theorem exists_eq_of_requireTargetUrl {α : Type} {input : String} {make : String → α} {a : α}
    (made : (do return make (← requireTargetUrl input)) = Except.ok a) : ∃ url, a = make url := by
  cases hurl : requireTargetUrl input with
  | error fault =>
    rw [hurl] at made
    cases made
  | ok url =>
    rw [hurl] at made
    exact ⟨url, (Except.ok.inj made).symm⟩

/-- The secret of a form, if one was typed. -/
def givenSecret (input : String) : Option String :=
  if input.isEmpty then none else some input

/-- The form that creates a subscription. -/
structure SubscriptionForm where
  targetUrl : String
  secret : String := ""
  eventTypes : String := ""
deriving DecidableEq, Repr

/-- The request of the form. -/
def SubscriptionForm.toRequest (f : SubscriptionForm) : Except Fault NewSubscription := do
  let targetUrl ← requireTargetUrl f.targetUrl
  return {
    targetUrl
    secret := givenSecret f.secret
    eventTypes := parseEventTypes f.eventTypes }

/-- The form for a new subscription is refused exactly if its address is blank. -/
theorem SubscriptionForm.toRequest_eq_error_iff {f : SubscriptionForm} {fault : Fault} :
    f.toRequest = .error fault ↔ trim f.targetUrl = "" ∧ fault = targetUrlMissing :=
  requireTargetUrl_eq_error_iff

/-- So a form that was accepted has an address. -/
theorem SubscriptionForm.trim_ne_empty {f : SubscriptionForm} {request : NewSubscription}
    (filled : f.toRequest = .ok request) : trim f.targetUrl ≠ "" := fun missing => by
  cases filled.symm.trans (toRequest_eq_error_iff.mpr ⟨missing, rfl⟩)

/-- The form that changes a subscription. -/
structure EditForm where
  id : String
  targetUrl : String
  secret : String
  eventTypes : String
deriving DecidableEq, Repr

namespace EditForm

/-- The form filled with the current values. The secret is never filled in. -/
def ofSubscription (s : Subscription) : EditForm where
  id := s.id
  targetUrl := s.targetUrl
  secret := ""
  eventTypes :=
    match s.eventFilter with
    | some types => join ", " types
    | none => ""

/-- The request of the form. -/
def toRequest (f : EditForm) : Except Fault SubscriptionChange := do
  let targetUrl ← requireTargetUrl f.targetUrl
  return {
    targetUrl
    secret := givenSecret f.secret
    eventTypes :=
      match parseEventTypes f.eventTypes with
      | some types => .set types
      | none => .clear }

/-- The form for a change is refused exactly if its address is blank. -/
theorem toRequest_eq_error_iff {f : EditForm} {fault : Fault} :
    f.toRequest = .error fault ↔ trim f.targetUrl = "" ∧ fault = targetUrlMissing :=
  requireTargetUrl_eq_error_iff

/-- So a change that was accepted has an address. -/
theorem trim_ne_empty {f : EditForm} {request : SubscriptionChange}
    (filled : f.toRequest = .ok request) : trim f.targetUrl ≠ "" := fun missing => by
  cases filled.symm.trans (toRequest_eq_error_iff.mpr ⟨missing, rfl⟩)

end EditForm

end DeliveryDesk.Console

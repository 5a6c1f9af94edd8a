import DeliveryDesk.Proofs.Form.EventTypes

/-!
# What forms ask of the service

A form becomes a request unless its address is missing, and a request is written as a JSON body. The
two steps have their pitfalls in the same place: an empty secret must not be sent, blank event types
mean that all events are delivered, and in a change the filter can be left alone, cleared or set,
which the body tells apart by a member that is missing, null, or a list.

`SubscriptionForm.toRequest_of_filled` and `EditForm.toRequest_of_filled` give the request of a form
with an address, and `requests_are_exact` the body. That nothing is lost on the way is said by
`NewSubscription.ext_members` and `SubscriptionChange.ext_members`: bodies that hold the same come
from the same request.

`unchanged_form_resubmits_iff` is about a form that is filled with a subscription and sent as it is.
-/

namespace DeliveryDesk

/-- Two values that hold the same under every name. -/
def SameMembers (j j' : Json) : Prop := ∀ key, j.member? key = j'.member? key

/-- Lists of texts that are written alike are the same. -/
theorem texts_injective {ts ts' : List String} (h : Json.texts ts = Json.texts ts') : ts = ts' :=
  List.map_injective_iff.mpr (fun _ _ => Json.string.inj) (Json.array.inj h)

/-- A field is told from what is sent for it whether it is kept, cleared or set, and to what. -/
theorem FieldChange.member?_injective {x y : FieldChange (List String)}
    (h : x.member? Json.texts = y.member? Json.texts) : x = y := by
  cases x with
  | keep =>
    cases y with
    | keep => rfl
    | clear | set => cases h
  | clear =>
    cases y with
    | clear => rfl
    | keep | set => cases h
  | set ts =>
    cases y with
    | set ts' => exact congrArg FieldChange.set (texts_injective (Option.some.inj h))
    | keep | clear => cases h

/-- A secret is told from what is sent for it. -/
theorem secret_ext {secret secret' : Option String}
    (h : secret.map Json.string = secret'.map Json.string) : secret = secret' :=
  Option.map_injective (fun _ _ => Json.string.inj) h

/-- Bodies that hold the same come from the same request. -/
theorem NewSubscription.ext_members {n n' : NewSubscription}
    (same : SameMembers n.encode n'.encode) : n = n' := by
  have hurl := same "target_url"
  have hsecret := same "secret"
  have htypes := same "event_types"
  rw [member?_targetUrl, member?_targetUrl] at hurl
  rw [member?_secret, member?_secret] at hsecret
  rw [member?_eventTypes, member?_eventTypes] at htypes
  obtain ⟨targetUrl, secret, eventTypes⟩ := n
  obtain ⟨targetUrl', secret', eventTypes'⟩ := n'
  obtain rfl : targetUrl = targetUrl' := Json.string.inj (Option.some.inj hurl)
  obtain rfl : secret = secret' := secret_ext hsecret
  obtain rfl : eventTypes = eventTypes' := Option.map_injective (fun _ _ => texts_injective) htypes
  rfl

/-- Two changes that are sent alike, up to the order of their members, are the same. -/
theorem SubscriptionChange.ext_members {c c' : SubscriptionChange}
    (same : SameMembers c.encode c'.encode) : c = c' := by
  have hurl := same "target_url"
  have hsecret := same "secret"
  have htypes := same "event_types"
  rw [member?_targetUrl, member?_targetUrl] at hurl
  rw [member?_secret, member?_secret] at hsecret
  rw [member?_eventTypes, member?_eventTypes] at htypes
  obtain ⟨targetUrl, secret, eventTypes⟩ := c
  obtain ⟨targetUrl', secret', eventTypes'⟩ := c'
  obtain rfl : targetUrl = targetUrl' := Json.string.inj (Option.some.inj hurl)
  obtain rfl : secret = secret' := secret_ext hsecret
  obtain rfl : eventTypes = eventTypes' := FieldChange.member?_injective htypes
  rfl

namespace Console

open Text

/-! ## The request of a form -/

/-- An address that is not blank is taken without the blanks around it. -/
theorem requireTargetUrl_of_filled {input : String} (filled : trim input ≠ "") :
    requireTargetUrl input = .ok (trim input) := by
  rw [requireTargetUrl, trim_ne_empty_iff.mp filled]
  rfl

/-- Only an empty secret is none; blanks are a secret like any other. -/
theorem givenSecret_eq (input : String) :
    givenSecret input = if input = "" then none else some input := by
  unfold givenSecret
  by_cases hempty : input = "" <;> simp [hempty]

/-- The request of a form with an address. -/
theorem SubscriptionForm.toRequest_of_filled {f : SubscriptionForm}
    (filled : trim f.targetUrl ≠ "") :
    f.toRequest = .ok {
      targetUrl := trim f.targetUrl
      secret := if f.secret = "" then none else some f.secret
      eventTypes := if entries f.eventTypes = [] then none else some (entries f.eventTypes) } := by
  rw [toRequest, requireTargetUrl_of_filled filled, parseEventTypes_eq, givenSecret_eq]
  rfl

/-- A change takes no event types at all as the wish to have all of them. -/
theorem EditForm.toRequest_of_filled {f : EditForm} (filled : trim f.targetUrl ≠ "") :
    f.toRequest = .ok {
      targetUrl := trim f.targetUrl
      secret := if f.secret = "" then none else some f.secret
      eventTypes :=
        if entries f.eventTypes = [] then .clear else .set (entries f.eventTypes) } := by
  rw [toRequest, requireTargetUrl_of_filled filled, givenSecret_eq]
  by_cases hentries : entries f.eventTypes = []
  · have hparse : parseEventTypes f.eventTypes = none := by rw [parseEventTypes_eq, if_pos hentries]
    rw [hparse, if_pos hentries]
    rfl
  · have hparse : parseEventTypes f.eventTypes = some (entries f.eventTypes) := by
      rw [parseEventTypes_eq, if_neg hentries]
    rw [hparse, if_neg hentries]
    rfl

/-! ## Bodies -/

/-- A body with the address that was typed, the secret if there is one, and what is said about the
event types. -/
def requestBody (targetUrl secret : String) (eventTypes : List (String × Json)) : Json :=
  .object <|
    [("target_url", .string (trim targetUrl))] ++
    (if secret = "" then [] else [("secret", .string secret)]) ++
    eventTypes

/-- The body that creates a subscription does not mention event types unless there are some. -/
def SubscriptionForm.body (f : SubscriptionForm) : Json :=
  requestBody f.targetUrl f.secret <|
    if entries f.eventTypes = [] then []
    else [("event_types", .array ((entries f.eventTypes).map .string))]

/-- The body that changes a subscription always mentions them. -/
def EditForm.body (f : EditForm) : Json :=
  requestBody f.targetUrl f.secret
    [("event_types",
      if entries f.eventTypes = [] then .null else .array ((entries f.eventTypes).map .string))]

/-- The outcome of a form: a fault of its own if the address is missing, and a request that is
written as `body` if it is not. -/
structure AsksExactly {α : Type} (targetUrl : String) (request : Except Fault α)
    (encode : α → Json) (body : Json) : Prop where
  fails_iff : (∃ fault, request = .error fault) ↔ trim targetUrl = ""
  fails_locally : ∀ fault, request = .error fault → fault.kind = .localValidation
  asks : trim targetUrl ≠ "" → ∃ r, request = .ok r ∧ encode r = body

/-- The form for a new subscription asks for exactly what it holds. -/
theorem SubscriptionForm.asksExactly (f : SubscriptionForm) :
    AsksExactly f.targetUrl f.toRequest NewSubscription.encode f.body where
  fails_iff := by simp [toRequest_eq_error_iff]
  fails_locally fault h := by
    obtain ⟨-, rfl⟩ := toRequest_eq_error_iff.mp h
    rfl
  asks filled := by
    refine ⟨_, toRequest_of_filled filled, ?_⟩
    unfold NewSubscription.encode body requestBody
    by_cases hsecret : f.secret = "" <;> by_cases htypes : entries f.eventTypes = [] <;>
      simp [hsecret, htypes, Json.memberIfAny, Json.texts]

/-- So does the form for a change. -/
theorem EditForm.asksExactly (f : EditForm) :
    AsksExactly f.targetUrl f.toRequest SubscriptionChange.encode f.body where
  fails_iff := by simp [toRequest_eq_error_iff]
  fails_locally fault h := by
    obtain ⟨-, rfl⟩ := toRequest_eq_error_iff.mp h
    rfl
  asks filled := by
    refine ⟨_, toRequest_of_filled filled, ?_⟩
    unfold SubscriptionChange.encode body requestBody
    by_cases hsecret : f.secret = "" <;> by_cases htypes : entries f.eventTypes = [] <;>
      simp [hsecret, htypes, Json.memberIfAny, Json.texts]

/-- **What is typed is what is asked for, and no two requests are written alike.** -/
theorem requests_are_exact :
    (∀ f : SubscriptionForm, AsksExactly f.targetUrl f.toRequest NewSubscription.encode f.body) ∧
    (∀ f : EditForm, AsksExactly f.targetUrl f.toRequest SubscriptionChange.encode f.body) ∧
    (∀ n n' : NewSubscription, SameMembers n.encode n'.encode → n = n') ∧
    (∀ c c' : SubscriptionChange, SameMembers c.encode c'.encode → c = c') :=
  ⟨SubscriptionForm.asksExactly, EditForm.asksExactly, fun _ _ => NewSubscription.ext_members,
    fun _ _ => SubscriptionChange.ext_members⟩

/-- The address loses its blanks and the secret keeps them, and entries that are all blank clear the
filter; an empty filter is not written like one that is cleared. -/
theorem requests_are_exact_blanks :
    (∃ r, (EditForm.mk "sub-1" " http://localhost/hook " " s " " , ,").toRequest = .ok r ∧
      r.encode = .object [("target_url", .string "http://localhost/hook"),
        ("secret", .string " s "), ("event_types", .null)]) ∧
    ¬SameMembers (SubscriptionChange.mk "http://localhost/hook" none (.set [])).encode
      (SubscriptionChange.mk "http://localhost/hook" none .clear).encode := by
  constructor
  · exact (requests_are_exact.2.1 _).asks (by decide)
  · intro same
    cases requests_are_exact.2.2.2 _ _ same

/-! ## A form that is sent as it was filled -/

/-- What the form of a subscription asks for when nothing in it is changed. -/
structure Resubmits (s : Subscription) (r : SubscriptionChange) : Prop where
  targetUrl : r.targetUrl = trim s.targetUrl
  secret : r.secret = none
  unfiltered : s.eventFilter = none → r.eventTypes = .clear
  filtered : ∀ types, s.eventFilter = some types →
    r.eventTypes =
      if types.flatMap entries = [] then .clear else .set (types.flatMap entries)

namespace Resubmits

variable {s : Subscription} {r : SubscriptionChange}

/-- A form that is filled from a subscription and not touched submits it again. -/
theorem of_toRequest (filled : trim s.targetUrl ≠ "")
    (made : (EditForm.ofSubscription s).toRequest = .ok r) : Resubmits s r := by
  rw [EditForm.toRequest_of_filled (by exact filled)] at made
  obtain rfl := Except.ok.inj made
  refine ⟨rfl, rfl, ?_, ?_⟩
  · intro hfilter
    simp only [EditForm.ofSubscription, hfilter]
    rfl
  · intro types hfilter
    simp only [EditForm.ofSubscription, hfilter]
    rw [entries_join]

/-- A filter is never an empty list. -/
theorem ne_nil_of_eventFilter {types : List String} (h : s.eventFilter = some types) :
    types ≠ [] := by
  unfold Subscription.eventFilter at h
  intro hnil
  subst hnil
  split at h <;> cases h

theorem set_iff (h : Resubmits s r) {types : List String} (hfilter : s.eventFilter = some types) :
    r.eventTypes = .set types ↔ ∀ t ∈ types, IsEventType t := by
  have hread : eventTypeList = entries := funext eventTypeList_eq_entries
  rw [h.filtered types hfilter, ← flatMap_eventTypeList_eq_self_iff, hread]
  by_cases hnone : types.flatMap entries = []
  · rw [if_pos hnone, hnone]
    have hne := ne_nil_of_eventFilter hfilter
    exact iff_of_false (fun hset => nomatch hset) fun hnil => hne hnil.symm
  · rw [if_neg hnone]
    exact ⟨FieldChange.set.inj, congrArg FieldChange.set⟩

theorem clear_iff (h : Resubmits s r) {types : List String}
    (hfilter : s.eventFilter = some types) :
    r.eventTypes = .clear ↔ ∀ t ∈ types, ∀ piece ∈ pieces t, trim piece = "" := by
  have hnone : types.flatMap entries = [] ↔ ∀ t ∈ types, ∀ piece ∈ pieces t, trim piece = "" := by
    rw [List.flatMap_eq_nil_iff]
    exact forall₂_congr fun _ _ => entries_eq_nil_iff
  rw [← hnone, h.filtered types hfilter]
  by_cases hempty : types.flatMap entries = []
  · rw [if_pos hempty]
    exact iff_of_true rfl hempty
  · rw [if_neg hempty]
    exact iff_of_false (fun hset => nomatch hset) hempty

end Resubmits

/-- **A form that is sent as it was filled keeps the filter exactly if its texts are event types.**
It keeps the secret too, and nothing else of the subscription than its address and its filter counts
for what is sent. -/
theorem unchanged_form_resubmits {s : Subscription} (filled : trim s.targetUrl ≠ "") :
    ∃ r, (EditForm.ofSubscription s).toRequest = .ok r ∧ Resubmits s r ∧
      (∀ types, s.eventFilter = some types →
        (r.eventTypes = .set types ↔ ∀ t ∈ types, IsEventType t) ∧
        (r.eventTypes = .clear ↔ ∀ t ∈ types, ∀ piece ∈ pieces t, trim piece = "")) ∧
      ∀ s' : Subscription, s'.targetUrl = s.targetUrl → s'.eventTypes = s.eventTypes →
        (EditForm.ofSubscription s').toRequest = .ok r := by
  have made := EditForm.toRequest_of_filled (f := EditForm.ofSubscription s) filled
  have hsent := Resubmits.of_toRequest filled made
  refine ⟨_, made, hsent, fun types hfilter => ⟨hsent.set_iff hfilter, hsent.clear_iff hfilter⟩, ?_⟩
  intro s' hurl htypes
  have hform : EditForm.ofSubscription s' = { EditForm.ofSubscription s with id := s'.id } := by
    unfold EditForm.ofSubscription Subscription.eventFilter
    rw [hurl, htypes]
  rw [hform]
  exact made

/-- A comma in the text of a filter makes two of it. -/
theorem unchanged_form_resubmits_comma :
    ∃ r, (EditForm.ofSubscription
        { id := "sub-1", targetUrl := " http://localhost/hook ",
          eventTypes := some ["order.created", "a, b"], maskedSecret := none, createdAt := none,
          updatedAt := none }).toRequest = .ok r ∧
      r.targetUrl = "http://localhost/hook" ∧
      r.eventTypes = .set ["order.created", "a", "b"] := by
  obtain ⟨r, made, hsent, -⟩ := unchanged_form_resubmits
    (s := { id := "sub-1", targetUrl := " http://localhost/hook ",
            eventTypes := some ["order.created", "a, b"], maskedSecret := none, createdAt := none,
            updatedAt := none }) (by decide)
  have htrim : trim " http://localhost/hook " = "http://localhost/hook" := by decide
  refine ⟨r, made, hsent.targetUrl.trans htrim, (hsent.filtered _ rfl).trans ?_⟩
  decide

end Console

end DeliveryDesk

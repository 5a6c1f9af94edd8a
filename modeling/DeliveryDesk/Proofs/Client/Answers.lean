import DeliveryDesk.Proofs.Client.Addresses

/-!
# What the client makes of a whole answer

Answers are taken apart in three places: most calls have their body decoded, a deletion does not
look at it, and a dispatch keeps it as it is. All of them sort the answers in the same way. The
status alone decides between success and error; an error keeps its status and whatever JSON its
body is; and a success whose body is not what was asked for is a malformed response.

`Client.answer?` says for each call which answer a body holds. `reply_of_success` and
`reply_of_failure` sort by it. `handled` is what becomes of an answer whose body is decoded;
`reply_eq_handled` shows which calls go that way, and `reply_sendTest_eq_handled` that a dispatch
might as well, with a decoder that takes any JSON.

Main result: `answers_are_classified`.
-/

namespace DeliveryDesk.Client

open Text

/-- A body read with a decoder. -/
def readBody? {α : Type} (decode : RawJson → Option α) (body : List UInt8) : Option α :=
  (RawJson.read? (decodeUtf8 body)).bind decode

/-- The answer that a body holds for a call. A deletion wants nothing of it, a dispatch any JSON. -/
def answer? (status : UInt16) (body : List UInt8) : (call : Call) → Option call.Answer
  | .listSubscriptions _ => readBody? (Record.list Subscription.decode) body
  | .getSubscription _ => readBody? Subscription.decode body
  | .createSubscription _ => readBody? Subscription.decode body
  | .updateSubscription _ _ => readBody? Subscription.decode body
  | .deleteSubscription _ => some ()
  | .sendTest _ _ _ => (Json.ofBytes? body).map fun json => ⟨status, json⟩
  | .getDelivery _ => readBody? DeliveryTask.decode body
  | .listDeliveries _ _ => readBody? (Record.list LogEntry.decode) body
  | .status => readBody? HealthSnapshot.decode body

/-- The decoder of a call whose body is decoded. -/
def decoder? : (call : Call) → Option (RawJson → Option call.Answer)
  | .listSubscriptions _ => some (Record.list Subscription.decode)
  | .getSubscription _ => some Subscription.decode
  | .createSubscription _ => some Subscription.decode
  | .updateSubscription _ _ => some Subscription.decode
  | .deleteSubscription _ => none
  | .sendTest _ _ _ => none
  | .getDelivery _ => some DeliveryTask.decode
  | .listDeliveries _ _ => some (Record.list LogEntry.decode)
  | .status => some HealthSnapshot.decode

/-- What becomes of an answer whose body is decoded. -/
def handled {α : Type} (decode : RawJson → Option α) (status : UInt16) (body : List UInt8) :
    Except Fault α :=
  if isSuccessStatus status then readAnswer decode body
  else .error (Fault.ofErrorAnswer status (Json.ofBytes? body))

/-- Takes any JSON as it is. -/
def anyJson (x : RawJson) : Option Json := x.toJson? maxDepth

/-! ## Sorting answers -/

theorem readAnswer_eq {α : Type} (decode : RawJson → Option α) (body : List UInt8) :
    readAnswer decode body = (readBody? decode body).elim (.error unusableBody) .ok := by
  unfold readAnswer readBody?
  cases (RawJson.read? (decodeUtf8 body)).bind decode <;> rfl

/-- A success brings the answer that its body holds, and is malformed if it holds none. -/
theorem reply_of_success {status : UInt16} (success : isSuccessStatus status = true)
    (body : List UInt8) (call : Call) :
    reply call (.answered status body) =
      (answer? status body call).elim (.error unusableBody) .ok := by
  rw [reply, if_pos success]
  cases call with
  | deleteSubscription id => rfl
  | sendTest id payload eventType =>
    rw [successReply, answer?]
    cases Json.ofBytes? body <;> rfl
  | _ => exact readAnswer_eq _ body

/-- An error is kept with its status and its JSON, whatever was asked. -/
theorem reply_of_failure {status : UInt16} (failure : isSuccessStatus status = false)
    (body : List UInt8) (call : Call) :
    reply call (.answered status body) =
      .error (Fault.ofErrorAnswer status (Json.ofBytes? body)) := by
  rw [reply, failure]
  rfl

theorem reply_eq_handled {call : Call} {decode : RawJson → Option call.Answer}
    (decoded : decoder? call = some decode) (status : UInt16) (body : List UInt8) :
    reply call (.answered status body) = handled decode status body := by
  cases call with
  | deleteSubscription | sendTest => cases decoded
  | _ =>
    cases decoded
    rfl

/-- A dispatch sorts its answers as if any JSON were decoded. -/
theorem reply_sendTest_eq_handled (id : String) (payload : Json) (eventType : Option String)
    (status : UInt16) (body : List UInt8) :
    reply (.sendTest id payload eventType) (.answered status body) =
      (handled anyJson status body).map fun json => ⟨status, json⟩ := by
  have hbody : readBody? anyJson body = Json.ofBytes? body := rfl
  cases hstatus : isSuccessStatus status with
  | false =>
    rw [reply_of_failure hstatus, handled, hstatus]
    rfl
  | true =>
    rw [reply_of_success hstatus, handled, if_pos hstatus, readAnswer_eq, hbody, answer?]
    cases Json.ofBytes? body <;> rfl

/-! ## One request and its outcome -/

/-- An event type that is a header value makes no request impossible, and neither does the empty
one, which is not sent. -/
theorem eventType_legal {call : Call}
    (legal : ∀ id payload eventType, call = .sendTest id payload (some eventType) →
      isHeaderValue eventType = true) :
    (endpoint call).eventType.all isHeaderValue = true := by
  cases call with
  | sendTest id payload eventType =>
    cases eventType with
    | none => rfl
    | some eventType =>
      have hvalue := legal id payload eventType rfl
      simp only [endpoint, Option.bind_some]
      split
      · rfl
      · exact hvalue
  | _ => rfl

/-- A call makes its request once, and goes by the outcome. -/
theorem perform_of_request {σ : Type} {c : Client} {call : Call} {r : HttpRequest}
    (made : c.request call = .ok r) (exchange : HttpRequest → σ → HttpOutcome × σ) (s : σ) :
    c.perform exchange call s = (reply call (exchange r s).1, (exchange r s).2) := by
  unfold perform
  rw [made]

/-- **Every whole answer is classified.** A client of a service on the web can make the request of
every call, as long as an event type is a header value. The call makes this request once. If it is
answered at all, an answer with an error status is an error of the service with that status, and
with its body as far as it is JSON; an answer with a success status is the answer that its body
holds for the call, and malformed if it holds none. A dispatch does so in a way of its own, and
comes to the same as a call whose body may be any JSON. -/
theorem answers_are_classified {σ : Type} {baseUrl : String} {userAgent : Option String}
    {c : Client} (built : build baseUrl userAgent = .ok c) {call : Call}
    (legal : ∀ id payload eventType, call = .sendTest id payload (some eventType) →
      isHeaderValue eventType = true) :
    (isWebScheme c.base.scheme = true → ∃ r, c.request call = .ok r) ∧
    (∀ r, c.request call = .ok r →
      (∀ (outcome : HttpRequest → HttpOutcome) (log : List HttpRequest),
        (c.perform (fun r log => (outcome r, log ++ [r])) call log).2 = log ++ [r]) ∧
      ∀ (exchange : HttpRequest → σ → HttpOutcome × σ) (s : σ) (status : UInt16)
        (body : List UInt8), (exchange r s).1 = .answered status body →
        let result : call.Reply := (c.perform exchange call s).1
        (¬ (200 ≤ status ∧ status ≤ 299) →
          ∃ message, result = .error (.backend status message (Json.ofBytes? body))) ∧
        (200 ≤ status ∧ status ≤ 299 →
          (∀ a, result = .ok a ↔ answer? status body call = some a) ∧
          (answer? status body call = none →
            ∃ reason, result = .error (.malformedResponse reason))) ∧
        ∀ decode, decoder? call = some decode → result = handled decode status body) ∧
    ∀ id payload eventType status body,
      reply (.sendTest id payload eventType) (.answered status body) =
        (handled anyJson status body).map fun json => ⟨status, json⟩ := by
  obtain ⟨base, hbase⟩ := segments_of_build built
  refine ⟨fun web => ?_, fun r made => ⟨fun outcome log => ?_, ?_⟩, reply_sendTest_eq_handled⟩
  · exact ⟨_, (request_eq_ok_iff hbase).mpr ⟨web, eventType_legal legal, rfl⟩⟩
  · rw [perform_of_request made]
  · intro exchange s status body answered
    rw [perform_of_request made, answered]
    refine ⟨fun failure => ?_, fun success => ?_, fun decode decoded => ?_⟩
    · rw [← isSuccessStatus_iff, Bool.not_eq_true] at failure
      rw [reply_of_failure failure]
      exact ⟨_, rfl⟩
    · rw [← isSuccessStatus_iff] at success
      rw [reply_of_success success]
      cases answer? status body call with
      | none => exact ⟨fun a => by simp, fun _ => ⟨_, rfl⟩⟩
      | some a => exact ⟨fun a' => by simp, fun h => by cases h⟩
    · exact reply_eq_handled decoded status body

/-- A gateway in front of the service answers a dispatch with a page of its own, which is no
JSON. -/
theorem answers_are_classified_gateway :
    let page : List UInt8 := [60, 104, 116, 109, 108, 62]
    let exchange : HttpRequest → Unit → HttpOutcome × Unit := fun _ s => (.answered 502 page, s)
    ∃ c, build "http://localhost:8000/api/v1" none = .ok c ∧
      ∃ message, (c.perform exchange (.sendTest "s1" .null (some "order.created")) ()).1 =
        .error (.backend 502 message none) := by
  intro page exchange
  let base : Url :=
    { scheme := "http", authority := some { host := .domain "localhost", port := some 8000 },
      path := .segments ["api", "v1"] }
  have built : build "http://localhost:8000/api/v1" none = .ok ⟨base, defaultUserAgent⟩ := rfl
  let call : Call := .sendTest "s1" .null (some "order.created")
  have legal : ∀ id payload eventType, call = .sendTest id payload (some eventType) →
      isHeaderValue eventType = true := by
    intro id payload eventType h
    cases (Call.sendTest.inj h).2.2
    decide
  obtain ⟨hmade, hanswered, -⟩ := answers_are_classified built legal
  obtain ⟨r, made⟩ := hmade (by decide)
  obtain ⟨-, houtcome⟩ := hanswered r made
  obtain ⟨hfailure, -⟩ := houtcome exchange () 502 page rfl
  exact ⟨_, built, hfailure (by decide)⟩

end DeliveryDesk.Client

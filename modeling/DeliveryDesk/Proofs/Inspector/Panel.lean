import DeliveryDesk.Client.Basic
import DeliveryDesk.Proofs.Inspector.Tickets
import DeliveryDesk.Proofs.Json.Meaning

/-!
# The response panel

What the panel shows of a dispatch is decided in two places. The client reads the answer of the
service: it takes a success for a receipt, and everything else for a fault, in which the body of an
error answer is kept if it is JSON. The inspector then shows the body of the receipt, or that of the
fault, or the text of the fault if it has none.

`Client.document?` is what the two have to go by, the status and the JSON that came back.
`Client.perform_sendTest_of_document` and `Client.perform_sendTest_of_none` are the client's part,
`completeDispatch_eq` and the lemmas on `failurePanel` the inspector's. Over a run, the panel shows
the last dispatch that was completed (`run_response`).

What stands in the panel can be pasted into the form as the next payload. It is printed with line
breaks and escapes, and reading undoes them all.

Main results: `panel_shows_last_dispatch` and `shown_answer_can_be_sent_again`.
-/

namespace DeliveryDesk

/-- The status and the JSON that came back for a request. There is none if no whole answer came, or
if its body is no JSON. -/
def HttpOutcome.document? : HttpOutcome → Option (UInt16 × Json)
  | .answered status body => (Json.ofBytes? body).map fun json => (status, json)
  | .brokenOff _ => none
  | .failed => none

namespace Client

variable {σ : Type}

/-- The status and the JSON that came back for a call, if its request could be made. -/
def document? (exchange : HttpRequest → σ → HttpOutcome × σ) (c : Client) (call : Call)
    (s : σ) : Option (UInt16 × Json) :=
  match c.request call with
  | .error _ => none
  | .ok request => (exchange request s).1.document?

/-! ## What the client makes of an answer -/

/-- A request that cannot be made has no body of an answer. -/
theorem body?_of_request_eq_error {c : Client} {call : Call} {fault : Fault}
    (unusable : c.request call = .error fault) : fault.body? = none := by
  simp only [request] at unusable
  split at unusable
  · cases unusable
    rfl
  · split at unusable
    · cases unusable
    · cases unusable
      rfl

/-- An answer in JSON is a receipt if its status reports success, and a fault with that body
otherwise. -/
theorem reply_sendTest_of_document {outcome : HttpOutcome} {status : UInt16} {body : Json}
    (document : outcome.document? = some (status, body)) (id : String) (payload : Json)
    (eventType : Option String) :
    reply (.sendTest id payload eventType) outcome =
      if isSuccessStatus status then .ok ⟨status, body⟩
      else .error (Fault.ofErrorAnswer status (some body)) := by
  cases outcome with
  | brokenOff | failed => cases document
  | answered status' bytes =>
    obtain ⟨body', hbody, ⟨⟩⟩ := Option.map_eq_some_iff.mp document
    simp only [reply, successReply, hbody]

/-- Anything else is a fault without a body. -/
theorem reply_sendTest_of_none {outcome : HttpOutcome} (nothing : outcome.document? = none)
    (id : String) (payload : Json) (eventType : Option String) :
    ∃ fault, fault.body? = none ∧
      reply (.sendTest id payload eventType) outcome = .error fault := by
  cases outcome with
  | brokenOff | failed => exact ⟨_, rfl, rfl⟩
  | answered status bytes =>
    have hbody : Json.ofBytes? bytes = none := Option.map_eq_none_iff.mp nothing
    simp only [reply, successReply, hbody]
    split
    · exact ⟨_, rfl, rfl⟩
    · exact ⟨_, rfl, rfl⟩

/-- What a dispatch brings that was answered in JSON. -/
theorem perform_sendTest_of_document {exchange : HttpRequest → σ → HttpOutcome × σ} {c : Client}
    {id : String} {payload : Json} {eventType : Option String} {s : σ} {status : UInt16}
    {body : Json}
    (document : c.document? exchange (.sendTest id payload eventType) s = some (status, body)) :
    (c.perform exchange (.sendTest id payload eventType) s).1 =
      if isSuccessStatus status then .ok ⟨status, body⟩
      else .error (Fault.ofErrorAnswer status (some body)) := by
  unfold document? at document
  unfold perform
  cases hrequest : c.request (.sendTest id payload eventType) with
  | error fault =>
    rw [hrequest] at document
    cases document
  | ok request =>
    rw [hrequest] at document
    exact reply_sendTest_of_document document id payload eventType

/-- What any other dispatch brings. -/
theorem perform_sendTest_of_none {exchange : HttpRequest → σ → HttpOutcome × σ} {c : Client}
    {id : String} {payload : Json} {eventType : Option String} {s : σ}
    (nothing : c.document? exchange (.sendTest id payload eventType) s = none) :
    ∃ fault, fault.body? = none ∧
      (c.perform exchange (.sendTest id payload eventType) s).1 = .error fault := by
  unfold document? at nothing
  unfold perform
  cases hrequest : c.request (.sendTest id payload eventType) with
  | error fault => exact ⟨fault, body?_of_request_eq_error hrequest, rfl⟩
  | ok request =>
    rw [hrequest] at nothing
    exact reply_sendTest_of_none nothing id payload eventType

end Client

namespace Console.Inspector

open Text History

/-! ## What the inspector shows of a reply -/

/-- The panel of a reply. -/
def panelOf : Except Fault Receipt → ResponsePanel
  | .ok receipt => ⟨receipt.prettyBody, false⟩
  | .error fault => failurePanel fault

/-- Completing a dispatch shows its reply, and offers the task that the reply names. -/
theorem completeDispatch_eq (i : Inspector) (reply : Except Fault Receipt) :
    i.completeDispatch reply =
      ({ i with
          dispatching := false
          checkTarget := offeredTask? reply
          response := some (panelOf reply) },
        reply.map Receipt.taskId?) := by
  cases reply <;> rfl

theorem failurePanel_of_body {fault : Fault} {body : Json} (kept : fault.body? = some body) :
    failurePanel fault = ⟨body.pretty, true⟩ := by
  simp only [failurePanel, kept]

theorem failurePanel_of_none {fault : Fault} (nothing : fault.body? = none) :
    failurePanel fault = ⟨"Error: " ++ fault.message, true⟩ := by
  simp only [failurePanel, nothing]

/-- A task is offered exactly if it is what completing the dispatch returns. -/
theorem map_taskId?_eq_ok_iff {reply : Except Fault Receipt} {taskId : String} :
    reply.map Receipt.taskId? = .ok (some taskId) ↔ offeredTask? reply = some taskId := by
  cases reply with
  | error fault => simp [Except.map, offeredTask?]
  | ok receipt => simp [Except.map, offeredTask?]

section Answered

variable {σ : Type} {exchange : HttpRequest → σ → HttpOutcome × σ} {c : Client} {s : σ}
  {id : String} {payload : Json} {eventType : Option String}

/-- The panel of a dispatch that was answered in JSON shows that JSON. -/
theorem panelOf_of_document {status : UInt16} {body : Json}
    (document : c.document? exchange (.sendTest id payload eventType) s = some (status, body)) :
    panelOf (c.perform exchange (.sendTest id payload eventType) s).1 =
      ⟨body.pretty, !isSuccessStatus status⟩ := by
  rw [Client.perform_sendTest_of_document document]
  cases isSuccessStatus status with
  | true => rfl
  | false =>
    rw [if_neg Bool.false_ne_true]
    exact failurePanel_of_body (Fault.body?_ofErrorAnswer status (some body))

-- the body `null` of an error answer is a body
example : panelOf (Client.reply (.sendTest "s1" .null none) (.answered 503 [110, 117, 108, 108])) =
    ⟨"null", true⟩ := by
  decide

/-- A receipt offers the task that its object names. -/
theorem offeredTask?_receipt_iff {status : UInt16} {body : Json} {taskId : String} :
    offeredTask? (.ok ⟨status, body⟩) = some taskId ↔
      ∃ members, body = .object members ∧ members.lookup "id" = some (.string taskId) ∧
        taskId ≠ "" := by
  constructor
  · intro offered
    obtain ⟨hid, hne⟩ := Receipt.taskId?_eq_some_iff.mp offered
    obtain ⟨members, hbody, hlookup⟩ := Json.member?_eq_some_iff.mp hid
    exact ⟨members, hbody, hlookup, hne⟩
  · rintro ⟨members, hbody, hlookup, hne⟩
    exact Receipt.taskId?_eq_some_iff.mpr
      ⟨Json.member?_eq_some_iff.mpr ⟨members, hbody, hlookup⟩, hne⟩

/-- A task is offered by a success that names it, and by nothing else. -/
theorem offeredTask?_perform_iff {taskId : String} :
    offeredTask? (c.perform exchange (.sendTest id payload eventType) s).1 = some taskId ↔
      ∃ status members,
        c.document? exchange (.sendTest id payload eventType) s = some (status, .object members) ∧
        isSuccessStatus status = true ∧ members.lookup "id" = some (.string taskId) ∧
        taskId ≠ "" := by
  cases hdocument : c.document? exchange (.sendTest id payload eventType) s with
  | none =>
    obtain ⟨fault, -, hreply⟩ := Client.perform_sendTest_of_none hdocument
    rw [hreply]
    simp [offeredTask?]
  | some document =>
    obtain ⟨status, body⟩ := document
    rw [Client.perform_sendTest_of_document hdocument]
    cases hstatus : isSuccessStatus status with
    | false =>
      refine ⟨by rintro ⟨⟩, ?_⟩
      rintro ⟨_, _, ⟨⟩, hsuccess, -⟩
      rw [hstatus] at hsuccess
      cases hsuccess
    | true =>
      rw [if_pos rfl, offeredTask?_receipt_iff]
      constructor
      · rintro ⟨members, rfl, hid, hne⟩
        exact ⟨status, members, rfl, hstatus, hid, hne⟩
      · rintro ⟨_, members, ⟨⟩, -, hid, hne⟩
        exact ⟨members, rfl, hid, hne⟩

end Answered

/-! ## Over a run -/

/-- An event that completes no dispatch leaves the panel alone. -/
theorem response_quiet {h : History} {i i' : Inspector} {e : Event}
    (shown : i.response = h.dispatchReplies.getLast?.map panelOf)
    (hreply : e.dispatchReply? = none) (hresponse : i'.response = i.response) :
    i'.response = (dispatchReplies (h ++ [e])).getLast?.map panelOf := by
  rw [hresponse, shown, dispatchReplies_concat, hreply, Option.toList_none, List.append_nil]

/-- Every transition keeps the last completed dispatch in the panel. -/
theorem Transition.response_eq {h : History} {i i' : Inspector} {e : Event}
    (shown : i.response = h.dispatchReplies.getLast?.map panelOf) (ht : Transition i e i') :
    i'.response = (dispatchReplies (h ++ [e])).getLast?.map panelOf := by
  cases ht with
  | dispatched receipt =>
    rw [dispatchReplies_concat]
    simp [Event.dispatchReply?, panelOf]
  | dispatchFailed fault =>
    rw [dispatchReplies_concat]
    simp [Event.dispatchReply?, panelOf]
  | dispatchRefused => exact response_quiet shown rfl rfl
  | dispatchBegun => exact response_quiet shown rfl rfl
  | pollRefused => exact response_quiet shown rfl rfl
  | pollBegun => exact response_quiet shown rfl rfl
  | discarded => exact response_quiet shown rfl rfl
  | rendered => exact response_quiet shown rfl rfl
  | pollFailed => exact response_quiet shown rfl rfl
  | closed => exact response_quiet shown rfl rfl

/-- After every run the panel shows the dispatch that was completed last. -/
theorem run_response (ops : List Operation) :
    (run {} ops).1.response = (run {} ops).2.dispatchReplies.getLast?.map panelOf :=
  run_induction (P := fun h i => i.response = h.dispatchReplies.getLast?.map panelOf) rfl
    (fun _ _ _ _ shown ht => ht.response_eq shown) ops

/-- **The panel shows the last completed dispatch.** Whatever the service answers to a dispatch, and
whatever the inspector was doing: an answer in JSON is shown as it is, as an error exactly if its
status is no success; anything else is shown as the text of its fault, and that is an error. A task
can be checked afterwards exactly if the status is a success and the answer is an object that names
one, and that task is returned. Over a run the panel is that of the last dispatch to be completed,
and a task that can be checked was named in the very answer that the panel shows. -/
theorem panel_shows_last_dispatch {σ : Type} :
    (∀ (i : Inspector) (exchange : HttpRequest → σ → HttpOutcome × σ) (c : Client) (s : σ)
        (id : String) (payload : Json) (eventType : Option String),
      let call : Call := .sendTest id payload eventType
      let reply : Except Fault Receipt := (c.perform exchange call s).1
      let i' := (i.completeDispatch reply).1
      let result := (i.completeDispatch reply).2
      (∀ status body, c.document? exchange call s = some (status, body) →
        ∃ isError, i'.response = some ⟨body.pretty, isError⟩ ∧
          (isError = true ↔ ¬(200 ≤ status ∧ status ≤ 299))) ∧
      (c.document? exchange call s = none →
        ∃ fault, reply = .error fault ∧
          i'.response = some ⟨"Error: " ++ fault.message, true⟩) ∧
      (∀ taskId, i'.checkTarget = some taskId ↔
        ∃ status members, c.document? exchange call s = some (status, .object members) ∧
          (200 ≤ status ∧ status ≤ 299) ∧ members.lookup "id" = some (.string taskId) ∧
          taskId ≠ "") ∧
      ∀ taskId, result = .ok (some taskId) ↔ i'.checkTarget = some taskId) ∧
    ∀ ops : List Operation,
      let i := (run {} ops).1
      let last := (run {} ops).2.dispatchReplies.getLast?
      i.response = last.map panelOf ∧
      ∀ taskId, i.checkTarget = some taskId →
        ∃ receipt, last = some (.ok receipt) ∧ receipt.taskId? = some taskId ∧
          i.response = some ⟨receipt.prettyBody, false⟩ := by
  refine ⟨?answer, ?run⟩
  case answer =>
    intro i exchange c s id payload eventType call reply i' result
    have hi' : i'.response = some (panelOf reply) ∧ i'.checkTarget = offeredTask? reply := by
      simp only [i', completeDispatch_eq, and_self]
    have hresult : result = reply.map Receipt.taskId? := by
      simp only [result, completeDispatch_eq]
    rw [hi'.1, hi'.2, hresult]
    refine ⟨fun status body document => ?_, fun nothing => ?_, fun taskId => ?_,
      fun taskId => map_taskId?_eq_ok_iff⟩
    · refine ⟨!isSuccessStatus status, congrArg some (panelOf_of_document document), ?_⟩
      rw [← isSuccessStatus_iff]
      simp
    · obtain ⟨fault, hbody, hreply⟩ := Client.perform_sendTest_of_none nothing
      refine ⟨fault, hreply, ?_⟩
      rw [show reply = .error fault from hreply, panelOf, failurePanel_of_none hbody]
    · simp only [reply, call, offeredTask?_perform_iff, isSuccessStatus_iff]
  case run =>
    intro ops i last
    refine ⟨run_response ops, fun taskId htarget => ?_⟩
    rw [(run_dispatches ops).offered] at htarget
    obtain ⟨reply, hlast, hoffer⟩ := Option.bind_eq_some_iff.mp htarget
    cases reply with
    | error fault => cases hoffer
    | ok receipt =>
      refine ⟨receipt, hlast, hoffer, ?_⟩
      rw [run_response, hlast]
      rfl

/-! ## What is shown can be sent -/

/-- **What the panel shows can be sent again.** Take any answer that a text or a body is read as,
and whose numbers are integers. The panel shows it, and a form that chooses a subscription and has
what is shown for its payload is right: the very answer is what will be sent. -/
theorem shown_answer_can_be_sent_again {v : Json}
    (read : (∃ text, Json.parse? text = some v) ∨ ∃ bytes, Json.ofBytes? bytes = some v)
    (integral : v.IsIntegral) {subscriptionId : String} (chosen : trim subscriptionId ≠ "")
    (status : UInt16) (eventType : String) (i : Inspector) :
    let receipt : Receipt := ⟨status, v⟩
    (i.completeDispatch (.ok receipt)).1.response = some ⟨receipt.prettyBody, false⟩ ∧
      DispatchForm.parse ⟨subscriptionId, receipt.prettyBody, eventType⟩ =
        .ok ⟨trim subscriptionId, v, nonBlank? eventType⟩ := by
  intro receipt
  have hpayload : Json.parse? receipt.prettyBody = some v := by
    rcases read with ⟨text, htext⟩ | ⟨bytes, hbytes⟩
    · exact Json.parse?_pretty_of_read htext integral
    · exact Json.parse?_pretty_of_read hbytes integral
  exact ⟨rfl, DispatchForm.parse_eq_ok_iff.mpr ⟨chosen, v, hpayload, rfl⟩⟩

/-- An answer with a repeated name, escapes, an empty array and integers at the limits. -/
theorem shown_answer_can_be_sent_again_limits :
    let text := "\x7b\"q\\\"\\n\": 1, \"a\": [-9223372036854775808, 18446744073709551615, [ ]], " ++
      "\"q\\\"\\n\": \"\\u0001\\/\"\x7d"
    ∃ v, Json.parse? text = some v ∧ v.IsIntegral ∧
      DispatchForm.parse ⟨" sub-1 ", Receipt.prettyBody ⟨202, v⟩, " "⟩ = .ok ⟨"sub-1", v, none⟩ ∧
      v.compact = "\x7b\"a\":[-9223372036854775808,18446744073709551615,[]]," ++
        "\"q\\\"\\n\":\"\\u0001/\"\x7d" := by
  intro text
  have hread : ∃ v ∈ Json.parse? text, (∀ n ∈ v.numbers, n.isInteger = true) ∧
      v.compact = "\x7b\"a\":[-9223372036854775808,18446744073709551615,[]]," ++
        "\"q\\\"\\n\":\"\\u0001/\"\x7d" := by
    decide +kernel
  obtain ⟨v, hparse, hnumbers, hcompact⟩ := hread
  have chosen : trim " sub-1 " ≠ "" := by decide
  have hform := (shown_answer_can_be_sent_again (.inl ⟨text, hparse⟩) hnumbers chosen 202 " " {}).2
  exact ⟨v, hparse, hnumbers, hform, hcompact⟩

end Console.Inspector

end DeliveryDesk

import DeliveryDesk.Console.Notification
import DeliveryDesk.Proofs.Client.Answers
import DeliveryDesk.Proofs.Json.Numbers

/-!
# What an error answer says

The service explains an error in a member `detail` of the answer's body. The explanation may be
wrapped: where the detail is an object that has a member `detail` itself, that one counts. `Leads`
follows the details inwards, and `Says` is what can be read of the value at their end: a text, the
messages of a list, or the value itself in its written form. Null and the empty text say nothing;
neither does a body without a detail, nor one that cannot be read as JSON (`Unexplained`).

The reader of details goes along with all that: it does not mind wrappers
(`Leads.detailMessage?_eq`), and at the end of the details it finds what is said
(`Says.detailMessage?_eq`, `says_of_detailMessage?`) or nothing (`detailMessage?_eq_none_iff`).

Main results: `error_details_are_found`, and `message_is_empty_iff` with a body that leads to an
error without any text, `empty_item_message_is_kept`.
-/

namespace DeliveryDesk

open Text

/-! ## Written forms are not empty -/

/-- Joining texts gives an empty text only if there is nothing to join and no separator. -/
theorem Text.join_eq_empty_iff {sep : String} (hsep : sep ≠ "") {ss : List String} :
    join sep ss = "" ↔ ss = [] ∨ ss = [""] := by
  rw [join, ← String.toList_eq_nil_iff, String.toList_intercalate]
  match ss with
  | [] => simp
  | [s] => simp [String.toList_eq_nil_iff]
  | s :: s' :: ss => simp [List.intercalate, String.toList_eq_nil_iff, hsep]

theorem Json.numberText_ne_empty (n : JsonNumber) : Json.numberText n ≠ "" := by
  rw [ne_eq, ← String.toList_eq_nil_iff, n.toList_numberText]
  have hchars : n.numeral.chars ≠ [] := by
    simp [Numeral.chars, n.wellFormed_numeral.whole_ne]
  cases n.isNegative with
  | true => simp
  | false => simpa using hchars

/-- Every value is written with at least one character. -/
theorem Json.compact_ne_empty (v : Json) : v.compact ≠ "" := by
  rw [ne_eq, ← String.toList_eq_nil_iff, compact, String.toList_ofList]
  cases v with
  | null => decide
  | bool b => cases b <;> decide
  | number n =>
    rw [compactChars, String.toList_eq_nil_iff]
    exact numberText_ne_empty n
  | string s => exact List.cons_ne_nil _ _
  | array items => exact List.cons_ne_nil _ _
  | object members => exact List.cons_ne_nil _ _

namespace Fault

theorem genericMessage_ne_empty (status : UInt16) : genericMessage status ≠ "" := by
  unfold genericMessage
  simp

/-! ## Following the details -/

/-- From one value to another through so many members `detail`. -/
inductive Leads : Nat → Json → Json → Prop where
  | here (v : Json) : Leads 0 v v
  | inside {n : Nat} {v inner w : Json} (detail : v.member? "detail" = some inner)
      (rest : Leads n inner w) : Leads (n + 1) v w

theorem wrappedMessage?_eq (members : List (String × Json)) :
    wrappedMessage? members = (members.lookup "detail").map detailMessage? := by
  induction members with
  | nil => rfl
  | cons m rest ih =>
    obtain ⟨key, value⟩ := m
    rw [wrappedMessage?, List.lookup_cons]
    by_cases hkey : key = "detail"
    · simp [hkey]
    · have hbeq : ("detail" == key) = false := beq_false_of_ne (Ne.symm hkey)
      rw [if_neg hkey, hbeq, ih]

/-- A wrapper says what is in it. -/
theorem detailMessage?_of_detail {v inner : Json} (detail : v.member? "detail" = some inner) :
    detailMessage? v = detailMessage? inner := by
  obtain ⟨members, rfl, hlookup⟩ := Json.member?_eq_some_iff.mp detail
  rw [detailMessage?, wrappedMessage?_eq, hlookup]
  rfl

/-- Neither does it matter how many there are. -/
theorem Leads.detailMessage?_eq {n : Nat} {v w : Json} (leads : Leads n v w) :
    detailMessage? v = detailMessage? w := by
  induction leads with
  | here v => rfl
  | inside detail _ ih => rw [detailMessage?_of_detail detail, ih]

/-- A member is smaller than its object. -/
theorem sizeOf_lt_of_member? {key : String} {v inner : Json} (h : v.member? key = some inner) :
    sizeOf inner < sizeOf v := by
  obtain ⟨members, rfl, hlookup⟩ := Json.member?_eq_some_iff.mp h
  obtain ⟨front, back, rfl, -⟩ := List.lookup_eq_some_iff.mp hlookup
  have hmem : (key, inner) ∈ front ++ (key, inner) :: back :=
    List.mem_append_right front List.mem_cons_self
  have hsize := List.sizeOf_lt_of_mem hmem
  rw [Prod.mk.sizeOf_spec] at hsize
  rw [Json.object.sizeOf_spec]
  omega

/-- The details come to an end. -/
theorem exists_leads (v : Json) : ∃ n w, Leads n v w ∧ w.member? "detail" = none := by
  cases hdetail : v.member? "detail" with
  | none => exact ⟨0, v, .here v, hdetail⟩
  | some inner =>
    obtain ⟨n, w, leads, hend⟩ := exists_leads inner
    exact ⟨n + 1, w, .inside hdetail leads, hend⟩
termination_by sizeOf v
decreasing_by exact sizeOf_lt_of_member? hdetail

/-! ## The end of the details -/

/-- The messages of the items of a list: the texts of their members `msg`, in order. An item without
such a text has none. -/
inductive Messages : List Json → List String → Prop where
  | nil : Messages [] []
  | text {item : Json} {items : List Json} {message : String} {messages : List String}
      (carries : item.member? "msg" = some (.string message)) (rest : Messages items messages) :
      Messages (item :: items) (message :: messages)
  | silent {item : Json} {items : List Json} {messages : List String}
      (carriesNone : ∀ message, item.member? "msg" ≠ some (.string message))
      (rest : Messages items messages) : Messages (item :: items) messages

/-- What a value at the end of the details says. -/
inductive Says : Json → String → Prop where
  | text {s : String} (nonempty : s ≠ "") : Says (.string s) s
  | messages {items : List Json} {messages : List String} (carried : Messages items messages)
      (any : messages ≠ []) : Says (.array items) (join "; " messages)
  | items {items : List Json} (silent : Messages items []) :
      Says (.array items) (Json.array items).compact
  | members {members : List (String × Json)}
      (last : (Json.object members).member? "detail" = none) :
      Says (.object members) (Json.object members).compact
  | number (n : JsonNumber) : Says (.number n) (Json.number n).compact
  | bool (b : Bool) : Says (.bool b) (Json.bool b).compact

theorem message?_eq_some_iff {item : Json} {message : String} :
    (item.member? "msg").bind Json.text? = some message ↔
      item.member? "msg" = some (.string message) := by
  cases item.member? "msg" with
  | none => simp
  | some v => cases v <;> simp [Json.text?]

theorem messages_iff {items : List Json} {messages : List String} :
    Messages items messages ↔ itemMessages items = messages := by
  constructor
  · intro h
    induction h with
    | nil => rfl
    | text carries _ ih =>
      rw [itemMessages, List.filterMap_cons, message?_eq_some_iff.mpr carries]
      exact congrArg _ ih
    | @silent item items messages carriesNone _ ih =>
      have hitem : (item.member? "msg").bind Json.text? = none :=
        Option.eq_none_iff_forall_ne_some.mpr fun message hmessage =>
          carriesNone message (message?_eq_some_iff.mp hmessage)
      rw [itemMessages, List.filterMap_cons, hitem]
      exact ih
  · rintro rfl
    induction items with
    | nil => exact .nil
    | cons item items ih =>
      rw [itemMessages, List.filterMap_cons]
      cases hitem : (item.member? "msg").bind Json.text? with
      | none =>
        refine .silent (fun message hmessage => ?_) ih
        rw [message?_eq_some_iff.mpr hmessage] at hitem
        cases hitem
      | some message => exact .text (message?_eq_some_iff.mp hitem) ih

/-- What a value says is found in it. -/
theorem Says.detailMessage?_eq {w : Json} {message : String} (said : Says w message) :
    detailMessage? w = some message := by
  cases said with
  | text nonempty => rw [detailMessage?, if_neg fun hs => nonempty (String.isEmpty_iff.mp hs)]
  | @messages items messages carried hne =>
    rw [detailMessage?, messages_iff.mp carried]
    cases messages with
    | nil => exact absurd rfl hne
    | cons => rfl
  | items silent => rw [detailMessage?, messages_iff.mp silent]
  | members last =>
    rw [Json.member?] at last
    rw [detailMessage?, wrappedMessage?_eq, last]
    rfl
  | number n => rfl
  | bool b => rfl

/-- What is found at the end of the details is said there. -/
theorem says_of_detailMessage? {w : Json} (last : w.member? "detail" = none) {message : String}
    (found : detailMessage? w = some message) : Says w message := by
  cases w with
  | null => cases found
  | bool b =>
    cases found
    exact .bool b
  | number n =>
    cases found
    exact .number n
  | string s =>
    rw [detailMessage?] at found
    split at found
    · cases found
    · next hne =>
      cases found
      exact .text fun hs => hne (String.isEmpty_iff.mpr hs)
  | array items =>
    rw [detailMessage?] at found
    split at found
    · next hnone =>
      cases found
      exact .items (messages_iff.mpr hnone)
    · next hsome =>
      cases found
      exact .messages (messages_iff.mpr rfl) hsome
  | object members =>
    have hlookup : members.lookup "detail" = none := last
    rw [detailMessage?, wrappedMessage?_eq, hlookup] at found
    cases found
    exact .members last

/-- Nothing is found there exactly if the details end in null or in the empty text. -/
theorem detailMessage?_eq_none_iff {w : Json} (last : w.member? "detail" = none) :
    detailMessage? w = none ↔ w = .null ∨ w = .string "" := by
  cases w with
  | null => simp [detailMessage?]
  | bool b => simp [detailMessage?]
  | number n => simp [detailMessage?]
  | string s => simp [detailMessage?]
  | array items =>
    rw [detailMessage?]
    split <;> simp
  | object members =>
    rw [Json.member?] at last
    rw [detailMessage?, wrappedMessage?_eq, last]
    simp

/-- Only a list whose items carry one message, the empty text, says nothing that can be seen. -/
theorem Says.eq_empty_iff {w : Json} {message : String} (said : Says w message) :
    message = "" ↔ ∃ items, w = .array items ∧ Messages items [""] := by
  cases said with
  | text nonempty => simp [nonempty]
  | @messages items messages carried hne =>
    rw [join_eq_empty_iff (by decide), or_iff_right hne]
    constructor
    · rintro rfl
      exact ⟨items, rfl, carried⟩
    · rintro ⟨_, ⟨⟩, hempty⟩
      rw [← messages_iff.mp carried, messages_iff.mp hempty]
  | @items items silent =>
    refine ⟨fun h => absurd h (Json.compact_ne_empty _), ?_⟩
    rintro ⟨_, ⟨⟩, hempty⟩
    cases (messages_iff.mp silent).symm.trans (messages_iff.mp hempty)
  | members => simp [Json.compact_ne_empty]
  | number => simp [Json.compact_ne_empty]
  | bool => simp [Json.compact_ne_empty]

/-! ## Bodies -/

/-- The body of an error answer says nothing: it cannot be read, it has no detail, or the details
end in null or in the empty text. -/
inductive Unexplained : Option Json → Prop where
  | unread : Unexplained none
  | noDetail {body : Json} (missing : body.member? "detail" = none) : Unexplained (some body)
  | null {n : Nat} {body : Json} (leads : Leads (n + 1) body .null) : Unexplained (some body)
  | emptyText {n : Nat} {body : Json} (leads : Leads (n + 1) body (.string "")) :
      Unexplained (some body)

/-- A body explains an error by what is said at the end of its details. -/
def Explains (body : Option Json) (message : String) : Prop :=
  ∃ v n w, body = some v ∧ Leads (n + 1) v w ∧ Says w message

/-- The message of an error comes from wherever the details of its body lead. -/
theorem Leads.message_eq {n : Nat} {v w : Json} (leads : Leads (n + 1) v w) (status : UInt16) :
    (ofErrorAnswer status (some v)).message = (detailMessage? w).getD (genericMessage status) := by
  cases leads with
  | inside detail rest =>
    rw [← rest.detailMessage?_eq]
    unfold ofErrorAnswer
    rw [Option.bind_some, detail]
    rfl

theorem Explains.message_eq {body : Option Json} {message : String}
    (explains : Explains body message) (status : UInt16) :
    (ofErrorAnswer status body).message = message := by
  obtain ⟨v, n, w, rfl, leads, said⟩ := explains
  rw [leads.message_eq, said.detailMessage?_eq]
  rfl

theorem Unexplained.message_eq {body : Option Json} (unexplained : Unexplained body)
    (status : UInt16) : (ofErrorAnswer status body).message = genericMessage status := by
  cases unexplained with
  | unread => rfl
  | noDetail missing =>
    unfold ofErrorAnswer
    rw [Option.bind_some, missing]
    rfl
  | null leads =>
    rw [leads.message_eq]
    rfl
  | emptyText leads =>
    rw [leads.message_eq]
    rfl

/-- Every body that explains nothing is of one of the four kinds. -/
theorem unexplained_or_explains (body : Option Json) :
    Unexplained body ∨ ∃ message, Explains body message := by
  cases body with
  | none => exact .inl .unread
  | some v =>
    obtain ⟨n, w, leads, last⟩ := exists_leads v
    cases n with
    | zero =>
      -- no detail at all: the body is the end of its own details
      cases leads
      exact .inl (.noDetail last)
    | succ n =>
      cases hmessage : detailMessage? w with
      | none =>
        rcases (detailMessage?_eq_none_iff last).mp hmessage with rfl | rfl
        · exact .inl (.null leads)
        · exact .inl (.emptyText leads)
      | some message =>
        exact .inr ⟨message, v, n, w, rfl, leads, says_of_detailMessage? last hmessage⟩

/-- And those explain nothing. -/
theorem Unexplained.not_explains {body : Option Json} (unexplained : Unexplained body)
    (message : String) : ¬Explains body message := by
  rintro ⟨v, n, w, rfl, leads, said⟩
  have hmessage := leads.detailMessage?_eq.trans said.detailMessage?_eq
  cases unexplained with
  | noDetail missing =>
    cases leads with
    | inside detail rest => cases missing.symm.trans detail
  | null leads' =>
    rw [leads'.detailMessage?_eq] at hmessage
    cases hmessage
  | emptyText leads' =>
    rw [leads'.detailMessage?_eq] at hmessage
    cases hmessage

theorem unexplained_iff {body : Option Json} :
    Unexplained body ↔ ∀ message, ¬Explains body message := by
  constructor
  · exact Unexplained.not_explains
  · intro silent
    rcases unexplained_or_explains body with unexplained | ⟨message, explains⟩
    · exact unexplained
    · exact absurd explains (silent message)

/-! ## Error answers -/

/-- An answer is an error if its status is outside the range of successes. -/
theorem reply_of_errorStatus {status : UInt16} (failure : ¬(200 ≤ status ∧ status ≤ 299))
    (call : Call) (bytes : List UInt8) :
    Client.reply call (.answered status bytes) =
      .error (ofErrorAnswer status (Json.ofBytes? bytes)) := by
  rw [← isSuccessStatus_iff, Bool.not_eq_true] at failure
  exact Client.reply_of_failure failure bytes call

/-- **The explanation of an error is found, however it is wrapped.** An answer with an error status
is an error of the service, with that status and with the whole body as far as it can be read. Its
message is what is said at the end of the details of the body; it is the generic one for the status
if the body cannot be read, has no detail, or has details that end in null or in the empty text, and
every other body says something. Wrappers make no difference, whatever else is in them: the message
is the same as for a body that has the wrapped value as its detail right away. -/
theorem error_details_are_found {status : UInt16} (failure : ¬(200 ≤ status ∧ status ≤ 299)) :
    (∀ (call : Call) (bytes : List UInt8), Client.reply call (.answered status bytes) =
      .error (ofErrorAnswer status (Json.ofBytes? bytes))) ∧
    ∀ body : Option Json, ∃ message, ofErrorAnswer status body = .backend status message body ∧
      (Unexplained body ↔ ∀ m, ¬Explains body m) ∧
      (Unexplained body → message = "request failed with status " ++ decimalText status.toNat) ∧
      (∀ m, Explains body m → message = m) ∧
      ∀ n v d, body = some v → Leads (n + 1) v d →
        ∀ unwrapped, Leads 1 unwrapped d →
          ofErrorAnswer status (some unwrapped) = .backend status message (some unwrapped) := by
  refine ⟨reply_of_errorStatus failure, fun body => ?_⟩
  refine ⟨(ofErrorAnswer status body).message, rfl, unexplained_iff, fun unexplained => ?_,
    fun m explains => ?_, fun n v d hbody leads unwrapped direct => ?_⟩
  · exact unexplained.message_eq status
  · exact explains.message_eq status
  · subst hbody
    rw [leads.message_eq, ← direct.message_eq]
    rfl

/-- A limit that was reached is told in a wrapper that holds the limit as well. -/
theorem error_details_are_found_wrapped :
    let text := "\x7b\"detail\":\x7b\"detail\":\"Slow down\",\"limit\":5\x7d\x7d"
    ∃ body, Client.reply .status (.answered 429 (text.toList.flatMap encodeChar)) =
      .error (.backend 429 "Slow down" (some body)) ∧ body.compact = text := by
  intro text
  have hread : ∃ v ∈ Json.ofBytes? (text.toList.flatMap encodeChar), v.compact = text ∧
      ∃ wrapper ∈ v.member? "detail", ∃ d ∈ wrapper.member? "detail",
        d.text? = some "Slow down" := by
    decide +kernel
  obtain ⟨v, hv, hcompact, wrapper, hwrapper, d, hd, htext⟩ := hread
  have hsaid : Says d "Slow down" := by
    cases d with
    | string s =>
      cases htext
      exact .text (by decide)
    | _ => cases htext
  have failure : ¬((200 : UInt16) ≤ 429 ∧ (429 : UInt16) ≤ 299) := by decide
  obtain ⟨hreply, hbody⟩ := error_details_are_found failure
  obtain ⟨message, hfault, -, -, hexplained, -⟩ := hbody (some v)
  have hmessage : message = "Slow down" :=
    hexplained _ ⟨v, 1, d, rfl, .inside hwrapper (.inside hd (.here d)), hsaid⟩
  refine ⟨v, ?_, hcompact⟩
  rw [hreply, show Json.ofBytes? _ = some v from hv, hfault, hmessage]

/-- **When an error has no message.** The error of an answer with an error status has an empty
message exactly if the details of its body end in a list whose items carry one message, and that is
the empty text. A notification of the failed action ends with the message behind a colon. -/
theorem message_is_empty_iff {status : UInt16} (failure : ¬(200 ≤ status ∧ status ≤ 299))
    (call : Call) (bytes : List UInt8) :
    ∃ fault : Fault, Client.reply call (.answered status bytes) = .error fault ∧
      (∃ message, fault = .backend status message (Json.ofBytes? bytes)) ∧
      (fault.message = "" ↔ ∃ v n items, Json.ofBytes? bytes = some v ∧
        Leads (n + 1) v (.array items) ∧ Messages items [""]) ∧
      ∀ action, Console.Notification.failure action fault =
        .error ("Failed to " ++ action ++ ": " ++ fault.message) := by
  refine ⟨_, reply_of_errorStatus failure call bytes, ⟨_, rfl⟩, ?_, fun action => rfl⟩
  constructor
  · intro hempty
    rcases unexplained_or_explains (Json.ofBytes? bytes) with unexplained | ⟨message, explains⟩
    · rw [unexplained.message_eq] at hempty
      exact absurd hempty (genericMessage_ne_empty status)
    · rw [explains.message_eq] at hempty
      obtain ⟨v, n, w, hbody, leads, said⟩ := explains
      obtain ⟨items, rfl, carried⟩ := said.eq_empty_iff.mp hempty
      exact ⟨v, n, items, hbody, leads, carried⟩
  · rintro ⟨v, n, items, hbody, leads, carried⟩
    have said : Says (.array items) (join "; " [""]) := .messages carried (by decide)
    rw [hbody, Explains.message_eq ⟨v, n, _, rfl, leads, said⟩]
    rfl

/-- An empty message inside a wrapper, beside an item without one. -/
theorem message_is_empty_iff_wrapped :
    let text := "\x7b\"detail\":\x7b\"detail\":[\x7b\"msg\":\"\"\x7d,\x7b\"loc\":[]\x7d]\x7d\x7d"
    let bytes := text.toList.flatMap encodeChar
    ∃ fault v items, Client.reply .status (.answered 422 bytes) = .error fault ∧
      Json.ofBytes? bytes = some v ∧ Leads 2 v (.array items) ∧ Messages items [""] ∧
      fault.message = "" := by
  intro text bytes
  have hread : ∃ v ∈ Json.ofBytes? bytes, ∃ wrapper ∈ v.member? "detail",
      ∃ d ∈ wrapper.member? "detail", (d.member? "detail").isNone = true ∧
        detailMessage? d = some "" := by
    decide +kernel
  obtain ⟨v, hv, wrapper, hwrapper, d, hd, hlast, hmessage⟩ := hread
  have hsaid := says_of_detailMessage? (Option.isNone_iff_eq_none.mp hlast) hmessage
  obtain ⟨items, rfl, carried⟩ := hsaid.eq_empty_iff.mp rfl
  have leads : Leads 2 v (.array items) := .inside hwrapper (.inside hd (.here _))
  have failure : ¬((200 : UInt16) ≤ 422 ∧ (422 : UInt16) ≤ 299) := by decide
  obtain ⟨fault, hreply, -, hempty, -⟩ := message_is_empty_iff failure .status bytes
  exact ⟨fault, v, items, hreply, hv, leads, carried,
    hempty.mpr ⟨v, 1, items, hv, leads, carried⟩⟩

/-- **An error without a message.** An item of a list with an empty message is taken for an
explanation, and the notification of the failed action ends behind its colon. -/
theorem empty_item_message_is_kept :
    let text := "\x7b\"detail\":[\x7b\"msg\":\"\"\x7d]\x7d"
    ∃ body, Client.reply (.listSubscriptions {}) (.answered 422 (text.toList.flatMap encodeChar)) =
        .error (.backend 422 "" (some body)) ∧ body.compact = text ∧
      Console.Notification.failure "load subscriptions" (.backend 422 "" (some body)) =
        .error "Failed to load subscriptions: " := by
  intro text
  have hread : ∃ v ∈ Json.ofBytes? (text.toList.flatMap encodeChar), v.compact = text ∧
      (ofErrorAnswer 422 (some v)).message = "" := by
    decide +kernel
  obtain ⟨v, hv, hcompact, hmessage⟩ := hread
  have hfault : ofErrorAnswer 422 (some v) = .backend 422 "" (some v) :=
    congrArg (Fault.backend 422 · (some v)) hmessage
  refine ⟨v, ?_, hcompact, by rfl⟩
  rw [reply_of_errorStatus (by decide), show Json.ofBytes? _ = some v from hv, hfault]

end Fault

end DeliveryDesk

import DeliveryDesk.Proofs.Console.Course

/-!
# When a test delivery is dispatched

A form is looked at twice before it is dispatched. The console wants the subscription to be one of
those that are loaded, if any are; the inspector wants a subscription to be named and the payload
to be JSON, and has only one dispatch in flight. Both trim what was typed, each for itself.

`Dispatchable` is what both of them ask for together, and `dispatchable_iff` says so. Since nothing
is in flight between actions, there is nothing else that could stop a dispatch:
`dispatches_iff_dispatchable` gives the one call that is made when a form is dispatchable, says that
there is none otherwise, and says which tasks come out of it.
-/

namespace DeliveryDesk.Console

open Text

/-- What a form must have to be dispatched. -/
structure Dispatchable (c : Console) (form : DispatchForm) : Prop where
  named : trim form.subscriptionId ≠ ""
  wellFormed : ∃ payload, Json.parse? form.payload = some payload
  listed : c.registry.loaded = false ∨
    ∃ s ∈ c.registry.subscriptions, s.id = trim form.subscriptionId

/-- A reply names a task if the service accepted the dispatch with an object that has an identifier,
and that identifier is a text that is not empty. -/
def Names (reply : Except Fault Receipt) (taskId : String) : Prop :=
  ∃ receipt members, reply = .ok receipt ∧ receipt.body = .object members ∧
    members.lookup "id" = some (.string taskId) ∧ taskId ≠ ""

/-! ## The two checks -/

/-- The console and the inspector together let exactly the dispatchable forms pass. -/
theorem dispatchable_iff {c : Console} {form : DispatchForm} :
    c.Dispatchable form ↔ c.isUnknown form = false ∧ ∃ request, form.parse = .ok request := by
  constructor
  · rintro ⟨named, ⟨payload, hpayload⟩, listed⟩
    exact ⟨isUnknown_eq_false_iff.mpr (.inr listed), _,
      DispatchForm.parse_eq_ok_iff.mpr ⟨named, payload, hpayload, rfl⟩⟩
  · rintro ⟨known, request, parsed⟩
    obtain ⟨named, payload, hpayload, -⟩ := DispatchForm.parse_eq_ok_iff.mp parsed
    exact ⟨named, ⟨payload, hpayload⟩, (isUnknown_eq_false_iff.mp known).resolve_left named⟩

/-- Where nothing is in flight, a form is refused for what it lacks. -/
theorem Settled.not_dispatchable {c : Console} (settled : c.Settled) {form : DispatchForm}
    {fault : Fault} (refuses : c.Refuses (.sendTest form) fault) : ¬ c.Dispatchable form := by
  rw [dispatchable_iff]
  rintro ⟨known, request, parsed⟩
  cases refuses with
  | unlisted unknown => cases known.symm.trans unknown
  | dispatch _ refused =>
    -- the inspector would have begun, for no dispatch is in flight
    have begun := Inspector.beginDispatch_eq_ok_iff.mpr ⟨settled.dispatching, parsed, rfl⟩
    cases refused.symm.trans begun

/-- Only for a dispatchable form is anything asked, and that is made from the form. -/
theorem Asks.dispatchable {c : Console} {form : DispatchForm} {call : Call}
    (asks : c.Asks (.sendTest form) call) :
    c.Dispatchable form ∧ ∃ payload, Json.parse? form.payload = some payload ∧
      call = .sendTest (trim form.subscriptionId) payload (nonBlank? form.eventType) := by
  cases asks with
  | dispatch known idle parsed =>
    refine ⟨dispatchable_iff.mpr ⟨known, _, parsed⟩, ?_⟩
    obtain ⟨-, payload, hpayload, rfl⟩ := DispatchForm.parse_eq_ok_iff.mp parsed
    exact ⟨payload, hpayload, rfl⟩

/-- The task of a receipt is the one that the service names. -/
theorem taskId?_eq_some_iff_names {receipt : Receipt} {taskId : String} :
    receipt.taskId? = some taskId ↔ Names (.ok receipt) taskId := by
  rw [Receipt.taskId?_eq_some_iff, Json.member?_eq_some_iff]
  constructor
  · rintro ⟨⟨members, hbody, hid⟩, hne⟩
    exact ⟨receipt, members, rfl, hbody, hid, hne⟩
  · rintro ⟨_, members, ⟨⟩, hbody, hid, hne⟩
    exact ⟨⟨members, hbody, hid⟩, hne⟩

theorem not_names_error {fault : Fault} {taskId : String} : ¬ Names (.error fault) taskId := by
  rintro ⟨_, _, ⟨⟩, _⟩

/-! ## A turn that dispatches -/

/-- **A test delivery is dispatched exactly when its form is dispatchable.** From a console that a
run leads to, a dispatchable form makes one call, with the payload that was read and without the
blanks around the rest; the result is the task that the reply names. Any other form makes none, and
changes nothing but for one error that is reported. -/
theorem dispatches_iff_dispatchable {page : Page} {h : List Turn} {c : Console}
    (run : Run (({} : Console).withPage page) h c) {form : DispatchForm} {t : List Exchange}
    {result : Option String} {c' : Console} (takes : Turn.Takes ⟨.sendTest form, t, result⟩ c c') :
    (c.Dispatchable form ↔ ∃ payload reply, Json.parse? form.payload = some payload ∧
      t = [.answered (.sendTest (trim form.subscriptionId) payload
        (if trim form.eventType = "" then none else some (trim form.eventType))) reply]) ∧
    (¬ c.Dispatchable form → t = [] ∧ result = none ∧ c'.inspector = c.inspector ∧
      ∃ n, n.isError = true ∧ c' = c.notify n) ∧
    ∀ id payload eventType reply, t = [.answered (.sendTest id payload eventType) reply] →
      ∀ taskId, result = some taskId ↔ Names reply taskId := by
  rw [← nonBlank?_eq]
  cases takes.course with
  | @refused _ fault refuses =>
    have lacking := run.settled.not_dispatchable refuses
    refine ⟨iff_of_false lacking (by simp), fun _ => ?_, by simp⟩
    exact ⟨rfl, rfl, rfl, _, Action.isError_report _ fault, rfl⟩
  | failed asks fault =>
    obtain ⟨dispatchable, payload, hpayload, rfl⟩ := asks.dispatchable
    refine ⟨iff_of_true dispatchable ⟨payload, .error fault, hpayload, rfl⟩,
      fun lacking => absurd dispatchable lacking, ?_⟩
    rintro _ _ _ _ ⟨⟩ taskId
    exact iff_of_false (Option.some_ne_none taskId).symm not_names_error
  | dispatched asks receipt =>
    obtain ⟨dispatchable, _, hpayload, ⟨⟩⟩ := asks.dispatchable
    refine ⟨iff_of_true dispatchable ⟨_, .ok receipt, hpayload, rfl⟩,
      fun lacking => absurd dispatchable lacking, ?_⟩
    rintro _ _ _ _ ⟨⟩ taskId
    exact taskId?_eq_some_iff_names

/-- The one subscription that is loaded is typed with blanks around it; the dispatch is accepted,
and names its task. -/
theorem dispatches_iff_dispatchable_listed :
    let s : Subscription := ⟨"s1", "http://localhost/hook", none, none, none, none⟩
    let refresh : Turn :=
      ⟨.refreshSubscriptions, [.answered (.listSubscriptions {}) (.ok [s])], true⟩
    let form : DispatchForm := ⟨" s1 ", "{}", " "⟩
    let receipt : Receipt := ⟨202, .object [("id", .string "t1")]⟩
    let send : Turn :=
      ⟨.sendTest form, [.answered (.sendTest "s1" (.object []) none) (.ok receipt)], some "t1"⟩
    ∃ c c', Run (({} : Console).withPage {}) [refresh] c ∧ send.Takes c c' ∧
      c.Dispatchable form ∧ Names (.ok receipt) "t1" := by
  intro s refresh form receipt send
  let loaded : Console := { registry := ⟨[s], true, {}⟩ }
  have hrefresh : refresh.Takes (({} : Console).withPage {}) loaded := .ask _ (.log _ (.done _))
  have htrim : trim " s1 " = "s1" := by decide
  have hevent : trim " " = "" := by decide
  have hpayload : Json.parse? "{}" = some (.object []) := by rfl
  have parsed : form.parse = .ok ⟨"s1", .object [], none⟩ :=
    DispatchForm.parse_eq_ok_iff.mpr ⟨by simp [form, htrim], .object [], hpayload,
      by simp [form, htrim, nonBlank?_eq, hevent]⟩
  have known : loaded.isUnknown form = false :=
    isUnknown_eq_false_iff.mpr (.inr (.inr ⟨s, by simp [loaded], htrim.symm⟩))
  have hsend : send.Takes loaded
      ({ loaded with inspector := (loaded.inspector.completeDispatch (.ok receipt)).1 }.notify
        (.success "Webhook sent successfully!")) := by
    have begun : loaded.inspector.beginDispatch form = .ok (_, _) :=
      Inspector.beginDispatch_eq_ok_iff.mpr ⟨rfl, parsed, rfl⟩
    simp only [Turn.Takes, perform, send, sendTest, known, Inspector.dispatch, begun]
    exact .log _ (.ask _ (.log _ (.done _)))
  have run := Run.cons hrefresh .nil
  obtain ⟨hcall, -, htask⟩ := dispatches_iff_dispatchable run hsend
  refine ⟨_, _, run, hsend, hcall.mpr ⟨.object [], .ok receipt, hpayload, ?_⟩,
    (htask _ _ _ _ rfl "t1").mp rfl⟩
  simp [form, htrim, hevent]

end DeliveryDesk.Console

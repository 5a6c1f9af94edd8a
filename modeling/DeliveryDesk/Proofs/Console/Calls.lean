import DeliveryDesk.Proofs.Console.Course
import Mathlib.Data.List.Nodup

/-!
# What is asked of the service, and in which order

`Turn.KeepsProtocol` says for each action on subscriptions what may be said in it, from what was
typed alone: nothing at all if something is missing, else one call; a deletion asks the operator
first; and an accepted change is followed by one listing. What the console has loaded before plays
no part in it, so nothing is ever answered from there.

`Course.keepsProtocol` shows this course by course. `calls_follow_protocol` says it of every turn
of a run, and adds what holds of all actions alike: no call is made twice in a turn, none follows
one that failed, and every listing asks for the page that was set before the first action.
-/

namespace DeliveryDesk

open Text

/-- The call of an exchange. -/
def Exchange.call? : Exchange → Option Call
  | .answered call _ => some call
  | .decided _ _ => none

/-- Whether a call failed. -/
def Exchange.isFailed : Exchange → Bool
  | .answered _ (.error _) => true
  | _ => false

namespace Console

/-- What is said in the course of a change: the change alone if the service fails it, else the
change and one listing after it. -/
def SaysChange (page : Page) (change : Call) (t : List Exchange) : Prop :=
  (∃ fault, t = [.answered change (.error fault)]) ∨
  ∃ value reload,
    t = [.answered change (.ok value), .answered (.listSubscriptions page) reload]

namespace Turn

/-- The calls of a turn, in order. -/
def calls (u : Turn) : List Call := u.exchanges.filterMap Exchange.call?

/-- What is said in an action on subscriptions. A form that is opened is filled with what the
service has just sent. -/
def KeepsProtocol (page : Page) : Turn → Prop
  | ⟨.refreshSubscriptions, t, _⟩ => ∃ reply, t = [.answered (.listSubscriptions page) reply]
  | ⟨.createSubscription form, t, _⟩ =>
    if trim form.targetUrl = "" then t = []
    else ∃ request, form.toRequest = .ok request ∧
      SaysChange page (.createSubscription request) t
  | ⟨.submitEdit form, t, _⟩ =>
    if trim form.targetUrl = "" then t = []
    else ∃ request, form.toRequest = .ok request ∧
      SaysChange page (.updateSubscription form.id request) t
  | ⟨.deleteSubscription id, t, _⟩ =>
    if trim id = "" then t = []
    else t = [.decided deletePrompt false] ∨
      ∃ rest, t = .decided deletePrompt true :: rest ∧
        SaysChange page (.deleteSubscription id) rest
  | ⟨.openEdit id, t, filled⟩ =>
    if trim id = "" then t = [] ∧ filled = none
    else ∃ reply, t = [.answered (.getSubscription id) reply] ∧
      filled = reply.toOption.map EditForm.ofSubscription
  | _ => True

end Turn

/-! ## What one turn says -/

/-- Nothing is said in an action that is refused, and on subscriptions none is refused but for what
is missing. -/
theorem Refuses.keepsProtocol {c : Console} {a : Action} {fault : Fault}
    (refuses : c.Refuses a fault) (page : Page) :
    Turn.KeepsProtocol page ⟨a, [], a.failed⟩ := by
  cases refuses with
  | create unfilled =>
    have missing := (SubscriptionForm.toRequest_eq_error_iff.mp unfilled).1
    simp only [Turn.KeepsProtocol, if_pos missing]
  | update unfilled =>
    have missing := (EditForm.toRequest_eq_error_iff.mp unfilled).1
    simp only [Turn.KeepsProtocol, if_pos missing]
  | fetch blank =>
    have missing := trim_eq_empty_iff.mpr blank
    simp only [Turn.KeepsProtocol, if_pos missing]
    exact ⟨trivial, rfl⟩
  | delete blank =>
    have missing := trim_eq_empty_iff.mpr blank
    simp only [Turn.KeepsProtocol, if_pos missing]
  | unlisted | dispatch | check | recheck | nothingToRecheck => trivial

/-- One call is made in an action that the service fails, after the operator has agreed to it. -/
theorem Asks.keepsProtocol {c : Console} {a : Action} {call : Call} (asks : c.Asks a call)
    (fault : Fault) :
    Turn.KeepsProtocol c.registry.page
      ⟨a, a.consent ++ [.answered call (.error fault)], a.failed⟩ := by
  cases asks with
  | list => exact ⟨.error fault, rfl⟩
  | create filled =>
    simp only [Turn.KeepsProtocol, if_neg (SubscriptionForm.trim_ne_empty filled)]
    exact ⟨_, filled, .inl ⟨fault, rfl⟩⟩
  | update filled =>
    simp only [Turn.KeepsProtocol, if_neg (EditForm.trim_ne_empty filled)]
    exact ⟨_, filled, .inl ⟨fault, rfl⟩⟩
  | fetch named =>
    simp only [Turn.KeepsProtocol, if_neg (trim_ne_empty_iff.mpr named)]
    exact ⟨.error fault, rfl, rfl⟩
  | delete named =>
    simp only [Turn.KeepsProtocol, if_neg (trim_ne_empty_iff.mpr named)]
    exact .inr ⟨_, rfl, .inl ⟨fault, rfl⟩⟩
  | dispatch | check | recheck | browse | health => trivial

/-- **What is said in an action on subscriptions.** -/
theorem Course.keepsProtocol {u : Turn} {c c' : Console} (course : Course c u c') :
    u.KeepsProtocol c.registry.page := by
  cases course with
  | refused refuses => exact refuses.keepsProtocol _
  | failed asks fault => exact asks.keepsProtocol fault
  | listed list => exact ⟨.ok list, rfl⟩
  | created asks s reload =>
    cases asks with
    | create filled =>
      simp only [Turn.KeepsProtocol, if_neg (SubscriptionForm.trim_ne_empty filled)]
      exact ⟨_, filled, .inr ⟨s, reload, rfl⟩⟩
  | updated asks s reload =>
    cases asks with
    | update filled =>
      simp only [Turn.KeepsProtocol, if_neg (EditForm.trim_ne_empty filled)]
      exact ⟨_, filled, .inr ⟨s, reload, rfl⟩⟩
  | deleted asks reload =>
    cases asks with
    | delete named =>
      simp only [Turn.KeepsProtocol, if_neg (trim_ne_empty_iff.mpr named)]
      exact .inr ⟨_, rfl, .inr ⟨(), reload, rfl⟩⟩
  | declined named =>
    simp only [Turn.KeepsProtocol, if_neg (trim_ne_empty_iff.mpr named)]
    exact .inl trivial
  | fetched asks s =>
    cases asks with
    | fetch named =>
      simp only [Turn.KeepsProtocol, if_neg (trim_ne_empty_iff.mpr named)]
      exact ⟨.ok s, rfl, rfl⟩
  | _ => trivial

/-- No call is made twice in a turn. -/
theorem Course.calls_nodup {u : Turn} {c c' : Console} (course : Course c u c') :
    u.calls.Nodup := by
  -- where there are two calls, the one lists subscriptions and the other does not
  cases course with
  | @failed a => cases a <;> exact List.nodup_singleton _
  | browsedFirst unnamed found => cases found <;> simp [Turn.calls, Exchange.call?]
  | _ => simp [Turn.calls, Exchange.call?, List.filterMap_cons]

/-- No call is made after one that failed. -/
theorem Course.isFailed_of_mem_dropLast {u : Turn} {c c' : Console} (course : Course c u c') :
    ∀ e ∈ u.exchanges.dropLast, e.isFailed = false := by
  cases course with
  | @failed a => cases a <;> simp [Action.consent, Exchange.isFailed]
  | browsedFirst unnamed found => cases found <;> simp [Exchange.isFailed]
  | _ => simp [Exchange.isFailed]

/-- Whatever lists subscriptions asks for the page of the registry, or for that of the logs. -/
theorem Course.page_of_listing {u : Turn} {c c' : Console} (course : Course c u c') {page : Page}
    (listed : .listSubscriptions page ∈ u.calls) :
    page = c.registry.page ∨ page = c.logs.page := by
  cases course with
  | failed asks =>
    cases asks <;> simp_all [Turn.calls, Exchange.call?, Action.consent]
  | browsedFirst unnamed found =>
    cases found <;> simp_all [Turn.calls, Exchange.call?]
  | _ => simp_all [Turn.calls, Exchange.call?]

/-! ## A whole run -/

/-- **Calls follow the protocol.** Whatever the service answers and the operator decides, every turn
of a run keeps to the protocol of its action. In no turn is a call made twice, or any call after one
that failed; and all listings of the run, those of the log browser among them, ask for the page that
was set before it. -/
theorem calls_follow_protocol {page : Page} {h : List Turn} {c : Console}
    (run : Run (({} : Console).withPage page) h c) {u : Turn} (hu : u ∈ h) :
    u.KeepsProtocol page ∧ u.calls.Nodup ∧
      (∀ e ∈ u.exchanges.dropLast, e.isFailed = false) ∧
      ∀ asked, .listSubscriptions asked ∈ u.calls → asked = page := by
  obtain ⟨h', c₀, c₁, before, takes⟩ := run.takes_of_mem hu
  have course := takes.course
  obtain ⟨hregistry, hlogs⟩ := before.page_eq
  have hkeeps : u.KeepsProtocol page := hregistry ▸ course.keepsProtocol
  refine ⟨hkeeps, course.calls_nodup, course.isFailed_of_mem_dropLast, ?_⟩
  intro asked hasked
  -- the registry and the log browser each have a page of their own, set to the same
  rcases course.page_of_listing hasked with rfl | rfl
  · exact hregistry
  · exact hlogs

/-- The log browser finds nothing listed, and a subscription is created; both ask for the second
page. -/
theorem calls_follow_protocol_second_page :
    let page : Page := { skip := 100 }
    let form : SubscriptionForm := { targetUrl := " http://localhost/hook " }
    let request : NewSubscription := ⟨"http://localhost/hook", none, none⟩
    let s : Subscription := ⟨"s1", "http://localhost/hook", none, none, none, none⟩
    let browse : Turn :=
      ⟨.loadDeliveryLogs none, [.answered (.listSubscriptions page) (.ok [])], true⟩
    let create : Turn := ⟨.createSubscription form,
      [.answered (.createSubscription request) (.ok s),
        .answered (.listSubscriptions page) (.ok [s])], some s⟩
    ∃ c, Run (({} : Console).withPage page) [browse, create] c ∧
      create.KeepsProtocol page ∧ create.calls.Nodup ∧
      ∀ asked, .listSubscriptions asked ∈ browse.calls ++ create.calls → asked = page := by
  intro page form request s browse create
  let start : Console := ({} : Console).withPage page
  have hbrowse : browse.Takes start start := .ask _ (.log _ (.done _))
  have named : isBlankText " http://localhost/hook " = false := by decide
  have htrim : trim " http://localhost/hook " = "http://localhost/hook" := by decide
  have htypes : parseEventTypes "" = none := by decide
  have filled : form.toRequest = .ok request := by
    simp [form, request, SubscriptionForm.toRequest, requireTargetUrl, named, htrim, givenSecret,
      htypes, bind, Except.bind, pure, Except.pure]
  have hcreate : create.Takes start
      (start.changed "Subscription created successfully!" (.ok [s])) := by
    simp only [Turn.Takes, perform, create, createSubscription, Registry.create, filled]
    exact .ask _ (.log _ (.ask _ (.log _ (.done _))))
  have run := Run.cons hbrowse (.cons hcreate .nil)
  obtain ⟨-, -, -, hfirst⟩ := calls_follow_protocol run (List.mem_cons_self ..)
  obtain ⟨hkeeps, hnodup, -, hsecond⟩ :=
    calls_follow_protocol run (List.mem_cons_of_mem _ (List.mem_singleton_self _))
  refine ⟨_, run, hkeeps, hnodup, fun asked hasked => ?_⟩
  exact (List.mem_append.mp hasked).elim (hfirst asked) (hsecond asked)

end Console

end DeliveryDesk

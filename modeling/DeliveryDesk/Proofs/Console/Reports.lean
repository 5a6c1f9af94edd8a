import DeliveryDesk.Proofs.Console.Course
import Mathlib.Data.List.Forall2

/-!
# What the operator is told

Notifications wait in a queue until they are taken. `Turn.Tells` says which ones a turn adds, from
what was said in it and what it reported to its caller. The two do not always go together: a
dispatch may be accepted without a task, a deletion may be declined, and a change may be accepted
while the reload after it fails.

- `Course.tells`: a turn adds to the end of the queue what it tells, and only taking the
  notifications takes any away.
- `Run.queue_eq`: so over a run what was taken, followed by what still waits, is all that was
  told, in the order in which it was told.
- `notifications_follow_outcomes` puts the two together.
-/

namespace DeliveryDesk

namespace Exchange

/-- Whether the service accepted a change or a dispatch. -/
def isAccepted : Exchange → Bool
  | .answered (.createSubscription _) (.ok _) => true
  | .answered (.updateSubscription _ _) (.ok _) => true
  | .answered (.deleteSubscription _) (.ok _) => true
  | .answered (.sendTest _ _ _) (.ok _) => true
  | _ => false

/-- Whether the operator declined. -/
def isDeclined : Exchange → Bool
  | .decided _ false => true
  | _ => false

/-- Why the subscriptions could not be listed, if they could not. -/
def listingFault? : Exchange → Option Fault
  | .answered (.listSubscriptions _) (.error fault) => some fault
  | _ => none

end Exchange

namespace Console

/-- Exactly one error is told. -/
def OneError (new : List Notification) : Prop :=
  ∃ n, n.isError = true ∧ new = [n]

/-- Nothing is told of a success, and one error of a failure. -/
def TellsFailure (succeeded : Bool) (new : List Notification) : Prop :=
  if succeeded then new = [] else OneError new

/-- Nothing is told of a change that the operator declined. One success is told of a change that
the service accepted, and after it why the reload failed if it did; one error of any other change.
Only the fate of the change itself is reported to the caller. -/
def TellsChange (t : List Exchange) (succeeded : Bool) (new : List Notification) : Prop :=
  if t.any Exchange.isDeclined then succeeded = false ∧ new = []
  else if t.any Exchange.isAccepted then
    succeeded = true ∧ ∃ n, n.isError = false ∧
      new = n :: (t.filterMap Exchange.listingFault?).map (.failure "load subscriptions")
  else succeeded = false ∧ OneError new

namespace Turn

/-- What a turn tells the operator. -/
def Tells : Turn → List Notification → Prop
  | ⟨.refreshSubscriptions, _, loaded⟩, new => TellsFailure loaded new
  | ⟨.createSubscription _, t, created⟩, new => TellsChange t created.isSome new
  | ⟨.openEdit _, _, form⟩, new => TellsFailure form.isSome new
  | ⟨.submitEdit _, t, updated⟩, new => TellsChange t updated.isSome new
  | ⟨.deleteSubscription _, t, deleted⟩, new => TellsChange t deleted new
  | ⟨.sendTest _, t, _⟩, new =>
    ∃ n, (n.isError = false ↔ t.any Exchange.isAccepted = true) ∧ new = [n]
  | ⟨.checkDeliveryStatus _, _, displayed⟩, new => TellsFailure displayed new
  | ⟨.refreshDeliveryStatus, _, displayed⟩, new => TellsFailure displayed new
  | ⟨.loadDeliveryLogs _, _, loaded⟩, new => TellsFailure loaded new
  | ⟨.loadHealth, _, loaded⟩, new => TellsFailure loaded new
  | ⟨.closeInspection, _, _⟩, new => new = []
  | ⟨.setLogLimit _, _, _⟩, new => new = []
  | ⟨.takeNotifications, _, _⟩, new => new = []

/-- What a turn takes out of the queue. -/
def taken : Turn → List Notification
  | ⟨.takeNotifications, _, taken⟩ => taken
  | _ => []

end Turn

/-! ## One turn -/

/-- One error is what a refused action tells. -/
theorem Refuses.tells {c : Console} {a : Action} {fault : Fault} (refuses : c.Refuses a fault) :
    Turn.Tells ⟨a, [], a.failed⟩ [a.report fault] := by
  have herror : OneError [a.report fault] := ⟨_, a.isError_report fault, rfl⟩
  cases refuses with
  | create | update | delete => exact ⟨rfl, herror⟩
  | fetch | check | recheck | nothingToRecheck => exact herror
  | unlisted | dispatch => exact ⟨_, by simp [Action.isError_report], rfl⟩

/-- One error is what an action tells whose call the service fails. -/
theorem Asks.tells {c : Console} {a : Action} {call : Call} (asks : c.Asks a call)
    (fault : Fault) :
    Turn.Tells ⟨a, a.consent ++ [.answered call (.error fault)], a.failed⟩ [a.report fault] := by
  have herror : OneError [a.report fault] := ⟨_, a.isError_report fault, rfl⟩
  cases asks with
  | create | update | delete => exact ⟨rfl, herror⟩
  | list | fetch | check | recheck | browse | health => exact herror
  | dispatch =>
    exact ⟨_, by simp [Action.isError_report, Action.consent, Exchange.isAccepted], rfl⟩

/-- An accepted change tells its success, and the fault of the reload after that. -/
theorem tellsChange_accepted {t : List Exchange} (agreed : t.any Exchange.isDeclined = false)
    (accepted : t.any Exchange.isAccepted = true)
    {reload : Except Fault (List Subscription)}
    (hreload : t.filterMap Exchange.listingFault? = (faultOf reload).toList) (message : String) :
    TellsChange t true
      (.success message :: (faultOf reload).toList.map (.failure "load subscriptions")) := by
  unfold TellsChange
  rw [agreed, if_neg Bool.false_ne_true, if_pos accepted, hreload]
  exact ⟨rfl, _, rfl, rfl⟩

/-- **What one turn does to the queue.** -/
theorem Course.tells {u : Turn} {c c' : Console} (course : Course c u c') :
    ∃ new, u.Tells new ∧ u.taken ++ c'.notifications = c.notifications ++ new := by
  cases course with
  | refused refuses => exact ⟨_, refuses.tells, by cases refuses <;> rfl⟩
  | failed asks fault => exact ⟨_, asks.tells fault, by cases asks <;> rfl⟩
  | created asks s reload =>
    exact ⟨_, tellsChange_accepted rfl rfl (by cases reload <;> rfl) _, rfl⟩
  | updated asks s reload =>
    exact ⟨_, tellsChange_accepted rfl rfl (by cases reload <;> rfl) _, rfl⟩
  | deleted asks reload =>
    exact ⟨_, tellsChange_accepted rfl rfl (by cases reload <;> rfl) _, rfl⟩
  | declined => exact ⟨[], ⟨rfl, rfl⟩, (List.append_nil _).symm⟩
  | dispatched asks receipt => exact ⟨_, ⟨_, iff_of_true rfl rfl, rfl⟩, rfl⟩
  | taken => exact ⟨[], rfl, rfl⟩
  | _ => exact ⟨[], rfl, (List.append_nil _).symm⟩

/-! ## A whole run -/

/-- **Nothing that is told gets lost.** What was taken, followed by what still waits, is what
waited at first and what each turn told, in that order. -/
theorem Run.queue_eq {start c : Console} {h : List Turn} (run : Run start h c) :
    ∃ told, List.Forall₂ Turn.Tells h told ∧
      h.flatMap Turn.taken ++ c.notifications = start.notifications ++ told.flatten := by
  induction run with
  | nil => exact ⟨[], .nil, by simp⟩
  | @concat h c c' _ u takes ih =>
    -- what the last turn takes is the front of what waited, what it tells comes behind that
    obtain ⟨told, htold, hqueue⟩ := ih
    obtain ⟨new, hnew, hstep⟩ := takes.course.tells
    refine ⟨told ++ [new], List.rel_append htold (.cons hnew .nil), ?_⟩
    calc (h ++ [u]).flatMap Turn.taken ++ c'.notifications
        = h.flatMap Turn.taken ++ (u.taken ++ c'.notifications) := by simp
      _ = (h.flatMap Turn.taken ++ c.notifications) ++ new := by
        rw [hstep, List.append_assoc]
      _ = start.notifications ++ (told ++ [new]).flatten := by
        rw [hqueue]
        simp

/-- **Notifications follow the outcomes.** In every console that a run leads to, an action adds to
the end of the queue what its outcome fixes and takes nothing away; taking the notifications gives
all of them and leaves none; and over the whole run every notification that was told was taken
once or still waits, in the order in which it was told. -/
theorem notifications_follow_outcomes {page : Page} {h : List Turn} {c : Console}
    (run : Run (({} : Console).withPage page) h c) :
    (∀ (u : Turn) (c' : Console), u.Takes c c' → u.action ≠ .takeNotifications →
      ∃ new, u.Tells new ∧ c'.notifications = c.notifications ++ new) ∧
    (∀ (t : List Exchange) (taken : List Notification) (c' : Console),
      Turn.Takes ⟨.takeNotifications, t, taken⟩ c c' →
        taken = c.notifications ∧ c'.notifications = []) ∧
    ∃ told, List.Forall₂ Turn.Tells h told ∧
      h.flatMap Turn.taken ++ c.notifications = told.flatten := by
  refine ⟨?_, ?_, run.queue_eq⟩
  · rintro ⟨action, t, result⟩ c' takes hkeeps
    obtain ⟨new, hnew, hqueue⟩ := takes.course.tells
    refine ⟨new, hnew, ?_⟩
    cases action with
    | takeNotifications => exact absurd rfl hkeeps
    | _ => exact hqueue
  · intro t taken c' takes
    cases takes.course with
    | taken => exact ⟨rfl, rfl⟩
    | refused refuses => cases refuses
    | failed asks => cases asks

/-- A deletion is accepted, but the reload after it fails; both are taken together, and the error of
a later reload waits. -/
theorem notifications_follow_outcomes_unlisted :
    let fault : Fault := .transport "timeout"
    let unlisted : Exchange := .answered (.listSubscriptions {}) (.error fault)
    let delete : Turn := ⟨.deleteSubscription "s1",
      [.decided deletePrompt true, .answered (.deleteSubscription "s1") (.ok ()), unlisted], true⟩
    let take : Turn := ⟨.takeNotifications, [],
      [.success "Subscription deleted successfully!", .failure "load subscriptions" fault]⟩
    let refresh : Turn := ⟨.refreshSubscriptions, [unlisted], false⟩
    ∃ c, Run (({} : Console).withPage {}) [delete, take, refresh] c ∧
      c.notifications = [.failure "load subscriptions" fault] ∧
      ∃ told, List.Forall₂ Turn.Tells [delete, take, refresh] told ∧
        told.flatten = [.success "Subscription deleted successfully!",
          .failure "load subscriptions" fault, .failure "load subscriptions" fault] := by
  intro fault unlisted delete take refresh
  let deleted : Console :=
    ({} : Console).changed "Subscription deleted successfully!" (.error fault)
  have hdelete : delete.Takes (({} : Console).withPage {}) deleted := by
    have hid : Text.isBlankText "s1" = false := by decide
    rw [Turn.Takes, perform, deleteSubscription, Registry.delete, hid]
    exact .confirm _ (.ask _ (.log _ (.ask _ (.done _))))
  have htake : take.Takes deleted {} := .done _
  have hrefresh : refresh.Takes {} (({} : Console).notify (.failure "load subscriptions" fault)) :=
    .ask _ (.done _)
  have run := Run.cons hdelete (.cons htake (.cons hrefresh .nil))
  obtain ⟨-, -, told, htold, hqueue⟩ := notifications_follow_outcomes run
  exact ⟨_, run, rfl, told, htold, hqueue.symm⟩

end Console

end DeliveryDesk

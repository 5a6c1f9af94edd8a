import DeliveryDesk.Console.Inspector
import Mathlib.Data.List.DropRight
import Mathlib.Data.List.Induction

/-!
# Runs of the inspector and their histories

An inspector is used by five operations: a dispatch is begun and completed, a poll is begun and
completed, and the inspection is closed. `run` carries any list of them out, so polls may come
back in any order, for tasks that are no longer asked for, or after a closing. Its history has
one event for each operation: what was asked and what came out of it.

`Transition` lists everything one operation can do. It is the only place where the operations
are unfolded: `step_transition` says that every operation is one of its cases, and
`run_induction` carries a property of histories and states from the fresh inspector along every
run.

The rest of the module reads histories without looking at a state: which tickets were issued and
completed, which task was asked for last since the last closing (`History.target`), and what the
polls brought on display since then (`History.displayed`).
-/

namespace DeliveryDesk.Console.Inspector

open Text

/-- One use of an inspector. A completion names the ticket whose poll has come back. -/
inductive Operation where
  | beginDispatch (form : DispatchForm)
  | completeDispatch (reply : Except Fault Receipt)
  | beginInspect (taskId : String)
  | completeInspect (ticket : PollTicket) (reply : Except Fault DeliveryTask)
  | close

/-- An operation together with its result. -/
inductive Event where
  | dispatchBegun (form : DispatchForm) (result : Except Fault DispatchRequest)
  | dispatchCompleted (reply : Except Fault Receipt) (result : Except Fault (Option String))
  | pollBegun (taskId : String) (result : Except Fault PollTicket)
  | pollCompleted (ticket : PollTicket) (reply : Except Fault DeliveryTask)
      (result : Except Fault PollOutcome)
  | closed

/-- What happened to an inspector, the oldest event first. -/
abbrev History := List Event

/-- Carries an operation out. One that is refused leaves the inspector as it was. -/
def step (i : Inspector) : Operation → Inspector × Event
  | .beginDispatch form =>
    match i.beginDispatch form with
    | .ok (request, i') => (i', .dispatchBegun form (.ok request))
    | .error fault => (i, .dispatchBegun form (.error fault))
  | .completeDispatch reply =>
    ((i.completeDispatch reply).1, .dispatchCompleted reply (i.completeDispatch reply).2)
  | .beginInspect taskId =>
    match i.beginInspect taskId with
    | .ok (ticket, i') => (i', .pollBegun taskId (.ok ticket))
    | .error fault => (i, .pollBegun taskId (.error fault))
  | .completeInspect ticket reply =>
    ((i.completeInspect ticket reply).1,
      .pollCompleted ticket reply (i.completeInspect ticket reply).2)
  | .close => (i.close, .closed)

/-- Carries operations out one after the other. -/
def run (i : Inspector) : List Operation → Inspector × History
  | [] => (i, [])
  | op :: ops =>
    (((i.step op).1.run ops).1, (i.step op).2 :: ((i.step op).1.run ops).2)

/-- A run goes on where its first part stopped. -/
theorem run_append (i : Inspector) (ops ops' : List Operation) :
    i.run (ops ++ ops') =
      (((i.run ops).1.run ops').1, (i.run ops).2 ++ ((i.run ops).1.run ops').2) := by
  induction ops generalizing i with
  | nil => rfl
  | cons op ops ih => simp only [List.cons_append, run, ih]

/-- One more operation adds its event at the end of the history. -/
theorem run_concat (i : Inspector) (ops : List Operation) (op : Operation) :
    i.run (ops ++ [op]) =
      (((i.run ops).1.step op).1, (i.run ops).2 ++ [((i.run ops).1.step op).2]) :=
  run_append i ops [op]

/-! ## What one operation can do -/

/-- A poll of a task that is named is begun, whatever the state. -/
theorem beginInspect_of_named {taskId : String} (named : isBlankText taskId = false)
    (i : Inspector) :
    i.beginInspect taskId = .ok (⟨i.lastSeq + 1, trim taskId⟩,
      { i with
        latestTarget := some (trim taskId)
        lastSeq := i.lastSeq + 1
        inFlight := i.inFlight + 1 }) := by
  simp only [beginInspect, nonBlank?, named, Bool.false_eq_true, if_false]

/-- A poll whose task is not asked for any more is only counted. -/
theorem completeInspect_of_stale {i : Inspector} {ticket : PollTicket}
    (stale : i.latestTarget ≠ some ticket.taskId) (reply : Except Fault DeliveryTask) :
    i.completeInspect ticket reply =
      ({ i with inFlight := countDown i.inFlight }, .ok .discarded) := by
  simp only [completeInspect, ne_eq, stale, not_false_eq_true, if_true]

/-- A poll whose task is asked for is rendered, or its fault is reported. -/
theorem completeInspect_of_current {i : Inspector} {ticket : PollTicket}
    (current : i.latestTarget = some ticket.taskId) (reply : Except Fault DeliveryTask) :
    (i.completeInspect ticket reply).2 = reply.map fun _ => .rendered := by
  cases reply <;> simp [completeInspect, current, Except.map]

/-- Everything that one operation can do, with the state before it and the state after it. -/
inductive Transition (i : Inspector) : Event → Inspector → Prop where
  | dispatchRefused (form : DispatchForm) (fault : Fault)
      (refused : i.dispatching = true ∨ form.parse = .error fault) :
      Transition i (.dispatchBegun form (.error fault)) i
  | dispatchBegun (form : DispatchForm) (request : DispatchRequest)
      (ready : i.dispatching = false) (parsed : form.parse = .ok request) :
      Transition i (.dispatchBegun form (.ok request)) { i with dispatching := true }
  | dispatched (receipt : Receipt) :
      Transition i (.dispatchCompleted (.ok receipt) (.ok receipt.taskId?))
        { i with
          dispatching := false
          checkTarget := receipt.taskId?
          response := some ⟨receipt.prettyBody, false⟩ }
  | dispatchFailed (fault : Fault) :
      Transition i (.dispatchCompleted (.error fault) (.error fault))
        { i with
          dispatching := false
          checkTarget := none
          response := some (failurePanel fault) }
  | pollRefused (taskId : String) (fault : Fault) (blank : isBlankText taskId = true) :
      Transition i (.pollBegun taskId (.error fault)) i
  | pollBegun (taskId : String) (named : isBlankText taskId = false) :
      Transition i (.pollBegun taskId (.ok ⟨i.lastSeq + 1, trim taskId⟩))
        { i with
          latestTarget := some (trim taskId)
          lastSeq := i.lastSeq + 1
          inFlight := i.inFlight + 1 }
  | discarded (ticket : PollTicket) (reply : Except Fault DeliveryTask)
      (stale : i.latestTarget ≠ some ticket.taskId) :
      Transition i (.pollCompleted ticket reply (.ok .discarded))
        { i with inFlight := countDown i.inFlight }
  | rendered (ticket : PollTicket) (task : DeliveryTask)
      (current : i.latestTarget = some ticket.taskId) :
      Transition i (.pollCompleted ticket (.ok task) (.ok .rendered))
        { i with inFlight := countDown i.inFlight, surface := some ⟨task, ticket.seq⟩ }
  | pollFailed (ticket : PollTicket) (fault : Fault)
      (current : i.latestTarget = some ticket.taskId) :
      Transition i (.pollCompleted ticket (.error fault) (.error fault))
        { i with inFlight := countDown i.inFlight }
  | closed : Transition i .closed { i with surface := none, latestTarget := none }

/-- Every operation makes one of the transitions. -/
theorem step_transition (i : Inspector) (op : Operation) :
    Transition i (i.step op).2 (i.step op).1 := by
  cases op with
  | beginDispatch form =>
    cases hbusy : i.dispatching with
    | true =>
      simp only [step, beginDispatch, hbusy, if_true]
      exact .dispatchRefused form _ (.inl hbusy)
    | false =>
      cases hparse : form.parse with
      | ok request =>
        simp only [step, beginDispatch, hbusy, hparse, Bool.false_eq_true, if_false]
        exact .dispatchBegun form request hbusy hparse
      | error fault =>
        simp only [step, beginDispatch, hbusy, hparse, Bool.false_eq_true, if_false]
        exact .dispatchRefused form fault (.inr hparse)
  | completeDispatch reply =>
    cases reply with
    | ok receipt => exact .dispatched receipt
    | error fault => exact .dispatchFailed fault
  | beginInspect taskId =>
    cases hblank : isBlankText taskId with
    | true =>
      simp only [step, beginInspect, nonBlank?, hblank, if_true]
      exact .pollRefused taskId _ hblank
    | false =>
      simp only [step, beginInspect_of_named hblank]
      exact .pollBegun taskId hblank
  | completeInspect ticket reply =>
    by_cases hcurrent : i.latestTarget = some ticket.taskId
    · cases reply with
      | ok task =>
        -- `simp` writes the ticket's task for the target in the state too, hence the `▸`
        simp only [step, completeInspect, hcurrent, ne_eq, not_true_eq_false, if_false]
        exact hcurrent ▸ .rendered ticket task hcurrent
      | error fault =>
        simp only [step, completeInspect, hcurrent, ne_eq, not_true_eq_false, if_false]
        exact hcurrent ▸ .pollFailed ticket fault hcurrent
    · -- a stale ticket: the reply is not looked at
      simp only [step, completeInspect_of_stale hcurrent]
      exact .discarded ticket reply hcurrent
  | close => exact .closed

/-- What holds of the fresh inspector, and is kept by every transition, holds after every run. -/
theorem run_induction {P : History → Inspector → Prop} (fresh : P [] {})
    (keep : ∀ h i e i', P h i → Transition i e i' → P (h ++ [e]) i') (ops : List Operation) :
    P (run {} ops).2 (run {} ops).1 := by
  induction ops using List.reverseRecOn with
  | nil => exact fresh
  | append_singleton ops op ih =>
    rw [run_concat]
    exact keep _ _ _ _ ih (step_transition _ op)

/-! ## Reading a history -/

namespace Event

/-- Whether the inspection was closed. -/
def isClosing : Event → Bool
  | .closed => true
  | _ => false

/-- Whether a dispatch was completed. -/
def endsDispatch : Event → Bool
  | .dispatchCompleted .. => true
  | _ => false

/-- The task that a poll was begun for, without the blanks around it. -/
def request? : Event → Option String
  | .pollBegun taskId (.ok _) => some (trim taskId)
  | _ => none

/-- The ticket that was issued. -/
def issued? : Event → Option PollTicket
  | .pollBegun _ (.ok ticket) => some ticket
  | _ => none

/-- The ticket whose poll has come back. -/
def completed? : Event → Option PollTicket
  | .pollCompleted ticket _ _ => some ticket
  | _ => none

/-- What a poll brought on display: its answer as a whole, under the number of its ticket. -/
def surface? : Event → Option Surface
  | .pollCompleted ticket (.ok task) (.ok .rendered) => some ⟨task, ticket.seq⟩
  | _ => none

/-- What came back for a dispatch. -/
def dispatchReply? : Event → Option (Except Fault Receipt)
  | .dispatchCompleted reply _ => some reply
  | _ => none

/-- Only a poll that was rendered brings something on display. -/
theorem surface?_eq_some_iff {e : Event} {s : Surface} :
    e.surface? = some s ↔
      ∃ ticket task, e = .pollCompleted ticket (.ok task) (.ok .rendered) ∧
        s = ⟨task, ticket.seq⟩ := by
  constructor
  · intro hs
    unfold surface? at hs
    split at hs
    · exact ⟨_, _, rfl, (Option.some.inj hs).symm⟩
    · cases hs
  · rintro ⟨ticket, task, rfl, rfl⟩
    rfl

end Event

namespace History

/-- The events after the last one with a property, or all of them. -/
def since (p : Event → Bool) (h : History) : History :=
  h.rtakeWhile fun e => !p e

/-- The events since the inspection was last closed. -/
def sinceClosed (h : History) : History := h.since Event.isClosing

/-- The task asked for last since the inspection was last closed. -/
def target (h : History) : Option String :=
  (h.sinceClosed.filterMap Event.request?).getLast?

/-- What polls brought on display since the inspection was last closed, in order of arrival. -/
def displayed (h : History) : List Surface :=
  h.sinceClosed.filterMap Event.surface?

/-- The tickets that were issued, in order. -/
def issued (h : History) : List PollTicket := h.filterMap Event.issued?

/-- The tickets whose polls have come back, in order of arrival. -/
def completed (h : History) : List PollTicket := h.filterMap Event.completed?

/-- The tickets whose polls have not come back yet. -/
def outstanding (h : History) : List PollTicket :=
  h.issued.filter fun ticket => ticket ∉ h.completed

/-- Every event of a history stands in a relation to the history before it. -/
def Always (P : History → Event → Prop) (h : History) : Prop :=
  ∀ before e after, h = before ++ e :: after → P before e

theorem filterMap_concat {α : Type} (f : Event → Option α) (h : History) (e : Event) :
    (h ++ [e]).filterMap f = h.filterMap f ++ (f e).toList := by
  rw [List.filterMap_append]
  cases he : f e <;> simp [he]

/-- An event adds the ticket it issues, if any, behind those issued before it. -/
theorem issued_concat (h : History) (e : Event) :
    issued (h ++ [e]) = h.issued ++ e.issued?.toList :=
  filterMap_concat _ h e

/-- It adds the ticket it completes in the same way. -/
theorem completed_concat (h : History) (e : Event) :
    completed (h ++ [e]) = h.completed ++ e.completed?.toList :=
  filterMap_concat _ h e

theorem mem_of_mem_since {p : Event → Bool} {h : History} {e : Event} (he : e ∈ h.since p) :
    e ∈ h :=
  (List.rtakeWhile_suffix _ _).subset he

theorem issued_concat_of_none {e : Event} (he : e.issued? = none) (h : History) :
    issued (h ++ [e]) = h.issued := by
  rw [issued_concat, he]
  exact List.append_nil _

theorem completed_concat_of_none {e : Event} (he : e.completed? = none) (h : History) :
    completed (h ++ [e]) = h.completed := by
  rw [completed_concat, he]
  exact List.append_nil _

/-- One more event either starts over or is one more event since then. -/
theorem since_concat (p : Event → Bool) (h : History) (e : Event) :
    since p (h ++ [e]) = if p e then [] else since p h ++ [e] := by
  unfold since
  rw [List.rtakeWhile_concat]
  cases p e <;> rfl

/-- Nothing before an event with the property counts. -/
theorem since_append_cons {p : Event → Bool} {e : Event} (hp : p e = true) (h h' : History) :
    since p (h ++ e :: h') = since p h' := by
  induction h' using List.reverseRecOn with
  | nil => rw [since_concat, if_pos hp]; rfl
  | append_singleton h' e' ih =>
    rw [show h ++ e :: (h' ++ [e']) = (h ++ e :: h') ++ [e'] by simp, since_concat, since_concat,
      ih]

/-- A relation to the past is kept by one more event that stands in it. -/
theorem always_concat {P : History → Event → Prop} {h : History} {e : Event} :
    Always P (h ++ [e]) ↔ Always P h ∧ P h e := by
  constructor
  · intro hall
    refine ⟨fun before x after hx => ?_, hall h e [] rfl⟩
    exact hall before x (after ++ [e]) (by rw [hx, List.append_assoc, List.cons_append])
  · rintro ⟨hall, hlast⟩ before x after hx
    -- either `x` is the new event itself, or it stands further back
    rcases List.eq_nil_or_concat after with rfl | ⟨after', y, rfl⟩
    · obtain ⟨rfl, hxe⟩ := List.append_inj' hx rfl
      cases hxe
      exact hlast
    · have hassoc : h ++ [e] = (before ++ x :: after') ++ [y] := by simpa using hx
      exact hall before x after' (List.append_inj_left' hassoc rfl)

/-- What holds all along a history holds along its beginning. -/
theorem Always.of_append {P : History → Event → Prop} {h h' : History}
    (hall : Always P (h ++ h')) : Always P h := by
  rintro before e after rfl
  exact hall before e (after ++ h') (by rw [List.append_assoc, List.cons_append])

end History

end DeliveryDesk.Console.Inspector

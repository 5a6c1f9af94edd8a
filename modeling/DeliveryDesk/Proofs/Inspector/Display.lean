import DeliveryDesk.Proofs.Inspector.Run

/-!
# What is on display after a run

Any number of polls may be in flight and come back in any order, between switches to other tasks,
closings, failed polls and dispatches. Still the task on display is a function of the history:
`Shows` ties the inspector's two fields to what the history says, every transition keeps it
(`Shows.transition`), and so does every run (`run_shows`). Each poll that comes back is judged by
the task asked for last at that moment (`Answered`, `run_answered`).

Two main results. `surface_determined_by_history`: what is on display is the answer of the last
poll to be rendered since the last closing, as a whole. `discarded_after_closing_iff`: a poll
begun before a closing and completed after it is discarded exactly when its task is not the one
asked for last since; `reopened_task_renders_late_poll` is a run in which it is not discarded.
-/

namespace DeliveryDesk.Console.Inspector

open Text History

/-! ## One more event -/

/-- After one more event the target is what that event asks for, or the target before it. -/
theorem target_concat (h : History) (e : Event) :
    target (h ++ [e]) = if e.isClosing then none else e.request?.or h.target := by
  unfold target sinceClosed
  rw [since_concat]
  cases e.isClosing with
  | true => rfl
  | false =>
    rw [if_neg Bool.false_ne_true, filterMap_concat]
    cases e.request? <;> simp

/-- One more event adds what it brings on display, or clears everything. -/
theorem displayed_concat (h : History) (e : Event) :
    displayed (h ++ [e]) = if e.isClosing then [] else h.displayed ++ e.surface?.toList := by
  unfold displayed sinceClosed
  rw [since_concat]
  cases e.isClosing with
  | true => rfl
  | false => exact filterMap_concat _ _ _

/-! ## The state follows the history -/

/-- The inspector shows what its history says. -/
structure Shows (h : History) (i : Inspector) : Prop where
  target : i.latestTarget = h.target
  surface : i.surface = h.displayed.getLast?

/-- Every transition keeps the state and the history in step. -/
theorem Shows.transition {h : History} {i i' : Inspector} {e : Event} (hs : Shows h i)
    (ht : Transition i e i') : Shows (h ++ [e]) i' := by
  -- all but three transitions leave both fields and both readings of the history alone
  have hquiet : e.isClosing = false → e.request? = none → e.surface? = none →
      i'.latestTarget = i.latestTarget → i'.surface = i.surface → Shows (h ++ [e]) i' := by
    intro hc hr hsur htarget hsurface
    constructor
    · rw [target_concat, hc, hr, htarget, hs.target]; rfl
    · rw [displayed_concat, hc, hsur, hsurface, hs.surface]; simp
  cases ht with
  | dispatchRefused => exact hquiet rfl rfl rfl rfl rfl
  | dispatchBegun => exact hquiet rfl rfl rfl rfl rfl
  | dispatched => exact hquiet rfl rfl rfl rfl rfl
  | dispatchFailed => exact hquiet rfl rfl rfl rfl rfl
  | pollRefused => exact hquiet rfl rfl rfl rfl rfl
  | discarded ticket reply => exact hquiet rfl rfl (by cases reply <;> rfl) rfl rfl
  | pollFailed => exact hquiet rfl rfl rfl rfl rfl
  | pollBegun taskId =>
    constructor
    · rw [target_concat]; rfl
    · rw [displayed_concat]; simpa [Event.isClosing, Event.surface?] using hs.surface
  | rendered ticket task =>
    constructor
    · rw [target_concat]; simpa [Event.isClosing, Event.request?] using hs.target
    · rw [displayed_concat]; simp [Event.isClosing, Event.surface?]
  | closed =>
    constructor
    · rw [target_concat]; rfl
    · rw [displayed_concat]; rfl

/-- After every run the inspector shows what its history says. -/
theorem run_shows (ops : List Operation) : Shows (run {} ops).2 (run {} ops).1 :=
  run_induction ⟨rfl, rfl⟩ (fun _ _ _ _ hs ht => hs.transition ht) ops

/-- How a poll that has come back is judged by the history before it: it is discarded if its task
is not the target, whatever it brought, and taken as it is otherwise. -/
def Answered (h : History) : Event → Prop
  | .pollCompleted ticket reply result =>
    (result = .ok .discarded ↔ h.target ≠ some ticket.taskId) ∧
      (h.target = some ticket.taskId → result = reply.map fun _ => .rendered)
  | _ => True

/-- The judgement of a transition from a state that follows the history. -/
theorem Shows.answered {h : History} {i i' : Inspector} {e : Event} (hs : Shows h i)
    (ht : Transition i e i') : Answered h e := by
  cases ht with
  | discarded ticket reply stale =>
    rw [hs.target] at stale
    exact ⟨⟨fun _ => stale, fun _ => rfl⟩, fun hcurrent => absurd hcurrent stale⟩
  | rendered ticket task current =>
    rw [hs.target] at current
    refine ⟨⟨fun hd => ?_, fun hne => absurd current hne⟩, fun _ => rfl⟩
    cases hd
  | pollFailed ticket fault current =>
    rw [hs.target] at current
    refine ⟨⟨fun hd => ?_, fun hne => absurd current hne⟩, fun _ => rfl⟩
    cases hd
  | _ => trivial

/-- Along every run every poll that comes back is judged by the history before it. -/
theorem run_answered (ops : List Operation) : (run {} ops).2.Always Answered := by
  have hboth : Shows (run {} ops).2 (run {} ops).1 ∧ (run {} ops).2.Always Answered := by
    refine run_induction (P := fun h i => Shows h i ∧ h.Always Answered) ⟨⟨rfl, rfl⟩, ?_⟩ ?_ ops
    · intro before e after hnil
      simp at hnil
    · intro h i e i' ⟨hs, hall⟩ ht
      exact ⟨hs.transition ht, always_concat.mpr ⟨hall, hs.answered ht⟩⟩
  exact hboth.2

/-- An event of a run's history was judged by the events before it. -/
theorem answered_of_mem {ops : List Operation} {ticket : PollTicket}
    {reply : Except Fault DeliveryTask} {result : Except Fault PollOutcome}
    (hmem : .pollCompleted ticket reply result ∈ (run {} ops).2) :
    ∃ before : History, Answered before (.pollCompleted ticket reply result) := by
  obtain ⟨before, after, hsplit⟩ := List.append_of_mem hmem
  exact ⟨before, run_answered ops before _ after hsplit⟩

/-- A poll that was rendered had brought a task. -/
theorem reply_of_rendered {h : History} {ticket : PollTicket}
    {reply : Except Fault DeliveryTask}
    (ha : Answered h (.pollCompleted ticket reply (.ok .rendered))) :
    ∃ task, reply = .ok task := by
  obtain ⟨hdiscarded, htaken⟩ := ha
  have hcurrent : h.target = some ticket.taskId := by
    by_contra hstale
    have hout := hdiscarded.mpr hstale
    cases hout
  have hreply := htaken hcurrent
  cases reply with
  | ok task => exact ⟨task, rfl⟩
  | error fault => cases hreply

/-- Something is on display exactly when a poll was rendered since the last closing. -/
theorem displayed_ne_nil_iff (ops : List Operation) :
    (run {} ops).2.displayed ≠ [] ↔
      ∃ ticket reply, .pollCompleted ticket reply (.ok .rendered) ∈ (run {} ops).2.sinceClosed := by
  constructor
  · intro hne
    obtain ⟨s, hs⟩ := List.exists_mem_of_ne_nil _ hne
    obtain ⟨e, he, hsur⟩ := List.mem_filterMap.mp hs
    obtain ⟨ticket, task, rfl, -⟩ := Event.surface?_eq_some_iff.mp hsur
    exact ⟨ticket, .ok task, he⟩
  · rintro ⟨ticket, reply, he⟩
    obtain ⟨before, ha⟩ := answered_of_mem (mem_of_mem_since he)
    obtain ⟨task, rfl⟩ := reply_of_rendered ha
    exact List.ne_nil_of_mem (List.mem_filterMap.mpr ⟨_, he, rfl⟩)

/-! ## The open inspection is determined by the history -/

/-- **The history alone decides what is open.** In every run a poll that comes back is discarded
exactly when its task is not the one asked for last since the last closing, even if it failed;
otherwise it is rendered, or its fault is reported. Afterwards something is on display exactly
when a poll was rendered since the last closing, and then it is the answer of the last of them. -/
theorem surface_determined_by_history (ops : List Operation) :
    let i := (run {} ops).1
    let h := (run {} ops).2
    (∀ (before : History) ticket reply result after,
      h = before ++ .pollCompleted ticket reply result :: after →
        (result = .ok .discarded ↔ before.target ≠ some ticket.taskId) ∧
          (before.target = some ticket.taskId → result = reply.map fun _ => .rendered)) ∧
      (i.surface.isSome ↔
        ∃ ticket reply, .pollCompleted ticket reply (.ok .rendered) ∈ h.sinceClosed) ∧
      i.surface = h.displayed.getLast? := by
  intro i h
  have hs : Shows h i := run_shows ops
  refine ⟨?_, ?_, hs.surface⟩
  · intro before ticket reply result after hsplit
    exact run_answered ops before _ after hsplit
  · rw [← displayed_ne_nil_iff ops, hs.surface, List.getLast?_isSome]

/-! ## Polls that come back after a closing -/

/-- What was asked for before a closing is forgotten. -/
theorem target_append_closed (h h' : History) : target (h ++ .closed :: h') = target h' := by
  unfold target sinceClosed
  rw [since_append_cons rfl]

/-- A ticket names the task its poll was begun for. -/
theorem taskId_of_begun {ops : List Operation} {taskId : String} {ticket : PollTicket}
    (begun : .pollBegun taskId (.ok ticket) ∈ (run {} ops).2) : ticket.taskId = trim taskId := by
  revert taskId ticket
  refine run_induction (P := fun h _ => ∀ {taskId ticket},
    .pollBegun taskId (.ok ticket) ∈ h → ticket.taskId = trim taskId) (by simp) ?_ ops
  intro h i e i' ih ht taskId ticket hmem
  rcases List.mem_append.mp hmem with hold | hnew
  · exact ih hold
  · rw [List.mem_singleton] at hnew
    subst hnew
    cases ht
    rfl

/-- The part of a run before a closing and the part after it. -/
theorem run_close (before after : List Operation) :
    run {} (before ++ .close :: after) =
      (((run {} before).1.close.run after).1,
        (run {} before).2 ++ .closed :: ((run {} before).1.close.run after).2) :=
  run_append {} before (.close :: after)

/-- After a closing only what was asked for since then counts. -/
theorem latestTarget_after_close (before after : List Operation) :
    ((run {} before).1.close.run after).1.latestTarget =
      ((run {} before).1.close.run after).2.target := by
  have hs := run_shows (before ++ .close :: after)
  rw [run_close] at hs
  rw [hs.target, target_append_closed]

/-- **Closing and late polls.** A poll begun before a closing and completed after it is discarded,
and leaves the display alone, exactly when its task is not the one asked for last since the
closing. A ticket names only its task, so a poll of the same task that is begun in between makes
the late one current again. -/
theorem discarded_after_closing_iff {before : List Operation} {taskId : String}
    {ticket : PollTicket} (begun : .pollBegun taskId (.ok ticket) ∈ (run {} before).2)
    (after : List Operation) (reply : Except Fault DeliveryTask) :
    let closed := (run {} before).1.close
    let i := (closed.run after).1
    ((i.completeInspect ticket reply).2 = .ok .discarded ∧
        (i.completeInspect ticket reply).1.surface = i.surface) ↔
      (closed.run after).2.target ≠ some (trim taskId) := by
  intro closed i
  -- the ticket keeps its task across the closing, so only the new target matters
  rw [← taskId_of_begun begun, ← latestTarget_after_close before after]
  constructor
  · rintro ⟨hdiscarded, -⟩ hcurrent
    rw [completeInspect_of_current hcurrent reply] at hdiscarded
    cases reply <;> cases hdiscarded
  · intro hstale
    rw [completeInspect_of_stale hstale reply]
    exact ⟨rfl, rfl⟩

/-- A task that was switched away from after the closing. -/
theorem discarded_after_closing_switch :
    .pollBegun "t1" (.ok ⟨1, "t1"⟩) ∈ (run {} [.beginInspect "t1"]).2 ∧
      let i := ((run {} [.beginInspect "t1"]).1.close.run [.beginInspect "t1", .beginInspect "t2"]).1
      (i.completeInspect ⟨1, "t1"⟩ (.ok default)).2 = .ok .discarded ∧
        (i.completeInspect ⟨1, "t1"⟩ (.ok default)).1.surface = i.surface := by
  have h₁ : isBlankText "t1" = false := by decide
  have h₂ : isBlankText "t2" = false := by decide
  have t₁ : trim "t1" = "t1" := by decide
  have t₂ : trim "t2" = "t2" := by decide
  have hbegun : .pollBegun "t1" (.ok ⟨1, "t1"⟩) ∈ (run {} [.beginInspect "t1"]).2 := by
    simp [run, step, beginInspect_of_named h₁, t₁]
  refine ⟨hbegun, (discarded_after_closing_iff hbegun _ _).mpr ?_⟩
  rw [← latestTarget_after_close]
  simp [run, step, beginInspect_of_named h₁, beginInspect_of_named h₂, t₁, t₂]

/-- **A late poll that is not discarded.** The inspection of a task is closed and opened again;
the poll begun before the closing comes back and is put on display. -/
theorem reopened_task_renders_late_poll :
    let before := run {} [.beginInspect "task-1"]
    let i := (before.1.close.run [.beginInspect "task-1"]).1
    before.2 = [.pollBegun "task-1" (.ok ⟨1, "task-1"⟩)] ∧ i.surface = none ∧
      (i.completeInspect ⟨1, "task-1"⟩ (.ok default)).2 = .ok .rendered ∧
      (i.completeInspect ⟨1, "task-1"⟩ (.ok default)).1.surface = some ⟨default, 1⟩ := by
  have h₁ : isBlankText "task-1" = false := by decide
  have t₁ : trim "task-1" = "task-1" := by decide
  simp [run, step, beginInspect_of_named h₁, t₁, close, completeInspect]

end DeliveryDesk.Console.Inspector

import DeliveryDesk.Proofs.Console.Course
import Mathlib.Data.List.DropRight

/-!
# Which task is polled

The inspector can have many polls in flight, and discards those that come back too late. Held one
after the other, the actions of a console never come to that: every action waits for its own call,
and the task it asked for is still the one asked for last when the reply comes.
`quiescent_between_actions` says so for every console that a run leads to.

A refresh asks for the task on display, and else for the one asked for last. These are two fields,
and after a check that failed they may differ. `inspected?` reads off the turns of a run which task
it ought to be: the one on display, else the one that was checked last since the inspection was
closed. `Inspects` ties the fields to that, and every turn keeps it (`Course.inspects`), if the
service answers with the tasks that it is asked for. So `refresh_polls_inspected_task` can say what
a refresh does without a word about the field that it reads.
-/

namespace DeliveryDesk.Console

open Conversation Text

/-! ## Nothing is in flight between actions -/

/-- Where nothing is in flight, the phase says what the operator can do next. -/
theorem Settled.phase {c : Console} (settled : c.Settled) :
    c.inspector.phase = .idle ∨ c.inspector.phase = .dispatched ∨
      c.inspector.phase = .rendered := by
  have hquiet : ¬ 0 < c.inspector.inFlight := by
    rw [settled.inFlight]
    exact UInt64.lt_irrefl 0
  unfold Inspector.phase
  rw [settled.dispatching, if_neg Bool.false_ne_true, if_neg hquiet]
  cases c.inspector.surface.isSome
  · cases c.inspector.checkTarget.isSome <;> simp
  · simp

/-- Where nothing is in flight, a form is judged by what it holds. -/
theorem Settled.beginDispatch {c : Console} (settled : c.Settled) (form : DispatchForm) :
    (c.inspector.beginDispatch form).map Prod.fst = form.parse := by
  unfold Inspector.beginDispatch
  rw [settled.dispatching, if_neg Bool.false_ne_true]
  cases form.parse <;> rfl

/-- A form is never at fault for a dispatch that is in flight. -/
theorem DispatchForm.parse_ne_alreadySent (form : DispatchForm) :
    form.parse ≠ .error (.validation "A test webhook is already being sent") := by
  unfold DispatchForm.parse
  split
  · simp
  · split <;> simp

/-- A poll that is held to its end is not discarded. -/
theorem Inspector.inspect_not_discarded (i : Inspector) (taskId : String) :
    (i.inspect taskId).Ensures fun _ r => r.2 ≠ .ok .discarded := by
  refine Inspector.inspect_ensures (fun fault _ => ?_) (fun _ fault => ?_) (fun _ task => ?_)
  · rintro ⟨⟩
  · rintro ⟨⟩
  · rintro ⟨⟩

/-- Neither is one that is repeated. -/
theorem Inspector.refresh_not_discarded (i : Inspector) :
    i.refresh.Ensures fun _ r => r.2 ≠ .ok .discarded := by
  unfold Inspector.refresh
  split
  · refine ensures_done_iff.mpr ?_
    rintro ⟨⟩
  · exact i.inspect_not_discarded _

/-- A poll of a task that is named is not refused. -/
theorem not_refused_of_named {i : Inspector} {taskId : String} (named : trim taskId ≠ "")
    {fault : Fault} : i.beginInspect taskId ≠ .error fault := by
  rw [Inspector.beginInspect_of_named (trim_ne_empty_iff.mp named)]
  rintro ⟨⟩

/-- One call is made, for one task. It succeeds exactly if it is answered, and then the answer is on
display. -/
def Polls (c : Console) (taskId : String) (t : List Exchange) (displayed : Bool)
    (c' : Console) : Prop :=
  ∃ reply, t = [.answered (.getDelivery taskId) reply] ∧
    (displayed = true ↔ ∃ task, reply = .ok task) ∧
    ∀ task, reply = .ok task → c'.inspector.surface = some ⟨task, c.inspector.lastSeq + 1⟩

theorem polls_failed (c c' : Console) (taskId : String) (fault : Fault) :
    c.Polls taskId [.answered (.getDelivery taskId) (.error fault)] false c' :=
  ⟨.error fault, rfl, by simp, by simp⟩

theorem polls_displaying (c : Console) (taskId : String) (task : DeliveryTask) :
    c.Polls taskId [.answered (.getDelivery taskId) (.ok task)] true
      (c.displaying taskId task) := by
  refine ⟨.ok task, rfl, by simp, ?_⟩
  rintro _ ⟨⟩
  rfl

/-- A check of a task that is named polls that task. -/
theorem Course.polls_of_check {taskId : String} {t : List Exchange} {displayed : Bool}
    {c c' : Console} (course : Course c ⟨.checkDeliveryStatus taskId, t, displayed⟩ c')
    (named : trim taskId ≠ "") : c.Polls (trim taskId) t displayed c' := by
  cases course with
  | refused refuses =>
    cases refuses with
    | check refused => exact absurd refused (not_refused_of_named named)
  | failed asks fault =>
    cases asks with
    | check => exact polls_failed ..
  | checked asks task =>
    cases asks with
    | check => exact polls_displaying ..

/-- A check of a task that is named, when the service answers. -/
theorem takes_check_ok {taskId : String} (named : trim taskId ≠ "") (c : Console)
    (task : DeliveryTask) :
    Turn.Takes ⟨.checkDeliveryStatus taskId,
      [.answered (.getDelivery (trim taskId)) (.ok task)], true⟩ c
      (c.displaying (trim taskId) task) :=
  yields_bind_iff.mpr ⟨_, _, [], rfl, Inspector.inspect_yields_ok named c.inspector task, .done _⟩

/-- A check of a task that is named, when the call fails. -/
theorem takes_check_error {taskId : String} (named : trim taskId ≠ "") (c : Console)
    (fault : Fault) :
    Turn.Takes ⟨.checkDeliveryStatus taskId,
      [.answered (.getDelivery (trim taskId)) (.error fault)], false⟩ c
      ((c.afterFault (.getDelivery (trim taskId)) fault).notify
        (.failure "check delivery status" fault)) :=
  yields_bind_iff.mpr
    ⟨_, _, [], rfl, Inspector.inspect_yields_error named c.inspector fault, .done _⟩

/-- **Between actions all is quiet.** In every console that a run leads to, no dispatch and no poll
is in flight, and the phase is idle, dispatched or rendered. So a dispatch is never refused because
of another one, and no poll is ever discarded. A check of a task that is named makes one call, for
that task, and goes on with whatever the service replies; it succeeds exactly if that is an answer,
and then the answer is on display. -/
theorem quiescent_between_actions {page : Page} {h : List Turn} {c : Console}
    (run : Run (({} : Console).withPage page) h c) :
    (c.inspector.dispatching = false ∧ c.inspector.inFlight = 0 ∧
      (c.inspector.phase = .idle ∨ c.inspector.phase = .dispatched ∨
        c.inspector.phase = .rendered)) ∧
    (∀ form, (c.inspector.beginDispatch form).map Prod.fst = form.parse ∧
      c.inspector.beginDispatch form ≠
        .error (.validation "A test webhook is already being sent")) ∧
    ((∀ taskId, (c.inspector.inspect taskId).Ensures fun _ r => r.2 ≠ .ok .discarded) ∧
      c.inspector.refresh.Ensures fun _ r => r.2 ≠ .ok .discarded) ∧
    ∀ taskId, trim taskId ≠ "" →
      (∀ reply, ∃ displayed c', Turn.Takes ⟨.checkDeliveryStatus taskId,
        [.answered (.getDelivery (trim taskId)) reply], displayed⟩ c c') ∧
      ∀ t displayed c', Turn.Takes ⟨.checkDeliveryStatus taskId, t, displayed⟩ c c' →
        c.Polls (trim taskId) t displayed c' := by
  have settled := run.settled
  refine ⟨⟨settled.dispatching, settled.inFlight, settled.phase⟩, fun form => ?_, ?_,
    fun taskId named => ⟨fun reply => ?_, fun t displayed c' takes => ?_⟩⟩
  · have hform := settled.beginDispatch form
    refine ⟨hform, fun refused => ?_⟩
    rw [refused] at hform
    exact form.parse_ne_alreadySent hform.symm
  · exact ⟨c.inspector.inspect_not_discarded, c.inspector.refresh_not_discarded⟩
  · cases reply with
    | error fault => exact ⟨_, _, takes_check_error named c fault⟩
    | ok task => exact ⟨_, _, takes_check_ok named c task⟩
  · exact takes.course.polls_of_check named

/-- A check that failed leaves nothing in flight; the next one is answered. -/
theorem quiescent_between_actions_recovered :
    let fault : Fault := .transport "timeout"
    let failed : Turn :=
      ⟨.checkDeliveryStatus "t1", [.answered (.getDelivery "t1") (.error fault)], false⟩
    let check : Turn :=
      ⟨.checkDeliveryStatus " t2 ", [.answered (.getDelivery "t2") (.ok default)], true⟩
    ∃ c c', Run (({} : Console).withPage {}) [failed] c ∧ check.Takes c c' ∧
      c.inspector.dispatching = false ∧ c.inspector.inFlight = 0 ∧
      c.Polls "t2" check.exchanges true c' := by
  intro fault failed check
  have named₁ : trim "t1" ≠ "" := by decide
  have named₂ : trim " t2 " ≠ "" := by decide
  have hfailed := takes_check_error named₁ (({} : Console).withPage {}) fault
  have hcheck := takes_check_ok named₂
    ((({} : Console).afterFault (.getDelivery (trim "t1")) fault).notify
      (.failure "check delivery status" fault)) default
  have htrim₁ : trim "t1" = "t1" := by decide
  have htrim₂ : trim " t2 " = "t2" := by decide
  rw [htrim₁] at hfailed hcheck
  rw [htrim₂] at hcheck
  have run := Run.cons hfailed .nil
  obtain ⟨⟨hidle, hzero, -⟩, -, -, hpolls⟩ := quiescent_between_actions run
  have hpoll := (hpolls " t2 " named₂).2 _ _ _ hcheck
  rw [htrim₂] at hpoll
  exact ⟨_, _, run, hcheck, hidle, hzero, hpoll⟩

/-! ## The task that is inspected -/

/-- Whether a turn closed the inspection. -/
def Turn.closes (u : Turn) : Bool :=
  match u.action with
  | .closeInspection => true
  | _ => false

/-- The task that was checked in a turn, without the blanks around it, if one was named. -/
def Turn.checked? (u : Turn) : Option String :=
  match u.action with
  | .checkDeliveryStatus taskId => if trim taskId = "" then none else some (trim taskId)
  | _ => none

theorem Turn.checked?_check (taskId : String) (t : List Exchange) (displayed : Bool) :
    Turn.checked? ⟨.checkDeliveryStatus taskId, t, displayed⟩ =
      if trim taskId = "" then none else some (trim taskId) := rfl

/-- The task that was checked last since the inspection was last closed. -/
def lastChecked? (h : List Turn) : Option String :=
  ((h.rtakeWhile fun u => !u.closes).filterMap Turn.checked?).getLast?

/-- The task that is inspected after the turns `h`: the one on display, else the one that was
checked last since the inspection was closed. -/
def inspected? (h : List Turn) (c : Console) : Option String :=
  (c.inspector.surface.map (·.task.id)).or (lastChecked? h)

/-- The service answers with the tasks that it is asked for. -/
def Turn.Faithful (u : Turn) : Prop :=
  ∀ taskId task, .answered (.getDelivery taskId) (.ok task) ∈ u.exchanges → task.id = taskId

/-- One more turn checks a task, or closes the inspection, or leaves the last check as it was. -/
theorem lastChecked?_concat (h : List Turn) (u : Turn) :
    lastChecked? (h ++ [u]) = if u.closes then none else u.checked?.or (lastChecked? h) := by
  unfold lastChecked?
  rw [List.rtakeWhile_concat]
  cases u.closes with
  | true => rfl
  | false =>
    rw [Bool.not_false, if_pos rfl, if_neg Bool.false_ne_true, List.filterMap_append]
    cases hu : u.checked? <;> simp [hu]

/-- A name that is asked for as it stands. -/
def Plain (taskId : String) : Prop := trim taskId = taskId ∧ taskId ≠ ""

theorem plain_trim {taskId : String} (named : trim taskId ≠ "") : Plain (trim taskId) :=
  ⟨trim_trim taskId, named⟩

/-- What was checked is named without blanks. -/
theorem plain_lastChecked {h : List Turn} {taskId : String} (hlast : lastChecked? h = some taskId) :
    Plain taskId := by
  obtain ⟨u, -, hu⟩ := List.mem_filterMap.mp (List.mem_of_getLast? hlast)
  unfold Turn.checked? at hu
  split at hu
  · split at hu
    · cases hu
    · next named =>
      cases hu
      exact plain_trim named
  · cases hu

/-- The inspector is at the task that the turns say. -/
structure Inspects (h : List Turn) (c : Console) : Prop where
  latest : c.inspector.surface = none → c.inspector.latestTarget = lastChecked? h
  displayed : ∀ s, c.inspector.surface = some s → Plain s.task.id

/-- A refresh asks for the task that is inspected. -/
theorem Inspects.refreshTarget_eq {h : List Turn} {c : Console} (inspects : Inspects h c) :
    c.inspector.refreshTarget = inspected? h c := by
  unfold Inspector.refreshTarget inspected?
  cases hsurface : c.inspector.surface with
  | none => simpa using inspects.latest hsurface
  | some s => rfl

/-- The task that is inspected can be asked for. -/
theorem Inspects.plain {h : List Turn} {c : Console} (inspects : Inspects h c) {taskId : String}
    (target : inspected? h c = some taskId) : Plain taskId := by
  unfold inspected? at target
  cases hsurface : c.inspector.surface with
  | none =>
    rw [hsurface] at target
    exact plain_lastChecked target
  | some s =>
    rw [hsurface] at target
    cases target
    exact inspects.displayed s hsurface

/-- A turn that neither checks nor closes nor displays anything leaves the inspector at its task. -/
theorem Inspects.quiet {h : List Turn} {c c' : Console} {u : Turn} (inspects : Inspects h c)
    (hcloses : u.closes = false) (hchecked : u.checked? = none)
    (hlatest : c'.inspector.latestTarget = c.inspector.latestTarget)
    (hsurface : c'.inspector.surface = c.inspector.surface) : Inspects (h ++ [u]) c' := by
  constructor
  · rw [hsurface, hlatest, lastChecked?_concat, hcloses, hchecked]
    exact inspects.latest
  · rw [hsurface]
    exact inspects.displayed

/-- A turn that displays a task with the name it was asked for. -/
theorem Inspects.display {h : List Turn} {c : Console} {taskId : String} {task : DeliveryTask}
    {u : Turn} (plain : Plain taskId) (faithful : task.id = taskId) :
    Inspects (h ++ [u]) (c.displaying taskId task) := by
  constructor
  · rintro ⟨⟩
  · rintro _ ⟨⟩
    rw [faithful]
    exact plain

/-- **Every turn keeps the inspector at the task that the turns say.** -/
theorem Course.inspects {u : Turn} {c c' : Console} {h : List Turn} (course : Course c u c')
    (faithful : u.Faithful) (inspects : Inspects h c) : Inspects (h ++ [u]) c' := by
  cases course with
  | refused refuses =>
    cases refuses with
    | @check taskId _ refused =>
      -- only a blank name is refused, and that is no check
      have hblank : trim taskId = "" := by
        by_contra named
        exact not_refused_of_named named refused
      refine inspects.quiet rfl ?_ rfl rfl
      rw [Turn.checked?_check, if_pos hblank]
    | _ => exact inspects.quiet rfl rfl rfl rfl
  | failed asks fault =>
    cases asks with
    | check named =>
      refine ⟨fun _ => ?_, inspects.displayed⟩
      rw [lastChecked?_concat, Turn.checked?_check, if_neg (trim_ne_empty_iff.mpr named)]
      rfl
    | @recheck taskId target named =>
      rw [inspects.refreshTarget_eq] at target
      refine ⟨fun hsurface => ?_, inspects.displayed⟩
      -- with nothing on display the task that was asked for is the one that was checked last
      have hnone : c.inspector.surface = none := hsurface
      have hlast : lastChecked? h = some taskId := by
        simpa [inspected?, hnone] using target
      rw [lastChecked?_concat]
      exact (congrArg some (inspects.plain target).1).trans hlast.symm
    | _ => exact inspects.quiet rfl rfl rfl rfl
  | checked asks task =>
    cases asks with
    | check named =>
      exact .display (plain_trim (trim_ne_empty_iff.mpr named))
        (faithful _ _ (List.mem_singleton_self _))
  | rechecked asks task =>
    cases asks with
    | recheck target named =>
      exact .display (plain_trim (trim_ne_empty_iff.mpr named))
        (faithful _ _ (List.mem_singleton_self _))
  | closed =>
    refine ⟨fun _ => ?_, ?_⟩
    · rw [lastChecked?_concat]
      rfl
    · rintro _ ⟨⟩
  | _ => exact inspects.quiet rfl rfl rfl rfl

/-- Against a service that answers with the tasks that it is asked for, every run leaves the
inspector at the task that its turns say. -/
theorem Run.inspects {page : Page} {h : List Turn} {c : Console}
    (run : Run (({} : Console).withPage page) h c) (faithful : ∀ u ∈ h, u.Faithful) :
    Inspects h c := by
  induction run with
  | nil => exact ⟨fun _ => rfl, by rintro _ ⟨⟩⟩
  | concat _ u takes ih =>
    rw [List.forall_mem_append] at faithful
    exact takes.course.inspects (faithful.2 u (List.mem_singleton_self u)) (ih faithful.1)

/-- **A refresh polls the task that is inspected.** After a run against a service that answers with
the tasks that it is asked for, a refresh makes one call, for the task on display, else for the one
that was checked last since the inspection was closed. It succeeds exactly if that is answered, and
then displays the answer, a task of the same name. If there is neither, it makes no call and changes
nothing but for one error that is reported. -/
theorem refresh_polls_inspected_task {page : Page} {h : List Turn} {c : Console}
    (run : Run (({} : Console).withPage page) h c) {t : List Exchange} {displayed : Bool}
    {c' : Console} (takes : Turn.Takes ⟨.refreshDeliveryStatus, t, displayed⟩ c c')
    (faithful : ∀ u ∈ h ++ [⟨.refreshDeliveryStatus, t, displayed⟩], u.Faithful) :
    (∀ taskId, inspected? h c = some taskId →
      c.Polls taskId t displayed c' ∧
        (displayed = true → ∃ s, c'.inspector.surface = some s ∧ s.task.id = taskId)) ∧
    (inspected? h c = none →
      t = [] ∧ displayed = false ∧ ∃ n, n.isError = true ∧ c' = c.notify n) := by
  rw [List.forall_mem_append] at faithful
  have inspects := run.inspects faithful.1
  have own := faithful.2 _ (List.mem_singleton_self _)
  -- the course speaks of the field that is read, which is the task that is inspected
  cases takes.course with
  | refused refuses =>
    cases refuses with
    | recheck target refused =>
      rw [inspects.refreshTarget_eq] at target
      obtain ⟨htrim, hne⟩ := inspects.plain target
      exact absurd refused (not_refused_of_named (htrim.symm ▸ hne))
    | nothingToRecheck target =>
      rw [inspects.refreshTarget_eq] at target
      refine ⟨fun taskId hsome => ?_, fun _ => ⟨rfl, rfl, _, Action.isError_report _ _, rfl⟩⟩
      cases target.symm.trans hsome
  | failed asks fault =>
    cases asks with
    | recheck target named =>
      rw [inspects.refreshTarget_eq] at target
      refine ⟨fun taskId hsome => ?_, fun hnone => ?_⟩
      · cases target.symm.trans hsome
        rw [(inspects.plain target).1]
        exact ⟨polls_failed .., by rintro ⟨⟩⟩
      · cases target.symm.trans hnone
  | rechecked asks task =>
    cases asks with
    | recheck target named =>
      rw [inspects.refreshTarget_eq] at target
      refine ⟨fun taskId hsome => ?_, fun hnone => ?_⟩
      · cases target.symm.trans hsome
        have hid := own _ task (List.mem_singleton_self _)
        rw [(inspects.plain target).1] at hid ⊢
        exact ⟨polls_displaying .., fun _ => ⟨_, rfl, hid⟩⟩
      · cases target.symm.trans hnone

/-- A task is on display, and the check of another one fails; a refresh asks for the one on
display. -/
theorem refresh_polls_inspected_task_failed_switch :
    let task : DeliveryTask := { (default : DeliveryTask) with id := "t1" }
    let fault : Fault := .transport "timeout"
    let shown : Turn :=
      ⟨.checkDeliveryStatus "t1", [.answered (.getDelivery "t1") (.ok task)], true⟩
    let failed : Turn :=
      ⟨.checkDeliveryStatus "t2", [.answered (.getDelivery "t2") (.error fault)], false⟩
    let refresh : Turn :=
      ⟨.refreshDeliveryStatus, [.answered (.getDelivery "t1") (.ok task)], true⟩
    ∃ c c', Run (({} : Console).withPage {}) [shown, failed] c ∧ refresh.Takes c c' ∧
      (∀ u ∈ [shown, failed] ++ [refresh], u.Faithful) ∧
      c.inspector.latestTarget = some "t2" ∧ inspected? [shown, failed] c = some "t1" ∧
      c.Polls "t1" refresh.exchanges true c' := by
  intro task fault shown failed refresh
  have named₁ : trim "t1" ≠ "" := by decide
  have named₂ : trim "t2" ≠ "" := by decide
  have htrim₁ : trim "t1" = "t1" := by decide
  have htrim₂ : trim "t2" = "t2" := by decide
  let c₁ : Console := ({} : Console).displaying "t1" task
  let c₂ : Console := (c₁.afterFault (.getDelivery "t2") fault).notify
    (.failure "check delivery status" fault)
  have hshown : shown.Takes (({} : Console).withPage {}) c₁ := by
    have h := takes_check_ok named₁ (({} : Console).withPage {}) task
    rwa [htrim₁] at h
  have hfailed : failed.Takes c₁ c₂ := by
    have h := takes_check_error named₂ c₁ fault
    rwa [htrim₂] at h
  have hrefresh : refresh.Takes c₂ (c₂.displaying "t1" task) := by
    have h := Inspector.inspect_yields_ok named₁ c₂.inspector task
    rw [htrim₁] at h
    exact yields_bind_iff.mpr ⟨_, _, [], rfl, h, .done _⟩
  have run := Run.cons hshown (.cons hfailed .nil)
  have faithful : ∀ u ∈ [shown, failed] ++ [refresh], u.Faithful := by
    simp [shown, failed, refresh, task, Turn.Faithful]
  have htarget : inspected? [shown, failed] c₂ = some "t1" := rfl
  obtain ⟨hpolls, -⟩ := refresh_polls_inspected_task run hrefresh faithful
  exact ⟨c₂, _, run, hrefresh, faithful, rfl, htarget, (hpolls "t1" htarget).1⟩

end DeliveryDesk.Console

import DeliveryDesk.Proofs.Console.Polls

/-!
# Which of the offered tasks can be polled

The inspector offers two tasks to the operator: the one to be checked, which the answer to the last
dispatch named, and the one to be refreshed, which is on display or was asked for last. A poll trims
the name that it is given and refuses a blank one. What the operator asked for was trimmed already,
so it can always be asked for again. What the service named need not be: the answer to a dispatch
may name a task by any text but the empty one, and a task that was fetched may have any name at all.

`Offers` says of each of the three fields where its name comes from, and every transition keeps it
(`Transition.offers`). `beginsFor_iff` and `callsOnly_inspect_iff` say which names a poll asks for
as they are.

Main result: `offered_task_is_polled_iff`; `blank_offers_are_refused` has a run of each kind in
which an offered task cannot be polled.
-/

namespace DeliveryDesk

open Text

/-- However it goes, a conversation makes one call and is over. -/
def Conversation.CallsOnly {α : Type} (x : Conversation α) (call : Call) : Prop :=
  x.Ensures fun t _ => ∃ reply, t = [.answered call reply]

namespace Console.Inspector

open Conversation

/-! ## Names that are asked for as they are -/

/-- A poll of a task is begun, and its ticket is for that very task. -/
def BeginsFor (i : Inspector) (taskId : String) : Prop :=
  ∃ ticket i', i.beginInspect taskId = .ok (ticket, i') ∧ ticket.taskId = taskId

/-- A blank name is refused. -/
theorem beginInspect_of_blank {taskId : String} (blank : trim taskId = "") (i : Inspector) :
    i.beginInspect taskId = .error (.validation "Please enter a delivery task ID") := by
  rw [beginInspect, nonBlank?_eq_none_iff.mpr blank]

theorem beginsFor_iff (i : Inspector) (taskId : String) : i.BeginsFor taskId ↔ Plain taskId := by
  constructor
  · rintro ⟨ticket, i', begun, rfl⟩
    by_cases blank : trim ticket.taskId = ""
    · rw [beginInspect_of_blank blank] at begun
      cases begun
    · rw [beginInspect_of_named (trim_ne_empty_iff.mp blank)] at begun
      have hname : trim ticket.taskId = ticket.taskId :=
        congrArg PollTicket.taskId (Prod.mk.inj (Except.ok.inj begun)).1
      exact ⟨hname, hname ▸ blank⟩
  · rintro ⟨htrim, hne⟩
    have named : trim taskId ≠ "" := htrim.symm ▸ hne
    exact ⟨_, _, beginInspect_of_named (trim_ne_empty_iff.mp named) i, htrim⟩

theorem callsOnly_inspect_iff (i : Inspector) (taskId : String) :
    (i.inspect taskId).CallsOnly (.getDelivery taskId) ↔ Plain taskId := by
  constructor
  · intro calls
    by_cases blank : trim taskId = ""
    · -- nothing is asked for a blank name
      rw [inspect, beginInspect_of_blank blank] at calls
      obtain ⟨reply, hreply⟩ := ensures_done_iff.mp calls
      cases hreply
    · obtain ⟨reply, hreply⟩ := calls _ _ (inspect_yields_error blank i (.validation ""))
      have hname : trim taskId = taskId := by
        injection hreply with hexchange
        injection hexchange with hcall
        exact Call.getDelivery.inj hcall
      exact ⟨hname, hname ▸ blank⟩
  · rintro ⟨htrim, hne⟩
    have named : trim taskId ≠ "" := htrim.symm ▸ hne
    refine inspect_ensures (fun fault refused => ?_) (fun _ fault => ?_) (fun _ task => ?_)
    · exact absurd refused (not_refused_of_named named)
    · rw [htrim]
      exact ⟨_, rfl⟩
    · rw [htrim]
      exact ⟨_, rfl⟩

/-- A refresh polls the task that it offers. -/
theorem refresh_of_target {i : Inspector} {taskId : String}
    (target : i.refreshTarget = some taskId) : i.refresh = i.inspect taskId := by
  rw [refresh, target]

/-! ## Where the names come from -/

/-- The task that the service named in a reply. -/
def Event.named? : Event → Option String
  | .dispatchCompleted (.ok receipt) _ => receipt.taskId?
  | .pollCompleted _ (.ok task) _ => some task.id
  | _ => none

/-- The service named a task in one of its replies. -/
def History.Names (h : History) (taskId : String) : Prop := ∃ e ∈ h, e.named? = some taskId

theorem History.Names.concat {h : History} {taskId : String} (names : h.Names taskId) (e : Event) :
    History.Names (h ++ [e]) taskId := by
  obtain ⟨e', he', hnamed⟩ := names
  exact ⟨e', List.mem_append_left [e] he', hnamed⟩

/-- The tasks that an inspector offers were named by the service or trimmed. -/
structure Offers (h : History) (i : Inspector) : Prop where
  check : ∀ taskId, i.checkTarget = some taskId → h.Names taskId ∧ taskId ≠ ""
  latest : ∀ taskId, i.latestTarget = some taskId → Plain taskId
  displayed : ∀ s, i.surface = some s → h.Names s.task.id

/-- What was named once was named. -/
theorem Offers.concat {h : History} {i : Inspector} (offers : Offers h i) (e : Event) :
    Offers (h ++ [e]) i where
  check taskId htarget := (offers.check taskId htarget).imp_left (·.concat e)
  latest := offers.latest
  displayed s hs := (offers.displayed s hs).concat e

/-- Every transition offers only what was named or trimmed. -/
theorem Transition.offers {h : History} {i i' : Inspector} {e : Event} (offers : Offers h i)
    (ht : Transition i e i') : Offers (h ++ [e]) i' := by
  have hsame := offers.concat e
  cases ht with
  | dispatched receipt =>
    refine ⟨fun taskId htarget => ?_, hsame.latest, hsame.displayed⟩
    have hnamed : receipt.taskId? = some taskId := htarget
    exact ⟨⟨_, List.mem_concat_self, hnamed⟩, (Receipt.taskId?_eq_some_iff.mp hnamed).2⟩
  | dispatchFailed fault =>
    refine ⟨?_, hsame.latest, hsame.displayed⟩
    rintro taskId ⟨⟩
  | pollBegun taskId named =>
    refine ⟨hsame.check, ?_, hsame.displayed⟩
    rintro _ ⟨⟩
    exact plain_trim (trim_ne_empty_iff.mpr named)
  | rendered ticket task current =>
    refine ⟨hsame.check, hsame.latest, ?_⟩
    rintro _ ⟨⟩
    exact ⟨_, List.mem_concat_self, rfl⟩
  | closed =>
    refine ⟨hsame.check, ?_, ?_⟩
    · rintro taskId ⟨⟩
    · rintro s ⟨⟩
  -- the other transitions leave the three fields alone
  | dispatchRefused | pollRefused => exact hsame
  | dispatchBegun | discarded | pollFailed => exact ⟨hsame.check, hsame.latest, hsame.displayed⟩

/-- After every run only what was named or trimmed is offered. -/
theorem run_offers (ops : List Operation) : Offers (run {} ops).2 (run {} ops).1 := by
  refine run_induction ⟨?_, ?_, ?_⟩ (fun _ _ _ _ offers ht => ht.offers offers) ops
  · rintro taskId ⟨⟩
  · rintro taskId ⟨⟩
  · rintro s ⟨⟩

/-! ## The offers of a run -/

/-- **An offered task is polled exactly if its name is plain.** After every run, the task offered
for a check has a name that is not empty, and a poll of it is begun for that very task if and only
if there are no blanks around this name. The task offered for a refresh is asked for by one call and
no other if and only if its name is not empty and there are no blanks around it. With nothing on
display a refresh always does so, and if the service named all its tasks plainly, every task that is
offered can be polled. -/
theorem offered_task_is_polled_iff (ops : List Operation) :
    let h := (run {} ops).2
    let i := (run {} ops).1
    (∀ taskId, i.checkTarget = some taskId →
      taskId ≠ "" ∧ (i.BeginsFor taskId ↔ trim taskId = taskId)) ∧
    (∀ taskId, i.refreshTarget = some taskId →
      (i.refresh.CallsOnly (.getDelivery taskId) ↔ trim taskId = taskId ∧ taskId ≠ "") ∧
      (i.surface = none → i.refresh.CallsOnly (.getDelivery taskId))) ∧
    ((∀ taskId, h.Names taskId → Plain taskId) →
      (∀ taskId, i.checkTarget = some taskId → i.BeginsFor taskId) ∧
      ∀ taskId, i.refreshTarget = some taskId → i.refresh.CallsOnly (.getDelivery taskId)) := by
  intro h i
  have offers : Offers h i := run_offers ops
  refine ⟨fun taskId htarget => ?_, fun taskId htarget => ⟨?_, fun hnone => ?_⟩,
    fun plain => ⟨fun taskId htarget => ?_, fun taskId htarget => ?_⟩⟩
  · have hne := (offers.check taskId htarget).2
    exact ⟨hne, (beginsFor_iff i taskId).trans (and_iff_left hne)⟩
  · rw [refresh_of_target htarget]
    exact callsOnly_inspect_iff i taskId
  · rw [refresh_of_target htarget]
    have hlatest : i.latestTarget = some taskId := by
      rwa [refreshTarget, hnone] at htarget
    exact (callsOnly_inspect_iff i taskId).mpr (offers.latest taskId hlatest)
  · exact (beginsFor_iff i taskId).mpr (plain taskId (offers.check taskId htarget).1)
  · rw [refresh_of_target htarget]
    refine (callsOnly_inspect_iff i taskId).mpr ?_
    cases hsurface : i.surface with
    | none =>
      rw [refreshTarget, hsurface] at htarget
      exact offers.latest taskId htarget
    | some s =>
      rw [refreshTarget, hsurface] at htarget
      cases htarget
      exact plain _ (offers.displayed s hsurface)

/-- A dispatch names a task with a blank inside its name, and the check of another task fails: the
one can be checked, and the other checked again. -/
theorem offered_task_is_polled_iff_retry :
    let i := (run {} [.completeDispatch (.ok ⟨202, .object [("id", .string "task 1")]⟩),
      .beginInspect " task-2 ", .completeInspect ⟨1, "task-2"⟩ (.error (.transport "timeout"))]).1
    i.checkTarget = some "task 1" ∧ i.BeginsFor "task 1" ∧
      i.refreshTarget = some "task-2" ∧ i.refresh.CallsOnly (.getDelivery "task-2") := by
  intro i
  obtain ⟨hchecks, hrefreshes, -⟩ := offered_task_is_polled_iff
    [.completeDispatch (.ok ⟨202, .object [("id", .string "task 1")]⟩),
      .beginInspect " task-2 ", .completeInspect ⟨1, "task-2"⟩ (.error (.transport "timeout"))]
  have hcheck : i.checkTarget = some "task 1" := by decide
  have hrefresh : i.refreshTarget = some "task-2" := by decide
  have hnone : i.surface = none := by rfl
  exact ⟨hcheck, (hchecks _ hcheck).2.mpr (by decide), hrefresh, (hrefreshes _ hrefresh).2 hnone⟩

/-- A dispatch whose answer names a task by a blank, and a poll that brings a task without a name:
both are offered, the check of the one is refused, and the refresh of the other makes no call. -/
theorem blank_offers_are_refused :
    let dispatched := (run {} [.completeDispatch (.ok ⟨202, .object [("id", .string " ")]⟩)]).1
    let polled := (run {} [.beginInspect "task-1",
      .completeInspect ⟨1, "task-1"⟩ (.ok { (default : DeliveryTask) with id := "" })]).1
    dispatched.checkTarget = some " " ∧
      dispatched.beginInspect " " = .error (.validation "Please enter a delivery task ID") ∧
      polled.refreshTarget = some "" ∧
      polled.refresh = .done (polled, .error (.validation "Please enter a delivery task ID")) := by
  intro dispatched polled
  have hrefresh : polled.refreshTarget = some "" := by decide
  have hblank : trim " " = "" := by decide
  have hempty : trim "" = "" := by decide
  refine ⟨by decide, beginInspect_of_blank hblank _, hrefresh, ?_⟩
  rw [refresh_of_target hrefresh, inspect, beginInspect_of_blank hempty]

end Console.Inspector

end DeliveryDesk

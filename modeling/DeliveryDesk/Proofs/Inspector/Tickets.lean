import DeliveryDesk.Proofs.Inspector.Display

/-!
# Tickets, the polls in flight and the phase

The inspector counts its polls in flight apart from the tickets that stand for them, and derives
its phase from four fields. This file says what both mean in the history of a run: in every run
that completes each ticket at most once, and begins fewer polls than a counter of 64 bits can
hold, the counter is the number of outstanding tickets.

`Counted` is the invariant behind it. The tickets are numbered 1, 2, … in the order of their
issue, so a new ticket is none of the completed ones, and a completion strikes out exactly one
outstanding ticket (`length_outstanding_complete`). `Dispatches` does the same for the two fields
of the dispatch half.

Main result: `tickets_and_phase`.
-/

namespace DeliveryDesk.Console.Inspector

open Text History

namespace History

/-! ## Which completions are expected -/

/-- A poll that comes back has a ticket that was issued and has not come back before. -/
def Expected (h : History) (e : Event) : Prop :=
  ∀ ticket, e.completed? = some ticket → ticket ∈ h.issued ∧ ticket ∉ h.completed

/-- Every ticket is completed at most once, and only after it was issued. -/
def CompletedOnce (h : History) : Prop := h.Always Expected

/-- A completion strikes one ticket out. -/
theorem length_outstanding_complete {h : History} {e : Event} {ticket : PollTicket}
    (nodup : h.issued.Nodup) (hissued : e.issued? = none) (hcompleted : e.completed? = some ticket)
    (hmem : ticket ∈ h.issued) (hnew : ticket ∉ h.completed) :
    (outstanding (h ++ [e])).length + 1 = h.outstanding.length := by
  have hout : ticket ∈ h.outstanding := by
    simp [outstanding, hmem, hnew]
  have hnodup : h.outstanding.Nodup := nodup.filter _
  -- tickets are distinct, so the filter strikes out this one and no other
  have herase : outstanding (h ++ [e]) = h.outstanding.erase ticket := by
    rw [List.Nodup.erase_eq_filter hnodup]
    unfold outstanding
    rw [issued_concat, completed_concat, hissued, hcompleted, List.filter_filter]
    simp only [Option.toList_none, List.append_nil, Option.toList_some]
    apply List.filter_congr
    intro t _
    by_cases ht : t = ticket <;> simp [ht]
  rw [herase, List.length_erase_of_mem hout]
  have hpos := List.length_pos_of_mem hout
  omega

/-- A new ticket is outstanding. -/
theorem outstanding_issue {h : History} {e : Event} {ticket : PollTicket}
    (hissued : e.issued? = some ticket) (hcompleted : e.completed? = none)
    (hnew : ticket ∉ h.completed) : outstanding (h ++ [e]) = h.outstanding ++ [ticket] := by
  unfold outstanding
  rw [issued_concat, completed_concat, hissued, hcompleted]
  simp [hnew]

end History

/-! ## The counters -/

/-- The counters follow the history: tickets are numbered from 1 in the order of their issue, and
the polls in flight are the tickets that have not come back. -/
structure Counted (h : History) (i : Inspector) : Prop where
  last : i.lastSeq.toNat = h.issued.length
  seqs : h.issued.map (·.seq.toNat) = List.range' 1 h.issued.length
  known : ∀ ticket ∈ h.completed, ticket ∈ h.issued
  inFlight : i.inFlight.toNat = h.outstanding.length

/-- Tickets are numbered upwards. -/
theorem Counted.ascending {h : History} {i : Inspector} (hc : Counted h i) :
    h.issued.Pairwise (·.seq < ·.seq) := by
  have hrange : (h.issued.map (·.seq.toNat)).Pairwise (· < ·) := by
    rw [hc.seqs]
    exact List.pairwise_lt_range'
  exact (List.pairwise_map.mp hrange).imp UInt64.lt_iff_toNat_lt.mpr

/-- No two tickets are the same. -/
theorem Counted.nodup {h : History} {i : Inspector} (hc : Counted h i) : h.issued.Nodup := by
  refine hc.ascending.imp ?_
  rintro a _ hlt rfl
  exact UInt64.lt_irrefl a.seq hlt

/-- A number above all that were given out is new. -/
theorem Counted.fresh {h : History} {i : Inspector} (hc : Counted h i) {ticket : PollTicket}
    (hseq : ticket.seq.toNat = h.issued.length + 1) : ticket ∉ h.issued := by
  intro hmem
  have hin : ticket.seq.toNat ∈ h.issued.map (·.seq.toNat) := List.mem_map_of_mem hmem
  rw [hc.seqs, List.mem_range'_1] at hin
  omega

/-- Counting up below the limit of a counter. -/
theorem toNat_add_one {n : UInt64} (hlt : n.toNat + 1 < UInt64.size) :
    (n + 1).toNat = n.toNat + 1 := by
  rw [UInt64.toNat_add]
  exact Nat.mod_eq_of_lt hlt

/-- Outstanding tickets are issued tickets. -/
theorem length_outstanding_le (h : History) : h.outstanding.length ≤ h.issued.length :=
  List.length_filter_le _ _

/-- A new ticket takes the next number and is one more poll in flight. -/
theorem Counted.issue {h : History} {i : Inspector} {taskId : String} (hc : Counted h i)
    (ticket : PollTicket) (hseq : ticket.seq = i.lastSeq + 1)
    (few : h.issued.length + 1 < UInt64.size) :
    Counted (h ++ [.pollBegun taskId (.ok ticket)])
      { i with
        latestTarget := some ticket.taskId
        lastSeq := i.lastSeq + 1
        inFlight := i.inFlight + 1 } := by
  have hnum : (i.lastSeq + 1).toNat = h.issued.length + 1 := by
    rw [toNat_add_one (by rw [hc.last]; exact few), hc.last]
  -- a completed ticket was issued before, so the new one is not among them
  have hnew : ticket ∉ h.issued := hc.fresh (by rw [hseq, hnum])
  have hissued : issued (h ++ [.pollBegun taskId (.ok ticket)]) = h.issued ++ [ticket] :=
    issued_concat h _
  have hcompleted : completed (h ++ [.pollBegun taskId (.ok ticket)]) = h.completed :=
    completed_concat_of_none rfl h
  constructor
  · rw [hissued, List.length_append]
    exact hnum
  · rw [hissued, List.map_append, List.length_append, hc.seqs]
    simp only [List.map_cons, List.map_nil, List.length_singleton, List.range'_1_concat, hseq,
      hnum, Nat.add_comm 1]
  · intro t ht
    rw [hcompleted] at ht
    rw [hissued]
    exact List.mem_append_left _ (hc.known t ht)
  · have hle := length_outstanding_le h
    have hflight := hc.inFlight
    rw [outstanding_issue rfl rfl fun hin => hnew (hc.known ticket hin), List.length_append]
    rw [toNat_add_one (by omega), hflight]
    rfl

/-- A ticket that comes back is one poll less in flight. -/
theorem Counted.complete {h : History} {i i' : Inspector} {e : Event} {ticket : PollTicket}
    (hc : Counted h i) (hissued : e.issued? = none) (hcompleted : e.completed? = some ticket)
    (expected : Expected h e) (hlast : i'.lastSeq = i.lastSeq)
    (hflight : i'.inFlight = countDown i.inFlight) : Counted (h ++ [e]) i' := by
  obtain ⟨hmem, hnew⟩ := expected ticket hcompleted
  have hsame : issued (h ++ [e]) = h.issued := issued_concat_of_none hissued h
  constructor
  · rw [hsame, hlast]
    exact hc.last
  · rw [hsame]
    exact hc.seqs
  · intro t ht
    rw [completed_concat, hcompleted] at ht
    rw [hsame]
    rcases List.mem_append.mp ht with hold | hlast
    · exact hc.known t hold
    · rw [List.mem_singleton.mp hlast]
      exact hmem
  · have hone := length_outstanding_complete hc.nodup hissued hcompleted hmem hnew
    rw [hflight, toNat_countDown, hc.inFlight]
    omega

/-- An event that neither begins nor completes a poll leaves the counters alone. -/
theorem Counted.quiet {h : History} {i i' : Inspector} {e : Event} (hc : Counted h i)
    (hissued : e.issued? = none) (hcompleted : e.completed? = none)
    (hlast : i'.lastSeq = i.lastSeq) (hflight : i'.inFlight = i.inFlight) :
    Counted (h ++ [e]) i' := by
  have hsame : issued (h ++ [e]) = h.issued := issued_concat_of_none hissued h
  have hback : completed (h ++ [e]) = h.completed := completed_concat_of_none hcompleted h
  refine ⟨?_, ?_, ?_, ?_⟩
  · rw [hsame, hlast]
    exact hc.last
  · rw [hsame]
    exact hc.seqs
  · rw [hsame, hback]
    exact hc.known
  · rw [hflight, outstanding, hsame, hback]
    exact hc.inFlight

/-- Every transition keeps the counters right, if a poll that comes back is expected. -/
theorem Counted.transition {h : History} {i i' : Inspector} {e : Event} (hc : Counted h i)
    (expected : Expected h e) (few : (issued (h ++ [e])).length < UInt64.size)
    (ht : Transition i e i') : Counted (h ++ [e]) i' := by
  cases ht with
  | dispatchRefused => exact hc.quiet rfl rfl rfl rfl
  | dispatchBegun => exact hc.quiet rfl rfl rfl rfl
  | dispatched => exact hc.quiet rfl rfl rfl rfl
  | dispatchFailed => exact hc.quiet rfl rfl rfl rfl
  | pollRefused => exact hc.quiet rfl rfl rfl rfl
  | closed => exact hc.quiet rfl rfl rfl rfl
  | pollBegun taskId =>
    rw [issued_concat, List.length_append] at few
    exact hc.issue _ rfl few
  | discarded => exact hc.complete rfl rfl expected rfl rfl
  | rendered => exact hc.complete rfl rfl expected rfl rfl
  | pollFailed => exact hc.complete rfl rfl expected rfl rfl

/-- The counters are right after every run that completes each ticket at most once and begins
fewer polls than a counter can hold. -/
theorem run_counted (ops : List Operation) (once : (run {} ops).2.CompletedOnce)
    (few : (run {} ops).2.issued.length < UInt64.size) : Counted (run {} ops).2 (run {} ops).1 := by
  -- both conditions are about the whole run: they go into the property and come back along `ih`
  revert once few
  refine run_induction (P := fun h i => CompletedOnce h → h.issued.length < UInt64.size →
    Counted h i) ?_ ?_ ops
  · intro _ _
    exact ⟨rfl, rfl, by simp [completed], rfl⟩
  · intro h i e i' ih ht once few
    obtain ⟨honce, hexpected⟩ := always_concat.mp once
    have hmono : h.issued.length ≤ (issued (h ++ [e])).length := by
      rw [issued_concat, List.length_append]
      exact Nat.le_add_right _ _
    exact (ih honce (Nat.lt_of_le_of_lt hmono few)).transition hexpected few ht

/-! ## The dispatch half -/

namespace History

/-- A dispatch was begun since the last one was completed. -/
def DispatchPending (h : History) : Prop :=
  ∃ form request, .dispatchBegun form (.ok request) ∈ h.since Event.endsDispatch

/-- What came back for dispatches, in order. -/
def dispatchReplies (h : History) : List (Except Fault Receipt) :=
  h.filterMap Event.dispatchReply?

/-- The last dispatch to be completed was accepted, with an answer that names a task. -/
def TaskOffered (h : History) : Prop :=
  ∃ receipt id, h.dispatchReplies.getLast? = some (.ok receipt) ∧
    receipt.body.member? "id" = some (.string id) ∧ id ≠ ""

theorem dispatchPending_concat (h : History) (e : Event) :
    DispatchPending (h ++ [e]) ↔ e.endsDispatch = false ∧
      (DispatchPending h ∨ ∃ form request, e = .dispatchBegun form (.ok request)) := by
  unfold DispatchPending
  rw [since_concat]
  cases e.endsDispatch with
  | true => simp
  | false => simp [exists_or, eq_comm]

theorem dispatchReplies_concat (h : History) (e : Event) :
    dispatchReplies (h ++ [e]) = h.dispatchReplies ++ e.dispatchReply?.toList :=
  filterMap_concat _ h e

end History

/-- The task that the reply to a dispatch offers. -/
def offeredTask? : Except Fault Receipt → Option String
  | .ok receipt => receipt.taskId?
  | .error _ => none

/-- The fields of the dispatch half follow the history. -/
structure Dispatches (h : History) (i : Inspector) : Prop where
  pending : i.dispatching = true ↔ h.DispatchPending
  offered : i.checkTarget = h.dispatchReplies.getLast?.bind offeredTask?

/-- An event of the inspection half leaves the dispatch half alone. -/
theorem Dispatches.quiet {h : History} {i i' : Inspector} {e : Event} (hd : Dispatches h i)
    (hends : e.endsDispatch = false) (hbegun : ∀ form request, e ≠ .dispatchBegun form (.ok request))
    (hreply : e.dispatchReply? = none) (hdispatching : i'.dispatching = i.dispatching)
    (htarget : i'.checkTarget = i.checkTarget) : Dispatches (h ++ [e]) i' := by
  constructor
  · rw [dispatchPending_concat, hdispatching, hd.pending]
    simp [hends, hbegun]
  · rw [dispatchReplies_concat, hreply, htarget, hd.offered]
    simp

/-- Every transition keeps the dispatch half in step with the history. -/
theorem Dispatches.transition {h : History} {i i' : Inspector} {e : Event} (hd : Dispatches h i)
    (ht : Transition i e i') : Dispatches (h ++ [e]) i' := by
  cases ht with
  | dispatchBegun form request =>
    constructor
    · rw [dispatchPending_concat]
      exact ⟨fun _ => ⟨rfl, .inr ⟨form, request, rfl⟩⟩, fun _ => rfl⟩
    · rw [dispatchReplies_concat]
      simpa [Event.dispatchReply?] using hd.offered
  | dispatched receipt =>
    constructor
    · rw [dispatchPending_concat]
      simp [Event.endsDispatch]
    · rw [dispatchReplies_concat]
      simp [Event.dispatchReply?, offeredTask?]
  | dispatchFailed fault =>
    constructor
    · rw [dispatchPending_concat]
      simp [Event.endsDispatch]
    · rw [dispatchReplies_concat]
      simp [Event.dispatchReply?, offeredTask?]
  | dispatchRefused => exact hd.quiet rfl (by simp) rfl rfl rfl
  | pollRefused => exact hd.quiet rfl (by simp) rfl rfl rfl
  | pollBegun => exact hd.quiet rfl (by simp) rfl rfl rfl
  | discarded => exact hd.quiet rfl (by simp) rfl rfl rfl
  | rendered => exact hd.quiet rfl (by simp) rfl rfl rfl
  | pollFailed => exact hd.quiet rfl (by simp) rfl rfl rfl
  | closed => exact hd.quiet rfl (by simp) rfl rfl rfl

/-- After every run the dispatch half is what the history says. -/
theorem run_dispatches (ops : List Operation) : Dispatches (run {} ops).2 (run {} ops).1 := by
  refine run_induction ⟨?_, rfl⟩ (fun _ _ _ _ hd ht => hd.transition ht) ops
  simp [DispatchPending, since]

/-- A task can be checked exactly when the last dispatch offered one. -/
theorem Dispatches.checkTarget_isSome_iff {h : History} {i : Inspector} (hd : Dispatches h i) :
    i.checkTarget.isSome ↔ h.TaskOffered := by
  rw [hd.offered, Option.isSome_iff_exists]
  constructor
  · rintro ⟨id, hid⟩
    obtain ⟨reply, hlast, hoffer⟩ := Option.bind_eq_some_iff.mp hid
    cases reply with
    | error fault => cases hoffer
    | ok receipt => exact ⟨receipt, id, hlast, Receipt.taskId?_eq_some_iff.mp hoffer⟩
  · rintro ⟨receipt, id, hlast, hnamed⟩
    exact ⟨id, Option.bind_eq_some_iff.mpr
      ⟨.ok receipt, hlast, Receipt.taskId?_eq_some_iff.mpr hnamed⟩⟩

/-! ## The phase, field by field -/

theorem phase_eq_dispatching_iff (i : Inspector) :
    i.phase = .dispatching ↔ i.dispatching = true := by
  unfold phase
  cases i.dispatching with
  | true => simp
  | false =>
    simp only [Bool.false_eq_true, if_false, iff_false]
    split
    · simp
    · cases i.surface <;> cases i.checkTarget <;> simp

theorem phase_eq_polling_iff {i : Inspector} (free : i.dispatching = false) :
    i.phase = .polling ↔ 0 < i.inFlight := by
  unfold phase
  by_cases hpos : 0 < i.inFlight
  · simp [free, hpos]
  · cases i.surface <;> cases i.checkTarget <;> simp [free, hpos]

theorem phase_eq_rendered_iff {i : Inspector} (free : i.dispatching = false)
    (quiet : ¬0 < i.inFlight) : i.phase = .rendered ↔ i.surface.isSome := by
  unfold phase
  cases i.surface <;> cases i.checkTarget <;> simp [free, quiet]

theorem phase_of_nothing_shown {i : Inspector} (free : i.dispatching = false)
    (quiet : ¬0 < i.inFlight) (empty : i.surface = none) :
    i.phase = if i.checkTarget.isSome then .dispatched else .idle := by
  simp only [phase, free, quiet, empty, Bool.false_eq_true, if_false, Option.isSome_none]

/-! ## Tickets and phase along every run -/

/-- Polls are in flight exactly when tickets are outstanding. -/
theorem Counted.inFlight_pos_iff {h : History} {i : Inspector} (hc : Counted h i) :
    0 < i.inFlight ↔ h.outstanding ≠ [] := by
  rw [UInt64.lt_iff_toNat_lt, hc.inFlight]
  exact List.length_pos_iff

/-- What is on display was brought by a poll that has come back. -/
theorem seq_of_displayed {h : History} {s : Surface} (hs : s ∈ h.displayed) :
    ∃ ticket ∈ h.completed, ticket.seq = s.seq := by
  obtain ⟨e, he, hsur⟩ := List.mem_filterMap.mp hs
  obtain ⟨ticket, task, rfl, rfl⟩ := Event.surface?_eq_some_iff.mp hsur
  exact ⟨ticket, List.mem_filterMap.mpr ⟨_, mem_of_mem_since he, rfl⟩, rfl⟩

/-- A poll that comes back is one of those in flight, so counting down never stops at zero. -/
theorem inFlight_pos_of_complete {ops before after : List Operation} {ticket : PollTicket}
    {reply : Except Fault DeliveryTask} (hops : ops = before ++ .completeInspect ticket reply :: after)
    (once : (run {} ops).2.CompletedOnce) (few : (run {} ops).2.issued.length < UInt64.size) :
    0 < (run {} before).1.inFlight := by
  subst hops
  rw [run_append] at once few
  have hshort : (run {} before).2.issued.length < UInt64.size := by
    simp only [issued, List.filterMap_append, List.length_append] at few ⊢
    omega
  have hc := run_counted before once.of_append hshort
  obtain ⟨hissued, hnew⟩ := once (run {} before).2 _ _ rfl ticket rfl
  have hout : ticket ∈ (run {} before).2.outstanding := by
    simp [outstanding, hissued, hnew]
  exact hc.inFlight_pos_iff.mpr (List.ne_nil_of_mem hout)

/-- **Tickets and phase.** In every run that completes each ticket at most once, and begins fewer
polls than a counter can hold: the polls in flight are the outstanding tickets, and no completion
finds the counter at zero; tickets are numbered upwards in the order of their issue, and what is
on display carries the number of one of them; and the phase is dispatching while a dispatch is
pending, else polling while tickets are outstanding, else rendered while something is on display,
else dispatched if the last dispatch offered a task, else idle. -/
theorem tickets_and_phase (ops : List Operation) (once : (run {} ops).2.CompletedOnce)
    (few : (run {} ops).2.issued.length < UInt64.size) :
    let i := (run {} ops).1
    let h := (run {} ops).2
    i.inFlight.toNat = h.outstanding.length ∧
      (∀ before ticket reply after, ops = before ++ .completeInspect ticket reply :: after →
        0 < (run {} before).1.inFlight) ∧
      h.issued.Pairwise (·.seq < ·.seq) ∧
      (∀ s, i.surface = some s → ∃ ticket ∈ h.issued, ticket.seq = s.seq) ∧
      (i.phase = .dispatching ↔ h.DispatchPending) ∧
      (¬h.DispatchPending →
        (i.phase = .polling ↔ h.outstanding ≠ []) ∧
        (h.outstanding = [] →
          (i.phase = .rendered ↔ i.surface.isSome) ∧
          (i.surface = none →
            (i.phase = .dispatched ↔ h.TaskOffered) ∧ (i.phase = .idle ↔ ¬h.TaskOffered)))) := by
  intro i h
  have hc : Counted h i := run_counted ops once few
  have hs : Shows h i := run_shows ops
  have hd : Dispatches h i := run_dispatches ops
  have hpolls := hc.inFlight_pos_iff
  refine ⟨hc.inFlight, ?_, hc.ascending, ?_, ?_, ?_⟩
  · intro before ticket reply after hops
    exact inFlight_pos_of_complete hops once few
  · intro s hsurface
    rw [hs.surface] at hsurface
    obtain ⟨ticket, hback, hseq⟩ := seq_of_displayed (List.mem_of_getLast? hsurface)
    exact ⟨ticket, hc.known ticket hback, hseq⟩
  · rw [← hd.pending]
    exact phase_eq_dispatching_iff i
  · -- from here on each field is looked at only when the ones before it say nothing
    intro hidle
    have hfree : i.dispatching = false := by
      rw [← hd.pending] at hidle
      exact Bool.eq_false_iff.mpr hidle
    refine ⟨(phase_eq_polling_iff hfree).trans hpolls, fun hnone => ?_⟩
    have hquiet : ¬0 < i.inFlight := fun hpos => hpolls.mp hpos hnone
    refine ⟨phase_eq_rendered_iff hfree hquiet, fun hempty => ?_⟩
    rw [phase_of_nothing_shown hfree hquiet hempty, ← hd.checkTarget_isSome_iff]
    cases i.checkTarget <;> simp

/-- Two polls in flight, of which the later one comes back first. -/
theorem tickets_and_phase_overtaken :
    let ops : List Operation :=
      [.beginInspect "t1", .beginInspect "t2", .completeInspect ⟨2, "t2"⟩ (.ok default)]
    (run {} ops).2.CompletedOnce ∧ (run {} ops).2.issued.length < UInt64.size ∧
      (run {} ops).2.outstanding = [⟨1, "t1"⟩] ∧
      (run {} ops).1.inFlight.toNat = (run {} ops).2.outstanding.length := by
  intro ops
  have h₁ : isBlankText "t1" = false := by decide
  have h₂ : isBlankText "t2" = false := by decide
  have t₁ : trim "t1" = "t1" := by decide
  have t₂ : trim "t2" = "t2" := by decide
  have hhistory : (run {} ops).2 =
      [] ++ [.pollBegun "t1" (.ok ⟨1, "t1"⟩)] ++ [.pollBegun "t2" (.ok ⟨2, "t2"⟩)] ++
        [.pollCompleted ⟨2, "t2"⟩ (.ok default) (.ok .rendered)] := by
    simp [ops, run, step, beginInspect_of_named h₁, beginInspect_of_named h₂, t₁, t₂,
      completeInspect]
  have once : (run {} ops).2.CompletedOnce := by
    rw [hhistory, CompletedOnce, always_concat, always_concat, always_concat]
    simp [Always, Expected, Event.completed?, Event.issued?, issued, completed]
  have few : (run {} ops).2.issued.length < UInt64.size := by
    rw [hhistory]
    decide
  refine ⟨once, few, ?_, (tickets_and_phase ops once few).1⟩
  rw [hhistory]
  decide

end DeliveryDesk.Console.Inspector

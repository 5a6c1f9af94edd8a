import DeliveryDesk.Proofs.Inspector.Run

/-!
# The two halves of the inspector

An inspector dispatches test deliveries and inspects delivery tasks, and does both at the same
time: a dispatch and any number of polls may be in flight, and come back in any order. This file
says that neither half takes notice of the other.

Every operation belongs to one half (`Operation.half`), and so does every field of the state
(`Inspector.half`). An operation answers from its own half (`step_congr`) and writes nothing else
(`step_half_of_ne`). So a half goes through a run as if the operations of the other half were left
out (`run_half`).

Main result: `interleavings_agree`. However the operations of the two halves are interleaved, each
of them gets the result that it gets when its half is used alone, and the state at the end is the
same.
-/

namespace DeliveryDesk

/-- A list made of two others, each of which keeps its order. -/
inductive Interleaves {α : Type} : List α → List α → List α → Prop where
  | nil : Interleaves [] [] []
  | left (x : α) {xs ys zs : List α} (rest : Interleaves xs ys zs) :
      Interleaves (x :: xs) ys (x :: zs)
  | right (y : α) {xs ys zs : List α} (rest : Interleaves xs ys zs) :
      Interleaves xs (y :: ys) (y :: zs)

namespace Interleaves

variable {α : Type} {xs ys zs : List α}

/-- It does not matter which of the two is named first. -/
theorem symm (mixed : Interleaves xs ys zs) : Interleaves ys xs zs := by
  induction mixed with
  | nil => exact .nil
  | left x _ ih => exact .right x ih
  | right y _ ih => exact .left y ih

/-- One of the two lists is found again by a property that tells them apart. -/
theorem filter_eq_left {p : α → Bool} (mixed : Interleaves xs ys zs)
    (hxs : ∀ x ∈ xs, p x = true) (hys : ∀ y ∈ ys, p y = false) : zs.filter p = xs := by
  induction mixed with
  | nil => rfl
  | left x _ ih =>
    rw [List.forall_mem_cons] at hxs
    rw [List.filter_cons_of_pos hxs.1, ih hxs.2 hys]
  | right y _ ih =>
    rw [List.forall_mem_cons] at hys
    rw [List.filter_cons_of_neg (by rw [hys.1]; exact Bool.false_ne_true), ih hxs hys.2]

end Interleaves

namespace Console.Inspector

open Text

/-- What an inspector is used for. -/
inductive Half where
  | dispatch
  | inspection
deriving DecidableEq

/-- The half that an operation belongs to. -/
def Operation.half : Operation → Half
  | .beginDispatch _ => .dispatch
  | .completeDispatch _ => .dispatch
  | .beginInspect _ => .inspection
  | .completeInspect _ _ => .inspection
  | .close => .inspection

/-- The operation whose event it is. -/
def Event.operation : Event → Operation
  | .dispatchBegun form _ => .beginDispatch form
  | .dispatchCompleted reply _ => .completeDispatch reply
  | .pollBegun taskId _ => .beginInspect taskId
  | .pollCompleted ticket reply _ => .completeInspect ticket reply
  | .closed => .close

/-- The events of one half, with the results of its operations. -/
def History.of (half : Half) (h : History) : History :=
  h.filter fun e => e.operation.half = half

theorem History.of_cons (half : Half) (e : Event) (h : History) :
    History.of half (e :: h) = if e.operation.half = half then e :: h.of half else h.of half := by
  simp only [of, List.filter_cons, decide_eq_true_eq]

/-- What a half remembers. -/
abbrev Half.Content : Half → Type
  | .dispatch => Bool × Option ResponsePanel × Option String
  | .inspection => Option String × Option Surface × UInt64 × UInt64

/-- The fields of a half: whether a dispatch is in flight, its panel and the task to be checked; or
the task asked for last, the one on display, the number of the last poll and the polls in flight. -/
def half (i : Inspector) : (h : Half) → h.Content
  | .dispatch => (i.dispatching, i.response, i.checkTarget)
  | .inspection => (i.latestTarget, i.surface, i.lastSeq, i.inFlight)

/-- There is nothing in an inspector besides its halves. -/
theorem ext_halves {i j : Inspector} (agree : ∀ half, i.half half = j.half half) : i = j := by
  obtain ⟨⟩ := i
  obtain ⟨⟩ := j
  have hdispatch := agree .dispatch
  have hinspection := agree .inspection
  simp only [half, Prod.mk.injEq] at hdispatch hinspection
  simp only [Inspector.mk.injEq]
  exact ⟨hdispatch.1, hdispatch.2.1, hdispatch.2.2, hinspection⟩

/-! ## One operation -/

/-- An event tells what was asked. -/
theorem step_operation (i : Inspector) (op : Operation) : (i.step op).2.operation = op := by
  cases op with
  | beginDispatch form =>
    simp only [step]
    split <;> rfl
  | beginInspect taskId =>
    simp only [step]
    split <;> rfl
  | completeDispatch | completeInspect | close => rfl

/-- Whatever happens in one half, the other stays as it was. -/
theorem Transition.half_eq_of_ne {i i' : Inspector} {e : Event} (ht : Transition i e i')
    {half : Half} (foreign : e.operation.half ≠ half) : i'.half half = i.half half := by
  cases ht with
  | dispatchRefused | pollRefused => rfl
  | dispatchBegun | dispatched | dispatchFailed =>
    cases half with
    | dispatch => exact absurd rfl foreign
    | inspection => rfl
  | pollBegun | discarded | rendered | pollFailed | closed =>
    cases half with
    | dispatch => rfl
    | inspection => exact absurd rfl foreign

/-- **An operation leaves the other half alone.** -/
theorem step_half_of_ne {i : Inspector} {op : Operation} {half : Half}
    (foreign : op.half ≠ half) : (i.step op).1.half half = i.half half := by
  refine (step_transition i op).half_eq_of_ne ?_
  rw [step_operation]
  exact foreign

/-- **An operation does not look at the other half.** Inspectors that agree in the half of an
operation give it the same result, and agree in that half afterwards. -/
theorem step_congr {i j : Inspector} {op : Operation}
    (agree : i.half op.half = j.half op.half) :
    (i.step op).2 = (j.step op).2 ∧ (i.step op).1.half op.half = (j.step op).1.half op.half := by
  obtain ⟨di, ri, ci, ti, si, li, fi⟩ := i
  obtain ⟨dj, rj, cj, tj, sj, lj, fj⟩ := j
  -- once the shared fields are the same variables, both sides take the same branch
  cases op with
  | beginDispatch form =>
    obtain ⟨rfl, rfl, rfl⟩ := by simpa only [Operation.half, half, Prod.mk.injEq] using agree
    cases di with
    | true => exact ⟨rfl, rfl⟩
    | false =>
      simp only [step, beginDispatch, Bool.false_eq_true, if_false]
      cases form.parse <;> exact ⟨rfl, rfl⟩
  | completeDispatch reply => cases reply <;> exact ⟨rfl, rfl⟩
  | beginInspect taskId =>
    obtain ⟨rfl, rfl, rfl, rfl⟩ := by
      simpa only [Operation.half, half, Prod.mk.injEq] using agree
    simp only [step, beginInspect]
    cases nonBlank? taskId <;> exact ⟨rfl, rfl⟩
  | completeInspect ticket reply =>
    obtain ⟨rfl, rfl, rfl, rfl⟩ := by
      simpa only [Operation.half, half, Prod.mk.injEq] using agree
    by_cases hcurrent : ti = some ticket.taskId
    · cases reply <;> simp [step, completeInspect, hcurrent, half, Operation.half]
    · simp [step, completeInspect, hcurrent, half, Operation.half]
  | close =>
    obtain ⟨rfl, rfl, rfl, rfl⟩ := by
      simpa only [Operation.half, half, Prod.mk.injEq] using agree
    exact ⟨rfl, rfl⟩

/-! ## A whole run -/

/-- **A half goes through a run as if it were alone.** Without the operations of the other half its
operations get the same results, and it ends in the same state. -/
theorem run_half {half : Half} {i j : Inspector} (agree : i.half half = j.half half)
    (ops : List Operation) :
    (i.run ops).2.of half = (j.run (ops.filter (·.half = half))).2 ∧
      (i.run ops).1.half half = (j.run (ops.filter (·.half = half))).1.half half := by
  induction ops generalizing i j with
  | nil => exact ⟨rfl, agree⟩
  | cons op ops ih =>
    by_cases hown : op.half = half
    · subst hown
      -- both inspectors take the step, and keep agreeing
      obtain ⟨hevent, hstep⟩ := step_congr agree
      obtain ⟨hhistory, hstate⟩ := ih hstep
      have hkept : (op :: ops).filter (·.half = op.half) = op :: ops.filter (·.half = op.half) :=
        List.filter_cons_of_pos (decide_eq_true rfl)
      rw [hkept]
      refine ⟨?_, hstate⟩
      rw [run, run, History.of_cons, step_operation, if_pos rfl, hhistory, hevent]
    · -- only the first inspector takes the step, which is nothing to this half
      obtain ⟨hhistory, hstate⟩ := ih ((step_half_of_ne hown).trans agree)
      have hleft : (op :: ops).filter (·.half = half) = ops.filter (·.half = half) :=
        List.filter_cons_of_neg (by simpa using hown)
      rw [hleft]
      refine ⟨?_, hstate⟩
      rw [run, History.of_cons, step_operation, if_neg hown, hhistory]

/-- An interleaving of the operations of both halves, half by half. -/
theorem run_interleaved {D P ops : List Operation} (dispatches : ∀ op ∈ D, op.half = .dispatch)
    (inspections : ∀ op ∈ P, op.half = .inspection) (mixed : Interleaves D P ops)
    (i : Inspector) :
    ((i.run ops).2.of .dispatch = (i.run D).2 ∧
      (i.run ops).1.half .dispatch = (i.run D).1.half .dispatch) ∧
    (i.run ops).2.of .inspection = (i.run P).2 ∧
      (i.run ops).1.half .inspection = (i.run P).1.half .inspection := by
  have hD : ops.filter (·.half = .dispatch) = D :=
    mixed.filter_eq_left (fun op hop => by simp [dispatches op hop])
      (fun op hop => by simp [inspections op hop])
  have hP : ops.filter (·.half = .inspection) = P :=
    mixed.symm.filter_eq_left (fun op hop => by simp [inspections op hop])
      (fun op hop => by simp [dispatches op hop])
  have hdispatch := run_half (rfl : i.half .dispatch = i.half .dispatch) ops
  have hinspection := run_half (rfl : i.half .inspection = i.half .inspection) ops
  rw [hD] at hdispatch
  rw [hP] at hinspection
  exact ⟨hdispatch, hinspection⟩

/-- **Dispatches and inspections do not interfere.** Two interleavings of the same dispatch
operations and the same inspection operations, from any inspector, lead to the same inspector, and
give every operation the same result: the one it has when the operations of its half are carried
out alone. -/
theorem interleavings_agree (i : Inspector) {D P ops ops' : List Operation}
    (dispatches : ∀ op ∈ D, op.half = .dispatch) (inspections : ∀ op ∈ P, op.half = .inspection)
    (mixed : Interleaves D P ops) (mixed' : Interleaves D P ops') :
    (i.run ops).1 = (i.run ops').1 ∧
      ((i.run ops).2.of .dispatch = (i.run D).2 ∧ (i.run ops').2.of .dispatch = (i.run D).2) ∧
      (i.run ops).2.of .inspection = (i.run P).2 ∧ (i.run ops').2.of .inspection = (i.run P).2 := by
  obtain ⟨⟨hD, hdispatch⟩, hP, hinspection⟩ := run_interleaved dispatches inspections mixed i
  obtain ⟨⟨hD', hdispatch'⟩, hP', hinspection'⟩ := run_interleaved dispatches inspections mixed' i
  refine ⟨ext_halves fun half => ?_, ⟨hD, hD'⟩, hP, hP'⟩
  cases half with
  | dispatch => exact hdispatch.trans hdispatch'.symm
  | inspection => exact hinspection.trans hinspection'.symm

/-- A dispatch fails while a poll is in flight, or after it: the poll is rendered in both cases, and
the panel shows the failure. -/
theorem interleavings_agree_poll_in_flight :
    let fault : Fault := .transport "timeout"
    let D : List Operation := [.completeDispatch (.error fault)]
    let P : List Operation := [.beginInspect "t1", .completeInspect ⟨1, "t1"⟩ (.ok default)]
    let ops : List Operation :=
      [.beginInspect "t1", .completeDispatch (.error fault), .completeInspect ⟨1, "t1"⟩ (.ok default)]
    let i := (run {} ops).1
    Interleaves D P ops ∧ Interleaves D P (P ++ D) ∧ i = (run {} (P ++ D)).1 ∧
      i.response = some (failurePanel fault) ∧ i.surface = some ⟨default, 1⟩ := by
  intro fault D P ops i
  have mixed : Interleaves D P ops := .right _ (.left _ (.right _ .nil))
  have mixed' : Interleaves D P (P ++ D) := .right _ (.right _ (.left _ .nil))
  obtain ⟨hstate, -⟩ := interleavings_agree {} (by simp [D, Operation.half])
    (by simp [P, Operation.half]) mixed mixed'
  refine ⟨mixed, mixed', hstate, ?_⟩
  have named : isBlankText "t1" = false := by decide
  have htrim : trim "t1" = "t1" := by decide
  simp [i, ops, run, step, beginInspect_of_named named, htrim, completeDispatch, completeInspect]

end Console.Inspector

end DeliveryDesk

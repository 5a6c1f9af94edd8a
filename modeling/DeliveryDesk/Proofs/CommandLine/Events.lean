import DeliveryDesk.CommandLine.Errand
import DeliveryDesk.Proofs.Transcript

/-!
# What happens in a run

Each step of a run is an `Event`, with what came of it: a reply of the service, an answer of the
operator, the outcome of work on a file. `Run.trace` lists the events of a run that is carried out,
and everything that is done by a run or said by it is in that list: `Run.play_streams` says so for
the two streams. What is logged is not: a log record depends on what happens and nothing depends on
it.

`Run.Ensures r Q` is for runs that do without prompts and that open no log. It says that `r` is such
a run and that `Q` holds of its events and its result, whatever the service answers and whatever the
files are like. It is computed step by step, so that a run is taken apart by unfolding it, and
`Run.ensures_andThen` puts runs together. An errand may break off with a failure, and then nothing of what would have
followed happens; `Errand.ensures_bind` says this once for all errands.

`Run.Ensures.of_play`: what a run ensures holds whenever it is carried out, and it comes to its end.
`Run.play_andThen` goes on from there, and `Run.trace_streams` says that a run does not notice what
stands on the streams already or was logged before. `Run.Ensures.log_extends`: the log only grows,
by records that its filter lets through.
-/

namespace DeliveryDesk.CommandLine

open Console

/-- A step of a run, and what came of it. -/
inductive Event where
  | printed (line : String)
  | warned (line : String)
  | asked (client : Client) (call : Call) (reply : call.Reply)
  | prompted (p : Prompt) (answer : Option p.Answer)
  | read (path : String) (r : Except FileFault String)
  | enclosed (path : String) (r : Except FileFault Unit)
  | wrote (path text : String) (r : Except FileFault Unit)
  | removed (path : String) (r : Except FileFault Unit)

namespace Event

/-- The line that was printed, if one was. -/
def output? : Event → Option String
  | .printed line => some line
  | _ => none

/-- The line that was written to the error stream, if one was. -/
def error? : Event → Option String
  | .warned line => some line
  | _ => none

/-- The lines that were printed. -/
def output (t : List Event) : List String := t.filterMap output?

/-- The lines that were written to the error stream. -/
def errors (t : List Event) : List String := t.filterMap error?

/-- Whether something was asked of the service. -/
def isQuestion : Event → Bool
  | .asked .. => true
  | _ => false

/-- What was asked of the service. -/
def questions (t : List Event) : List Event := t.filter isQuestion

/-- What is printed in two parts of a run is printed one after the other. -/
@[simp]
theorem output_append (t t' : List Event) : output (t ++ t') = output t ++ output t' :=
  List.filterMap_append

@[simp]
theorem errors_append (t t' : List Event) : errors (t ++ t') = errors t ++ errors t' :=
  List.filterMap_append

@[simp]
theorem questions_append (t t' : List Event) : questions (t ++ t') = questions t ++ questions t' :=
  List.filter_append t t'

/-- To be among the questions is to have been asked. -/
theorem asked_mem_questions {t : List Event} {client : Client} {call : Call} {reply : call.Reply} :
    .asked client call reply ∈ questions t ↔ .asked client call reply ∈ t := by
  rw [questions, List.mem_filter]
  exact and_iff_left rfl

/-- The event that an exchange with the service is. What the operator has decided before is none. -/
def ofExchange? (client : Client) : Exchange → Option Event
  | .answered call reply => some (.asked client call reply)
  | .decided _ _ => none

/-- The events of a conversation. -/
def ofExchanges (client : Client) (t : List Exchange) : List Event :=
  t.filterMap (ofExchange? client)

end Event

/-! ## What a log takes -/

namespace Log

/-- A log takes what its filter lets through, and nothing without a filter. -/
theorem takes_iff {l : Log} {record : LogRecord} :
    l.takes record = true ↔ ∃ filter, l.filter = some filter ∧ l.admits filter record = true := by
  unfold takes
  cases l.filter <;> simp

/-- A log has grown into another, by records that it takes. -/
def Extends (l l' : Log) : Prop :=
  ∃ records, (∀ record ∈ records, l.takes record = true) ∧
    l' = { l with written := l.written ++ records }

theorem Extends.refl (l : Log) : l.Extends l :=
  ⟨[], by simp, by rw [List.append_nil]⟩

/-- Growing leaves the filter as it is, so what is taken later would have been taken before. -/
theorem Extends.trans {l l' l'' : Log} (first : l.Extends l') (second : l'.Extends l'') :
    l.Extends l'' := by
  obtain ⟨records, taken, rfl⟩ := first
  obtain ⟨records', taken', rfl⟩ := second
  refine ⟨records ++ records', fun record h => ?_, by rw [List.append_assoc]⟩
  exact (List.mem_append.mp h).elim (taken record) (taken' record)

/-- Some records are added, and only those that the log takes. -/
theorem extends_add (l : Log) (records : List LogRecord) : l.Extends (l.add records) :=
  ⟨records.filter l.takes, fun _ h => (List.mem_filter.mp h).2, rfl⟩

end Log

namespace Run

variable {α β σ : Type}

/-! ## The events of a run -/

/-- What happens when a run is carried out. -/
def trace (exchange : HttpRequest → σ → HttpOutcome × σ) : Run α → World σ → List Event
  | .done _, _ => []
  | .print line rest, w =>
    .printed line :: trace exchange rest { w with output := w.output ++ [line] }
  | .warn line rest, w =>
    .warned line :: trace exchange rest { w with errors := w.errors ++ [line] }
  | .ask client call next, w =>
    let (reply, service) := client.perform exchange call w.service
    let log := w.log.add (client.records exchange w.service call)
    .asked client call reply :: trace exchange (next reply) { w with service, log }
  | .prompt p next, w =>
    match w.terminal with
    | none => .prompted p none :: trace exchange (next none) w
    | some t =>
      match t.answer p with
      | none => []
      | some (a, t) =>
        .prompted p (some a) :: trace exchange (next (some a)) { w with terminal := some t }
  | .readFile path next, w =>
    .read path (w.files.read path) :: trace exchange (next (w.files.read path)) w
  | .encloseFile path next, w =>
    let (r, w) := w.withFiles (w.files.encloseFile path)
    .enclosed path r :: trace exchange (next r) w
  | .writeFile path text next, w =>
    let (r, w) := w.withFiles (w.files.write path text)
    .wrote path text r :: trace exchange (next r) w
  | .removeFile path next, w =>
    let (r, w) := w.withFiles (w.files.remove path)
    .removed path r :: trace exchange (next r) w
  | .openLog filter rest, w => trace exchange rest { w with log := { w.log with filter } }
  | .log record rest, w => trace exchange rest { w with log := w.log.add [record] }

/-- Work on files leaves the streams alone. -/
theorem withFiles_streams (w : World σ) (r : Except FileFault FileTree) :
    (w.withFiles r).2.output = w.output ∧ (w.withFiles r).2.errors = w.errors := by
  cases r <;> exact ⟨rfl, rfl⟩

/-- Work on files leaves the log alone. -/
theorem withFiles_log (w : World σ) (r : Except FileFault FileTree) :
    (w.withFiles r).2.log = w.log := by
  cases r <;> rfl

/-- Nor does it notice what stands on the streams and in the log. -/
theorem withFiles_restream (w : World σ) (r : Except FileFault FileTree)
    (output errors : List String) (log : Log) :
    { w with output, errors, log }.withFiles r =
      ((w.withFiles r).1, { (w.withFiles r).2 with output, errors, log }) := by
  cases r <;> rfl

/-- What stands on the two streams is what was printed and warned of. -/
theorem play_streams (exchange : HttpRequest → σ → HttpOutcome × σ) (r : Run α) (w : World σ) :
    (play exchange r w).2.output = w.output ++ Event.output (trace exchange r w) ∧
      (play exchange r w).2.errors = w.errors ++ Event.errors (trace exchange r w) := by
  induction r generalizing w with
  | done a => exact ⟨(List.append_nil _).symm, (List.append_nil _).symm⟩
  | print line rest ih =>
    obtain ⟨hout, herr⟩ := ih { w with output := w.output ++ [line] }
    refine ⟨hout.trans ?_, herr⟩
    rw [List.append_assoc]
    rfl
  | warn line rest ih =>
    obtain ⟨hout, herr⟩ := ih { w with errors := w.errors ++ [line] }
    refine ⟨hout, herr.trans ?_⟩
    rw [List.append_assoc]
    rfl
  | ask client call next ih => exact ih _ _
  | prompt p next ih =>
    cases hterminal : w.terminal with
    | none =>
      rw [play, trace]
      simp only [hterminal]
      exact ih none w
    | some t =>
      cases hanswer : t.answer p with
      | none =>
        rw [play, trace]
        simp only [hterminal, hanswer]
        exact ⟨(List.append_nil _).symm, (List.append_nil _).symm⟩
      | some answered =>
        rw [play, trace]
        simp only [hterminal, hanswer]
        exact ih _ _
  | readFile path next ih => exact ih _ w
  | encloseFile path next ih =>
    obtain ⟨hout, herr⟩ := withFiles_streams w (w.files.encloseFile path)
    have hrest := ih (w.withFiles (w.files.encloseFile path)).1
      (w.withFiles (w.files.encloseFile path)).2
    rw [hout, herr] at hrest
    exact hrest
  | writeFile path text next ih =>
    obtain ⟨hout, herr⟩ := withFiles_streams w (w.files.write path text)
    have hrest := ih (w.withFiles (w.files.write path text)).1
      (w.withFiles (w.files.write path text)).2
    rw [hout, herr] at hrest
    exact hrest
  | removeFile path next ih =>
    obtain ⟨hout, herr⟩ := withFiles_streams w (w.files.remove path)
    have hrest := ih (w.withFiles (w.files.remove path)).1 (w.withFiles (w.files.remove path)).2
    rw [hout, herr] at hrest
    exact hrest
  | openLog filter rest ih => exact ih { w with log := { w.log with filter } }
  | log record rest ih => exact ih { w with log := w.log.add [record] }

/-- What was said or logged before does not matter for what happens. -/
theorem trace_streams (exchange : HttpRequest → σ → HttpOutcome × σ) (r : Run α) (w : World σ)
    (output errors : List String) (log : Log) :
    trace exchange r { w with output, errors, log } = trace exchange r w := by
  -- every line and every record changes a stream or the log, so they vary in the induction
  induction r generalizing w output errors log with
  | done a => rfl
  | print line rest ih =>
    exact congrArg (.printed line :: ·) ((ih w _ _ _).trans (ih w _ _ _).symm)
  | warn line rest ih => exact congrArg (.warned line :: ·) ((ih w _ _ _).trans (ih w _ _ _).symm)
  | ask client call next ih =>
    let asked := { w with service := (client.perform exchange call w.service).2 }
    exact congrArg (.asked client call (client.perform exchange call w.service).1 :: ·)
      ((ih _ asked _ _ _).trans (ih _ asked _ _ _).symm)
  | prompt p next ih =>
    obtain ⟨service, files, terminal, output', errors', log'⟩ := w
    cases terminal with
    | none =>
      exact congrArg (.prompted p none :: ·)
        (ih none ⟨service, files, none, output', errors', log'⟩ output errors log)
    | some t =>
      rw [trace, trace]
      dsimp only
      cases hanswer : t.answer p with
      | none => rfl
      | some answered =>
        exact congrArg (.prompted p (some answered.1) :: ·)
          (ih _ ⟨service, files, some answered.2, output', errors', log'⟩ output errors log)
  | readFile path next ih =>
    exact congrArg (.read path (w.files.read path) :: ·) (ih _ w output errors log)
  | encloseFile path next ih =>
    rw [trace, trace, withFiles_restream]
    exact congrArg (.enclosed path (w.withFiles (w.files.encloseFile path)).1 :: ·)
      (ih _ (w.withFiles (w.files.encloseFile path)).2 output errors log)
  | writeFile path text next ih =>
    rw [trace, trace, withFiles_restream]
    exact congrArg (.wrote path text (w.withFiles (w.files.write path text)).1 :: ·)
      (ih _ (w.withFiles (w.files.write path text)).2 output errors log)
  | removeFile path next ih =>
    rw [trace, trace, withFiles_restream]
    exact congrArg (.removed path (w.withFiles (w.files.remove path)).1 :: ·)
      (ih _ (w.withFiles (w.files.remove path)).2 output errors log)
  | openLog filter rest ih => exact (ih w _ _ _).trans (ih w _ _ _).symm
  | log record rest ih => exact (ih w _ _ _).trans (ih w _ _ _).symm

/-- A run that comes to its end is followed by the second part. -/
theorem play_andThen {exchange : HttpRequest → σ → HttpOutcome × σ} {r : Run α} {f : α → Run β}
    {w : World σ} {a : α} (h : (play exchange r w).1 = some a) :
    play exchange (r.andThen f) w = play exchange (f a) (play exchange r w).2 := by
  induction r generalizing w with
  | done b =>
    obtain rfl := Option.some.inj h
    rfl
  | print line rest ih => exact ih h
  | warn line rest ih => exact ih h
  | ask client call next ih => exact ih _ h
  | prompt p next ih =>
    rw [play] at h
    rw [andThen, play, play]
    cases hterminal : w.terminal with
    | none =>
      rw [hterminal] at h
      exact ih none h
    | some t =>
      rw [hterminal] at h
      dsimp only at h ⊢
      cases hanswer : t.answer p with
      | none =>
        rw [hanswer] at h
        cases h
      | some answered =>
        rw [hanswer] at h
        exact ih _ h
  | readFile path next ih => exact ih _ h
  | encloseFile path next ih => exact ih _ h
  | writeFile path text next ih => exact ih _ h
  | removeFile path next ih => exact ih _ h
  | openLog filter rest ih => exact ih h
  | log record rest ih => exact ih h

/-! ## What a run ensures -/

/-- The run does without prompts and opens no log, and `Q` holds of its events and its result. -/
def Ensures : Run α → (List Event → α → Prop) → Prop
  | .done a, Q => Q [] a
  | .print line rest, Q => rest.Ensures fun t a => Q (.printed line :: t) a
  | .warn line rest, Q => rest.Ensures fun t a => Q (.warned line :: t) a
  | .ask client call next, Q =>
    ∀ reply, (next reply).Ensures fun t a => Q (.asked client call reply :: t) a
  | .prompt _ _, _ => False
  | .readFile path next, Q => ∀ r, (next r).Ensures fun t a => Q (.read path r :: t) a
  | .encloseFile path next, Q => ∀ r, (next r).Ensures fun t a => Q (.enclosed path r :: t) a
  | .writeFile path text next, Q =>
    ∀ r, (next r).Ensures fun t a => Q (.wrote path text r :: t) a
  | .removeFile path next, Q => ∀ r, (next r).Ensures fun t a => Q (.removed path r :: t) a
  | .openLog _ _, _ => False
  | .log _ rest, Q => rest.Ensures Q

/-- What a run ensures can be weakened. -/
theorem Ensures.mono {r : Run α} {P Q : List Event → α → Prop} (h : r.Ensures P)
    (imp : ∀ t a, P t a → Q t a) : r.Ensures Q := by
  induction r generalizing P Q with
  | done a => exact imp [] a h
  | print line rest ih => exact ih h fun t a => imp _ a
  | warn line rest ih => exact ih h fun t a => imp _ a
  | ask client call next ih => exact fun reply => ih reply (h reply) fun t a => imp _ a
  | prompt p next ih => exact h
  | readFile path next ih => exact fun r => ih r (h r) fun t a => imp _ a
  | encloseFile path next ih => exact fun r => ih r (h r) fun t a => imp _ a
  | writeFile path text next ih => exact fun r => ih r (h r) fun t a => imp _ a
  | removeFile path next ih => exact fun r => ih r (h r) fun t a => imp _ a
  | openLog filter rest ih => exact h
  | log record rest ih => exact ih h imp

/-- The second part of a run finishes what the first has begun. -/
theorem ensures_andThen {r : Run α} {f : α → Run β} {Q : List Event → β → Prop} :
    (r.andThen f).Ensures Q ↔ r.Ensures fun t a => (f a).Ensures fun t' b => Q (t ++ t') b := by
  induction r generalizing Q with
  | done a => exact Iff.rfl
  | print line rest ih => exact ih
  | warn line rest ih => exact ih
  | ask client call next ih => exact forall_congr' fun reply => ih reply
  | prompt p next ih => exact Iff.rfl
  | readFile path next ih => exact forall_congr' fun r => ih r
  | encloseFile path next ih => exact forall_congr' fun r => ih r
  | writeFile path text next ih => exact forall_congr' fun r => ih r
  | removeFile path next ih => exact forall_congr' fun r => ih r
  | openLog filter rest ih => exact Iff.rfl
  | log record rest ih => exact ih

/-- **What a run ensures holds whenever it is carried out, and it comes to its end.** -/
theorem Ensures.of_play {r : Run α} {Q : List Event → α → Prop} (h : r.Ensures Q)
    (exchange : HttpRequest → σ → HttpOutcome × σ) (w : World σ) :
    ∃ a, (play exchange r w).1 = some a ∧ Q (trace exchange r w) a := by
  induction r generalizing Q w with
  | done a => exact ⟨a, rfl, h⟩
  | print line rest ih => exact ih h _
  | warn line rest ih => exact ih h _
  | ask client call next ih => exact ih _ (h _) _
  | prompt p next ih => exact h.elim
  | readFile path next ih => exact ih _ (h _) w
  | encloseFile path next ih => exact ih _ (h _) _
  | writeFile path text next ih => exact ih _ (h _) _
  | removeFile path next ih => exact ih _ (h _) _
  | openLog filter rest ih => exact h.elim
  | log record rest ih => exact ih h _

/-- **A run that opens no log only adds to the one there is**, and only what that takes. -/
theorem Ensures.log_extends {r : Run α} {Q : List Event → α → Prop} (h : r.Ensures Q)
    (exchange : HttpRequest → σ → HttpOutcome × σ) (w : World σ) :
    w.log.Extends (play exchange r w).2.log := by
  induction r generalizing Q w with
  | done a => exact .refl w.log
  | print line rest ih => exact ih h { w with output := w.output ++ [line] }
  | warn line rest ih => exact ih h { w with errors := w.errors ++ [line] }
  | ask client call next ih =>
    let records := client.records exchange w.service call
    refine (w.log.extends_add records).trans (ih _ (h _) { w with
      service := (client.perform exchange call w.service).2
      log := w.log.add records })
  | prompt p next ih => exact h.elim
  | readFile path next ih => exact ih _ (h _) w
  | encloseFile path next ih =>
    rw [← withFiles_log w (w.files.encloseFile path)]
    exact ih _ (h _) _
  | writeFile path text next ih =>
    rw [← withFiles_log w (w.files.write path text)]
    exact ih _ (h _) _
  | removeFile path next ih =>
    rw [← withFiles_log w (w.files.remove path)]
    exact ih _ (h _) _
  | openLog filter rest ih => exact h.elim
  | log record rest ih =>
    exact (w.log.extends_add [record]).trans (ih h { w with log := w.log.add [record] })

/-- A conversation that is held is transcribed call by call, and the operator has made up his mind
before it. -/
theorem ensures_hold {client : Client} {decision : Bool} {x : Conversation α}
    {P : List Exchange → α → Prop} {Q : List Event → α → Prop} (held : x.Ensures P)
    (imp : ∀ t a, P t a → (∀ p d, .decided p d ∈ t → d = decision) →
      Q (Event.ofExchanges client t) a) :
    (hold client decision x).Ensures Q := by
  induction x generalizing P Q with
  | done a => exact imp [] a (Conversation.ensures_done_iff.mp held) (by simp)
  | ask call next ih =>
    intro reply
    refine ih reply (Conversation.ensures_ask_iff.mp held reply) fun t a hP hdecided => ?_
    refine imp _ a hP fun p d hmem => ?_
    exact hdecided p d (List.mem_of_ne_of_mem Exchange.noConfusion hmem)
  | confirm prompt next ih =>
    have hheld := Conversation.ensures_confirm_iff.mp held decision
    refine ih decision hheld fun t a hP hdecided => ?_
    refine imp (.decided prompt decision :: t) a hP fun p d hmem => ?_
    rcases List.mem_cons.mp hmem with hfirst | hrest
    · cases hfirst
      rfl
    · exact hdecided p d hrest
  | log record rest ih => exact ih (Conversation.ensures_log_iff.mp held) imp

end Run

/-! ## What an errand ensures -/

namespace Errand

variable {α β : Type}

/-- The errand does without prompts, and `Q` holds of its events and of how it ends. -/
def Ensures (x : Errand α) (Q : List Event → Except Failure α → Prop) : Prop := x.run.Ensures Q

/-- What `Q` asks of the first part of an errand, if `f` is the second: there is a second part only
if the first does not fail. -/
def Following (f : α → Errand β) (Q : List Event → Except Failure β → Prop) :
    List Event → Except Failure α → Prop
  | t, .ok a => Ensures (f a) fun t' r => Q (t ++ t') r
  | t, .error failure => Q t (.error failure)

/-- **An errand goes on unless it fails.** -/
theorem ensures_bind {x : Errand α} {f : α → Errand β}
    {Q : List Event → Except Failure β → Prop} :
    Ensures (x >>= f) Q ↔ Ensures x (Following f Q) := by
  refine Run.ensures_andThen.trans ?_
  have hsame : (fun (t : List Event) (r : Except Failure α) =>
      Run.Ensures (ExceptT.bindCont f r) fun t' b => Q (t ++ t') b) = Following f Q := by
    funext t r
    cases r with
    | ok a => rfl
    | error failure =>
      -- what follows a failure is a run that is done
      show Q (t ++ []) (.error failure) = Q t (.error failure)
      rw [List.append_nil]
  exact iff_of_eq (congrArg (Run.Ensures x.run) hsame)

/-- What an errand ensures can be weakened. -/
theorem Ensures.mono {x : Errand α} {P Q : List Event → Except Failure α → Prop}
    (h : Ensures x P) (imp : ∀ t r, P t r → Q t r) : Ensures x Q :=
  Run.Ensures.mono h imp

variable {Q : List Event → Except Failure α → Prop}

/-- An errand goes on behind a line that it prints. -/
theorem ensures_print_bind {line : String} {f : Unit → Errand α} :
    Ensures (print line >>= f) Q ↔ Ensures (f ()) fun t r => Q (.printed line :: t) r :=
  Iff.rfl

theorem ensures_read_bind {path : String} {f : Except FileFault String → Errand α} :
    Ensures (ofRun (.readFile path .done) >>= f) Q ↔
      ∀ file, Ensures (f file) fun t r => Q (.read path file :: t) r :=
  Iff.rfl

/-- Holding a conversation never fails. -/
theorem ensures_hold_bind {client : Client} {x : Conversation β} {f : β → Errand α}
    {P : List Exchange → β → Prop} (held : x.Ensures P)
    (next : ∀ t b, P t b → (∀ p d, .decided p d ∈ t → d = true) →
      Ensures (f b) fun t' r => Q (Event.ofExchanges client t ++ t') r) :
    Ensures (hold client x >>= f) Q := by
  refine ensures_bind.mpr ?_
  show Run.Ensures (Run.andThen (Run.hold client true x) fun b => .done (.ok b)) (Following f Q)
  exact Run.ensures_andThen.mpr (Run.ensures_hold held fun t b hP hdecided => by
    show Ensures (f b) fun t' r => Q (Event.ofExchanges client t ++ [] ++ t') r
    rw [List.append_nil]
    exact next t b hP hdecided)

end Errand

end DeliveryDesk.CommandLine

import DeliveryDesk.Proofs.Console.Course

/-!
# What an action may change

The console is made of parts, and every action has at most one of its own (`Action.part?`). It
leaves all the others alone (`Course.part_eq`), whatever the service answers.

An action that reports an error has changed next to nothing. `Console.afterFailed` lists what a
failed call does replace: the health panel, the answer to a dispatch, and the task that was asked
for last. `Course.eq_of_reportsError` says that nothing else is replaced, so that the list of
subscriptions, the log entries and the task on display are those of before, and look as they did.

Nothing of this is said of faults that are not reported. There is one place for them: a look at
the logs of no subscription in particular makes do with what it gets, and may leave no entries.

The main result, `errors_keep_what_is_shown`, is about the consoles that runs lead to. Only there
is it certain that nothing is in flight, without which a failed poll could change the phase.
-/

namespace DeliveryDesk.Console

open Text

/-- The parts of a console that actions may change, besides the queue of notifications. -/
inductive Part where
  | registry
  | inspector
  | logEntries
  /-- What the log browser asks the service with. -/
  | logQuery
  | health

/-- What is found in a part. -/
abbrev Part.Content : Part → Type
  | .registry => Registry
  | .inspector => Inspector
  | .logEntries => List LogEntry
  | .logQuery => Option UInt32 × Page
  | .health => HealthPanel

/-- A part of a console. -/
def part (c : Console) : (p : Part) → p.Content
  | .registry => c.registry
  | .inspector => c.inspector
  | .logEntries => c.logs.entries
  | .logQuery => (c.logs.limit, c.logs.page)
  | .health => c.health

/-- The part of its own that an action has. -/
def Action.part? : Action → Option Part
  | .refreshSubscriptions => some .registry
  | .createSubscription _ => some .registry
  | .submitEdit _ => some .registry
  | .deleteSubscription _ => some .registry
  | .sendTest _ => some .inspector
  | .checkDeliveryStatus _ => some .inspector
  | .refreshDeliveryStatus => some .inspector
  | .closeInspection => some .inspector
  | .loadDeliveryLogs _ => some .logEntries
  | .setLogLimit _ => some .logQuery
  | .loadHealth => some .health
  | .openEdit _ => none
  | .takeNotifications => none

/-- An error stands among the notifications that have been added to the queue. -/
def ReportsError (c c' : Console) : Prop :=
  ∃ new, c'.notifications = c.notifications ++ new ∧ ∃ n ∈ new, n.isError = true

/-- What a failed call replaces: the health panel, which shows no stale snapshot; the answer to a
dispatch, with the task that could be checked; and the task asked for last, by a poll whose number
is used up. -/
def afterFailed (c : Console) : Exchange → Console
  | .answered .status (.error fault) => { c with health := .failed fault.message }
  | .answered (.sendTest _ _ _) (.error fault) =>
    { c with
      inspector :=
        { c.inspector with
          response := some (Inspector.failurePanel fault)
          checkTarget := none } }
  | .answered (.getDelivery taskId) (.error _) =>
    { c with
      inspector :=
        { c.inspector with
          latestTarget := some taskId
          lastSeq := c.inspector.lastSeq + 1 } }
  | _ => c

/-! ## The parts of others -/

/-- **An action leaves the parts of the others alone.** -/
theorem Course.part_eq {u : Turn} {c c' : Console} (course : Course c u c') {p : Part}
    (foreign : u.action.part? ≠ some p) : c'.part p = c.part p := by
  cases course with
  | failed asks =>
    cases asks with
    | dispatch | check | recheck =>
      cases p with
      | inspector => exact absurd rfl foreign
      | _ => rfl
    | health =>
      cases p with
      | health => exact absurd rfl foreign
      | _ => rfl
    | _ => rfl
  | refused | declined | fetched | taken => rfl
  | listed | created | updated | deleted =>
    cases p with
    | registry => exact absurd rfl foreign
    | _ => rfl
  | dispatched | checked | rechecked | closed =>
    cases p with
    | inspector => exact absurd rfl foreign
    | _ => rfl
  | browsed | browsedFirst =>
    cases p with
    | logEntries => exact absurd rfl foreign
    | _ => rfl
  | limited =>
    cases p with
    | logQuery => exact absurd rfl foreign
    | _ => rfl
  | measured =>
    cases p with
    | health => exact absurd rfl foreign
    | _ => rfl

/-! ## Errors -/

/-- The notifications that are added to a queue tell whether an error is reported. -/
theorem not_reportsError_of_append {c c' : Console} {new : List Notification}
    (hqueue : c'.notifications = c.notifications ++ new) (hnew : ∀ n ∈ new, n.isError = false) :
    ¬ ReportsError c c' := by
  rintro ⟨new', hqueue', n, hn, herror⟩
  rw [hqueue, List.append_cancel_left_eq] at hqueue'
  rw [← hqueue'] at hn
  rw [hnew n hn] at herror
  cases herror

theorem not_reportsError_of_eq {c c' : Console} (hqueue : c'.notifications = c.notifications) :
    ¬ ReportsError c c' :=
  not_reportsError_of_append (hqueue.trans (List.append_nil _).symm) (by simp)

theorem not_reportsError_of_nil {c c' : Console} (hqueue : c'.notifications = []) :
    ¬ ReportsError c c' := by
  rintro ⟨new, happend, n, hn, -⟩
  rw [hqueue, List.nil_eq_append_iff] at happend
  rw [happend.2] at hn
  cases hn

/-- A poll that has come and gone where none was in flight leaves none in flight. -/
theorem Settled.polled_eq {c : Console} (settled : c.Settled) (taskId : String) :
    c.inspector.polled taskId =
      { c.inspector with latestTarget := some taskId, lastSeq := c.inspector.lastSeq + 1 } := by
  have hcounted : Inspector.countDown (c.inspector.inFlight + 1) = c.inspector.inFlight :=
    (Inspector.polled_inFlight settled.inFlight taskId).trans settled.inFlight.symm
  rw [Inspector.polled, hcounted]

/-- A dispatch that has failed where none was in flight leaves none in flight. -/
theorem Settled.completeDispatch_error {c : Console} (settled : c.Settled) (fault : Fault) :
    (c.inspector.completeDispatch (.error fault)).1 =
      { c.inspector with
        response := some (Inspector.failurePanel fault)
        checkTarget := none } := by
  rw [Inspector.completeDispatch, ← settled.dispatching]

/-- What follows upon a fault is what the failed call replaces. -/
theorem Settled.afterFault_eq {c : Console} (settled : c.Settled) (call : Call) (fault : Fault) :
    c.afterFault call fault = c.afterFailed (.answered call (.error fault)) := by
  cases call with
  | sendTest => rw [afterFault, afterFailed, settled.completeDispatch_error]
  | getDelivery => rw [afterFault, afterFailed, settled.polled_eq]
  | _ => rfl

/-- After a change whose reload failed there is nothing new but notifications. -/
theorem changed_eq_of_reportsError {c : Console} {message : String}
    {reload : Except Fault (List Subscription)}
    (reports : ReportsError c (c.changed message reload)) :
    c.changed message reload = { c with
      notifications := (c.changed message reload).notifications } := by
  cases reload with
  | error fault => rfl
  | ok list =>
    have hqueue : (c.changed message (.ok list)).notifications =
        c.notifications ++ [.success message] := rfl
    exact absurd reports (not_reportsError_of_append hqueue (by simp))

/-- **Errors replace nothing but what failed calls replace.** -/
theorem Course.eq_of_reportsError {u : Turn} {c c' : Console} (course : Course c u c')
    (settled : c.Settled) (reports : ReportsError c c') :
    c' = { u.exchanges.foldl afterFailed c with notifications := c'.notifications } := by
  cases course with
  | refused => rfl
  | @failed a call asks fault =>
    have hconsent : a.consent.foldl afterFailed c = c := by cases a <;> rfl
    rw [List.foldl_append, hconsent, settled.afterFault_eq]
    rfl
  | created | updated | deleted => exact changed_eq_of_reportsError reports
  -- the other courses report a success or nothing
  | dispatched =>
    exact absurd reports (not_reportsError_of_append rfl (by simp))
  | taken => exact absurd reports (not_reportsError_of_nil rfl)
  | _ => exact absurd reports (not_reportsError_of_eq rfl)

/-- What failed calls replace is neither a list nor the task on display. -/
theorem foldl_afterFailed_shown (t : List Exchange) (c : Console) :
    (t.foldl afterFailed c).registry = c.registry ∧ (t.foldl afterFailed c).logs = c.logs ∧
      (t.foldl afterFailed c).inspector.surface = c.inspector.surface := by
  induction t generalizing c with
  | nil => exact ⟨rfl, rfl, rfl⟩
  | cons e t ih =>
    have hone : (c.afterFailed e).registry = c.registry ∧ (c.afterFailed e).logs = c.logs ∧
        (c.afterFailed e).inspector.surface = c.inspector.surface := by
      unfold afterFailed
      split <;> exact ⟨rfl, rfl, rfl⟩
    obtain ⟨hregistry, hlogs, hsurface⟩ := ih (c.afterFailed e)
    exact ⟨hregistry.trans hone.1, hlogs.trans hone.2.1, hsurface.trans hone.2.2⟩

/-- A failed call that its action falls with is reported as an error. -/
theorem reportsError_afterFault (c : Console) (call : Call) (fault : Fault) (a : Action) :
    ReportsError c ((c.afterFault call fault).notify (a.report fault)) := by
  have hqueue : (c.afterFault call fault).notifications = c.notifications := by
    cases call <;> rfl
  refine ⟨[a.report fault], ?_, _, List.mem_singleton_self _, a.isError_report fault⟩
  rw [notify, hqueue]

/-- In the course of an accepted change nothing but the reload can fail. -/
theorem eq_listing_of_failed {call change : Call} {fault : Fault} {value : change.Answer}
    {page : Page} {reload : Except Fault (List Subscription)}
    (failed : .answered call (.error fault) ∈
      [Exchange.answered change (.ok value), .answered (.listSubscriptions page) reload]) :
    call = .listSubscriptions page := by
  rcases List.mem_pair.mp failed with h | h
  · exact absurd h Exchange.failed_ne_answered
  · cases h
    rfl

/-- Without a subscription in particular only the two lists can fail. -/
theorem LogBrowser.Fallback.lists_of_failed {b : LogBrowser} {t : List Exchange}
    {entries : List LogEntry} (found : b.Fallback t entries) {call : Call} {fault : Fault}
    (failed : .answered call (.error fault) ∈ t) :
    (∃ page, call = .listSubscriptions page) ∨ ∃ id limit, call = .listDeliveries id limit := by
  cases found with
  | unlisted =>
    cases List.mem_singleton.mp failed
    exact .inl ⟨_, rfl⟩
  | nothingListed => exact absurd (List.mem_singleton.mp failed) Exchange.failed_ne_answered
  | unread =>
    rcases List.mem_pair.mp failed with h | h
    · exact absurd h Exchange.failed_ne_answered
    · cases h
      exact .inr ⟨_, _, rfl⟩
  | read =>
    rcases List.mem_pair.mp failed with h | h
    · exact absurd h Exchange.failed_ne_answered
    · exact absurd h Exchange.failed_ne_answered

/-- A failed call is the one that its action stands or falls with, unless it lists something: the
reload after a change may fail, and so may what the log browser makes do with. -/
theorem Course.eq_of_failed {u : Turn} {c c' : Console} (course : Course c u c') {call : Call}
    {fault : Fault} (failed : .answered call (.error fault) ∈ u.exchanges)
    (hlist : ∀ page, call ≠ .listSubscriptions page)
    (hlogs : ∀ id limit, call ≠ .listDeliveries id limit) :
    c' = (c.afterFault call fault).notify (u.action.report fault) := by
  cases course with
  | @failed a own asks ownFault =>
    have hown : Exchange.answered call (.error fault) = .answered own (.error ownFault) := by
      cases a <;> simpa [Action.consent] using failed
    cases hown
    rfl
  | created | updated => exact absurd (eq_listing_of_failed failed) (hlist _)
  | deleted =>
    have hchange := List.mem_of_ne_of_mem Exchange.noConfusion failed
    exact absurd (eq_listing_of_failed hchange) (hlist _)
  | browsedFirst unnamed found =>
    rcases found.lists_of_failed failed with ⟨page, rfl⟩ | ⟨id, limit, rfl⟩
    · exact absurd rfl (hlist page)
    · exact absurd rfl (hlogs id limit)
  | declined => cases List.mem_singleton.mp failed
  | refused | closed | limited | taken => cases failed
  | _ => exact absurd (List.mem_singleton.mp failed) Exchange.failed_ne_answered

/-- **Errors keep what is shown.** From a console that a run leads to, an action changes only its
own part. If it reports an error, the subscriptions, the log entries and the task on display are
what they were, and look as they did to every viewer; all that is new are notifications and what
failed calls replace. The health panel then shows the fault, a dispatch shows its failure and leaves
no task to be checked, and a poll leaves its task as the one asked for last and the phase as it
was. -/
theorem errors_keep_what_is_shown {page : Page} {h : List Turn} {c : Console}
    (run : Run (({} : Console).withPage page) h c) {u : Turn} {c' : Console}
    (takes : u.Takes c c') :
    (∀ p, u.action.part? ≠ some p → c'.part p = c.part p) ∧
    (ReportsError c c' →
      c'.registry.subscriptions = c.registry.subscriptions ∧
      c'.logs.entries = c.logs.entries ∧
      c'.inspector.surface = c.inspector.surface ∧
      c'.registry.renderTable = c.registry.renderTable ∧
      (∀ v, c'.logs.renderTable v = c.logs.renderTable v) ∧
      (∀ v, c'.inspector.surface.map (·.render v) = c.inspector.surface.map (·.render v)) ∧
      c' = { u.exchanges.foldl afterFailed c with notifications := c'.notifications }) ∧
    (∀ fault, .answered .status (.error fault) ∈ u.exchanges →
      ReportsError c c' ∧ c'.health = .failed fault.message) ∧
    (∀ id payload eventType fault,
      .answered (.sendTest id payload eventType) (.error fault) ∈ u.exchanges →
      ReportsError c c' ∧ c'.inspector.response = some (Inspector.failurePanel fault) ∧
        c'.inspector.checkTarget = none) ∧
    (∀ taskId fault, .answered (.getDelivery taskId) (.error fault) ∈ u.exchanges →
      ReportsError c c' ∧ c'.inspector.latestTarget = some taskId ∧
        c'.inspector.phase = c.inspector.phase) := by
  have settled := run.settled
  have course := takes.course
  refine ⟨fun p foreign => course.part_eq foreign, ?reported, ?health, ?dispatch, ?poll⟩
  case reported =>
    intro reports
    have hc' := course.eq_of_reportsError settled reports
    -- what is shown is made from what failed calls leave alone
    obtain ⟨hlist, hlogs, hsurface⟩ := foldl_afterFailed_shown u.exchanges c
    rw [hc']
    exact ⟨by rw [hlist], by rw [hlogs], hsurface, by rw [hlist], by simp [hlogs],
      by simp [hsurface], rfl⟩
  case health =>
    intro fault failed
    have hc' := course.eq_of_failed failed (by simp) (by simp)
    rw [hc']
    exact ⟨reportsError_afterFault .., rfl⟩
  case dispatch =>
    intro id payload eventType fault failed
    have hc' := course.eq_of_failed failed (by simp) (by simp)
    rw [hc']
    exact ⟨reportsError_afterFault .., rfl, rfl⟩
  case poll =>
    intro taskId fault failed
    have hc' := course.eq_of_failed failed (by simp) (by simp)
    rw [hc']
    refine ⟨reportsError_afterFault .., rfl, ?_⟩
    -- nothing was in flight before, and nothing is once the poll has come back
    rw [settled.afterFault_eq]
    rfl

/-- A task is on display and cannot be fetched again; it stays on display. -/
theorem errors_keep_what_is_shown_recheck :
    let task : DeliveryTask := { (default : DeliveryTask) with id := "t1" }
    let check : Turn :=
      ⟨.checkDeliveryStatus "t1", [.answered (.getDelivery "t1") (.ok task)], true⟩
    let recheck : Turn := ⟨.refreshDeliveryStatus,
      [.answered (.getDelivery "t1") (.error (.transport "timeout"))], false⟩
    ∃ c c', Run (({} : Console).withPage {}) [check] c ∧ recheck.Takes c c' ∧
      c.inspector.surface = some ⟨task, 1⟩ ∧ c'.inspector.surface = some ⟨task, 1⟩ ∧
      c'.inspector.latestTarget = some "t1" ∧ c'.inspector.phase = .rendered := by
  intro task check recheck
  have named : trim "t1" ≠ "" := by decide
  have htrim : trim "t1" = "t1" := by decide
  let shown : Console := ({} : Console).displaying "t1" task
  have hcheck : check.Takes (({} : Console).withPage {}) shown := by
    have h := Inspector.inspect_yields_ok named (({} : Console).withPage {}).inspector task
    rw [htrim] at h
    exact Conversation.yields_bind_iff.mpr ⟨_, _, [], rfl, h, .done _⟩
  have hrecheck : recheck.Takes shown
      ((shown.afterFault (.getDelivery "t1") (.transport "timeout")).notify
        (.failure "check delivery status" (.transport "timeout"))) := by
    have h := Inspector.inspect_yields_error named shown.inspector (.transport "timeout")
    rw [htrim] at h
    exact Conversation.yields_bind_iff.mpr ⟨_, _, [], rfl, h, .done _⟩
  have run := Run.cons hcheck .nil
  obtain ⟨-, hshown, -, -, hpoll⟩ := errors_keep_what_is_shown run hrecheck
  obtain ⟨reports, htarget, hphase⟩ := hpoll _ _ (List.mem_singleton_self _)
  obtain ⟨-, -, hsurface, -⟩ := hshown reports
  exact ⟨_, _, run, hrecheck, rfl, hsurface, htarget, hphase⟩

end DeliveryDesk.Console

import DeliveryDesk.Proofs.Console.Run
import DeliveryDesk.Proofs.Inspector.Run

/-!
# The courses of an action

Every action of the operator goes the same way. What was typed is checked first, and the action
may be refused before anything is asked of the service (`Refuses`). Otherwise there is one call
that it stands or falls with (`Asks`); if the service fails that call, the action ends, and the
fault is reported. Only after the call has been answered does each action take a course of its own.

`Course` lists everything a turn can be, with the console before it and the console after it. This
module is the only place where the actions are unfolded: `Turn.Takes.course` says that every turn
takes one of these courses, and what is to be shown of all turns is shown course by course.

Two facts about whole runs come right out of it. Between actions nothing is in flight
(`Run.settled`), and the page that lists are asked for never changes (`Run.page_eq`).
-/

namespace DeliveryDesk.Console

open Conversation Text

/-! ## What the views do -/

namespace Registry

/-- The registry once a reload has got its reply. -/
def reloaded (r : Registry) : Except Fault (List Subscription) → Registry
  | .ok list => r.apply list
  | .error _ => r

/-- A reload does not turn the page. -/
@[simp]
theorem reloaded_page (r : Registry) (reload : Except Fault (List Subscription)) :
    (r.reloaded reload).page = r.page := by
  cases reload <;> rfl

/-- A reload is one call for the page, and its reply decides what is shown. -/
theorem reload_ensures_iff {r : Registry}
    {Q : List Exchange → Registry × Except Fault Unit → Prop} :
    r.reload.Ensures Q ↔
      ∀ reply, Q [.answered (.listSubscriptions r.page) reply]
        (r.reloaded reply, reply.map fun _ => ()) := by
  refine ensures_bind_iff.trans (ensures_call_iff.trans (forall_congr' ?_))
  rintro (fault | list)
  · exact ensures_pure_iff
  · exact ensures_note_bind_iff.trans ensures_pure_iff

/-- A change that is refused by the service is the only call; one that is accepted is followed by
a reload, whatever comes of that. -/
theorem mutate_ensures {r : Registry} {change : Call} {record : change.Answer → LogRecord}
    {Q : List Exchange → Registry × Except Fault (Mutation change.Answer) → Prop}
    (failed : ∀ fault, Q [.answered change (.error fault)] (r, .error fault))
    (accepted : ∀ value reload,
      Q [.answered change (.ok value), .answered (.listSubscriptions r.page) reload]
        (r.reloaded reload, .ok ⟨value, faultOf reload⟩)) :
    (r.mutate change record).Ensures Q := by
  refine ensures_bind_iff.mpr (ensures_call_iff.mpr ?_)
  rintro (fault | value)
  · exact ensures_pure_iff.mpr (failed fault)
  · refine ensures_note_bind_iff.mpr ?_
    refine ensures_bind_iff.mpr (ensures_bind_iff.mpr (reload_ensures_iff.mpr ?_))
    rintro (fault | list)
    · exact ensures_pure_iff.mpr (ensures_pure_iff.mpr (accepted value (.error fault)))
    · exact ensures_pure_iff.mpr (ensures_pure_iff.mpr (accepted value (.ok list)))

end Registry

namespace Inspector

/-- The inspector after a poll has come and gone, apart from what it brought on display. -/
def polled (i : Inspector) (taskId : String) : Inspector :=
  { i with
    latestTarget := some taskId
    lastSeq := i.lastSeq + 1
    inFlight := countDown (i.inFlight + 1) }

/-- What a poll counts up when it goes out it counts down when it comes back. -/
theorem polled_inFlight {i : Inspector} (hzero : i.inFlight = 0) (taskId : String) :
    (i.polled taskId).inFlight = 0 := by
  rw [polled, hzero]
  rfl

/-- A poll that is held to its end is never discarded: its task is the one asked for last. -/
theorem inspect_ensures {i : Inspector} {taskId : String}
    {Q : List Exchange → Inspector × Except Fault PollOutcome → Prop}
    (refused : ∀ fault, i.beginInspect taskId = .error fault → Q [] (i, .error fault))
    (failed : isBlankText taskId = false → ∀ fault,
      Q [.answered (.getDelivery (trim taskId)) (.error fault)]
        (i.polled (trim taskId), .error fault))
    (rendered : isBlankText taskId = false → ∀ task,
      Q [.answered (.getDelivery (trim taskId)) (.ok task)]
        ({ i.polled (trim taskId) with surface := some ⟨task, i.lastSeq + 1⟩ }, .ok .rendered)) :
    (i.inspect taskId).Ensures Q := by
  unfold inspect
  cases named : isBlankText taskId with
  | true =>
    have hblank : ∃ fault, i.beginInspect taskId = .error fault := by
      simp [beginInspect, nonBlank?, named]
    obtain ⟨fault, hfault⟩ := hblank
    rw [hfault]
    exact ensures_done_iff.mpr (refused fault hfault)
  | false =>
    rw [beginInspect_of_named named]
    refine ensures_after_iff.mpr (ensures_ask_iff.mpr fun reply => ?_)
    refine ensures_log_iff.mpr (ensures_done_iff.mpr ?_)
    cases reply with
    | error fault => simpa [completeInspect, polled] using failed named fault
    | ok task => simpa [completeInspect, polled] using rendered named task

/-- A poll of a task that is named puts the answer on display. -/
theorem inspect_yields_ok {taskId : String} (named : trim taskId ≠ "") (i : Inspector)
    (task : DeliveryTask) :
    (i.inspect taskId).Yields [.answered (.getDelivery (trim taskId)) (.ok task)]
      ({ i.polled (trim taskId) with surface := some ⟨task, i.lastSeq + 1⟩ }, .ok .rendered) := by
  rw [inspect, beginInspect_of_named (trim_ne_empty_iff.mp named)]
  refine yields_after_iff.mpr (.ask _ (.log _ (yields_done_iff.mpr ⟨rfl, ?_⟩)))
  simp [completeInspect, polled]

/-- If its call fails, nothing is put on display. -/
theorem inspect_yields_error {taskId : String} (named : trim taskId ≠ "") (i : Inspector)
    (fault : Fault) :
    (i.inspect taskId).Yields [.answered (.getDelivery (trim taskId)) (.error fault)]
      (i.polled (trim taskId), .error fault) := by
  rw [inspect, beginInspect_of_named (trim_ne_empty_iff.mp named)]
  refine yields_after_iff.mpr (.ask _ (.log _ (yields_done_iff.mpr ⟨rfl, ?_⟩)))
  simp [completeInspect, polled]

/-- A dispatch is begun when none is in flight and the form is right. -/
theorem beginDispatch_eq_ok_iff {i i' : Inspector} {form : DispatchForm}
    {request : DispatchRequest} : i.beginDispatch form = .ok (request, i') ↔
      i.dispatching = false ∧ form.parse = .ok request ∧ i' = { i with dispatching := true } := by
  unfold beginDispatch
  cases i.dispatching with
  | true => simp
  | false =>
    cases form.parse with
    | error fault => simp
    | ok r => simp [eq_comm]

end Inspector

namespace LogBrowser

/-- What the logs of no subscription in particular are looked up with: the first subscription of
the page, if the service reports one. -/
inductive Fallback (b : LogBrowser) : List Exchange → List LogEntry → Prop where
  | unlisted (fault : Fault) :
      Fallback b [.answered (.listSubscriptions b.page) (.error fault)] []
  | nothingListed : Fallback b [.answered (.listSubscriptions b.page) (.ok [])] []
  | unread (first : Subscription) (rest : List Subscription) (fault : Fault) :
      Fallback b [.answered (.listSubscriptions b.page) (.ok (first :: rest)),
        .answered (.listDeliveries first.id b.limit) (.error fault)] []
  | read (first : Subscription) (rest : List Subscription) (entries : List LogEntry) :
      Fallback b [.answered (.listSubscriptions b.page) (.ok (first :: rest)),
        .answered (.listDeliveries first.id b.limit) (.ok entries)] entries

/-- **However the fallback goes, it is one of the ways that are listed.** -/
theorem defaultEntries_ensures (b : LogBrowser) : b.defaultEntries.Ensures b.Fallback := by
  refine ensures_bind_iff.mpr (ensures_call_iff.mpr ?_)
  rintro (fault | _ | ⟨first, rest⟩)
  · exact ensures_note_bind_iff.mpr (ensures_pure_iff.mpr (.unlisted fault))
  · exact ensures_pure_iff.mpr .nothingListed
  · refine ensures_bind_iff.mpr (ensures_call_iff.mpr ?_)
    rintro (fault | entries)
    · exact ensures_note_bind_iff.mpr (ensures_pure_iff.mpr (.unread first rest fault))
    · exact ensures_pure_iff.mpr (.read first rest entries)

end LogBrowser

/-! ## How an action starts -/

/-- A fault that is found before anything is asked of the service. -/
inductive Refuses (c : Console) : Action → Fault → Prop where
  | create {form : SubscriptionForm} {fault : Fault} (unfilled : form.toRequest = .error fault) :
      Refuses c (.createSubscription form) fault
  | fetch {id : String} (blank : isBlankText id = true) :
      Refuses c (.openEdit id) noSubscriptionChosen
  | update {form : EditForm} {fault : Fault} (unfilled : form.toRequest = .error fault) :
      Refuses c (.submitEdit form) fault
  | delete {id : String} (blank : isBlankText id = true) :
      Refuses c (.deleteSubscription id) noSubscriptionChosen
  | unlisted {form : DispatchForm} (unknown : c.isUnknown form = true) :
      Refuses c (.sendTest form) noSubscriptionChosen
  | dispatch {form : DispatchForm} {fault : Fault} (known : c.isUnknown form = false)
      (refused : c.inspector.beginDispatch form = .error fault) :
      Refuses c (.sendTest form) fault
  | check {taskId : String} {fault : Fault}
      (refused : c.inspector.beginInspect taskId = .error fault) :
      Refuses c (.checkDeliveryStatus taskId) fault
  | recheck {taskId : String} {fault : Fault}
      (target : c.inspector.refreshTarget = some taskId)
      (refused : c.inspector.beginInspect taskId = .error fault) :
      Refuses c .refreshDeliveryStatus fault
  | nothingToRecheck (target : c.inspector.refreshTarget = none) :
      Refuses c .refreshDeliveryStatus (.validation "No delivery is being inspected")

/-- The call that an action stands or falls with. Actions that keep to the console have none, and
neither has a look at the logs of no subscription in particular, which makes do with what it
gets. -/
inductive Asks (c : Console) : Action → Call → Prop where
  | list : Asks c .refreshSubscriptions (.listSubscriptions c.registry.page)
  | create {form : SubscriptionForm} {request : NewSubscription}
      (filled : form.toRequest = .ok request) :
      Asks c (.createSubscription form) (.createSubscription request)
  | fetch {id : String} (named : isBlankText id = false) :
      Asks c (.openEdit id) (.getSubscription id)
  | update {form : EditForm} {request : SubscriptionChange}
      (filled : form.toRequest = .ok request) :
      Asks c (.submitEdit form) (.updateSubscription form.id request)
  | delete {id : String} (named : isBlankText id = false) :
      Asks c (.deleteSubscription id) (.deleteSubscription id)
  | dispatch {form : DispatchForm} {request : DispatchRequest}
      (known : c.isUnknown form = false) (idle : c.inspector.dispatching = false)
      (parsed : form.parse = .ok request) :
      Asks c (.sendTest form)
        (.sendTest request.subscriptionId request.payload request.eventType)
  | check {taskId : String} (named : isBlankText taskId = false) :
      Asks c (.checkDeliveryStatus taskId) (.getDelivery (trim taskId))
  | recheck {taskId : String} (target : c.inspector.refreshTarget = some taskId)
      (named : isBlankText taskId = false) :
      Asks c .refreshDeliveryStatus (.getDelivery (trim taskId))
  | browse {chosen : Option String} {id : String} (named : chosen.bind nonBlank? = some id) :
      Asks c (.loadDeliveryLogs chosen) (.listDeliveries id c.logs.limit)
  | health : Asks c .loadHealth .status

namespace Action

/-- What an action reports to its caller when it comes to nothing. -/
def failed : (a : Action) → a.Result
  | .refreshSubscriptions => false
  | .createSubscription _ => none
  | .openEdit _ => none
  | .submitEdit _ => none
  | .deleteSubscription _ => false
  | .sendTest _ => none
  | .checkDeliveryStatus _ => false
  | .refreshDeliveryStatus => false
  | .closeInspection => ()
  | .setLogLimit _ => ()
  | .loadDeliveryLogs _ => false
  | .loadHealth => false
  | .takeNotifications => []

/-- The notification of the fault that ended an action. -/
def report : Action → Fault → Notification
  | .refreshSubscriptions => .failure "load subscriptions"
  | .createSubscription _ => .failure "create subscription"
  | .openEdit _ => .failure "load subscription details"
  | .submitEdit _ => .failure "update subscription"
  | .deleteSubscription _ => .failure "delete subscription"
  | .sendTest _ => dispatchFailure
  | .checkDeliveryStatus _ => .failure "check delivery status"
  | .refreshDeliveryStatus => .failure "check delivery status"
  | .loadDeliveryLogs _ => .failure "load delivery logs"
  | .loadHealth => .failure "load health status"
  | _ => fun fault => .error fault.message

/-- However an action reports a fault, it reports an error. -/
@[simp]
theorem isError_report (a : Action) (fault : Fault) :
    (a.report fault).isError = true := by
  cases a with
  | sendTest form =>
    -- a rejected dispatch has a wording of its own
    change (dispatchFailure fault).isError = true
    unfold dispatchFailure
    split
    · exact Notification.isError_error _
    · exact Notification.isError_failure ..
  | closeInspection | setLogLimit limit | takeNotifications => rfl
  | _ => exact Notification.isError_failure ..

/-- What the operator agrees to before an action asks anything of the service. -/
def consent : Action → List Exchange
  | .deleteSubscription _ => [.decided deletePrompt true]
  | _ => []

end Action

/-! ## How it goes on -/

/-- The console after the service has failed a call, before that is reported. -/
def afterFault (c : Console) : Call → Fault → Console
  | .status, fault => { c with health := .ofFault fault }
  | .sendTest _ _ _, fault =>
    { c with inspector := (c.inspector.completeDispatch (.error fault)).1 }
  | .getDelivery taskId, _ => { c with inspector := c.inspector.polled taskId }
  | _, _ => c

/-- The console after a change that the service has accepted, and the reload that followed it. -/
def changed (c : Console) (message : String) (reload : Except Fault (List Subscription)) :
    Console :=
  { c with
    registry := c.registry.reloaded reload
    notifications := c.notifications ++
      .success message :: (faultOf reload).toList.map (.failure "load subscriptions") }

/-- The console after a poll that brought a task. -/
def displaying (c : Console) (taskId : String) (task : DeliveryTask) : Console :=
  { c with
    inspector :=
      { c.inspector.polled taskId with surface := some ⟨task, c.inspector.lastSeq + 1⟩ } }

/-- Everything that a turn can be and do. -/
inductive Course (c : Console) : Turn → Console → Prop where
  /-- The action is refused before anything is asked. -/
  | refused {a : Action} {fault : Fault} (refuses : c.Refuses a fault) :
      Course c ⟨a, [], a.failed⟩ (c.notify (a.report fault))
  /-- The service fails the call that the action stands or falls with. -/
  | failed {a : Action} {call : Call} (asks : c.Asks a call) (fault : Fault) :
      Course c ⟨a, a.consent ++ [.answered call (.error fault)], a.failed⟩
        ((c.afterFault call fault).notify (a.report fault))
  | declined {id : String} (named : isBlankText id = false) :
      Course c ⟨.deleteSubscription id, [.decided deletePrompt false], false⟩ c
  | listed (list : List Subscription) :
      Course c ⟨.refreshSubscriptions,
          [.answered (.listSubscriptions c.registry.page) (.ok list)], true⟩
        { c with registry := c.registry.apply list }
  | created {form : SubscriptionForm} {request : NewSubscription}
      (asks : c.Asks (.createSubscription form) (.createSubscription request))
      (s : Subscription) (reload : Except Fault (List Subscription)) :
      Course c ⟨.createSubscription form,
          [.answered (.createSubscription request) (.ok s),
            .answered (.listSubscriptions c.registry.page) reload], some s⟩
        (c.changed "Subscription created successfully!" reload)
  | updated {form : EditForm} {request : SubscriptionChange}
      (asks : c.Asks (.submitEdit form) (.updateSubscription form.id request))
      (s : Subscription) (reload : Except Fault (List Subscription)) :
      Course c ⟨.submitEdit form,
          [.answered (.updateSubscription form.id request) (.ok s),
            .answered (.listSubscriptions c.registry.page) reload], some s⟩
        (c.changed "Subscription updated successfully!" reload)
  | deleted {id : String} (asks : c.Asks (.deleteSubscription id) (.deleteSubscription id))
      (reload : Except Fault (List Subscription)) :
      Course c ⟨.deleteSubscription id,
          [.decided deletePrompt true, .answered (.deleteSubscription id) (.ok ()),
            .answered (.listSubscriptions c.registry.page) reload], true⟩
        (c.changed "Subscription deleted successfully!" reload)
  | fetched {id : String} (asks : c.Asks (.openEdit id) (.getSubscription id))
      (s : Subscription) :
      Course c ⟨.openEdit id, [.answered (.getSubscription id) (.ok s)],
        some (EditForm.ofSubscription s)⟩ c
  | dispatched {form : DispatchForm} {id : String} {payload : Json} {eventType : Option String}
      (asks : c.Asks (.sendTest form) (.sendTest id payload eventType)) (receipt : Receipt) :
      Course c ⟨.sendTest form, [.answered (.sendTest id payload eventType) (.ok receipt)],
          receipt.taskId?⟩
        ({ c with inspector := (c.inspector.completeDispatch (.ok receipt)).1 }.notify
          (.success "Webhook sent successfully!"))
  | checked {taskId target : String}
      (asks : c.Asks (.checkDeliveryStatus taskId) (.getDelivery target)) (task : DeliveryTask) :
      Course c ⟨.checkDeliveryStatus taskId, [.answered (.getDelivery target) (.ok task)], true⟩
        (c.displaying target task)
  | rechecked {target : String} (asks : c.Asks .refreshDeliveryStatus (.getDelivery target))
      (task : DeliveryTask) :
      Course c ⟨.refreshDeliveryStatus, [.answered (.getDelivery target) (.ok task)], true⟩
        (c.displaying target task)
  | browsed {chosen : Option String} {id : String}
      (asks : c.Asks (.loadDeliveryLogs chosen) (.listDeliveries id c.logs.limit))
      (entries : List LogEntry) :
      Course c ⟨.loadDeliveryLogs chosen,
          [.answered (.listDeliveries id c.logs.limit) (.ok entries)], true⟩
        { c with logs := { c.logs with entries } }
  | browsedFirst {chosen : Option String} (unnamed : chosen.bind nonBlank? = none)
      {t : List Exchange} {entries : List LogEntry} (found : c.logs.Fallback t entries) :
      Course c ⟨.loadDeliveryLogs chosen, t, true⟩ { c with logs := { c.logs with entries } }
  | measured (snapshot : HealthSnapshot) :
      Course c ⟨.loadHealth, [.answered .status (.ok snapshot)], true⟩
        { c with health := .snapshot snapshot }
  | closed : Course c ⟨.closeInspection, [], ()⟩ c.closeInspection
  | limited (limit : Option UInt32) : Course c ⟨.setLogLimit limit, [], ()⟩ (c.setLogLimit limit)
  | taken : Course c ⟨.takeNotifications, [], c.notifications⟩ { c with notifications := [] }

/-! ## Every turn takes one of the courses -/

/-- The reports of an accepted change are queued behind those that wait. -/
theorem finishMutation_reloaded {α : Type} (c : Console) (value : α) (message : String)
    (reload : Except Fault (List Subscription)) :
    { c with registry := c.registry.reloaded reload }.finishMutation
      ⟨value, faultOf reload⟩ message = c.changed message reload := by
  cases reload <;> simp [finishMutation, changed, notify, faultOf]

theorem refreshSubscriptions_course (c : Console) :
    c.refreshSubscriptions.Ensures fun t b => Course c ⟨.refreshSubscriptions, t, b.2⟩ b.1 := by
  refine ensures_bind_iff.mpr (Registry.reload_ensures_iff.mpr ?_)
  rintro (fault | list)
  · exact ensures_pure_iff.mpr (.failed .list fault)
  · exact ensures_pure_iff.mpr (.listed list)

/-- A form is refused, or the service fails to create a subscription, or it creates one and is asked
for the list. -/
theorem createSubscription_course (c : Console) (form : SubscriptionForm) :
    (c.createSubscription form).Ensures fun t b =>
      Course c ⟨.createSubscription form, t, b.2⟩ b.1 := by
  unfold createSubscription Registry.create
  refine ensures_bind_iff.mpr ?_
  split
  next fault unfilled =>
    exact ensures_done_iff.mpr (ensures_pure_iff.mpr (.refused (.create unfilled)))
  next request filled =>
    refine Registry.mutate_ensures (fun fault => ?_) fun s reload => ?_
    · exact ensures_pure_iff.mpr (.failed (.create filled) fault)
    · refine ensures_pure_iff.mpr ?_
      rw [finishMutation_reloaded]
      exact .created (.create filled) s reload

/-- A change goes the same way. -/
theorem submitEdit_course (c : Console) (form : EditForm) :
    (c.submitEdit form).Ensures fun t b => Course c ⟨.submitEdit form, t, b.2⟩ b.1 := by
  unfold submitEdit Registry.update
  refine ensures_bind_iff.mpr ?_
  split
  next fault unfilled =>
    exact ensures_done_iff.mpr (ensures_pure_iff.mpr (.refused (.update unfilled)))
  next request filled =>
    refine Registry.mutate_ensures (fun fault => ?_) fun s reload => ?_
    · exact ensures_pure_iff.mpr (.failed (.update filled) fault)
    · refine ensures_pure_iff.mpr ?_
      rw [finishMutation_reloaded]
      exact .updated (.update filled) s reload

/-- A deletion is refused, or the operator declines it, or it goes the way of other changes. -/
theorem deleteSubscription_course (c : Console) (id : String) :
    (c.deleteSubscription id).Ensures fun t b =>
      Course c ⟨.deleteSubscription id, t, b.2⟩ b.1 := by
  unfold deleteSubscription Registry.delete
  refine ensures_bind_iff.mpr ?_
  split
  next blank => exact ensures_done_iff.mpr (ensures_pure_iff.mpr (.refused (.delete blank)))
  next named =>
    rw [Bool.not_eq_true] at named
    refine ensures_confirm_iff.mpr ?_
    rintro (_ | _)
    · exact ensures_log_iff.mpr (ensures_done_iff.mpr (ensures_pure_iff.mpr (.declined named)))
    · -- the decision stands in front of what the change adds to the transcript
      refine ensures_bind_iff.mpr (Registry.mutate_ensures (fun fault => ?_) fun _ reload => ?_)
      · exact ensures_pure_iff.mpr (ensures_pure_iff.mpr (.failed (.delete named) fault))
      · refine ensures_pure_iff.mpr (ensures_pure_iff.mpr ?_)
        show Course c _ (finishMutation _ ⟨(), faultOf reload⟩ _)
        rw [finishMutation_reloaded]
        exact .deleted (.delete named) reload

/-- A subscription is fetched if one is chosen. -/
theorem openEdit_course (c : Console) (id : String) :
    (c.openEdit id).Ensures fun t b => Course c ⟨.openEdit id, t, b.2⟩ b.1 := by
  unfold openEdit Registry.loadForEdit
  refine ensures_bind_iff.mpr ?_
  split
  next blank => exact ensures_pure_iff.mpr (ensures_pure_iff.mpr (.refused (.fetch blank)))
  next named =>
    rw [Bool.not_eq_true] at named
    refine ensures_bind_iff.mpr (ensures_call_iff.mpr ?_)
    rintro (fault | s)
    · exact ensures_pure_iff.mpr (ensures_pure_iff.mpr (.failed (.fetch named) fault))
    · exact ensures_pure_iff.mpr (ensures_pure_iff.mpr (.fetched (.fetch named) s))

/-- The console and the inspector may refuse a form, and one that both accept is sent. -/
theorem sendTest_course (c : Console) (form : DispatchForm) :
    (c.sendTest form).Ensures fun t b => Course c ⟨.sendTest form, t, b.2⟩ b.1 := by
  unfold sendTest
  -- the console looks at the form before the inspector does
  split
  next unknown => exact ensures_pure_iff.mpr (.refused (.unlisted unknown))
  next known =>
    rw [Bool.not_eq_true] at known
    refine ensures_bind_iff.mpr ?_
    unfold Inspector.dispatch
    split
    next fault refused =>
      exact ensures_done_iff.mpr (ensures_pure_iff.mpr (.refused (.dispatch known refused)))
    next request i begun =>
      obtain ⟨idle, parsed, rfl⟩ := Inspector.beginDispatch_eq_ok_iff.mp begun
      refine ensures_log_iff.mpr (ensures_ask_iff.mpr fun reply => ?_)
      refine ensures_log_iff.mpr (ensures_done_iff.mpr ?_)
      cases reply with
      | error fault => exact ensures_pure_iff.mpr (.failed (.dispatch known idle parsed) fault)
      | ok receipt => exact ensures_pure_iff.mpr (.dispatched (.dispatch known idle parsed) receipt)

/-- A task that is named is fetched, and the service answers or fails. -/
theorem checkDeliveryStatus_course (c : Console) (taskId : String) :
    (c.checkDeliveryStatus taskId).Ensures fun t b =>
      Course c ⟨.checkDeliveryStatus taskId, t, b.2⟩ b.1 := by
  refine ensures_bind_iff.mpr (Inspector.inspect_ensures ?_ ?_ ?_)
  · exact fun fault refused => ensures_pure_iff.mpr (.refused (.check refused))
  · exact fun named fault => ensures_pure_iff.mpr (.failed (.check named) fault)
  · exact fun named task => ensures_pure_iff.mpr (.checked (.check named) task)

/-- So is the one that is inspected, if there is one. -/
theorem refreshDeliveryStatus_course (c : Console) :
    c.refreshDeliveryStatus.Ensures fun t b => Course c ⟨.refreshDeliveryStatus, t, b.2⟩ b.1 := by
  refine ensures_bind_iff.mpr ?_
  unfold Inspector.refresh
  split
  next target =>
    exact ensures_done_iff.mpr (ensures_pure_iff.mpr (.refused (.nothingToRecheck target)))
  next taskId target =>
    refine Inspector.inspect_ensures ?_ ?_ ?_
    · exact fun fault refused => ensures_pure_iff.mpr (.refused (.recheck target refused))
    · exact fun named fault => ensures_pure_iff.mpr (.failed (.recheck target named) fault)
    · exact fun named task => ensures_pure_iff.mpr (.rechecked (.recheck target named) task)

/-- The logs of a chosen subscription may fail to load, and those of the first one cannot. -/
theorem loadDeliveryLogs_course (c : Console) (chosen : Option String) :
    (c.loadDeliveryLogs chosen).Ensures fun t b =>
      Course c ⟨.loadDeliveryLogs chosen, t, b.2⟩ b.1 := by
  unfold loadDeliveryLogs LogBrowser.load
  refine ensures_bind_iff.mpr ?_
  split
  next id named =>
    refine ensures_bind_iff.mpr (ensures_call_iff.mpr ?_)
    rintro (fault | entries)
    · exact ensures_pure_iff.mpr (ensures_pure_iff.mpr (.failed (.browse named) fault))
    · refine ensures_note_bind_iff.mpr (ensures_pure_iff.mpr (ensures_pure_iff.mpr ?_))
      exact .browsed (.browse named) entries
  next unnamed =>
    -- whatever the fallback finds, there is no fault to report
    refine ensures_bind_iff.mpr (c.logs.defaultEntries_ensures.mono fun t entries found => ?_)
    refine ensures_note_bind_iff.mpr (ensures_pure_iff.mpr (ensures_pure_iff.mpr ?_))
    simp only [List.append_nil]
    exact .browsedFirst unnamed found

/-- The health is asked for in any case. -/
theorem loadHealth_course (c : Console) :
    c.loadHealth.Ensures fun t b => Course c ⟨.loadHealth, t, b.2⟩ b.1 := by
  refine ensures_bind_iff.mpr (ensures_bind_iff.mpr (ensures_call_iff.mpr ?_))
  rintro (fault | snapshot)
  · exact ensures_note_bind_iff.mpr
      (ensures_pure_iff.mpr (ensures_pure_iff.mpr (.failed .health fault)))
  · exact ensures_pure_iff.mpr (ensures_pure_iff.mpr (.measured snapshot))

/-- **Every turn takes one of the courses.** -/
theorem Turn.Takes.course {u : Turn} {c c' : Console} (takes : u.Takes c c') : Course c u c' := by
  obtain ⟨action, t, result⟩ := u
  cases action with
  | refreshSubscriptions => exact c.refreshSubscriptions_course t _ takes
  | createSubscription form => exact c.createSubscription_course form t _ takes
  | openEdit id => exact c.openEdit_course id t _ takes
  | submitEdit form => exact c.submitEdit_course form t _ takes
  | deleteSubscription id => exact c.deleteSubscription_course id t _ takes
  | sendTest form => exact c.sendTest_course form t _ takes
  | checkDeliveryStatus taskId => exact c.checkDeliveryStatus_course taskId t _ takes
  | refreshDeliveryStatus => exact c.refreshDeliveryStatus_course t _ takes
  | loadDeliveryLogs chosen => exact c.loadDeliveryLogs_course chosen t _ takes
  | loadHealth => exact c.loadHealth_course t _ takes
  -- the last three keep to the console, so that their transcripts are empty
  | closeInspection =>
    obtain ⟨rfl, h⟩ := yields_done_iff.mp takes
    cases h
    exact .closed
  | setLogLimit limit =>
    obtain ⟨rfl, h⟩ := yields_done_iff.mp takes
    cases h
    exact .limited limit
  | takeNotifications =>
    obtain ⟨rfl, h⟩ := yields_done_iff.mp takes
    cases h
    exact .taken

/-! ## What no course changes -/

/-- Between actions nothing is in flight. -/
structure Settled (c : Console) : Prop where
  dispatching : c.inspector.dispatching = false
  inFlight : c.inspector.inFlight = 0

/-- Neither does an action leave anything in flight. -/
theorem Course.settled {u : Turn} {c c' : Console} (course : Course c u c')
    (settled : c.Settled) : c'.Settled := by
  obtain ⟨hidle, hzero⟩ := settled
  cases course with
  | failed asks =>
    cases asks with
    | dispatch => exact ⟨rfl, hzero⟩
    | check | recheck => exact ⟨hidle, Inspector.polled_inFlight hzero _⟩
    | _ => exact ⟨hidle, hzero⟩
  | dispatched => exact ⟨rfl, hzero⟩
  | @checked taskId target => exact ⟨hidle, Inspector.polled_inFlight hzero target⟩
  | @rechecked target => exact ⟨hidle, Inspector.polled_inFlight hzero target⟩
  | _ => exact ⟨hidle, hzero⟩

/-- So nothing is in flight after a run. -/
theorem Run.settled {page : Page} {h : List Turn} {c : Console}
    (run : Run (({} : Console).withPage page) h c) : c.Settled := by
  induction run with
  | nil => exact ⟨rfl, rfl⟩
  | concat _ u takes ih => exact takes.course.settled ih

/-- The page that both lists are asked for is set before the first action. -/
theorem Course.page_eq {u : Turn} {c c' : Console} (course : Course c u c') :
    c'.registry.page = c.registry.page ∧ c'.logs.page = c.logs.page := by
  cases course with
  | failed asks => cases asks <;> exact ⟨rfl, rfl⟩
  | created | updated | deleted => exact ⟨Registry.reloaded_page .., rfl⟩
  | _ => exact ⟨rfl, rfl⟩

/-- So no run turns a page. -/
theorem Run.page_eq {page : Page} {h : List Turn} {c : Console}
    (run : Run (({} : Console).withPage page) h c) :
    c.registry.page = page ∧ c.logs.page = page := by
  induction run with
  | nil => exact ⟨rfl, rfl⟩
  | concat _ u takes ih =>
    obtain ⟨hregistry, hlogs⟩ := takes.course.page_eq
    exact ⟨hregistry.trans ih.1, hlogs.trans ih.2⟩

end DeliveryDesk.Console

import DeliveryDesk.CommandLine.Session
import DeliveryDesk.Proofs.CommandLine.Subscriptions
import DeliveryDesk.Proofs.Inspector.Panel

/-!
# How commands about deliveries end

`Command.Answered` says what the service must have answered for a command to be done. Looking at a
task, at the logs and at the service's health is `Sound`. Sending a test delivery is not: the panel
is printed whether or not there is an answer to show. `Sent` says what holds of it instead, and
`send_sent` is assembled from what comes of the payload, of the dispatch (`Dispatches`) and of the
inspection that may follow (`Inspects`).
-/

namespace DeliveryDesk.CommandLine

open Text Console Errand

/-! ## Deliveries -/

/-- What a command has got from the service once it is done. Where a test delivery is to be
inspected, that belongs to it if the service named a task; without a subscription in particular,
logs are what the service has, if anything. -/
def Command.Answered : Command → List Event → Prop
  | .subscription command, t => command.Answered t
  | .send options, t =>
    ∃ client id payload eventType receipt,
      .asked client (.sendTest id payload eventType) (.ok receipt) ∈ t ∧
      (options.inspect = true → ∀ taskId, receipt.taskId? = some taskId →
        ∃ task, .asked client (.getDelivery (trim taskId)) (.ok task) ∈ t)
  | .delivery taskId _, t =>
    ∃ client task, .asked client (.getDelivery (trim taskId)) (.ok task) ∈ t
  | .logs chosen limit, t =>
    (∃ id client entries, chosen.bind nonBlank? = some id ∧
      .asked client (.listDeliveries id limit) (.ok entries) ∈ t) ∨
    (∃ client page reply, chosen.bind nonBlank? = none ∧
      .asked client (.listSubscriptions page) reply ∈ t)
  | .health, t => ∃ client snapshot, .asked client .status (.ok snapshot) ∈ t
  | .version _, _ => True
  | _, _ => False

namespace Deliveries

variable {v : Viewer} {settings : Settings}

/-- The health check conducts itself well, however the service answers. -/
theorem health_sound :
    Ensures (health v settings) (Sound v settings.format Command.health.Answered) := by
  unfold health
  refine ensures_clientFor_bind (fun _ _ => .unstarted fun ⟨_, _, h⟩ => nomatch h) fun client => ?_
  refine ensures_hold_bind (Console.loadHealth_course _) ?_
  rintro t ⟨c, loaded⟩ course -
  cases course with
  | refused refuses => cases refuses
  | failed asks fault =>
    cases asks
    -- there is no snapshot then, and only text shows the fault on the panel
    by_cases htext : settings.format.isText = true
    · show Ensures (if settings.format.isText then _ else _) _
      rw [if_pos htext]
      refine ensures_print_bind.mpr (ensures_settle_bind_of_failed.mpr ?_)
      have unread : settings.format ≠ .json := fun hjson => by cases hjson ▸ htext
      show Sound _ _ _ (Event.ofExchanges client [.answered .status (.error fault)] ++
        ([.printed (HealthPanel.render v (.ofFault fault))] ++
          told v _ [Action.loadHealth.report fault])) _
      rw [← List.append_assoc]
      refine .complained ((ComesTo.exchanged ..).append (.line _ unread)) rfl
        (Action.isError_report _ fault) ?_
      rintro ⟨_, _, h⟩
      rcases List.mem_append.mp h with hasked | htold
      · rcases List.mem_append.mp hasked with hfailed | hprinted
        · exact Event.failed_ne_answered (List.mem_singleton.mp hfailed).symm
        · cases List.mem_singleton.mp hprinted
      · exact asked_notMem_told htold
    · show Ensures (if settings.format.isText then _ else _) _
      rw [if_neg htext]
      refine ensures_settle_bind_of_failed.mpr
        (.complained (.exchanged ..) rfl (Action.isError_report _ fault) ?_)
      exact fun ⟨_, _, h⟩ => answered_notMem_of_failed h
  | measured snapshot =>
    have hanswered : ∀ t, Command.health.Answered
        (Event.ofExchanges client [.answered .status (.ok snapshot)] ++ t) :=
      fun t => ⟨client, snapshot, List.mem_cons_self⟩
    cases hformat : settings.format with
    | json =>
      refine ensures_print_bind.mpr (ensures_settle_bind.mpr ?_)
      exact .finished (.exchanged ..)
        (.of_printed _ fun _ => snapshot.encode.isDocument_pretty) (hanswered _)
    | text | yaml =>
      refine ensures_print_bind.mpr (ensures_settle_bind.mpr ?_)
      exact .finished (.exchanged ..) (.of_printed _ fun hjson => nomatch hjson)
        (hanswered _)

/-! ## Inspections -/

/-- What comes of an inspection: the task is fetched and printed, or one error is told. -/
inductive Inspects (v : Viewer) (client : Client) (format : OutputFormat) (taskId : String) :
    List Event → Except Failure (Console × Option Failure) → Prop where
  | displayed (task : DeliveryTask) (c : Console) {t : List Event} (result : IsResult format t) :
      Inspects v client format taskId
        (.asked client (.getDelivery (trim taskId)) (.ok task) :: t) (.ok (c, none))
  | refused {n : Notification} (herror : n.isError = true) (c : Console) :
      Inspects v client format taskId (told v format [n]) (.ok (c, some .reported))
  | failed (fault : Fault) {n : Notification} (herror : n.isError = true) (c : Console) :
      Inspects v client format taskId
        (.asked client (.getDelivery (trim taskId)) (.error fault) :: told v format [n])
        (.ok (c, some .reported))

theorem onlyPrints_surface {v : Viewer} (s : Surface) :
    OnlyPrints (do print ""; print (s.render v)) := .bind (.line _) fun _ => .line _

/-- A check by a console that has nothing else to report ends in one of the ways of `Inspects`. -/
theorem inspect_ensures {client : Client} {format : OutputFormat} {c : Console}
    (nothing : c.notifications = []) (taskId : String) :
    Ensures (inspect v client format c taskId) (Inspects v client format taskId) := by
  unfold inspect
  refine ensures_hold_bind (Console.checkDeliveryStatus_course _ _) ?_
  rintro t ⟨c', rendered⟩ course -
  cases course with
  | refused refuses =>
    refine ensures_notifications_bind.mpr ?_
    show Inspects _ _ _ _ (told v format (c.notifications ++ [_]) ++ []) _
    rw [nothing, List.append_nil]
    exact .refused (Action.isError_report (.checkDeliveryStatus taskId) _) _
  | failed asks fault =>
    cases asks
    refine ensures_notifications_bind.mpr ?_
    show Inspects _ _ _ _ (.asked client _ _ :: (told v format (c.notifications ++ [_]) ++ [])) _
    rw [nothing, List.append_nil]
    exact .failed fault (Action.isError_report (.checkDeliveryStatus taskId) fault) _
  | checked asks task =>
    cases asks
    refine ensures_notifications_bind.mpr ?_
    show Ensures (Subscriptions.printResult format task.encode _ >>= _) _
    refine ensures_bind.mpr ((ensures_printResult (onlyPrints_surface _)).mono ?_)
    rintro t r ⟨rfl, result⟩
    show Inspects _ _ _ _ (.asked client _ _ :: (told v format c.notifications ++ (t ++ []))) _
    rw [nothing, List.append_nil]
    exact .displayed task _ result

/-- Checking a task once conducts itself well. -/
theorem delivery_sound (rounds : Nat) (taskId : String) {interactive : Bool}
    (once : (interactive && !isBlankText taskId) = false) :
    Ensures (delivery v settings rounds taskId interactive)
      (Sound v settings.format (Command.delivery taskId interactive).Answered) := by
  unfold delivery
  refine ensures_clientFor_bind (fun _ _ => .unstarted fun ⟨_, _, h⟩ => nomatch h) fun client => ?_
  refine ensures_bind.mpr ((inspect_ensures rfl taskId).mono fun t r inspects => ?_)
  cases inspects with
  | displayed task c result =>
    show Ensures (if (interactive && !isBlankText taskId) = true then _ else _) _
    rw [once, if_neg Bool.false_ne_true]
    show Sound _ _ _ (Event.ofExchanges client
      [.answered (.getDelivery (trim taskId)) (.ok task)] ++ _ ++ []) (.ok ())
    rw [List.append_nil]
    exact .finished (.exchanged ..) result ⟨client, task, List.mem_cons_self⟩
  | @refused n herror c =>
    show Ensures (if (interactive && !isBlankText taskId) = true then _ else _) _
    rw [once, if_neg Bool.false_ne_true]
    show Sound _ _ _ (Event.ofExchanges client [] ++ told v settings.format [n] ++ [])
      (.error .reported)
    rw [List.append_nil]
    exact .complained (.exchanged ..) rfl herror
      fun ⟨_, _, h⟩ => answered_notMem_of_refused h
  | @failed fault n herror c =>
    show Ensures (if (interactive && !isBlankText taskId) = true then _ else _) _
    rw [once, if_neg Bool.false_ne_true]
    show Sound _ _ _ (Event.ofExchanges client
      [.answered (.getDelivery (trim taskId)) (.error fault)] ++
        told v settings.format [n] ++ [])
      (.error .reported)
    rw [List.append_nil]
    exact .complained (.exchanged ..) rfl herror
      fun ⟨_, _, h⟩ => answered_notMem_of_failed h

/-! ## Logs -/

/-- So does showing the log, of a chosen subscription or of the one that is taken instead. -/
theorem logs_sound (chosen : Option String) (limit : Option UInt32) :
    Ensures (logs v settings chosen limit)
      (Sound v settings.format (Command.logs chosen limit).Answered) := by
  unfold logs
  refine ensures_clientFor_bind (fun _ _ => .unstarted ?_) fun client => ?_
  · rintro (⟨_, _, _, -, h⟩ | ⟨_, _, _, -, h⟩) <;> cases h
  refine ensures_hold_bind (Console.loadDeliveryLogs_course _ _) ?_
  rintro t ⟨c, loaded⟩ course -
  cases course with
  | refused refuses => cases refuses
  | failed asks fault =>
    cases asks with
    | browse named =>
      refine ensures_settle_bind_of_failed.mpr
        (.complained (.exchanged ..) rfl (Action.isError_report _ fault) ?_)
      rintro (⟨_, _, _, -, h⟩ | ⟨_, _, _, unnamed, -⟩)
      · exact answered_notMem_of_failed h
      · cases named.symm.trans unnamed
  | browsed asks entries =>
    cases asks with
    | browse named =>
      refine ensures_settle_bind.mpr ((ensures_printResult (onlyPrints_printTable ..)).mono ?_)
      rintro t r ⟨rfl, result⟩
      exact .finished (.exchanged ..) result
        (.inl ⟨_, client, entries, named, List.mem_cons_self⟩)
  | @browsedFirst _ unnamed t _ found =>
    refine ensures_settle_bind.mpr ((ensures_printResult (onlyPrints_printTable ..)).mono ?_)
    rintro t' r ⟨rfl, result⟩
    obtain ⟨page, reply, hlisted⟩ : ∃ page reply,
        Event.asked client (.listSubscriptions page) reply ∈ Event.ofExchanges client t := by
      cases found with
      | unlisted | nothingListed | unread | read => exact ⟨_, _, List.mem_cons_self⟩
    exact .finished (.exchanged ..) result
      (.inr ⟨client, page, reply, unnamed, List.mem_append_left _ hlisted⟩)

/-! ## Test deliveries -/

/-- The panel is printed; a document stands alone. -/
theorem printPanel_ensures (v : Viewer) (format : OutputFormat) (panel : ResponsePanel) :
    Ensures (printPanel v format panel) fun t r =>
      r = .ok () ∧ ComesTo format t [] [] [panel.content] := by
  unfold printPanel
  cases format with
  | json =>
    cases panel.isError with
    | true => exact ⟨rfl, rfl, rfl, fun _ => rfl⟩
    | false => exact ⟨rfl, rfl, rfl, fun _ => rfl⟩
  | text | yaml =>
    cases panel.isError with
    | true => exact ⟨rfl, rfl, rfl, fun hjson => nomatch hjson⟩
    | false => exact ⟨rfl, rfl, rfl, fun hjson => nomatch hjson⟩

/-- What comes of a dispatch: the form is refused, or the panel is printed and the outcome told. -/
inductive Dispatches (v : Viewer) (client : Client) (format : OutputFormat) :
    List Event → Except Failure (Console × Option Failure × Option String) → Prop where
  | refused {message : String} (c : Console) {t : List Event}
      (comes : ComesTo format t [] [complaint v message] []) :
      Dispatches v client format t (.ok (c, some .reported, none))
  | failed (id : String) (payload : Json) (eventType : Option String) (fault : Fault)
      {message : String} (c : Console) {t : List Event}
      (comes : ComesTo format t [.asked client (.sendTest id payload eventType) (.error fault)]
        [complaint v message] [(Inspector.failurePanel fault).content]) :
      Dispatches v client format t (.ok (c, some .reported, none))
  | accepted (id : String) (payload : Json) (eventType : Option String) (receipt : Receipt)
      {c : Console} (nothing : c.notifications = []) {t : List Event}
      (comes : ComesTo format t [.asked client (.sendTest id payload eventType) (.ok receipt)] []
        [receipt.prettyBody]) :
      Dispatches v client format t (.ok (c, none, receipt.taskId?))

/-- A dispatch by a fresh console ends in one of the ways of `Dispatches`. -/
theorem dispatch_ensures (v : Viewer) (client : Client) (format : OutputFormat)
    (form : DispatchForm) :
    Ensures (dispatch v client format {} form) (Dispatches v client format) := by
  unfold dispatch
  refine ensures_hold_bind (Console.sendTest_course _ _) ?_
  rintro t ⟨c, taskId⟩ course -
  cases course with
  | @refused _ fault refuses =>
    have herror := Action.isError_report (.sendTest form) fault
    refine ensures_notifications_bind.mpr ?_
    show Dispatches _ _ _ (told v format [Action.report (.sendTest form) fault] ++ [])
      (.ok (_, if [Action.report (.sendTest form) fault].any Notification.isError then
        some .reported else none, none))
    rw [List.append_nil, if_pos (by simp)]
    exact .refused _ (.failure v format herror)
  | failed asks fault =>
    cases asks with
    | dispatch known idle parsed =>
      have herror := Action.isError_report (.sendTest form) fault
      refine ensures_bind.mpr ((printPanel_ensures v format _).mono ?_)
      rintro t r ⟨rfl, panel⟩
      refine ensures_notifications_bind.mpr ?_
      show Dispatches _ _ _ ([.asked client _ (.error fault)] ++
          (t ++ (told v format [Action.report (.sendTest form) fault] ++ [])))
        (.ok (_, if [Action.report (.sendTest form) fault].any Notification.isError then
          some .reported else none, none))
      rw [List.append_nil, if_pos (by simp)]
      exact .failed _ _ _ fault _
        ((ComesTo.asked ..).append (panel.append (.failure v format herror)))
  | dispatched asks receipt =>
    cases asks with
    | dispatch known idle parsed =>
      refine ensures_bind.mpr ((printPanel_ensures v format _).mono ?_)
      rintro t r ⟨rfl, panel⟩
      refine ensures_notifications_bind.mpr ?_
      show Dispatches _ _ _ ([.asked client (.sendTest _ _ _) (.ok receipt)] ++
        (t ++ (told v format [.success "Webhook sent successfully!"] ++ []))) _
      rw [List.append_nil]
      exact .accepted _ _ _ receipt rfl ((ComesTo.asked ..).append (panel.append (.success ..)))

/-! ## Payloads -/

/-- The payload of a test delivery may have to be read, and that may fail. -/
theorem ensures_payloadOf_bind {α : Type} {options : SendOptions} {f : String → Errand α}
    {Q : List Event → Except Failure α → Prop}
    (unread : ∀ t, (∀ format, ComesTo format t [] [] []) → ∀ message causes,
      Q t (.error (.failed message causes)))
    (read : ∀ t, (∀ format, ComesTo format t [] [] []) → ∀ payload,
      Ensures (f payload) fun t' r => Q (t ++ t') r) :
    Ensures (payloadOf options >>= f) Q := by
  unfold payloadOf
  cases options.payload with
  | some payload => exact read [] .nil payload
  | none =>
    cases options.file with
    | none => exact unread [] .nil _ _
    | some path =>
      intro file
      cases file with
      | error fault => exact unread _ (fun format => .read format path _) _ _
      | ok payload => exact read _ (fun format => .read format path _) payload

/-! ## Sending -/

/-- A dispatch failed without a body of an answer that could be shown. -/
def Undocumented (t : List Event) (fault : Fault) : Prop :=
  fault.body? = none ∧ ∃ client id payload eventType,
    .asked client (.sendTest id payload eventType) (.error fault) ∈ t

/-- The body that the service answered a test delivery with, whether it accepted it or not. -/
def bodyOf? : Except Fault Receipt → Option Json
  | .ok receipt => some receipt.body
  | .error fault => fault.body?

/-- The service answered a test delivery with a body. -/
def AnswersWith (t : List Event) (body : Json) : Prop :=
  ∃ client id payload eventType, ∃ reply : Except Fault Receipt,
    .asked client (.sendTest id payload eventType) reply ∈ t ∧ bodyOf? reply = some body

/-- What is printed of a test delivery where the format is JSON: nothing but the body of the answer,
unless the dispatch failed and there is no body. -/
def ShowsAnswer (format : OutputFormat) (t : List Event) (r : Except Failure Unit) : Prop :=
  format = .json →
    (∀ fault, Undocumented t fault →
      r ≠ .ok () ∧ Event.output t = ["Error: " ++ fault.message]) ∧
    ((∀ fault, ¬ Undocumented t fault) →
      Event.output t = [] ∨ ∃ body, AnswersWith t body ∧ Event.output t = [body.pretty])

/-- How sending a test delivery ends. -/
structure Sent (v : Viewer) (format : OutputFormat) (options : SendOptions) (t : List Event)
    (r : Except Failure Unit) : Prop extends Conduct v (Command.send options).Answered t r where
  shows_answer : options.inspect = false → ShowsAnswer format t r

section Sent

variable {options : SendOptions} {format : OutputFormat} {t questions : List Event}
  {errors output : List String} {r : Except Failure Unit}

/-- A test delivery that was not accepted is not sent. -/
theorem not_answered_of_comesTo (h : ComesTo format t questions errors output)
    (unaccepted : ∀ client id payload eventType receipt,
      .asked client (.sendTest id payload eventType) (.ok receipt) ∉ questions) :
    ¬ (Command.send options).Answered t := by
  rintro ⟨client, id, payload, eventType, receipt, hasked, -⟩
  exact unaccepted _ _ _ _ _ (h.asked_mem_iff.mp hasked)

theorem AnswersWith.of_comesTo (h : ComesTo format t questions errors output) {body : Json}
    (answers : AnswersWith questions body) : AnswersWith t body := by
  obtain ⟨client, id, payload, eventType, reply, hasked, hbody⟩ := answers
  exact ⟨client, id, payload, eventType, reply, h.asked_mem_iff.mpr hasked, hbody⟩

/-- What is printed is the answer unless a dispatch failed that left nothing to show. -/
theorem ShowsAnswer.of_comesTo (h : ComesTo format t questions errors output)
    (documented : ∀ client id payload eventType fault,
      .asked client (.sendTest id payload eventType) (.error fault) ∈ questions →
        fault.body? ≠ none)
    (answer : output = [] ∨ ∃ body, AnswersWith questions body ∧ output = [body.pretty]) :
    ShowsAnswer format t r := by
  refine fun hjson => ⟨?_, fun _ => ?_⟩
  · rintro fault ⟨unbodied, client, id, payload, eventType, hasked⟩
    exact absurd unbodied (documented _ _ _ _ _ (h.asked_mem_iff.mp hasked))
  · rw [h.output_eq hjson]
    rcases answer with nothing | ⟨body, answers, shown⟩
    · exact .inl nothing
    · exact .inr ⟨body, AnswersWith.of_comesTo h answers, shown⟩

/-- Nothing comes of a test delivery that is not sent. -/
theorem Sent.unsent (h : ComesTo format t [] [] []) (message : String) (causes : List String) :
    Sent v format options t (.error (.failed message causes)) where
  toConduct := .unstarted h.errors_eq (not_answered_of_comesTo h fun _ _ _ _ _ => List.not_mem_nil)
  shows_answer _ := ShowsAnswer.of_comesTo h (fun _ _ _ _ _ h => nomatch h) (.inl rfl)

/-- A refused form leaves a complaint. -/
theorem Sent.refused {message : String} (h : ComesTo format t [] [complaint v message] []) :
    Sent v format options t (.error .reported) where
  toConduct := .complained h.errors_eq (not_answered_of_comesTo h fun _ _ _ _ _ => List.not_mem_nil)
  shows_answer _ := ShowsAnswer.of_comesTo h (fun _ _ _ _ _ h => nomatch h) (.inl rfl)

variable {client : Client} {id : String} {payload : Json} {eventType : Option String}

/-- A failed dispatch leaves a complaint, and the panel. -/
theorem Sent.failed {fault : Fault} {message : String}
    (h : ComesTo format t [.asked client (.sendTest id payload eventType) (.error fault)]
      [complaint v message] [(Inspector.failurePanel fault).content]) :
    Sent v format options t (.error .reported) where
  toConduct := .complained h.errors_eq <| not_answered_of_comesTo h fun _ _ _ _ _ hasked =>
    Event.failed_ne_answered (List.mem_singleton.mp hasked).symm
  shows_answer _ := by
    cases hbody : fault.body? with
    | some body =>
      refine ShowsAnswer.of_comesTo h (fun _ _ _ _ fault' hasked => ?_) (.inr ⟨body, ?_, ?_⟩)
      · cases List.mem_singleton.mp hasked
        rw [hbody]
        exact Option.some_ne_none body
      · exact ⟨client, id, payload, eventType, .error fault, List.mem_cons_self, hbody⟩
      · rw [Inspector.failurePanel_of_body hbody]
    | none =>
      refine fun hjson => ⟨?_, fun documented => ?_⟩
      · rintro fault' ⟨-, client', id', payload', eventType', hasked⟩
        cases List.mem_singleton.mp (h.asked_mem_iff.mp hasked)
        refine ⟨nofun, ?_⟩
        rw [h.output_eq hjson, Inspector.failurePanel_of_none hbody]
      · refine (documented fault ⟨hbody, client, id, payload, eventType, ?_⟩).elim
        exact h.asked_mem_iff.mpr List.mem_cons_self

variable {receipt : Receipt} {taskId : String}

/-- An accepted test delivery that needs no inspection is sent. -/
theorem Sent.accepted
    (h : ComesTo format t [.asked client (.sendTest id payload eventType) (.ok receipt)] [] output)
    (unneeded : options.inspect = true → receipt.taskId? = none)
    (shown : format = .json → output = [receipt.prettyBody]) :
    Sent v format options t (.ok ()) where
  toConduct := by
    refine .finished h.errors_eq ⟨client, id, payload, eventType, receipt, ?_, ?_⟩
    · exact h.asked_mem_iff.mpr List.mem_cons_self
    · intro hinspect taskId named
      cases (unneeded hinspect).symm.trans named
  shows_answer _ hjson := by
    refine ShowsAnswer.of_comesTo h (fun _ _ _ _ _ hasked => ?_)
      (.inr ⟨receipt.body, ?_, shown hjson⟩) hjson
    · cases List.mem_singleton.mp hasked
    · exact ⟨client, id, payload, eventType, .ok receipt, List.mem_cons_self, rfl⟩

/-- An accepted test delivery whose task is on display is sent and inspected. -/
theorem Sent.inspected
    (h : ComesTo format t [.asked client (.sendTest id payload eventType) (.ok receipt)] [] output)
    (wanted : options.inspect = true) (named : receipt.taskId? = some taskId) (task : DeliveryTask)
    {t' : List Event} (result : IsResult format t') :
    Sent v format options (t ++ .asked client (.getDelivery (trim taskId)) (.ok task) :: t')
      (.ok ()) where
  toConduct := by
    refine .finished ?_ ⟨client, id, payload, eventType, receipt, ?_, ?_⟩
    · rw [Event.errors_append, h.errors_eq]
      exact result.errors_eq
    · exact List.mem_append_left _ (h.asked_mem_iff.mpr List.mem_cons_self)
    · intro _ taskId' named'
      cases named.symm.trans named'
      exact ⟨task, List.mem_append_right _ List.mem_cons_self⟩
  shows_answer alone := by cases wanted.symm.trans alone

/-- An accepted test delivery is not done if the inspection that belongs to it fails. -/
theorem Sent.uninspected {checks : List Event} {message : String}
    (h : ComesTo format t (.asked client (.sendTest id payload eventType) (.ok receipt) :: checks)
      [complaint v message] output)
    (wanted : options.inspect = true) (named : receipt.taskId? = some taskId)
    (fail : ∀ e ∈ checks, ∃ fault, e = .asked client (.getDelivery (trim taskId)) (.error fault)) :
    Sent v format options t (.error .reported) where
  toConduct := by
    refine .complained h.errors_eq ?_
    rintro ⟨client', id', payload', eventType', receipt', hasked, hchecked⟩
    -- there is one test delivery, and so the task is the one whose check failed
    rcases List.mem_cons.mp (h.asked_mem_iff.mp hasked) with hsent | hcheck
    · cases hsent
      obtain ⟨task, hfetched⟩ := hchecked wanted taskId named
      rcases List.mem_cons.mp (h.asked_mem_iff.mp hfetched) with hsent | hcheck
      · cases hsent
      · obtain ⟨fault, hfailed⟩ := fail _ hcheck
        exact Event.failed_ne_answered hfailed.symm
    · obtain ⟨fault, hfailed⟩ := fail _ hcheck
      cases hfailed
  shows_answer alone := by cases wanted.symm.trans alone

end Sent

/-- Sending is sound but for what is printed where there is no answer to show. -/
theorem send_sent (options : SendOptions) :
    Ensures (send v settings options) (Sent v settings.format options) := by
  unfold send
  refine ensures_payloadOf_bind (fun t reads message causes => ?_) fun t reads payload => ?_
  · exact .unsent (reads settings.format) message causes
  refine ensures_clientFor_bind (fun message causes => ?_) fun client => ?_
  · rw [List.append_nil]
    exact .unsent (reads settings.format) message causes
  refine ensures_bind.mpr ((dispatch_ensures v client settings.format _).mono fun t' r sent => ?_)
  cases sent with
  | refused c comes =>
    show Sent _ _ _ (t ++ (t' ++ [])) _
    rw [List.append_nil]
    exact .refused ((reads _).append comes)
  | failed id payload eventType fault c comes =>
    show Sent _ _ _ (t ++ (t' ++ [])) _
    rw [List.append_nil]
    exact .failed ((reads _).append comes)
  | accepted id payload eventType receipt nothing comes =>
    -- the events so far; an inspection or a hint may follow
    have hsent := (reads settings.format).append comes
    cases named : receipt.taskId? with
    | none =>
      show Sent _ _ _ (t ++ (t' ++ [])) _
      rw [List.append_nil]
      exact .accepted hsent (fun _ => named) fun _ => rfl
    | some taskId =>
      show Ensures (if options.inspect = true then _ else _) _
      by_cases wanted : options.inspect = true
      · rw [if_pos wanted]
        refine ensures_bind.mpr ((inspect_ensures nothing taskId).mono fun t'' r inspects => ?_)
        cases inspects with
        | displayed task c result =>
          show Sent _ _ _ (t ++ (t' ++ (_ ++ []))) _
          rw [List.append_nil, ← List.append_assoc]
          exact .inspected hsent wanted named task result
        | refused herror c =>
          show Sent _ _ _ (t ++ (t' ++ (_ ++ []))) _
          rw [List.append_nil, ← List.append_assoc]
          exact .uninspected (hsent.append (.failure v _ herror)) wanted named
            fun e he => nomatch he
        | failed fault herror c =>
          show Sent _ _ _ (t ++ (t' ++ ([_] ++ _ ++ []))) _
          rw [List.append_nil, ← List.append_assoc]
          refine .uninspected (hsent.append ((ComesTo.asked ..).append (.failure v _ herror)))
            wanted named fun e he => ?_
          exact ⟨fault, List.mem_singleton.mp he⟩
      · rw [if_neg wanted]
        have unneeded : options.inspect = true → receipt.taskId? = none := fun h => absurd h wanted
        by_cases htext : settings.format.isText = true
        · show Ensures (if settings.format.isText = true then _ else _) _
          rw [if_pos htext]
          have unread : settings.format ≠ .json := fun hjson => by cases hjson ▸ htext
          show Sent _ _ _ (t ++ (t' ++ [_])) _
          rw [← List.append_assoc]
          exact .accepted (hsent.append (.line _ unread)) unneeded fun hjson => absurd hjson unread
        · show Ensures (if settings.format.isText = true then _ else _) _
          rw [if_neg htext]
          show Sent _ _ _ (t ++ (t' ++ [])) _
          rw [List.append_nil]
          exact .accepted hsent unneeded fun _ => rfl

end Deliveries

end DeliveryDesk.CommandLine

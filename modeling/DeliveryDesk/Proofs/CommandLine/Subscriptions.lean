import DeliveryDesk.CommandLine.Subscriptions
import DeliveryDesk.Proofs.CommandLine.Conduct

/-!
# How commands about subscriptions end

`SubscriptionCommand.Answered` says what the service must have answered for a command to be done.
For each command there is one theorem, that it is `Sound`; each follows the course of the console's
action, and what is printed then is the only thing that differs. An edit has two actions, and it may
end with either.
-/

namespace DeliveryDesk.CommandLine

open Text Console Errand

/-! ## What was answered -/

/-- A failed call was not answered. -/
theorem Event.failed_ne_answered {client client' : Client} {call call' : Call} {fault : Fault}
    {value : call'.Answer} :
    Event.asked client call (.error fault) ≠ .asked client' call' (.ok value) := by
  rintro ⟨⟩

/-- Nothing is answered where nothing is asked. -/
theorem answered_notMem_of_refused {client client' : Client} {call : Call} {value : call.Answer}
    {v : Viewer} {format : OutputFormat} {ns : List Notification} :
    .asked client call (.ok value) ∉ Event.ofExchanges client' [] ++ told v format ns :=
  asked_notMem_told

/-- Nothing is answered where the only call fails. -/
theorem answered_notMem_of_failed {client client' : Client} {call asked : Call}
    {value : call.Answer} {fault : Fault} {v : Viewer} {format : OutputFormat}
    {ns : List Notification} :
    .asked client call (.ok value) ∉
      Event.ofExchanges client' [.answered asked (.error fault)] ++ told v format ns := by
  intro h
  rcases List.mem_append.mp h with hasked | htold
  · exact Event.failed_ne_answered (List.mem_singleton.mp hasked).symm
  · exact asked_notMem_told htold

/-- What a command about subscriptions has got from the service once it is done. -/
def SubscriptionCommand.Answered : SubscriptionCommand → List Event → Prop
  | .list page, t => ∃ client list, .asked client (.listSubscriptions page) (.ok list) ∈ t
  | .view id, t => ∃ client s, .asked client (.getSubscription id) (.ok s) ∈ t
  | .create _ _ _, t =>
    ∃ client request s, .asked client (.createSubscription request) (.ok s) ∈ t
  | .edit id _, t =>
    ∃ client fetched request s, .asked client (.getSubscription id) (.ok fetched) ∈ t ∧
      .asked client (.updateSubscription fetched.id request) (.ok s) ∈ t
  | .delete id _, t => ∃ client, .asked client (.deleteSubscription id) (.ok ()) ∈ t

/-- No command is done where nothing was answered. -/
theorem SubscriptionCommand.not_answered {t : List Event}
    (unanswered : ∀ client (call : Call) (value : call.Answer), .asked client call (.ok value) ∉ t)
    (command : SubscriptionCommand) : ¬ command.Answered t := by
  intro answered
  cases command with
  | list page =>
    obtain ⟨_, _, h⟩ := answered
    exact unanswered _ _ _ h
  | view id =>
    obtain ⟨_, _, h⟩ := answered
    exact unanswered _ _ _ h
  | create url secret eventTypes =>
    obtain ⟨_, _, _, h⟩ := answered
    exact unanswered _ _ _ h
  | edit id flags =>
    obtain ⟨_, _, _, _, h, -⟩ := answered
    exact unanswered _ _ _ h
  | delete id force =>
    obtain ⟨_, h⟩ := answered
    exact unanswered _ _ _ h

namespace Subscriptions

open SubscriptionCommand

variable {v : Viewer} {settings : Settings}

/-- Commands begin with a client; without one nothing is answered. -/
theorem sound_of_client {command : SubscriptionCommand} {f : Client → Errand Unit}
    (built : ∀ client, Ensures (f client) (Sound v settings.format command.Answered)) :
    Ensures (clientFor settings >>= f) (Sound v settings.format command.Answered) :=
  ensures_clientFor_bind
    (fun _ _ => .unstarted (not_answered (fun _ _ _ => List.not_mem_nil) command)) built

/-- Listing conducts itself well, however the service answers. -/
theorem list_sound (page : Page) :
    Ensures (list v settings page)
      (Sound v settings.format (SubscriptionCommand.list page).Answered) := by
  unfold list
  refine sound_of_client fun client => ?_
  refine ensures_hold_bind (Console.refreshSubscriptions_course _) ?_
  rintro t ⟨c, loaded⟩ course -
  cases course with
  | refused refuses => cases refuses
  | failed asks fault =>
    cases asks
    refine ensures_settle_bind_of_failed.mpr
      (.complained (.exchanged ..) rfl (Action.isError_report _ fault) ?_)
    exact not_answered (fun _ _ _ => answered_notMem_of_failed) _
  | listed list =>
    refine ensures_settle_bind.mpr ((ensures_printResult (onlyPrints_printTable ..)).mono ?_)
    rintro t r ⟨rfl, result⟩
    exact .finished (.exchanged ..) result ⟨client, list, List.mem_cons_self⟩

/-- So does showing a subscription. -/
theorem view_sound (id : String) :
    Ensures (view v settings id)
      (Sound v settings.format (SubscriptionCommand.view id).Answered) := by
  unfold view
  refine sound_of_client fun client => ?_
  refine ensures_hold_bind (fun _ _ => Conversation.yields_call_iff.mp) ?_
  rintro _ reply rfl -
  cases reply with
  | error fault =>
    have herror := Notification.isError_failure "load subscription details" fault
    have hcomplaint : [Event.warned (complaint v
        (Notification.failure "load subscription details" fault).message)] =
        told v settings.format [.failure "load subscription details" fault] := by
      rw [told, List.flatMap_singleton, tell_of_isError herror]
    show Sound _ _ _ (_ ++ [Event.warned (complaint v _)]) _
    rw [hcomplaint]
    refine .complained (.exchanged ..) rfl herror ?_
    exact not_answered (fun _ _ _ => answered_notMem_of_failed) _
  | ok s =>
    refine (ensures_printResult (onlyPrints_printFields ..)).mono ?_
    rintro t r ⟨rfl, result⟩
    exact .finished (.exchanged ..) result ⟨client, s, List.mem_cons_self⟩

/-- So does creating one whose address is given with the command. -/
theorem create_sound (url : String) (secret eventTypes : Option String) :
    Ensures (create v settings (some url) secret eventTypes)
      (Sound v settings.format
        (SubscriptionCommand.create (some url) secret eventTypes).Answered) := by
  unfold create
  refine sound_of_client fun client => ?_
  refine ensures_hold_bind (Console.createSubscription_course _ _) ?_
  rintro t ⟨c, created⟩ course -
  cases course with
  | refused refuses =>
    refine ensures_settle_bind_of_failed.mpr
      (.complained (.exchanged ..) rfl (Action.isError_report _ _) ?_)
    exact not_answered (fun _ _ _ => answered_notMem_of_refused) _
  | failed asks fault =>
    cases asks
    refine ensures_settle_bind_of_failed.mpr
      (.complained (.exchanged ..) rfl (Action.isError_report _ fault) ?_)
    exact not_answered (fun _ _ _ => answered_notMem_of_failed) _
  | created asks s reload =>
    refine ensures_settle_bind.mpr ((ensures_printResult (onlyPrints_printFields ..)).mono ?_)
    rintro t r ⟨rfl, result⟩
    exact .changed (.exchanged ..) rfl (List.infix_refl _) result rfl
      ⟨client, _, s, List.mem_cons_self⟩

/-- So does deleting one without a question. -/
theorem delete_sound (id : String) :
    Ensures (delete v settings id true)
      (Sound v settings.format (SubscriptionCommand.delete id true).Answered) := by
  unfold delete
  refine sound_of_client fun client => ?_
  show Ensures (hold client _ >>= _) _
  refine ensures_hold_bind (Console.deleteSubscription_course _ _) ?_
  rintro t ⟨c, deleted⟩ course confirmed
  cases course with
  | refused refuses =>
    refine ensures_settle_bind_of_failed.mpr
      (.complained (.exchanged ..) rfl (Action.isError_report _ _) ?_)
    exact not_answered (fun _ _ _ => answered_notMem_of_refused) _
  | failed asks fault =>
    cases asks
    refine ensures_settle_bind_of_failed.mpr
      (.complained (.exchanged ..) rfl (Action.isError_report _ fault) ?_)
    exact not_answered (fun _ _ _ => answered_notMem_of_failed) _
  | declined named => cases confirmed _ _ (List.mem_singleton_self _)
  | deleted asks reload =>
    refine ensures_settle_bind.mpr ?_
    exact .changed (.exchanged ..) rfl (List.infix_refl _) (isResult_nil _) rfl
      ⟨client, List.mem_cons_self⟩

/-- An edit may end before anything is changed; what is changed is the subscription that was
fetched. -/
theorem edit_sound (id : String) {flags : EditFlags} (given : hasFlags flags = true) :
    Ensures (edit v settings id flags)
      (Sound v settings.format (SubscriptionCommand.edit id flags).Answered) := by
  unfold edit
  refine sound_of_client fun client => ?_
  refine ensures_hold_bind (Console.openEdit_course _ _) ?_
  rintro t ⟨c, opened⟩ course -
  cases course with
  | refused refuses =>
    refine ensures_settle_bind_of_failed.mpr
      (.complained (.exchanged ..) rfl (Action.isError_report _ _) ?_)
    exact not_answered (fun _ _ _ => answered_notMem_of_refused) _
  | failed asks fault =>
    cases asks
    refine ensures_settle_bind_of_failed.mpr
      (.complained (.exchanged ..) rfl (Action.isError_report _ fault) ?_)
    exact not_answered (fun _ _ _ => answered_notMem_of_failed) _
  | fetched asks fetched =>
    dsimp only
    rw [if_pos given]
    show Ensures (hold client _ >>= _) _
    refine ensures_hold_bind (Console.submitEdit_course _ _) ?_
    rintro t ⟨c, updated⟩ course -
    -- what the first action asked stands before what the second one asks
    have quiet := (ComesTo.exchanged settings.format client
      [.answered (.getSubscription id) (.ok fetched)]).append (.exchanged _ client t)
    cases course with
    | refused refuses =>
      refine ensures_settle_bind_of_failed.mpr ?_
      rw [← List.append_assoc]
      refine .complained quiet rfl (Action.isError_report _ _) ?_
      rintro ⟨_, _, _, _, -, h⟩
      rcases List.mem_cons.mp h with hfetched | hrest
      · cases hfetched
      · exact answered_notMem_of_refused hrest
    | failed asks fault =>
      cases asks
      refine ensures_settle_bind_of_failed.mpr ?_
      rw [← List.append_assoc]
      refine .complained quiet rfl (Action.isError_report _ fault) ?_
      rintro ⟨_, _, _, _, -, h⟩
      rcases List.mem_cons.mp h with hfetched | hrest
      · cases hfetched
      · exact answered_notMem_of_failed hrest
    | updated asks s reload =>
      refine ensures_settle_bind.mpr ((ensures_printResult (onlyPrints_printFields ..)).mono ?_)
      rintro t r ⟨rfl, result⟩
      rw [← List.append_assoc]
      exact .changed quiet rfl (List.infix_append' _ _ []) result rfl
        ⟨client, fetched, _, s, List.mem_cons_self,
          List.mem_cons_of_mem _ List.mem_cons_self⟩

end Subscriptions

end DeliveryDesk.CommandLine

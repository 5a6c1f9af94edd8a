import DeliveryDesk.CommandLine.Subscriptions
import DeliveryDesk.Proofs.CommandLine.Events
import DeliveryDesk.Proofs.Console.Course
import DeliveryDesk.Proofs.Json.Written

/-!
# How commands conduct themselves

Commands have three ways to say something: results are printed, notifications are reported on one of
the two streams, and a failure that is not reported yet is thrown. Each command chooses for itself,
and at every turn. What is to come out of it is the same for all of them and is said by `Sound`:

- the command succeeds exactly if it achieves what it is for, which its events decide;
- a failure is reported by one complaint, or not at all if it is still to be reported (`Reports`);
- where the format is JSON, nothing is printed but one document, and nothing if the command fails
  (`Tidy`).

There is a rule for each part that commands are made of. `told` is what comes of notifications,
`ComesTo` says of any events what was asked and what stands on the streams, and `OnlyPrints` is said
of the errands that print a result as text.
-/

namespace DeliveryDesk.CommandLine

open Console Errand

/-! ## What is asked for -/

/-- A change that the service accepted. -/
def Event.isAcceptedChange : Event → Bool
  | .asked _ (.createSubscription _) (.ok _) => true
  | .asked _ (.updateSubscription _ _) (.ok _) => true
  | .asked _ (.deleteSubscription _) (.ok _) => true
  | _ => false

/-- The line of a complaint. -/
def complaint (v : Viewer) (message : String) : String :=
  v.paint (.boldOf .red) "✗" ++ " " ++ v.paint (.of .red) message

/-- The service accepted a change and then failed to list the subscriptions. -/
def ReloadFails (t : List Event) (fault : Fault) : Prop :=
  ∃ change client page, change.isAcceptedChange = true ∧
    [change, .asked client (.listSubscriptions page) (.error fault)] <:+: t

/-- The subscriptions could not be listed after a change, and that is what is complained of. -/
def ComplainsOfReload (v : Viewer) (t : List Event) : Prop :=
  ∃ fault, ReloadFails t fault ∧
    Event.errors t = [complaint v (Notification.failure "load subscriptions" fault).message]

/-- What stands on the error stream at the end of an errand. -/
def Reports (v : Viewer) (t : List Event) : Except Failure Unit → Prop
  | .ok () => Event.errors t = [] ∨ ComplainsOfReload v t
  | .error .reported => ∃ message, Event.errors t = [complaint v message]
  | .error (.failed _ _) => Event.errors t = []

/-- A stream that holds nothing, or one document. -/
def IsClean (lines : List String) : Prop :=
  lines = [] ∨ ∃ document, IsDocument document ∧ lines = [document]

/-- What stands on the standard output at the end of an errand that writes in a format. -/
def Tidy (format : OutputFormat) (t : List Event) (r : Except Failure Unit) : Prop :=
  format = .json → IsClean (Event.output t) ∧ (r ≠ .ok () → Event.output t = [])

/-- How a command ends, if what it is to achieve is said by `achieved`. -/
structure Conduct (v : Viewer) (achieved : List Event → Prop) (t : List Event)
    (r : Except Failure Unit) : Prop where
  ok_iff : r = .ok () ↔ achieved t
  reports : Reports v t r

/-- How a command ends that prints its result and nothing else. -/
structure Sound (v : Viewer) (format : OutputFormat) (achieved : List Event → Prop)
    (t : List Event) (r : Except Failure Unit) : Prop extends Conduct v achieved t r where
  tidy : Tidy format t r

/-! ## Notifications -/

section Told

variable {v : Viewer} {format : OutputFormat}

/-- The line of a success. -/
def successLine (v : Viewer) (message : String) : String :=
  v.paint (.boldOf .green) "✓" ++ " " ++ message

/-- What comes of a notification. -/
def tell (v : Viewer) (format : OutputFormat) (n : Notification) : List Event :=
  if n.isError then [.warned (complaint v n.message)]
  else if format.isText then [.printed (successLine v n.message)]
  else []

/-- What comes of notifications. -/
def told (v : Viewer) (format : OutputFormat) (ns : List Notification) : List Event :=
  ns.flatMap (tell v format)

/-- An error is told on the error stream, in every format. -/
theorem tell_of_isError {n : Notification} (h : n.isError = true) :
    tell v format n = [.warned (complaint v n.message)] := if_pos h

/-- One error leaves one complaint. -/
theorem errors_told_of_isError {n : Notification} (h : n.isError = true) :
    Event.errors (told v format [n]) = [complaint v n.message] := by
  rw [told, List.flatMap_singleton, tell_of_isError h]
  rfl

/-- Notifications ask nothing of the service. -/
theorem questions_told (ns : List Notification) : Event.questions (told v format ns) = [] := by
  refine List.filter_eq_nil_iff.mpr fun e he => ?_
  obtain ⟨n, -, hn⟩ := List.mem_flatMap.mp he
  unfold tell at hn
  split at hn
  · rw [List.mem_singleton.mp hn]
    exact Bool.false_ne_true
  · split at hn
    · rw [List.mem_singleton.mp hn]
      exact Bool.false_ne_true
    · cases hn

/-- So no question is among what is told. -/
theorem asked_notMem_told {client : Client} {call : Call} {reply : call.Reply}
    {ns : List Notification} : .asked client call reply ∉ told v format ns := by
  rw [← Event.asked_mem_questions, questions_told]
  exact List.not_mem_nil

/-- A success is no complaint, whether it is told or not. -/
theorem errors_tell_success (message : String) :
    Event.errors (tell v format (.success message)) = [] := by
  unfold tell
  rw [if_neg (by simp)]
  cases format.isText <;> rfl

/-- Where the format is JSON, no notification is printed. -/
theorem output_tell_json (n : Notification) : Event.output (tell v .json n) = [] := by
  unfold tell
  cases n.isError <;> rfl

/-- So none of several is. -/
theorem output_told_json (ns : List Notification) : Event.output (told v .json ns) = [] := by
  induction ns with
  | nil => rfl
  | cons n ns ih =>
    have hcons : told v .json (n :: ns) = tell v .json n ++ told v .json ns := rfl
    rw [hcons, Event.output_append, output_tell_json, ih]
    rfl

/-- Telling notifications never fails. -/
theorem ensures_notifications {ns : List Notification}
    {Q : List Event → Except Failure Unit → Prop} :
    Ensures (Errand.notifications v format ns) Q ↔ Q (told v format ns) (.ok ()) := by
  induction ns generalizing Q with
  | nil => exact Iff.rfl
  | cons n ns ih =>
    rw [Errand.notifications]
    by_cases herror : n.isError = true
    · rw [if_pos herror, told, List.flatMap_cons, tell_of_isError herror]
      exact ih
    · rw [if_neg herror, told, List.flatMap_cons, tell, if_neg herror]
      by_cases htext : format.isText = true
      · rw [if_pos htext, if_pos htext]
        exact ih
      · rw [if_neg htext, if_neg htext]
        exact ih

variable {α : Type} {c : Console}

/-- An errand goes on once they are told. -/
theorem ensures_notifications_bind {ns : List Notification} {f : Unit → Errand α}
    {Q : List Event → Except Failure α → Prop} :
    Ensures (Errand.notifications v format ns >>= f) Q ↔
      Ensures (f ()) fun t r => Q (told v format ns ++ t) r :=
  ensures_bind.trans ensures_notifications

/-- Once all is told, the console has nothing left to tell, and a failed action has been reported.
-/
theorem ensures_settle {succeeded : Bool} {Q : List Event → Except Failure Console → Prop} :
    Ensures (settle v format c succeeded) Q ↔
      Q (told v format c.notifications)
        (if succeeded then .ok { c with notifications := [] } else .error .reported) := by
  refine ensures_notifications_bind.trans ?_
  cases succeeded with
  | true =>
    show Q (told v format c.notifications ++ []) _ ↔ _
    rw [List.append_nil]
    rfl
  | false =>
    show Q (told v format c.notifications ++ []) _ ↔ _
    rw [List.append_nil]
    rfl

variable {f : Console → Errand α} {Q : List Event → Except Failure α → Prop}

/-- An errand goes on once what there is to say has been said. -/
theorem ensures_settle_bind :
    Ensures (settle v format c true >>= f) Q ↔
      Ensures (f { c with notifications := [] }) fun t r =>
        Q (told v format c.notifications ++ t) r :=
  ensures_bind.trans ensures_settle

/-- An errand whose action failed ends there. -/
theorem ensures_settle_bind_of_failed :
    Ensures (settle v format c false >>= f) Q ↔
      Q (told v format c.notifications) (.error .reported) :=
  ensures_bind.trans ensures_settle

end Told

/-- What events come to: what was asked of the service, what stands on the error stream and, where
the format is JSON, on the standard output. -/
structure ComesTo (format : OutputFormat) (t questions : List Event)
    (errors output : List String) : Prop where
  questions_eq : Event.questions t = questions
  errors_eq : Event.errors t = errors
  output_eq : format = .json → Event.output t = output

namespace ComesTo

variable {format : OutputFormat} {t t' questions questions' : List Event}
  {errors errors' output output' : List String}

/-- What two parts of a run come to, one after the other, is what each of them comes to. -/
theorem append (h : ComesTo format t questions errors output)
    (h' : ComesTo format t' questions' errors' output') :
    ComesTo format (t ++ t') (questions ++ questions') (errors ++ errors') (output ++ output') where
  questions_eq := by rw [Event.questions_append, h.questions_eq, h'.questions_eq]
  errors_eq := by rw [Event.errors_append, h.errors_eq, h'.errors_eq]
  output_eq hjson := by rw [Event.output_append, h.output_eq hjson, h'.output_eq hjson]

/-- Something was asked if it is among the questions. -/
theorem asked_mem_iff (h : ComesTo format t questions errors output) {client : Client} {call : Call}
    {reply : call.Reply} : .asked client call reply ∈ t ↔ .asked client call reply ∈ questions := by
  rw [← h.questions_eq, Event.asked_mem_questions]

theorem nil (format : OutputFormat) : ComesTo format [] [] [] [] := ⟨rfl, rfl, fun _ => rfl⟩

/-- A call is a question, and nothing is said. -/
theorem asked (format : OutputFormat) (client : Client) (call : Call) (reply : call.Reply) :
    ComesTo format [.asked client call reply] [.asked client call reply] [] [] :=
  ⟨rfl, rfl, fun _ => rfl⟩

/-- Nothing is said while the service is asked. -/
theorem exchanged (format : OutputFormat) (client : Client) (t : List Exchange) :
    ComesTo format (Event.ofExchanges client t) (Event.ofExchanges client t) [] [] := by
  have hasked : ∀ e ∈ Event.ofExchanges client t,
      e.isQuestion = true ∧ e.error? = none ∧ e.output? = none := by
    intro e he
    obtain ⟨exchange, -, hexchange⟩ := List.mem_filterMap.mp he
    cases exchange with
    | answered call reply =>
      obtain rfl := Option.some.inj hexchange
      exact ⟨rfl, rfl, rfl⟩
    | decided prompt decision => cases hexchange
  refine ⟨List.filter_eq_self.mpr fun e he => (hasked e he).1, ?_, fun _ => ?_⟩
  · exact List.filterMap_eq_nil_iff.mpr fun e he => (hasked e he).2.1
  · exact List.filterMap_eq_nil_iff.mpr fun e he => (hasked e he).2.2

/-- Reading a file asks and says nothing. -/
theorem read (format : OutputFormat) (path : String) (file : Except FileFault String) :
    ComesTo format [.read path file] [] [] [] := ⟨rfl, rfl, fun _ => rfl⟩

/-- A line may be printed unless the format is JSON. -/
theorem line (s : String) (h : format ≠ .json) : ComesTo format [.printed s] [] [] [] :=
  ⟨rfl, rfl, fun hjson => absurd hjson h⟩

/-- Readers of documents are not told of successes. -/
theorem success (v : Viewer) (format : OutputFormat) (message : String) :
    ComesTo format (told v format [.success message]) [] [] [] where
  questions_eq := questions_told _
  errors_eq := by
    rw [told, List.flatMap_singleton]
    exact errors_tell_success message
  output_eq hjson := by rw [hjson, output_told_json]

/-- A failure comes to a complaint. -/
theorem failure (v : Viewer) (format : OutputFormat) {n : Notification} (h : n.isError = true) :
    ComesTo format (told v format [n]) [] [complaint v n.message] [] where
  questions_eq := questions_told _
  errors_eq := errors_told_of_isError h
  output_eq hjson := by rw [hjson, output_told_json]

end ComesTo

/-! ## Clients -/

/-- A client may not be to be had for the settings; nothing happens then. -/
theorem ensures_clientFor_bind {α : Type} {settings : Settings} {f : Client → Errand α}
    {Q : List Event → Except Failure α → Prop}
    (unbuilt : ∀ message causes, Q [] (.error (.failed message causes)))
    (built : ∀ client, Ensures (f client) Q) : Ensures (clientFor settings >>= f) Q := by
  unfold clientFor
  cases Client.build settings.apiUrl none with
  | error fault => exact unbuilt _ _
  | ok client => exact built client

/-! ## Results -/

/-- An errand that prints and does nothing else. -/
def OnlyPrints (x : Errand Unit) : Prop :=
  Ensures x fun t r => r = .ok () ∧ ∃ lines : List String, t = lines.map .printed

namespace OnlyPrints

theorem done : OnlyPrints (pure ()) := ⟨rfl, [], rfl⟩

/-- Printing a line is printing and nothing else. -/
theorem line (s : String) : OnlyPrints (print s) := ⟨rfl, [s], rfl⟩

/-- So are two errands that only print, one after the other. -/
theorem bind {x : Errand Unit} {f : Unit → Errand Unit} (first : OnlyPrints x)
    (second : ∀ u, OnlyPrints (f u)) : OnlyPrints (x >>= f) := by
  refine ensures_bind.mpr (first.mono fun t r h => ?_)
  obtain ⟨rfl, lines, rfl⟩ := h
  refine (second ()).mono fun t' r' h' => ?_
  obtain ⟨rfl, lines', rfl⟩ := h'
  exact ⟨rfl, lines ++ lines', List.map_append.symm⟩

/-- So is one of two, whichever it is. -/
theorem either {p : Prop} [Decidable p] {x y : Errand Unit} (hx : OnlyPrints x)
    (hy : OnlyPrints y) : OnlyPrints (if p then x else y) := by
  by_cases h : p
  · rwa [if_pos h]
  · rwa [if_neg h]

theorem forM {α : Type} {f : α → Errand Unit} (each : ∀ a, OnlyPrints (f a)) :
    ∀ l : List α, OnlyPrints (l.forM f)
  | [] => done
  | a :: l => (each a).bind fun _ => forM each l

end OnlyPrints

/-- The fields of a subscription are only printed. -/
theorem onlyPrints_printFields (v : Viewer) (s : Subscription) :
    OnlyPrints (Subscriptions.printFields v s) := by
  unfold Subscriptions.printFields field
  refine .bind (.line _) fun _ => .bind (.line _) fun _ => .bind (.line _) fun _ => ?_
  exact .bind (.line _) fun _ => .bind (.line _) fun _ => .either (.line _) .done

theorem onlyPrints_printTable (v : Viewer) (isEmpty : Bool) (table : String) :
    OnlyPrints (Subscriptions.printTable v isEmpty table) := .either (.line _) (.line _)

/-- Nothing that is printed stands on the error stream. -/
theorem errors_map_printed (lines : List String) : Event.errors (lines.map .printed) = [] := by
  induction lines with
  | nil => rfl
  | cons line lines ih => exact ih

/-- What stands on the streams once a result is printed. -/
structure IsResult (format : OutputFormat) (t : List Event) : Prop where
  errors_eq : Event.errors t = []
  clean : format = .json → IsClean (Event.output t)

/-- A line that is printed is a result; where the format is JSON it has to be a document. -/
theorem IsResult.of_printed (format : OutputFormat) {line : String}
    (document : format = .json → IsDocument line) : IsResult format [.printed line] :=
  ⟨rfl, fun hjson => .inr ⟨line, document hjson, rfl⟩⟩

theorem isResult_nil (format : OutputFormat) : IsResult format [] := ⟨rfl, fun _ => .inl rfl⟩

/-- A result is printed in any format, and that never fails. -/
theorem ensures_printResult {format : OutputFormat} {value : Json} {asText : Errand Unit}
    (text : OnlyPrints asText) :
    Ensures (Subscriptions.printResult format value asText) fun t r =>
      r = .ok () ∧ IsResult format t := by
  cases format with
  | text =>
    refine text.mono fun t r h => ?_
    obtain ⟨rfl, lines, rfl⟩ := h
    exact ⟨rfl, errors_map_printed lines, fun hjson => nomatch hjson⟩
  | json => exact ⟨rfl, rfl, fun _ => .inr ⟨_, value.isDocument_pretty, rfl⟩⟩
  | yaml => exact ⟨rfl, rfl, fun hjson => nomatch hjson⟩

/-! ## Whole commands -/

namespace Conduct

variable {v : Viewer} {format : OutputFormat} {achieved : List Event → Prop} {t : List Event}

/-- A command that cannot be carried out leaves its failure to be reported. -/
theorem unstarted {message : String} {causes : List String} (herrors : Event.errors t = [])
    (unachieved : ¬ achieved t) : Conduct v achieved t (.error (.failed message causes)) where
  ok_iff := iff_of_false (fun h => nomatch h) unachieved
  reports := herrors

/-- A command that fails complains once. -/
theorem complained {message : String} (herrors : Event.errors t = [complaint v message])
    (unachieved : ¬ achieved t) : Conduct v achieved t (.error .reported) where
  ok_iff := iff_of_false (fun h => nomatch h) unachieved
  reports := ⟨message, herrors⟩

/-- A command that achieves what it is for without a complaint succeeds. -/
theorem finished (herrors : Event.errors t = []) (hachieved : achieved t) :
    Conduct v achieved t (.ok ()) where
  ok_iff := iff_of_true rfl hachieved
  reports := .inl herrors

end Conduct

/-- A command that has achieved what it is for may print what it likes. -/
theorem OnlyPrints.conduct {v : Viewer} {achieved : List Event → Prop} {x : Errand Unit}
    (prints : OnlyPrints x) {t : List Event} (herrors : Event.errors t = [])
    (hachieved : ∀ t', achieved (t ++ t')) :
    Ensures x fun t' r => Conduct v achieved (t ++ t') r := by
  refine prints.mono fun t' r h => ?_
  obtain ⟨rfl, lines, rfl⟩ := h
  refine .finished ?_ (hachieved _)
  rw [Event.errors_append, herrors, errors_map_printed]
  rfl

namespace Sound

variable {v : Viewer} {format : OutputFormat} {achieved : List Event → Prop}

/-- A command that fails before it asks or prints anything is sound. -/
theorem unstarted {message : String} {causes : List String} (unachieved : ¬ achieved []) :
    Sound v format achieved [] (.error (.failed message causes)) where
  toConduct := .unstarted rfl unachieved
  tidy _ := ⟨.inl rfl, fun _ => rfl⟩

/-- So is one whose action fails and is complained of once. -/
theorem complained {asked questions : List Event} (quiet : ComesTo format asked questions [] [])
    {ns : List Notification} {n : Notification} (one : ns = [n]) (herror : n.isError = true)
    (unachieved : ¬ achieved (asked ++ told v format ns)) :
    Sound v format achieved (asked ++ told v format ns) (.error .reported) := by
  obtain rfl := one
  have comes := quiet.append (.failure v format herror)
  refine ⟨.complained comes.errors_eq unachieved, fun hjson => ?_⟩
  exact ⟨.inl (comes.output_eq hjson), fun _ => comes.output_eq hjson⟩

/-- A command that succeeds prints its result. -/
theorem finished {asked t questions : List Event} (quiet : ComesTo format asked questions [] [])
    (result : IsResult format t) (hachieved : achieved (asked ++ t)) :
    Sound v format achieved (asked ++ t) (.ok ()) where
  toConduct := by
    refine .finished ?_ hachieved
    rw [Event.errors_append, quiet.errors_eq, result.errors_eq]
    rfl
  tidy hjson := by
    refine ⟨?_, fun h => absurd rfl h⟩
    rw [Event.output_append, quiet.output_eq hjson]
    exact result.clean hjson

/-- A command whose change is accepted prints its result too, and complains if the subscriptions
cannot be listed then. -/
theorem changed {asked t questions : List Event} {change : Event} {client : Client} {page : Page}
    {reload : Except Fault (List Subscription)} {message : String}
    (quiet : ComesTo format asked questions [] []) (accepted : change.isAcceptedChange = true)
    (follows : [change, .asked client (.listSubscriptions page) reload] <:+: asked)
    (result : IsResult format t) {ns : List Notification}
    (tells : ns = .success message ::
      (faultOf reload).toList.map (Notification.failure "load subscriptions"))
    (hachieved : achieved (asked ++ (told v format ns ++ t))) :
    Sound v format achieved (asked ++ (told v format ns ++ t)) (.ok ()) where
  ok_iff := iff_of_true rfl hachieved
  reports := by
    -- the change is told of as a success, so any complaint is about the reload
    have herrors : Event.errors (asked ++ (told v format ns ++ t)) =
        Event.errors (told v format
          ((faultOf reload).toList.map (Notification.failure "load subscriptions"))) := by
      rw [Event.errors_append, Event.errors_append, quiet.errors_eq, result.errors_eq, tells, told,
        List.flatMap_cons, Event.errors_append, errors_tell_success, List.append_nil]
      rfl
    cases reload with
    | ok list => exact .inl herrors
    | error fault =>
      refine .inr ⟨fault, ⟨change, client, page, accepted, ?_⟩, ?_⟩
      · exact follows.trans (List.prefix_append asked _).isInfix
      · rw [herrors]
        show Event.errors (tell v format _ ++ []) = _
        rw [tell_of_isError (Notification.isError_failure _ _)]
        rfl
  tidy hjson := by
    refine ⟨?_, fun h => absurd rfl h⟩
    rw [Event.output_append, Event.output_append, quiet.output_eq hjson, hjson, output_told_json]
    exact result.clean hjson

end Sound

end DeliveryDesk.CommandLine

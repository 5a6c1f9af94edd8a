import DeliveryDesk.Client.Basic
import DeliveryDesk.Proofs.Console.Calls
import DeliveryDesk.Proofs.Likeness

/-!
# A secret goes to the service and nowhere else

Two runs whose actions differ in the secrets that were typed into the forms, and that get the same
replies, are compared turn by turn. The argument is a relation carried through the layers: the two
forms become conversations that are alike (`createSubscription_alike`, `submitEdit_alike`), alike
conversations with the same replies end in one console (`Turn.Takes.alike`), and from one console
the next turns start (`Run.alike`). As the replies come from one script, nothing has to be assumed
of how many of them a turn takes.

What is sent is looked at twice. `Call.SameBut` says that two calls ask for the same but for the
value of one member of their bodies, and `Turn.SendsSecret` what that value is: the text that was
typed.

Main result: `secret_does_not_leak`.
-/

namespace DeliveryDesk

namespace Console

open Conversation

/-! ## Actions that are alike -/

/-- Two actions that are the same, or differ in what was typed as a secret and in nothing else.
Whether a secret was typed at all may show: an empty one leaves the stored secret alone. -/
inductive Action.Alike : Action → Action → Prop
  | same (a : Action) : Alike a a
  | create (targetUrl eventTypes : String) {secret secret' : String} (given : secret ≠ "")
      (given' : secret' ≠ "") :
      Alike (.createSubscription ⟨targetUrl, secret, eventTypes⟩)
        (.createSubscription ⟨targetUrl, secret', eventTypes⟩)
  | edit (id targetUrl eventTypes : String) {secret secret' : String} (given : secret ≠ "")
      (given' : secret' ≠ "") :
      Alike (.submitEdit ⟨id, targetUrl, secret, eventTypes⟩)
        (.submitEdit ⟨id, targetUrl, secret', eventTypes⟩)

/-- Two turns with alike actions: the same is reported, and the same is said, except that where the
one sends its secret the other sends its own. -/
inductive Turn.Alike : Turn → Turn → Prop
  | same (u : Turn) : Alike u u
  | create (targetUrl eventTypes : String) {secret secret' : String} (given : secret ≠ "")
      (given' : secret' ≠ "") {t t' : List Exchange}
      (said : List.Forall₂ (Exchange.Alike (some secret) (some secret')) t t')
      (result : Option Subscription) :
      Alike ⟨.createSubscription ⟨targetUrl, secret, eventTypes⟩, t, result⟩
        ⟨.createSubscription ⟨targetUrl, secret', eventTypes⟩, t', result⟩
  | edit (id targetUrl eventTypes : String) {secret secret' : String} (given : secret ≠ "")
      (given' : secret' ≠ "") {t t' : List Exchange}
      (said : List.Forall₂ (Exchange.Alike (some secret) (some secret')) t t')
      (result : Option Subscription) :
      Alike ⟨.submitEdit ⟨id, targetUrl, secret, eventTypes⟩, t, result⟩
        ⟨.submitEdit ⟨id, targetUrl, secret', eventTypes⟩, t', result⟩

/-! ## Conversations that are alike -/

/-- What follows a change that has got its reply. -/
def Registry.afterChange {α : Type} (r : Registry) (accepted : α → LogRecord) :
    Except Fault α → Conversation (Registry × Except Fault (Mutation α))
  | .error fault => .done (r, .error fault)
  | .ok value => do
    Conversation.note (accepted value)
    let (r, mutation) ← r.reloadAfter value
    return (r, .ok mutation)

/-- Whatever the change is, what follows it depends on the reply alone. -/
theorem Registry.mutate_eq (r : Registry) (change : Call) (accepted : change.Answer → LogRecord) :
    r.mutate change accepted = .ask change (r.afterChange accepted) := by
  refine congrArg (Conversation.ask change) (funext fun reply => ?_)
  cases reply <;> rfl

/-- A subscription is created by one call, of which the secret is a part, and what follows does not
know it. -/
theorem Registry.create_eq (r : Registry) (form : SubscriptionForm) :
    r.create form =
      match requireTargetUrl form.targetUrl with
      | .error fault => .done (r, .error fault)
      | .ok url =>
        .ask (.createSubscription
          ⟨url, givenSecret form.secret, parseEventTypes form.eventTypes⟩)
          (r.afterChange fun created => changeAccepted "subscription created" created.id) := by
  unfold create SubscriptionForm.toRequest
  cases requireTargetUrl form.targetUrl with
  | error fault => rfl
  | ok url => exact r.mutate_eq _ _

/-- So is it changed. -/
theorem Registry.update_eq (r : Registry) (form : EditForm) :
    r.update form =
      match requireTargetUrl form.targetUrl with
      | .error fault => .done (r, .error fault)
      | .ok url =>
        .ask (.updateSubscription form.id ⟨url, givenSecret form.secret,
          match parseEventTypes form.eventTypes with
          | some types => .set types
          | none => .clear⟩)
          (r.afterChange fun updated => changeAccepted "subscription updated" updated.id) := by
  unfold update EditForm.toRequest
  cases requireTargetUrl form.targetUrl with
  | error fault => rfl
  | ok url => exact r.mutate_eq _ _

/-- Creating a subscription goes the same way with any secret. -/
theorem createSubscription_alike (c : Console) (targetUrl secret secret' eventTypes : String) :
    (c.createSubscription ⟨targetUrl, secret, eventTypes⟩).Alike
      (givenSecret secret) (givenSecret secret')
      (c.createSubscription ⟨targetUrl, secret', eventTypes⟩) := by
  refine Alike.bind ?_ fun _ => .refl _
  rw [Registry.create_eq, Registry.create_eq]
  cases requireTargetUrl targetUrl with
  | error fault => exact .done _
  | ok url =>
    exact .ask (fun reply => reply) (fun reply => .created url _ reply) fun reply => .refl _

/-- So does changing one. -/
theorem submitEdit_alike (c : Console) (id targetUrl secret secret' eventTypes : String) :
    (c.submitEdit ⟨id, targetUrl, secret, eventTypes⟩).Alike
      (givenSecret secret) (givenSecret secret')
      (c.submitEdit ⟨id, targetUrl, secret', eventTypes⟩) := by
  refine Alike.bind ?_ fun _ => .refl _
  rw [Registry.update_eq, Registry.update_eq]
  cases requireTargetUrl targetUrl with
  | error fault => exact .done _
  | ok url =>
    exact .ask (fun reply => reply) (fun reply => .updated id url _ reply) fun reply => .refl _

/-- A secret that is typed is given as it is. -/
theorem givenSecret_of_ne {secret : String} (given : secret ≠ "") :
    givenSecret secret = some secret := by
  rw [givenSecret, if_neg (by simpa using given)]

/-! ## Turns and runs with the same replies -/

/-- What was replied and decided in a turn, in order. -/
def Turn.answers (u : Turn) : List Answer := u.exchanges.map Exchange.answer

/-- What was replied and decided in the course of turns, in order. -/
def answers (h : List Turn) : List Answer := h.flatMap Turn.answers

/-- Alike exchanges have the same answers. -/
theorem answers_eq_of_alike {s s' : Option String} {t t' : List Exchange}
    (h : List.Forall₂ (Exchange.Alike s s') t t') :
    t.map Exchange.answer = t'.map Exchange.answer := by
  induction h with
  | nil => rfl
  | cons h _ ih => rw [List.map_cons, List.map_cons, h.answer_eq, ih]

/-- So have alike turns. -/
theorem Turn.Alike.answers_eq {u u' : Turn} (h : u.Alike u') : u.answers = u'.answers := by
  cases h with
  | same => rfl
  | create _ _ _ _ said => exact answers_eq_of_alike said
  | edit _ _ _ _ _ said => exact answers_eq_of_alike said

/-- **One turn.** Alike actions that are taken from one console and get the same replies lead to one
console and are alike as turns. -/
theorem Turn.Takes.alike {c d d' : Console} {u u' : Turn} (takes : u.Takes c d)
    (takes' : u'.Takes c d') (alike : u.action.Alike u'.action) {script : List Answer}
    (replies : u.answers <+: script) (replies' : u'.answers <+: script) :
    d = d' ∧ u.Alike u' := by
  obtain ⟨a, t, result⟩ := u
  obtain ⟨a', t', result'⟩ := u'
  cases alike with
  | same =>
    obtain ⟨heq, rfl⟩ := yields_unique takes takes' replies replies'
    obtain ⟨rfl, rfl⟩ := Prod.mk.inj heq
    exact ⟨rfl, .same _⟩
  | @create targetUrl eventTypes secret secret' given given' =>
    obtain ⟨heq, said⟩ :=
      (c.createSubscription_alike targetUrl secret secret' eventTypes).eq_of_answers
        takes takes' replies replies'
    obtain ⟨rfl, rfl⟩ := Prod.mk.inj heq
    rw [givenSecret_of_ne given, givenSecret_of_ne given'] at said
    exact ⟨rfl, .create targetUrl eventTypes given given' said result⟩
  | @edit id targetUrl eventTypes secret secret' given given' =>
    obtain ⟨heq, said⟩ := (c.submitEdit_alike id targetUrl secret secret' eventTypes).eq_of_answers
      takes takes' replies replies'
    obtain ⟨rfl, rfl⟩ := Prod.mk.inj heq
    rw [givenSecret_of_ne given, givenSecret_of_ne given'] at said
    exact ⟨rfl, .edit id targetUrl eventTypes given given' said result⟩

/-- **All turns.** Runs of alike actions that get their replies from one script end in one console,
and are alike turn by turn. -/
theorem Run.alike {start c c' : Console} {h h' : List Turn}
    (alike : List.Forall₂ (fun u u' => u.action.Alike u'.action) h h')
    (run : Run start h c) (run' : Run start h' c') {script : List Answer}
    (replies : answers h <+: script) (replies' : answers h' <+: script) :
    c = c' ∧ List.Forall₂ Turn.Alike h h' := by
  induction alike generalizing start script with
  | nil =>
    rw [run_nil_iff.mp run, run_nil_iff.mp run']
    exact ⟨rfl, .nil⟩
  | @cons u u' h h' hu _ ih =>
    obtain ⟨b, takes, rest⟩ := run_cons_iff.mp run
    obtain ⟨b', takes', rest'⟩ := run_cons_iff.mp run'
    have first : u.answers <+: script := (List.prefix_append ..).trans replies
    have first' : u'.answers <+: script := (List.prefix_append ..).trans replies'
    obtain ⟨rfl, same⟩ := takes.alike takes' hu first first'
    -- the first turns have taken the same replies from the script, so that the others go on alike
    obtain ⟨script, rfl⟩ := first
    rw [answers, List.flatMap_cons, List.prefix_append_right_inj] at replies
    rw [answers, List.flatMap_cons, ← same.answers_eq, List.prefix_append_right_inj] at replies'
    obtain ⟨rfl, others⟩ := ih rest rest' replies replies'
    exact ⟨rfl, .cons same others⟩

/-- Every start of a run is a run. -/
theorem Run.take {start c : Console} {h : List Turn} (run : Run start h c) (n : Nat) :
    ∃ d, Run start (h.take n) d := by
  induction n generalizing start h with
  | zero => exact ⟨start, .nil⟩
  | succ n ih =>
    cases h with
    | nil => exact ⟨c, run⟩
    | cons u h =>
      obtain ⟨b, takes, rest⟩ := run_cons_iff.mp run
      obtain ⟨d, hd⟩ := ih rest
      exact ⟨d, hd.cons takes⟩

/-- What was answered in it is the start of all answers. -/
theorem answers_take (h : List Turn) (n : Nat) : answers (h.take n) <+: answers h := by
  conv_rhs => rw [← List.take_append_drop n h]
  rw [answers, answers, List.flatMap_append]
  exact List.prefix_append ..

/-! ## What is sent -/

/-- The secret of the form that an action comes with, as it was typed, if one was. -/
def Action.secret? : Action → Option String
  | .createSubscription form => givenSecret form.secret
  | .submitEdit form => givenSecret form.secret
  | _ => none

end Console

/-- The body of a call that creates or changes a subscription. -/
def Call.change? (call : Call) : Option Json :=
  match call with
  | .createSubscription _ | .updateSubscription _ _ => (Client.endpoint call).body
  | _ => none

/-- Two values that are the same but for the value of one member, if they have it. -/
def Json.SameBut (key : String) : Json → Json → Prop
  | .object ms, .object ms' =>
    List.Forall₂ (fun m m' => m.1 = m'.1 ∧ (m.1 ≠ key → m.2 = m'.2)) ms ms'
  | j, j' => j = j'

/-- A value is the same as itself, whatever member is left out of account. -/
theorem Json.SameBut.refl (key : String) (j : Json) : j.SameBut key j := by
  cases j with
  | object ms => exact List.forall₂_same.mpr fun m _ => ⟨rfl, fun _ => rfl⟩
  | _ => rfl

/-- Two calls that are the same but for the value of one member of their bodies. -/
def Call.SameBut (key : String) (call call' : Call) : Prop :=
  { Client.endpoint call with body := none } = { Client.endpoint call' with body := none } ∧
    Option.Rel (Json.SameBut key) (Client.endpoint call).body (Client.endpoint call').body

namespace Call

/-- A call is the same as itself. -/
theorem SameBut.refl (key : String) (call : Call) : call.SameBut key call := by
  refine ⟨rfl, ?_⟩
  cases (Client.endpoint call).body with
  | none => exact .none
  | some body => exact .some (.refl key body)

/-- Two requests for a new subscription that differ in the secret differ in nothing else that is
sent. -/
theorem sameBut_create (targetUrl secret secret' : String) (eventTypes : Option (List String)) :
    (createSubscription ⟨targetUrl, some secret, eventTypes⟩).SameBut "secret"
      (createSubscription ⟨targetUrl, some secret', eventTypes⟩) := by
  refine ⟨rfl, .some ?_⟩
  cases eventTypes <;> simp [NewSubscription.encode, Json.memberIfAny, Json.SameBut]

/-- So do two requests for a change. -/
theorem sameBut_update (id targetUrl secret secret' : String)
    (eventTypes : FieldChange (List String)) :
    (updateSubscription id ⟨targetUrl, some secret, eventTypes⟩).SameBut "secret"
      (updateSubscription id ⟨targetUrl, some secret', eventTypes⟩) := by
  refine ⟨rfl, .some ?_⟩
  cases eventTypes <;> simp [SubscriptionChange.encode, Json.memberIfAny, Json.SameBut]

end Call

/-- Exchanges that are alike but for a secret make calls that are the same but for its value. -/
theorem Exchange.sameBut_of_alike {secret secret' : String} {t t' : List Exchange}
    (said : List.Forall₂ (Exchange.Alike (some secret) (some secret')) t t') :
    List.Forall₂ (Call.SameBut "secret") (t.filterMap call?) (t'.filterMap call?) := by
  induction said with
  | nil => exact .nil
  | @cons e _ _ _ h _ ih =>
    cases h with
    | same =>
      cases e with
      | answered call reply => exact .cons (.refl "secret" call) ih
      | decided prompt decision => exact ih
    | created targetUrl eventTypes => exact .cons (Call.sameBut_create ..) ih
    | updated id targetUrl eventTypes => exact .cons (Call.sameBut_update ..) ih

namespace Console

/-- Every change that is sent in a turn carries the secret of the turn's form as it was typed, and
none if none was typed. -/
def Turn.SendsSecret (u : Turn) : Prop :=
  ∀ call ∈ u.calls, ∀ body, call.change? = some body →
    body.member? "secret" = u.action.secret?.map .string

/-- The secret of a request is the one that the form was given. -/
theorem SubscriptionForm.secret_of_toRequest {form : SubscriptionForm} {request : NewSubscription}
    (filled : form.toRequest = .ok request) : request.secret = givenSecret form.secret := by
  obtain ⟨url, rfl⟩ := exists_eq_of_requireTargetUrl filled
  rfl

theorem EditForm.secret_of_toRequest {form : EditForm} {request : SubscriptionChange}
    (filled : form.toRequest = .ok request) : request.secret = givenSecret form.secret := by
  obtain ⟨url, rfl⟩ := exists_eq_of_requireTargetUrl filled
  rfl

/-- The body of a change has the secret of its form as a member, as it was typed, or no such member.
-/
theorem Asks.change_secret {c : Console} {a : Action} {call : Call} (asks : c.Asks a call)
    {body : Json} (hbody : call.change? = some body) :
    body.member? "secret" = a.secret?.map .string := by
  cases asks with
  | create filled =>
    cases hbody
    rw [NewSubscription.member?_secret, SubscriptionForm.secret_of_toRequest filled]
    rfl
  | update filled =>
    cases hbody
    rw [SubscriptionChange.member?_secret, EditForm.secret_of_toRequest filled]
    rfl
  | _ => cases hbody

/-- A change is only ever sent as the call that an action stands or falls with. -/
theorem Course.asks_of_change {u : Turn} {c c' : Console} (course : Course c u c') {call : Call}
    (hcall : call ∈ u.calls) {body : Json} (hbody : call.change? = some body) :
    c.Asks u.action call := by
  cases course with
  | @failed a asked asks fault =>
    have heq : call = asked := by cases a <;> exact List.mem_singleton.mp hcall
    exact heq ▸ asks
  | created asks | updated asks | deleted asks =>
    rcases List.mem_cons.mp hcall with rfl | hlisting
    · exact asks
    · rw [List.mem_singleton.mp hlisting] at hbody
      cases hbody
  | browsedFirst unnamed found =>
    -- the fallback lists subscriptions, and asks for the log of the first
    cases found with
    | unlisted | nothingListed =>
      rw [List.mem_singleton.mp hcall] at hbody
      cases hbody
    | unread | read =>
      rcases List.mem_cons.mp hcall with rfl | hlog
      · cases hbody
      · rw [List.mem_singleton.mp hlog] at hbody
        cases hbody
  | refused | declined | closed | limited | taken => cases hcall
  | listed | fetched | dispatched | checked | rechecked | browsed | measured =>
    rw [List.mem_singleton.mp hcall] at hbody
    cases hbody

/-- In every course of an action a secret is sent where it belongs. -/
theorem Course.sendsSecret {u : Turn} {c c' : Console} (course : Course c u c') :
    u.SendsSecret :=
  fun _ hcall _ hbody => (course.asks_of_change hcall hbody).change_secret hbody

/-- Alike turns make calls that differ in the secret alone. -/
theorem Turn.Alike.calls_sameBut {u u' : Turn} (h : u.Alike u') :
    List.Forall₂ (Call.SameBut "secret") u.calls u'.calls := by
  cases h with
  | same => exact List.forall₂_same.mpr fun call _ => .refl "secret" call
  | create _ _ _ _ said => exact Exchange.sameBut_of_alike said
  | edit _ _ _ _ _ said => exact Exchange.sameBut_of_alike said

/-! ## Two runs -/

/-- **A secret does not leak.** Take two runs from one console, with the same actions but for what
was typed as a secret where one was typed, and the same replies. After any number of turns both have
come to the same console, and to no other; every turn reports the same; every call is the same but
for the value of the member "secret" of a body; and in each run a change carries the secret that was
typed, as it was typed. -/
theorem secret_does_not_leak {start c c' : Console} {h h' : List Turn} (run : Run start h c)
    (run' : Run start h' c') (alike : List.Forall₂ (fun u u' => u.action.Alike u'.action) h h')
    (replies : ∃ script, answers h <+: script ∧ answers h' <+: script) :
    (∀ n, ∃ d, ∀ e, (Run start (h.take n) e ↔ e = d) ∧ (Run start (h'.take n) e ↔ e = d)) ∧
      List.Forall₂ Turn.Alike h h' ∧
      List.Forall₂ (fun u u' => List.Forall₂ (Call.SameBut "secret") u.calls u'.calls) h h' ∧
      ∀ u ∈ h ++ h', u.SendsSecret := by
  obtain ⟨script, hscript, hscript'⟩ := replies
  obtain ⟨-, turns⟩ := Run.alike alike run run' hscript hscript'
  refine ⟨fun n => ?_, turns, turns.imp fun _ _ hu => hu.calls_sameBut, fun u hu => ?_⟩
  · obtain ⟨d, hd⟩ := run.take n
    obtain ⟨d', hd'⟩ := run'.take n
    have meet {e e' : Console} (he : Run start (h.take n) e) (he' : Run start (h'.take n) e') :
        e = e' :=
      (Run.alike (List.forall₂_take n alike) he he' ((answers_take h n).trans hscript)
        ((answers_take h' n).trans hscript')).1
    obtain rfl := meet hd hd'
    exact ⟨d, fun e => ⟨⟨fun he => meet he hd', fun he => he ▸ hd⟩,
      ⟨fun he => (meet hd he).symm, fun he => he ▸ hd'⟩⟩⟩
  · rcases List.mem_append.mp hu with hu | hu
    · obtain ⟨_, _, _, _, takes⟩ := run.takes_of_mem hu
      exact takes.course.sendsSecret
    · obtain ⟨_, _, _, _, takes⟩ := run'.takes_of_mem hu
      exact takes.course.sendsSecret

/-- A subscription is created but the reload fails, and then the service does not answer a change.
What two operators are shown does not depend on the secrets they have typed. -/
theorem secret_does_not_leak_on_failure :
    let fault : Fault := .transport "timeout"
    let url := "http://localhost/hook"
    let s : Subscription := ⟨"s1", url, none, some "********", none, none⟩
    let create (secret : String) : Turn := ⟨.createSubscription ⟨url, secret, ""⟩,
      [.answered (.createSubscription ⟨url, some secret, none⟩) (.ok s),
        .answered (.listSubscriptions {}) (.error fault)], some s⟩
    let edit (secret : String) : Turn := ⟨.submitEdit ⟨"s1", url, secret, ""⟩,
      [.answered (.updateSubscription "s1" ⟨url, some secret, .clear⟩) (.error fault)], none⟩
    ∃ c, Run {} [create "hunter2", edit "swordfish"] c ∧
      ∀ c', Run {} [create "letmein", edit "opensesame"] c' → c' = c := by
  intro fault url s create edit
  have named : Text.isBlankText url = false := by decide
  have htrim : Text.trim url = url := by decide
  have htypes : parseEventTypes "" = none := by decide
  let created : Console :=
    ({} : Console).changed "Subscription created successfully!" (.error fault)
  have hurl : requireTargetUrl url = .ok url := by rw [requireTargetUrl, named, htrim]; rfl
  have hcreate (secret : String) (given : secret ≠ "") : (create secret).Takes {} created := by
    have filled : SubscriptionForm.toRequest ⟨url, secret, ""⟩ =
        .ok ⟨url, some secret, none⟩ := by
      rw [SubscriptionForm.toRequest, hurl, givenSecret_of_ne given, htypes]
      rfl
    simp only [Turn.Takes, perform, create, createSubscription, Registry.create, filled]
    exact .ask _ (.log _ (.ask _ (.done _)))
  have hedit (secret : String) (given : secret ≠ "") : (edit secret).Takes created
      (created.notify (.failure "update subscription" fault)) := by
    have filled : EditForm.toRequest ⟨"s1", url, secret, ""⟩ =
        .ok ⟨url, some secret, .clear⟩ := by
      rw [EditForm.toRequest, hurl, givenSecret_of_ne given, htypes]
      rfl
    simp only [Turn.Takes, perform, edit, submitEdit, Registry.update, filled]
    exact .ask _ (.done _)
  have run := Run.cons (hcreate "hunter2" (by decide)) (.cons (hedit "swordfish" (by decide)) .nil)
  have run' := Run.cons (hcreate "letmein" (by decide)) (.cons (hedit "opensesame" (by decide)) .nil)
  obtain ⟨consoles, -⟩ := secret_does_not_leak run run'
    (.cons (.create url "" (by decide) (by decide))
      (.cons (.edit "s1" url "" (by decide) (by decide)) .nil))
    ⟨_, List.prefix_rfl, List.prefix_rfl⟩
  obtain ⟨d, hd⟩ := consoles 2
  exact ⟨_, run, fun c' hc' => ((hd c').2.mp hc').trans ((hd _).1.mp run).symm⟩

end Console

end DeliveryDesk

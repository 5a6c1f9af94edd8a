import DeliveryDesk.Proofs.Transcript
import Mathlib.Data.List.Forall2

/-!
# Conversations that are alike but for a secret

Two conversations are alike if they go the same way, whatever is replied, and say and log the same,
except that where one sends a secret with the request that creates or changes a subscription, the
other sends its own (`Conversation.Alike`). Every conversation is alike to itself, and alike
conversations that go on alike are alike as a whole.

`Exchange.answer` is a reply without the call that it was given to, so that two transcripts can be
said to have got the same replies although they say different things. `Alike.eq_of_answers`: alike
conversations that get their replies from one script come to the same result, and their transcripts
are alike. With no secret at all this says that a conversation is determined by its replies
(`yields_unique`).
-/

namespace DeliveryDesk

/-- What the service replies, or the operator decides, whatever was asked. -/
inductive Answer where
  | failed (fault : Fault)
  | subscriptions (list : List Subscription)
  | subscription (s : Subscription)
  | deleted
  | receipt (receipt : Receipt)
  | task (task : DeliveryTask)
  | entries (entries : List LogEntry)
  | health (snapshot : HealthSnapshot)
  | decision (decision : Bool)

namespace Exchange

/-- The reply or the decision of an exchange. -/
def answer : Exchange → Answer
  | .answered _ (.error fault) => .failed fault
  | .answered (.listSubscriptions _) (.ok list) => .subscriptions list
  | .answered (.getSubscription _) (.ok s) => .subscription s
  | .answered (.createSubscription _) (.ok s) => .subscription s
  | .answered (.updateSubscription _ _) (.ok s) => .subscription s
  | .answered (.deleteSubscription _) (.ok ()) => .deleted
  | .answered (.sendTest _ _ _) (.ok receipt) => .receipt receipt
  | .answered (.getDelivery _) (.ok task) => .task task
  | .answered (.listDeliveries _ _) (.ok entries) => .entries entries
  | .answered .status (.ok snapshot) => .health snapshot
  | .decided _ decision => .decision decision

/-- A call cannot be replied to in two ways with one answer. -/
theorem reply_eq_of_answer_eq {call : Call} {reply reply' : call.Reply}
    (h : (answered call reply).answer = (answered call reply').answer) : reply = reply' := by
  cases reply <;> cases reply' <;> cases call <;> cases h <;> rfl

/-- Two exchanges that are the same, except that where the one sends `s` as the secret of a
subscription the other sends `s'`. -/
inductive Alike (s s' : Option String) : Exchange → Exchange → Prop
  | same (e : Exchange) : Alike s s' e e
  | created (targetUrl : String) (eventTypes : Option (List String))
      (reply : Except Fault Subscription) :
      Alike s s' (.answered (.createSubscription ⟨targetUrl, s, eventTypes⟩) reply)
        (.answered (.createSubscription ⟨targetUrl, s', eventTypes⟩) reply)
  | updated (id targetUrl : String) (eventTypes : FieldChange (List String))
      (reply : Except Fault Subscription) :
      Alike s s' (.answered (.updateSubscription id ⟨targetUrl, s, eventTypes⟩) reply)
        (.answered (.updateSubscription id ⟨targetUrl, s', eventTypes⟩) reply)

theorem Alike.answer_eq {s s' : Option String} {e e' : Exchange} (h : e.Alike s s' e') :
    e.answer = e'.answer := by
  cases h with
  | same => rfl
  | created _ _ reply => cases reply <;> rfl
  | updated _ _ _ reply => cases reply <;> rfl

/-- Exchanges that are alike but for a secret that is the same are the same. -/
theorem Alike.eq {s : Option String} {e e' : Exchange} (h : e.Alike s s e') : e = e' := by
  cases h <;> rfl

end Exchange

namespace Conversation

variable {α β : Type} {s s' : Option String}

/-- Two conversations that go the same way, except that where the one sends `s` as the secret of a
subscription the other sends `s'`. What is a reply to the one call is one to the other. -/
inductive Alike (s s' : Option String) : Conversation α → Conversation α → Prop
  | done (a : α) : Alike s s' (.done a) (.done a)
  | ask {call call' : Call} {next : call.Reply → Conversation α}
      {next' : call'.Reply → Conversation α} (convey : call.Reply → call'.Reply)
      (said : ∀ reply,
        Exchange.Alike s s' (.answered call reply) (.answered call' (convey reply)))
      (rest : ∀ reply, Alike s s' (next reply) (next' (convey reply))) :
      Alike s s' (.ask call next) (.ask call' next')
  | confirm {prompt : String} {next next' : Bool → Conversation α}
      (rest : ∀ decision, Alike s s' (next decision) (next' decision)) :
      Alike s s' (.confirm prompt next) (.confirm prompt next')
  | log (record : LogRecord) {rest rest' : Conversation α} (alike : Alike s s' rest rest') :
      Alike s s' (.log record rest) (.log record rest')

theorem Alike.refl (x : Conversation α) : x.Alike s s' x := by
  induction x with
  | done a => exact .done a
  | ask call next ih => exact .ask id (fun reply => .same _) ih
  | confirm prompt next ih => exact .confirm ih
  | log record rest ih => exact .log record ih

/-- Alike conversations that go on alike are alike as a whole. -/
theorem Alike.bind {x x' : Conversation α} {f f' : α → Conversation β} (h : x.Alike s s' x')
    (hf : ∀ a, (f a).Alike s s' (f' a)) : (x >>= f).Alike s s' (x' >>= f') := by
  change (x.andThen f).Alike s s' (x'.andThen f')
  induction h with
  | done a => exact hf a
  | ask convey said _ ih => exact .ask convey said ih
  | confirm _ ih => exact .confirm ih
  | log record _ ih => exact .log record ih

/-- Two lists that start a third one start with the same. -/
theorem heads_eq {y y' : Answer} {ys ys' script : List Answer}
    (h : y :: ys <+: script) (h' : y' :: ys' <+: script) :
    y = y' ∧ ∃ rest, ys <+: rest ∧ ys' <+: rest := by
  cases script with
  | nil => exact absurd h (by simp)
  | cons z rest =>
    obtain ⟨rfl, hrest⟩ := List.cons_prefix_cons.mp h
    obtain ⟨rfl, hrest'⟩ := List.cons_prefix_cons.mp h'
    exact ⟨rfl, rest, hrest, hrest'⟩

/-- **Alike conversations with the same replies** come to the same result. They need not get equally
many replies from the script to begin with: that they do comes out of it. -/
theorem Alike.eq_of_answers {x x' : Conversation α} (h : x.Alike s s' x') {t t' : List Exchange}
    {a a' : α} (hx : x.Yields t a) (hx' : x'.Yields t' a') {script : List Answer}
    (ht : t.map Exchange.answer <+: script) (ht' : t'.map Exchange.answer <+: script) :
    a = a' ∧ List.Forall₂ (Exchange.Alike s s') t t' := by
  induction h generalizing t t' script with
  | done a =>
    obtain ⟨rfl, rfl⟩ := yields_done_iff.mp hx
    obtain ⟨rfl, rfl⟩ := yields_done_iff.mp hx'
    exact ⟨rfl, .nil⟩
  | ask convey said _ ih =>
    obtain ⟨reply, u, rfl, hrest⟩ := yields_ask_iff.mp hx
    obtain ⟨reply', u', rfl, hrest'⟩ := yields_ask_iff.mp hx'
    obtain ⟨same, rest, hu, hu'⟩ := heads_eq ht ht'
    -- the one script replies the same to both
    obtain rfl := Exchange.reply_eq_of_answer_eq ((said reply).answer_eq.symm.trans same)
    obtain ⟨rfl, halike⟩ := ih reply hrest hrest' hu hu'
    exact ⟨rfl, .cons (said reply) halike⟩
  | confirm _ ih =>
    obtain ⟨decision, u, rfl, hrest⟩ := yields_confirm_iff.mp hx
    obtain ⟨decision', u', rfl, hrest'⟩ := yields_confirm_iff.mp hx'
    obtain ⟨same, rest, hu, hu'⟩ := heads_eq ht ht'
    obtain rfl := Answer.decision.inj same
    obtain ⟨rfl, halike⟩ := ih decision hrest hrest' hu hu'
    exact ⟨rfl, .cons (.same _) halike⟩
  | log record _ ih => exact ih (yields_log_iff.mp hx) (yields_log_iff.mp hx') ht ht'

/-- A conversation is determined by the replies it gets. -/
theorem yields_unique {x : Conversation α} {t t' : List Exchange} {a a' : α} (hx : x.Yields t a)
    (hx' : x.Yields t' a') {script : List Answer} (ht : t.map Exchange.answer <+: script)
    (ht' : t'.map Exchange.answer <+: script) : a = a' ∧ t = t' := by
  have alike : x.Alike none none x := .refl x
  obtain ⟨heq, halike⟩ := alike.eq_of_answers hx hx' ht ht'
  have same := halike.imp fun _ _ h => h.eq
  rw [List.forall₂_eq_eq_eq] at same
  exact ⟨heq, same⟩

end Conversation

end DeliveryDesk

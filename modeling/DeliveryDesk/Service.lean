import DeliveryDesk.Fault
import DeliveryDesk.Log
import DeliveryDesk.Model.Subscription
import DeliveryDesk.Model.Delivery
import DeliveryDesk.Model.Health

/-!
# Conversations with the service and the operator

Everything the desk can ask of the delivery service is a `Call`, and every call has one type
of answer. An action of the desk is a `Conversation`: it ends with a result, or makes one call
and goes on with the reply, or asks the operator to confirm something and goes on with the
decision, or notes something in the log and just goes on. A conversation is plain data, so the
calls an action makes, and in which order, can be read off it for every possible reply.

`Conversation.run` holds a conversation against anything that answers, with a state of its
own. Nobody keeps the log then.
-/

namespace DeliveryDesk

/-- What the desk can ask of the service. -/
inductive Call where
  | listSubscriptions (page : Page)
  | getSubscription (id : String)
  | createSubscription (request : NewSubscription)
  | updateSubscription (id : String) (request : SubscriptionChange)
  | deleteSubscription (id : String)
  | sendTest (subscriptionId : String) (payload : Json) (eventType : Option String)
  | getDelivery (taskId : String)
  | listDeliveries (subscriptionId : String) (limit : Option UInt32)
  | status
deriving Repr, BEq

namespace Call

/-- What a successful call brings. -/
abbrev Answer : Call → Type
  | .listSubscriptions _ => List Subscription
  | .getSubscription _ => Subscription
  | .createSubscription _ => Subscription
  | .updateSubscription _ _ => Subscription
  | .deleteSubscription _ => Unit
  | .sendTest _ _ _ => Receipt
  | .getDelivery _ => DeliveryTask
  | .listDeliveries _ _ => List LogEntry
  | .status => HealthSnapshot

/-- How the service answers a call. -/
abbrev Reply (c : Call) : Type := Except Fault c.Answer

end Call

/-- An exchange with the service and the operator that ends with a result. -/
inductive Conversation (α : Type) : Type where
  | done (result : α)
  | ask (call : Call) (next : call.Reply → Conversation α)
  | confirm (prompt : String) (next : Bool → Conversation α)
  | log (record : LogRecord) (rest : Conversation α)

namespace Conversation

variable {α β σ : Type}

/-- Goes on with what a conversation brought. -/
def andThen : Conversation α → (α → Conversation β) → Conversation β
  | .done a, f => f a
  | .ask c next, f => .ask c fun r => (next r).andThen f
  | .confirm p next, f => .confirm p fun b => (next b).andThen f
  | .log record rest, f => .log record (rest.andThen f)

instance : Monad Conversation where
  pure := .done
  bind := andThen

/-- A single call. -/
def call (c : Call) : Conversation c.Reply := .ask c .done

/-- A single record. -/
def note (record : LogRecord) : Conversation Unit := .log record (.done ())

/-- Notes records, in order, before a conversation. -/
def after (records : List LogRecord) (x : Conversation α) : Conversation α :=
  records.foldr .log x

/-- Holds a conversation against a service and an operator that share a state. -/
def run (serve : (c : Call) → σ → c.Reply × σ) (decide : String → σ → Bool × σ) :
    Conversation α → σ → α × σ
  | .done a, s => (a, s)
  | .ask c next, s => let (r, s') := serve c s; run serve decide (next r) s'
  | .confirm p next, s => let (b, s') := decide p s; run serve decide (next b) s'
  | .log _ rest, s => run serve decide rest s

end Conversation

end DeliveryDesk

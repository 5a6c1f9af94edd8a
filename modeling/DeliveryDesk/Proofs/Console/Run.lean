import DeliveryDesk.Console.Basic
import DeliveryDesk.Proofs.Transcript

/-!
# Runs of the console

The operator's actions come one after the other, and each is held with the service to its end.
`Run start h c` says that the console `start` has become `c` by the turns in `h`: every turn is an
action with the replies it got, the decisions that were made in it, and its result. Nothing is
said about the replies, so a statement about all runs covers every pattern of success and failure.

`play_run`: whatever service and operator the actions are held against, what comes out is a run.
-/

namespace DeliveryDesk.Console

/-- What the operator can do with a console. -/
inductive Action where
  | refreshSubscriptions
  | createSubscription (form : SubscriptionForm)
  | openEdit (id : String)
  | submitEdit (form : EditForm)
  | deleteSubscription (id : String)
  | sendTest (form : DispatchForm)
  | checkDeliveryStatus (taskId : String)
  | refreshDeliveryStatus
  | closeInspection
  | setLogLimit (limit : Option UInt32)
  | loadDeliveryLogs (subscriptionId : Option String)
  | loadHealth
  | takeNotifications

/-- What an action reports to its caller. -/
abbrev Action.Result : Action → Type
  | .refreshSubscriptions => Bool
  | .createSubscription _ => Option Subscription
  | .openEdit _ => Option EditForm
  | .submitEdit _ => Option Subscription
  | .deleteSubscription _ => Bool
  | .sendTest _ => Option String
  | .checkDeliveryStatus _ => Bool
  | .refreshDeliveryStatus => Bool
  | .closeInspection => Unit
  | .setLogLimit _ => Unit
  | .loadDeliveryLogs _ => Bool
  | .loadHealth => Bool
  | .takeNotifications => List Notification

/-- Carries an action out. -/
def perform (c : Console) : (a : Action) → Conversation (Console × a.Result)
  | .refreshSubscriptions => c.refreshSubscriptions
  | .createSubscription form => c.createSubscription form
  | .openEdit id => c.openEdit id
  | .submitEdit form => c.submitEdit form
  | .deleteSubscription id => c.deleteSubscription id
  | .sendTest form => c.sendTest form
  | .checkDeliveryStatus taskId => c.checkDeliveryStatus taskId
  | .refreshDeliveryStatus => c.refreshDeliveryStatus
  | .closeInspection => .done (c.closeInspection, ())
  | .setLogLimit limit => .done (c.setLogLimit limit, ())
  | .loadDeliveryLogs subscriptionId => c.loadDeliveryLogs subscriptionId
  | .loadHealth => c.loadHealth
  | .takeNotifications => .done (c.takeNotifications.2, c.takeNotifications.1)

/-- An action that was carried out: what was said in it, and what it reported. -/
structure Turn where
  action : Action
  exchanges : List Exchange
  result : action.Result

/-- A turn takes one console to another. -/
def Turn.Takes (u : Turn) (c c' : Console) : Prop :=
  (c.perform u.action).Yields u.exchanges (c', u.result)

/-- The consoles that turns lead to, the oldest turn first. -/
inductive Run (start : Console) : List Turn → Console → Prop where
  | nil : Run start [] start
  | concat {h : List Turn} {c c' : Console} (before : Run start h c) (u : Turn)
      (takes : u.Takes c c') : Run start (h ++ [u]) c'

/-- Holds actions one after the other against a service and an operator that share a state. -/
def play {σ : Type} (serve : (c : Call) → σ → c.Reply × σ) (decide : String → σ → Bool × σ) :
    Console → List Action → σ → Console × σ
  | c, [], s => (c, s)
  | c, a :: rest, s =>
    let ((c', _), s') := (c.perform a).run serve decide s
    play serve decide c' rest s'

/-- A turn before a run makes a longer run. -/
theorem Run.cons {c c' c'' : Console} {h : List Turn} {u : Turn} (takes : u.Takes c c')
    (rest : Run c' h c'') : Run c (u :: h) c'' := by
  induction rest with
  | nil => exact .concat .nil u takes
  | concat _ v vtakes ih => exact .concat ih v vtakes

theorem run_nil_iff {start c : Console} : Run start [] c ↔ c = start := by
  constructor
  · intro run
    generalize hturns : ([] : List Turn) = turns at run
    cases run with
    | nil => rfl
    | concat => exact absurd hturns (by simp)
  · rintro rfl
    exact .nil

/-- The first turn of a run leads to where the others start. -/
theorem run_cons_iff {start c : Console} {u : Turn} {h : List Turn} :
    Run start (u :: h) c ↔ ∃ b, u.Takes start b ∧ Run b h c := by
  refine ⟨fun run => ?_, fun ⟨b, takes, rest⟩ => rest.cons takes⟩
  generalize hturns : u :: h = turns at run
  induction run generalizing h with
  | nil => cases hturns
  | @concat before c c' run v takes ih =>
    cases before with
    | nil =>
      obtain ⟨rfl, rfl⟩ := List.cons.inj hturns
      obtain rfl := run_nil_iff.mp run
      exact ⟨c', takes, .nil⟩
    | cons w before =>
      obtain ⟨rfl, rfl⟩ := List.cons.inj hturns
      obtain ⟨b, hu, rest⟩ := ih rfl
      exact ⟨b, hu, .concat rest v takes⟩

/-- Every turn of a run was taken from a console that a run leads to. -/
theorem Run.takes_of_mem {start c : Console} {h : List Turn} (run : Run start h c) {u : Turn}
    (hu : u ∈ h) : ∃ h' c₀ c₁, Run start h' c₀ ∧ u.Takes c₀ c₁ := by
  induction run with
  | nil => cases hu
  | @concat h c c' before v takes ih =>
    rcases List.mem_append.mp hu with hbefore | hlast
    · exact ih hbefore
    · rw [List.mem_singleton.mp hlast]
      exact ⟨h, c, c', before, takes⟩

/-- Whatever the actions are held against, what comes out is a run of these actions. -/
theorem play_run {σ : Type} (serve : (c : Call) → σ → c.Reply × σ)
    (decide : String → σ → Bool × σ) (c : Console) (actions : List Action) (s : σ) :
    ∃ h, Run c h (play serve decide c actions s).1 ∧ h.map Turn.action = actions := by
  induction actions generalizing c s with
  | nil => exact ⟨[], .nil, rfl⟩
  | cons a rest ih =>
    obtain ⟨t, ht⟩ := Conversation.run_yields serve decide (c.perform a) s
    obtain ⟨h, hrun, hmap⟩ := ih ((c.perform a).run serve decide s).1.1
      ((c.perform a).run serve decide s).2
    exact ⟨⟨a, t, ((c.perform a).run serve decide s).1.2⟩ :: h, hrun.cons ht,
      congrArg (a :: ·) hmap⟩

end DeliveryDesk.Console

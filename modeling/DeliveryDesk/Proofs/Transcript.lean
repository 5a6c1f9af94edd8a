import DeliveryDesk.Service

/-!
# Transcripts of conversations

A conversation can go as many ways as there are replies and decisions. `Conversation.Yields` says
with which transcript a conversation ends with which result: the transcript lists every call with
the reply it got, and every prompt with the operator's decision, in order. So a statement about
all transcripts of an action is a statement about every service and every operator. What is logged
is no part of a transcript, since nobody answers it.

`run_yields`: whatever a conversation is held against, its course is a transcript. The other
lemmas on `Yields` take transcripts apart along the constructors of a conversation and along
`>>=`. `Ensures` states what holds of all transcripts, and has a rule for each way in which a
conversation is put together.
-/

namespace DeliveryDesk

/-- One turn of a conversation: a call and its reply, or a prompt and what was decided. -/
inductive Exchange where
  | answered (call : Call) (reply : call.Reply)
  | decided (prompt : String) (decision : Bool)

/-- A call that failed was not answered. -/
theorem Exchange.failed_ne_answered {call call' : Call} {fault : Fault} {value : call'.Answer} :
    Exchange.answered call (.error fault) ≠ .answered call' (.ok value) := by
  rintro ⟨⟩

namespace Conversation

variable {α β σ : Type}

/-- A transcript of a conversation, and the result the conversation ends with. -/
inductive Yields : Conversation α → List Exchange → α → Prop where
  | done (a : α) : Yields (.done a) [] a
  | ask {call : Call} {next : call.Reply → Conversation α} {a : α} {t : List Exchange}
      (reply : call.Reply) (rest : Yields (next reply) t a) :
      Yields (.ask call next) (.answered call reply :: t) a
  | confirm {prompt : String} {next : Bool → Conversation α} {a : α} {t : List Exchange}
      (decision : Bool) (rest : Yields (next decision) t a) :
      Yields (.confirm prompt next) (.decided prompt decision :: t) a
  | log {rest : Conversation α} {a : α} {t : List Exchange} (record : LogRecord)
      (unlogged : Yields rest t a) : Yields (.log record rest) t a

/-- However a conversation is held, its course is one of its transcripts. -/
theorem run_yields (serve : (c : Call) → σ → c.Reply × σ) (decide : String → σ → Bool × σ)
    (x : Conversation α) (s : σ) : ∃ t, x.Yields t (run serve decide x s).1 := by
  induction x generalizing s with
  | done a => exact ⟨[], .done a⟩
  | ask c next ih =>
    obtain ⟨t, ht⟩ := ih (serve c s).1 (serve c s).2
    exact ⟨.answered c (serve c s).1 :: t, .ask _ ht⟩
  | confirm p next ih =>
    obtain ⟨t, ht⟩ := ih (decide p s).1 (decide p s).2
    exact ⟨.decided p (decide p s).1 :: t, .confirm _ ht⟩
  | log record rest ih =>
    obtain ⟨t, ht⟩ := ih s
    exact ⟨t, .log record ht⟩

/-- A conversation that has ended has nothing more to say. -/
theorem yields_done_iff {a b : α} {t : List Exchange} :
    (Conversation.done a).Yields t b ↔ t = [] ∧ b = a := by
  constructor
  · rintro ⟨⟩
    exact ⟨rfl, rfl⟩
  · rintro ⟨rfl, rfl⟩
    exact .done b

/-- A transcript of a call starts with a reply to it. -/
theorem yields_ask_iff {call : Call} {next : call.Reply → Conversation α} {a : α}
    {t : List Exchange} : (Conversation.ask call next).Yields t a ↔
      ∃ reply t', t = .answered call reply :: t' ∧ (next reply).Yields t' a := by
  constructor
  · rintro ⟨⟩
    exact ⟨_, _, rfl, ‹_›⟩
  · rintro ⟨reply, t', rfl, rest⟩
    exact .ask reply rest

/-- A transcript of a prompt starts with what the operator decided. -/
theorem yields_confirm_iff {prompt : String} {next : Bool → Conversation α} {a : α}
    {t : List Exchange} : (Conversation.confirm prompt next).Yields t a ↔
      ∃ decision t', t = .decided prompt decision :: t' ∧ (next decision).Yields t' a := by
  constructor
  · rintro ⟨⟩
    exact ⟨_, _, rfl, ‹_›⟩
  · rintro ⟨decision, t', rfl, rest⟩
    exact .confirm decision rest

/-- A record leaves the transcript alone. -/
theorem yields_log_iff {record : LogRecord} {rest : Conversation α} {a : α} {t : List Exchange} :
    (Conversation.log record rest).Yields t a ↔ rest.Yields t a := by
  constructor
  · rintro ⟨⟩
    assumption
  · exact .log record

/-- So do several. -/
theorem yields_after_iff {records : List LogRecord} {x : Conversation α} {a : α}
    {t : List Exchange} : (x.after records).Yields t a ↔ x.Yields t a := by
  induction records with
  | nil => exact Iff.rfl
  | cons record records ih => exact yields_log_iff.trans ih

/-- A conversation that goes on is transcribed part by part. -/
theorem yields_bind_iff {x : Conversation α} {f : α → Conversation β} {b : β}
    {t : List Exchange} : (x >>= f).Yields t b ↔
      ∃ a t₁ t₂, t = t₁ ++ t₂ ∧ x.Yields t₁ a ∧ (f a).Yields t₂ b := by
  change (x.andThen f).Yields t b ↔ _
  constructor
  · intro h
    induction x generalizing t with
    | done a => exact ⟨a, [], t, rfl, .done a, h⟩
    | ask c next ih =>
      obtain ⟨reply, t', rfl, rest⟩ := yields_ask_iff.mp h
      obtain ⟨a, t₁, t₂, rfl, h₁, h₂⟩ := ih reply rest
      exact ⟨a, _, t₂, rfl, .ask reply h₁, h₂⟩
    | confirm p next ih =>
      obtain ⟨decision, t', rfl, rest⟩ := yields_confirm_iff.mp h
      obtain ⟨a, t₁, t₂, rfl, h₁, h₂⟩ := ih decision rest
      exact ⟨a, _, t₂, rfl, .confirm decision h₁, h₂⟩
    | log record rest ih =>
      obtain ⟨a, t₁, t₂, rfl, h₁, h₂⟩ := ih (yields_log_iff.mp h)
      exact ⟨a, t₁, t₂, rfl, .log record h₁, h₂⟩
  · rintro ⟨a, t₁, t₂, rfl, h₁, h₂⟩
    induction h₁ with
    | done a => exact h₂
    | ask reply _ ih => exact .ask reply (ih h₂)
    | confirm decision _ ih => exact .confirm decision (ih h₂)
    | log record _ ih => exact .log record (ih h₂)

/-- The transcript of a single call. -/
theorem yields_call_iff {c : Call} {reply : c.Reply} {t : List Exchange} :
    (call c).Yields t reply ↔ t = [.answered c reply] := by
  constructor
  · intro h
    obtain ⟨r, t', rfl, rest⟩ := yields_ask_iff.mp h
    obtain ⟨rfl, rfl⟩ := yields_done_iff.mp rest
    rfl
  · rintro rfl
    exact .ask reply (.done reply)

/-! ## What holds of every transcript -/

/-- `Q` holds of every transcript of a conversation and of its result. -/
def Ensures (x : Conversation α) (Q : List Exchange → α → Prop) : Prop :=
  ∀ t a, x.Yields t a → Q t a

theorem Ensures.mono {x : Conversation α} {P Q : List Exchange → α → Prop} (h : x.Ensures P)
    (imp : ∀ t a, P t a → Q t a) : x.Ensures Q :=
  fun t a ht => imp t a (h t a ht)

/-- A conversation that is over ensures what holds without any exchange. -/
theorem ensures_done_iff {a : α} {Q : List Exchange → α → Prop} :
    (Conversation.done a).Ensures Q ↔ Q [] a := by
  constructor
  · exact fun h => h [] a (.done a)
  · rintro h t b hb
    obtain ⟨rfl, rfl⟩ := yields_done_iff.mp hb
    exact h

theorem ensures_pure_iff {a : α} {Q : List Exchange → α → Prop} :
    (pure a : Conversation α).Ensures Q ↔ Q [] a :=
  ensures_done_iff

/-- A conversation that asks first ensures what the rest ensures behind every reply. -/
theorem ensures_ask_iff {c : Call} {next : c.Reply → Conversation α}
    {Q : List Exchange → α → Prop} : (Conversation.ask c next).Ensures Q ↔
      ∀ reply, (next reply).Ensures fun t a => Q (.answered c reply :: t) a := by
  constructor
  · exact fun h reply t a ht => h _ a (.ask reply ht)
  · intro h t a ht
    obtain ⟨reply, t', rfl, rest⟩ := yields_ask_iff.mp ht
    exact h reply t' a rest

/-- A single call ensures what holds of every reply to it. -/
theorem ensures_call_iff {c : Call} {Q : List Exchange → c.Reply → Prop} :
    (call c).Ensures Q ↔ ∀ reply, Q [.answered c reply] reply := by
  constructor
  · exact fun h reply => h _ reply (yields_call_iff.mpr rfl)
  · intro h t reply ht
    rw [yields_call_iff.mp ht]
    exact h reply

/-- One that prompts first ensures what the rest ensures behind either decision. -/
theorem ensures_confirm_iff {prompt : String} {next : Bool → Conversation α}
    {Q : List Exchange → α → Prop} : (Conversation.confirm prompt next).Ensures Q ↔
      ∀ decision, (next decision).Ensures fun t a => Q (.decided prompt decision :: t) a := by
  constructor
  · exact fun h decision t a ht => h _ a (.confirm decision ht)
  · intro h t a ht
    obtain ⟨decision, t', rfl, rest⟩ := yields_confirm_iff.mp ht
    exact h decision t' a rest

/-- Records of the log are no exchanges: nothing that is ensured depends on them. -/
theorem ensures_log_iff {record : LogRecord} {rest : Conversation α}
    {Q : List Exchange → α → Prop} : (Conversation.log record rest).Ensures Q ↔ rest.Ensures Q :=
  forall₂_congr fun _ _ => imp_congr_left yields_log_iff

theorem ensures_note_bind_iff {record : LogRecord} {f : Unit → Conversation α}
    {Q : List Exchange → α → Prop} : (note record >>= f).Ensures Q ↔ (f ()).Ensures Q :=
  ensures_log_iff

theorem ensures_after_iff {records : List LogRecord} {x : Conversation α}
    {Q : List Exchange → α → Prop} : (x.after records).Ensures Q ↔ x.Ensures Q :=
  forall₂_congr fun _ _ => imp_congr_left yields_after_iff

/-- The second part of a conversation finishes what the first has begun. -/
theorem ensures_bind_iff {x : Conversation α} {f : α → Conversation β}
    {Q : List Exchange → β → Prop} : (x >>= f).Ensures Q ↔
      x.Ensures fun t₁ a => (f a).Ensures fun t₂ b => Q (t₁ ++ t₂) b := by
  constructor
  · exact fun h t₁ a h₁ t₂ b h₂ => h _ b (yields_bind_iff.mpr ⟨a, t₁, t₂, rfl, h₁, h₂⟩)
  · intro h t b ht
    obtain ⟨a, t₁, t₂, rfl, h₁, h₂⟩ := yields_bind_iff.mp ht
    exact h t₁ a h₁ t₂ b h₂

end Conversation

end DeliveryDesk

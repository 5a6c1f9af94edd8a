import DeliveryDesk.Proofs.Console.Course

/-!
# What the log browser loads

The browser has two ways to load, with opposite manners. Asked for the logs of a subscription, it
makes one call, and a fault of that call is reported and leaves the rows alone. Asked for no
subscription in particular, it never reports a fault: it makes the calls of a fallback
(`LogBrowser.Fallback`), and what they do not bring is not there, the rows before them included.
`load_is_exact` says for both ways which transcripts there are, and what each of them leads to, for
every state of the browser.
-/

namespace DeliveryDesk.Console.LogBrowser

open Conversation Text

variable {b b' : LogBrowser} {t : List Exchange} {result : Except Fault Unit}

/-- The transcripts of a fallback are all there are where no subscription is chosen. -/
theorem defaultEntries_yields_iff {entries : List LogEntry} :
    b.defaultEntries.Yields t entries ↔ b.Fallback t entries := by
  constructor
  · exact b.defaultEntries_ensures t entries
  · intro found
    cases found with
    | unlisted fault => exact .ask _ (.log _ (.done _))
    | nothingListed => exact .ask _ (.done _)
    | unread first rest fault => exact .ask _ (.ask _ (.log _ (.done _)))
    | read first rest entries => exact .ask _ (.ask _ (.done _))

/-- The browser once the logs of a chosen subscription have been asked for, and what is reported:
an answer makes the rows, in its order, and a fault leaves everything as it was. -/
def answered (b : LogBrowser) : Except Fault (List LogEntry) → LogBrowser × Except Fault Unit
  | .ok entries => ({ b with entries }, .ok ())
  | .error fault => (b, .error fault)

/-- The logs of a chosen subscription are asked for once. -/
theorem load_yields_iff_of_chosen {chosen : Option String} {id : String}
    (named : chosen.bind nonBlank? = some id) : (b.load chosen).Yields t (b', result) ↔
      ∃ reply, t = [.answered (.listDeliveries id b.limit) reply] ∧
        (b', result) = b.answered reply := by
  unfold load
  rw [named]
  constructor
  · intro h
    obtain ⟨reply, _, rfl, hrest⟩ := yields_ask_iff.mp h
    cases reply with
    | error fault =>
      obtain ⟨rfl, hend⟩ := yields_done_iff.mp hrest
      exact ⟨.error fault, rfl, hend⟩
    | ok entries =>
      obtain ⟨rfl, hend⟩ := yields_done_iff.mp (yields_log_iff.mp hrest)
      exact ⟨.ok entries, rfl, hend⟩
  · rintro ⟨reply, rfl, hend⟩
    rw [hend]
    cases reply with
    | error fault => exact .ask _ (.done _)
    | ok entries => exact .ask _ (.log _ (.done _))

/-- Without a subscription the rows are those of the fallback. -/
theorem load_yields_iff_of_unchosen {chosen : Option String}
    (unnamed : chosen.bind nonBlank? = none) : (b.load chosen).Yields t (b', result) ↔
      result = .ok () ∧ ∃ entries, b.Fallback t entries ∧ b' = { b with entries } := by
  unfold load
  rw [unnamed]
  refine yields_bind_iff.trans ?_
  constructor
  · rintro ⟨entries, t₁, t₂, rfl, hfound, hdone⟩
    obtain ⟨rfl, ⟨⟩⟩ := yields_done_iff.mp (yields_log_iff.mp hdone)
    rw [List.append_nil]
    exact ⟨rfl, entries, defaultEntries_yields_iff.mp hfound, rfl⟩
  · rintro ⟨rfl, entries, hfound, rfl⟩
    refine ⟨entries, t, [], (List.append_nil t).symm, defaultEntries_yields_iff.mpr hfound, ?_⟩
    exact .log _ (.done _)

/-- **Loading is exact.** With a subscription that is not blank, one call asks for its logs, with
the blanks around it trimmed; they become the rows, in their order, or the fault is reported and the
browser is as it was. With none, or a blank one, no fault is reported; the calls are those of the
fallback, and the rows are what it finds, whatever they were before. -/
theorem load_is_exact (b b' : LogBrowser) (t : List Exchange) (result : Except Fault Unit) :
    (∀ s, trim s ≠ "" → ((b.load (some s)).Yields t (b', result) ↔
      ∃ reply, t = [.answered (.listDeliveries (trim s) b.limit) reply] ∧
        (b', result) = b.answered reply)) ∧
    ∀ chosen : Option String, (∀ s, chosen = some s → trim s = "") →
      ((b.load chosen).Yields t (b', result) ↔
        result = .ok () ∧ ∃ entries, b.Fallback t entries ∧ b' = { b with entries }) := by
  refine ⟨fun s hs => ?_, fun chosen hchosen => ?_⟩
  · have named : (some s).bind nonBlank? = some (trim s) := nonBlank?_eq_some_iff.mpr ⟨hs, rfl⟩
    exact load_yields_iff_of_chosen named
  · have unnamed : chosen.bind nonBlank? = none := by
      cases chosen with
      | none => rfl
      | some s => exact nonBlank?_eq_none_iff.mpr (hchosen s rfl)
    exact load_yields_iff_of_unchosen unnamed

/-- A fault leaves the row on display if its subscription was chosen, and takes it away if it was
not. -/
theorem load_is_exact_faults :
    let row : LogEntry := ⟨none, some "t1", none, none, 1, "SUCCESS", none, none, "2025-05-04"⟩
    let s : Subscription := ⟨"s1", "http://localhost/hook", none, none, none, none⟩
    let b : LogBrowser := { entries := [row], limit := some 5 }
    let fault : Fault := .malformedResponse "cut off"
    (b.load (some " s1 ")).Yields
      [.answered (.listDeliveries "s1" (some 5)) (.error fault)] (b, .error fault) ∧
    (b.load (some " ")).Yields
      [.answered (.listSubscriptions {}) (.ok [s]),
        .answered (.listDeliveries "s1" (some 5)) (.error fault)]
      ({ b with entries := [] }, .ok ()) := by
  intro row s b fault
  have htrim : trim " s1 " = "s1" := by decide
  have hblank : ∀ u, some " " = some u → trim u = "" := by
    rintro _ ⟨⟩
    decide
  constructor
  · refine ((load_is_exact b _ _ _).1 " s1 " (by decide)).mpr ⟨.error fault, ?_, rfl⟩
    rw [htrim]
  · exact ((load_is_exact b _ _ _).2 (some " ") hblank).mpr ⟨rfl, [], .unread s [] fault, rfl⟩

end DeliveryDesk.Console.LogBrowser

import DeliveryDesk.Proofs.Console.Course

/-!
# The registry and the listings of the service

`listings h` are the lists that the service reported in the turns `h`, as far as they were asked
for by an action that reloads the registry. A listing that the log browser asks for is none of
them, and neither is what a change brought.

- `Turn.Takes.registry_eq`: a turn puts its listings into the registry one after the other, and
  does nothing else to it.
- `Run.registry_eq`: so does a run.
- `registry_shows_last_listing`: after a run from a fresh console the registry, its dropdowns and
  its table are those of the last listing.
-/

namespace DeliveryDesk

/-- The list that an exchange brought. -/
def Exchange.listing? : Exchange → Option (List Subscription)
  | .answered (.listSubscriptions _) (.ok subscriptions) => some subscriptions
  | _ => none

namespace Console

open Conversation

/-- Whether an action reloads the subscription list. -/
def Action.reloads : Action → Bool
  | .refreshSubscriptions => true
  | .createSubscription _ => true
  | .submitEdit _ => true
  | .deleteSubscription _ => true
  | _ => false

/-- The lists that a turn brought for the registry. -/
def Turn.listings (u : Turn) : List (List Subscription) :=
  if u.action.reloads then u.exchanges.filterMap Exchange.listing? else []

/-- The lists that turns brought for the registry, the oldest first. -/
def listings (h : List Turn) : List (List Subscription) := h.flatMap Turn.listings

/-! ## The registry after a turn -/

/-- What is left of many lists is the last. -/
theorem Registry.foldl_apply (r : Registry) (lists : List (List Subscription)) :
    lists.foldl apply r = (lists.getLast?.map r.apply).getD r := by
  induction lists generalizing r with
  | nil => rfl
  | cons list rest ih =>
    rw [List.foldl_cons, ih, List.getLast?_cons]
    cases rest.getLast? <;> rfl

/-- A turn puts its listings into the registry, and does nothing else to it. -/
theorem Turn.Takes.registry_eq {u : Turn} {c c' : Console} (takes : u.Takes c c') :
    c'.registry = u.listings.foldl Registry.apply c.registry := by
  cases takes.course with
  | refused => simp [Turn.listings, notify]
  | failed asks => cases asks <;> rfl
  | created asks s reload => cases reload <;> rfl
  | updated asks s reload => cases reload <;> rfl
  | deleted asks reload => cases reload <;> rfl
  -- what the log browser has listed is no listing of its turn
  | browsedFirst => rfl
  | _ => rfl

/-- So does a run. -/
theorem Run.registry_eq {start c : Console} {h : List Turn} (run : Run start h c) :
    c.registry = (listings h).foldl Registry.apply start.registry := by
  induction run with
  | nil => rfl
  | concat _ u takes ih =>
    rw [takes.registry_eq, ih, listings, listings, List.flatMap_append, List.foldl_append,
      List.flatMap_singleton]

/-- **The registry is what was listed last.** After a run from a fresh console the registry holds
the last list that the service reported to it, and none if it reported none; the dropdowns and the
table are made from that list. A turn without a listing of its own keeps the registry. -/
theorem registry_shows_last_listing {page : Page} {h : List Turn} {c : Console}
    (run : Run (({} : Console).withPage page) h c) :
    let list := (listings h).getLast?.getD []
    c.registry.subscriptions = list ∧
      (c.registry.loaded = true ↔ listings h ≠ []) ∧
      c.registry.dispatchOptions =
        ⟨"", dispatchPlaceholder⟩ :: list.map DropdownOption.ofSubscription ∧
      c.registry.logFilterOptions =
        ⟨"", logFilterPlaceholder⟩ :: list.map DropdownOption.ofSubscription ∧
      c.registry.renderTable = ({ subscriptions := list } : Registry).renderTable ∧
      ∀ (u : Turn) (c' : Console), u.Takes c c' → u.listings = [] → c'.registry = c.registry := by
  intro list
  have hc : c.registry = ⟨list, !(listings h).isEmpty, page⟩ := by
    rw [run.registry_eq, Registry.foldl_apply]
    cases hl : (listings h).getLast? with
    | none =>
      rw [List.getLast?_eq_none_iff] at hl
      simp [list, hl, withPage]
    | some l =>
      have hne : listings h ≠ [] := by
        rintro hnil
        rw [hnil] at hl
        cases hl
      simp [list, hl, hne, Registry.apply, withPage]
  refine ⟨by rw [hc], by rw [hc]; simp, by rw [hc]; rfl, by rw [hc]; rfl, by rw [hc]; rfl, ?_⟩
  intro u c' takes hnone
  rw [takes.registry_eq, hnone]
  rfl

/-- A list is loaded; the log browser asks for it anew and gets none; a deletion is accepted, but
the reload after it fails. The list that was loaded is still shown. -/
theorem registry_shows_last_listing_kept :
    let s : Subscription := ⟨"s1", "http://localhost/hook", none, none, none, none⟩
    let refresh : Turn :=
      ⟨.refreshSubscriptions, [.answered (.listSubscriptions {}) (.ok [s])], true⟩
    let browse : Turn :=
      ⟨.loadDeliveryLogs none, [.answered (.listSubscriptions {}) (.ok [])], true⟩
    let delete : Turn :=
      ⟨.deleteSubscription "s1",
        [.decided deletePrompt true, .answered (.deleteSubscription "s1") (.ok ()),
          .answered (.listSubscriptions {}) (.error (.transport "timeout"))], true⟩
    ∃ c, Run (({} : Console).withPage {}) [refresh, browse, delete] c ∧
      c.registry.subscriptions = [s] ∧ c.registry.loaded = true := by
  intro s refresh browse delete
  let shown : Console := { registry := ⟨[s], true, {}⟩ }
  have hrefresh : refresh.Takes (({} : Console).withPage {}) shown := by
    apply Yields.ask
    apply Yields.log
    exact Yields.done _
  have hbrowse : browse.Takes shown shown := by
    apply Yields.ask
    apply Yields.log
    exact Yields.done _
  have hdelete : delete.Takes shown (shown.finishMutation ⟨(), some (.transport "timeout")⟩
      "Subscription deleted successfully!") := by
    have hid : Text.isBlankText "s1" = false := by decide
    rw [Turn.Takes, perform, deleteSubscription, Registry.delete, hid]
    apply Yields.confirm
    apply Yields.ask
    apply Yields.log
    apply Yields.ask
    exact Yields.done _
  have run := Run.cons hrefresh (.cons hbrowse (.cons hdelete .nil))
  obtain ⟨hlist, hloaded, -⟩ := registry_shows_last_listing run
  have hlistings : listings [refresh, browse, delete] = [[s]] := rfl
  rw [hlistings] at hlist hloaded
  exact ⟨_, run, hlist, hloaded.mpr (List.cons_ne_nil _ _)⟩

end Console

end DeliveryDesk

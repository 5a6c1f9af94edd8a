import DeliveryDesk.Client.Basic
import DeliveryDesk.Proofs.Url.Appending

/-!
# Where identifiers stand in an address

Six calls name a subscription or a task by an identifier, which stands in the path of their
request: behind fixed words and possibly in front of others (`Route`).

A plain identifier has a segment of its own there, which stands for that identifier and no other.
So plain identifiers never share an address, and never get to the address of a call without an
identifier, except that a subscription whose identifier is the empty text has the address of the
list.

An identifier that is not plain has no such segment. The names for "here" and "one level up" vanish
from the path, so that the request is about all subscriptions instead of one; and where such a name
only shows once a tab or a line break is dropped, the word in front of it may vanish as well.

Main result: `identifier_has_segment_iff`.
-/

namespace DeliveryDesk.Client

open Url

/-- The addresses with an identifier. -/
inductive Route where
  | subscription
  | deliveryLog
  | dispatch
  | delivery
deriving DecidableEq, Repr

namespace Route

/-- The words in front of the identifier. -/
def front : Route → List String
  | subscription => ["subscriptions"]
  | deliveryLog => ["subscriptions"]
  | dispatch => ["ingest"]
  | delivery => ["ingest", "delivery"]

/-- The words behind the identifier. -/
def back : Route → List String
  | deliveryLog => ["deliveries"]
  | _ => []

theorem words_fixed : IsFixed "subscriptions" ∧ IsFixed "deliveries" ∧ IsFixed "ingest" ∧
    IsFixed "delivery" := by
  decide

/-- All words in front of an identifier are appended as they are. -/
theorem front_fixed (route : Route) : ∀ s ∈ route.front, IsFixed s := by
  obtain ⟨hsubscriptions, -, hingest, hdelivery⟩ := words_fixed
  cases route <;> simp [front, hsubscriptions, hingest, hdelivery]

/-- So are all words behind it. -/
theorem back_fixed (route : Route) : ∀ s ∈ route.back, IsFixed s := by
  cases route <;> simp [back, words_fixed.2.1]

theorem front_eq_concat (route : Route) : ∃ lead word, route.front = lead ++ [word] := by
  cases route with
  | delivery => exact ⟨["ingest"], "delivery", rfl⟩
  | subscription | deliveryLog => exact ⟨[], "subscriptions", rfl⟩
  | dispatch => exact ⟨[], "ingest", rfl⟩

end Route

/-- The address of a call and the identifier in it, if it has one. -/
def routed? : Call → Option (Route × String)
  | .getSubscription id => some (.subscription, id)
  | .updateSubscription id _ => some (.subscription, id)
  | .deleteSubscription id => some (.subscription, id)
  | .listDeliveries id _ => some (.deliveryLog, id)
  | .sendTest id _ _ => some (.dispatch, id)
  | .getDelivery taskId => some (.delivery, taskId)
  | _ => none

/-- The segments of a call with an identifier are those of its route around it. -/
theorem segments_of_routed {call : Call} {route : Route} {id : String}
    (routed : routed? call = some (route, id)) :
    (endpoint call).segments = route.front ++ id :: route.back := by
  cases call with
  | listSubscriptions | createSubscription | status => cases routed
  | _ =>
    cases routed
    rfl

/-- The path of a call below a base path. -/
def path (wellKnown : Bool) (base : List String) (call : Call) : List String :=
  (endpoint call).segments.foldl (push wellKnown) (dropEmptyLast base)

/-! ## The path of a request -/

/-- A client is only made for an address to whose path something can be appended. -/
theorem segments_of_build {baseUrl : String} {userAgent : Option String} {c : Client}
    (built : build baseUrl userAgent = .ok c) : ∃ base, c.base.path = .segments base := by
  unfold build at built
  split at built
  · cases built
  · next base hread =>
    split at built
    · cases built
    · next list hpath =>
      dsimp only at built
      split at built
      · cases built
        exact ⟨list, hpath⟩
      · cases built

/-- A base address with segments is extended by those of the endpoint to the path of the call. -/
theorem extend_endpoint {c : Client} {base : List String} (hbase : c.base.path = .segments base)
    (call : Call) :
    c.base.extend (endpoint call).segments =
      some { c.base with path := .segments (path (isWellKnown c.base.scheme) base call) } := by
  unfold extend
  rw [hbase]
  rfl

/-- Parameters of the query leave the path as it is. -/
theorem appendPair_path (u : Url) (name value : String) :
    (u.appendPair name value).path = u.path := by
  unfold appendPair
  cases u.query <;> rfl

theorem foldl_appendPair_path (u : Url) (pairs : List (String × String)) :
    (pairs.foldl (fun u (name, value) => u.appendPair name value) u).path = u.path := by
  induction pairs generalizing u with
  | nil => rfl
  | cons pair rest ih => rw [List.foldl_cons, ih, appendPair_path]

/-- A request can be made when the service is on the web, and the event type is a header value. -/
theorem request_eq_ok_iff {c : Client} {base : List String} (hbase : c.base.path = .segments base)
    {call : Call} {r : HttpRequest} : c.request call = .ok r ↔
      isWebScheme c.base.scheme = true ∧ (endpoint call).eventType.all isHeaderValue = true ∧
      r = {
        method := (endpoint call).method
        url := (endpoint call).query.foldl (fun u (name, value) => u.appendPair name value)
          { c.base with path := .segments (path (isWellKnown c.base.scheme) base call) }
        userAgent := c.userAgent
        eventType := (endpoint call).eventType
        body := (endpoint call).body.map Json.compact } := by
  simp only [request, extend_endpoint hbase]
  split
  · next husable =>
    rw [Except.ok.injEq, eq_comm]
    exact ⟨fun h => ⟨husable.1, husable.2, h⟩, fun h => h.2.2⟩
  · next hunusable =>
    constructor
    · rintro ⟨⟩
    · exact fun h => absurd ⟨h.1, h.2.1⟩ hunusable

/-- The path of every request that is made is the path of its call. -/
theorem path_of_request {c : Client} {base : List String} (hbase : c.base.path = .segments base)
    {call : Call} {r : HttpRequest} (made : c.request call = .ok r) :
    r.url.path = .segments (path (isWellKnown c.base.scheme) base call) := by
  obtain ⟨-, -, rfl⟩ := (request_eq_ok_iff hbase).mp made
  exact foldl_appendPair_path _ _

/-! ## What stands in the path -/

namespace Route

/-- The words in an address tell the addresses apart. -/
theorem segments_inj {route route' : Route} {s s' : String} :
    route.front ++ s :: route.back = route'.front ++ s' :: route'.back ↔
      route = route' ∧ s = s' := by
  cases route <;> cases route' <;> simp [front, back]

/-- In front of the identifier there are words, the last of which is kept. -/
theorem foldl_push_eq (route : Route) (id : String) (wellKnown : Bool) (list : List String) :
    ∃ lead word, IsFixed word ∧ lead ++ [word] = below list ++ route.front ∧
      (route.front ++ id :: route.back).foldl (push wellKnown) list =
        (id :: route.back).foldl (push wellKnown) (lead ++ [word]) := by
  obtain ⟨lead, word, hfront⟩ := route.front_eq_concat
  have hword : IsFixed word := route.front_fixed word (by simp [hfront])
  have hne : route.front ≠ [] := by simp [hfront]
  refine ⟨below list ++ lead, word, hword, by rw [hfront, List.append_assoc], ?_⟩
  rw [List.foldl_append, foldl_push_fixed route.front_fixed hne, hfront, List.append_assoc]

end Route

/-- A plain identifier stands in its place. -/
theorem path_of_isPlain {call : Call} {route : Route} {id : String}
    (routed : routed? call = some (route, id)) (plain : IsPlain id) (wellKnown : Bool)
    (base : List String) :
    path wellKnown base call = below (dropEmptyLast base) ++
      (route.front ++ encodedSegment wellKnown id :: route.back) := by
  obtain ⟨lead, word, hword, hlead, hpath⟩ :=
    route.foldl_push_eq id wellKnown (dropEmptyLast base)
  rw [path, segments_of_routed routed, hpath,
    foldl_push_of_isPlain hword route.back_fixed plain, hlead, List.append_assoc]

/-- An identifier has a segment in its place exactly if it is plain, unless the base path is made of
two empty segments. -/
theorem has_segment_iff {call : Call} {route : Route} {id : String}
    (routed : routed? call = some (route, id)) (wellKnown : Bool) (base : List String) :
    (∃ segment, path wellKnown base call =
        withoutEmptyLast base ++ route.front ++ segment :: route.back ∧
      decodeText? segment = some id) ↔ IsPlain id ∧ base ≠ ["", ""] := by
  obtain ⟨lead, word, hword, hlead, hpath⟩ :=
    route.foldl_push_eq id wellKnown (dropEmptyLast base)
  constructor
  · rintro ⟨segment, hsegment, hdecoded⟩
    rw [path, segments_of_routed routed, hpath] at hsegment
    have hbase : base ≠ ["", ""] := by
      rintro rfl
      -- both empty segments are lost, one more than the path may do without
      have hlength := congrArg List.length hsegment
      have hle := length_foldl_push_le wellKnown (id :: route.back) (lead ++ [word])
      rw [hlead] at hlength hle
      have hbelow : (below (dropEmptyLast ["", ""])).length = 0 := rfl
      have hwithout : (withoutEmptyLast ["", ""]).length = 1 := rfl
      simp only [List.length_append, List.length_cons] at hlength hle
      omega
    rw [← below_dropEmptyLast hbase, ← hlead] at hsegment
    exact ⟨isPlain_of_foldl_push hword route.back_fixed hsegment hdecoded, hbase⟩
  · rintro ⟨plain, hbase⟩
    refine ⟨encodedSegment wellKnown id, ?_, decodeText?_encodedSegment wellKnown id⟩
    rw [path_of_isPlain routed plain, below_dropEmptyLast hbase, List.append_assoc]

/-- Plain identifiers do not share an address. -/
theorem path_eq_path_iff {call call' : Call} {route route' : Route} {id id' : String}
    (routed : routed? call = some (route, id)) (plain : IsPlain id)
    (routed' : routed? call' = some (route', id')) (plain' : IsPlain id') (wellKnown : Bool)
    (base : List String) :
    path wellKnown base call' = path wellKnown base call ↔ route' = route ∧ id' = id := by
  rw [path_of_isPlain routed plain, path_of_isPlain routed' plain', List.append_cancel_left_eq,
    Route.segments_inj]
  refine and_congr_right fun _ => ⟨encodedSegment_injective, ?_⟩
  rintro rfl
  rfl

/-- A plain identifier gets to the address of a call without one only if it is the empty text. -/
theorem path_unrouted_eq_path_iff {call call' : Call} {route : Route} {id : String}
    (routed : routed? call = some (route, id)) (plain : IsPlain id)
    (unrouted : routed? call' = none) (wellKnown : Bool) (base : List String) :
    path wellKnown base call' = path wellKnown base call ↔
      call' ≠ .status ∧ route = .subscription ∧ id = "" := by
  cases call' with
  | listSubscriptions | createSubscription =>
    -- the list has the address of a subscription whose identifier is empty
    have routed' : routed? (.getSubscription "") = some (.subscription, "") := rfl
    have hlist := path_eq_path_iff routed plain routed' (by decide) wellKnown base
    refine hlist.trans ⟨fun h => ⟨Call.noConfusion, h.1.symm, h.2.symm⟩, ?_⟩
    exact fun h => ⟨h.2.1.symm, h.2.2.symm⟩
  | status =>
    have word : IsFixed "status" := by decide
    have hstatus : path wellKnown base .status = below (dropEmptyLast base) ++ ["status"] :=
      push_of_isFixed word wellKnown (dropEmptyLast base)
    rw [hstatus, path_of_isPlain routed plain, List.append_cancel_left_eq]
    cases route <;> simp [Route.front, Route.back]
  | _ => cases unrouted

/-- **An identifier has a segment of its own exactly if it is plain.** Below every address that a
client can be made for, the path of a call with an identifier is the base path, without the empty
segment it may end with, the words of the call, and in their place one segment that stands for the
identifier, provided that the identifier is plain and that the base path is not just two empty
segments. Otherwise it is not. Plain identifiers never share an address, nor do they get to that of
another call, apart from the empty text, with which a subscription has the address of the list. -/
theorem identifier_has_segment_iff {baseUrl : String} {userAgent : Option String} {c : Client}
    (built : build baseUrl userAgent = .ok c) :
    ∃ (base : List String) (address : Call → List String),
      c.base.path = .segments base ∧
      (∀ call, c.base.extend (endpoint call).segments =
        some { c.base with path := .segments (address call) }) ∧
      (∀ call, isWebScheme c.base.scheme = true →
        (endpoint call).eventType.all isHeaderValue = true → ∃ r, c.request call = .ok r) ∧
      (∀ call r, c.request call = .ok r → r.url.path = .segments (address call)) ∧
      ∀ call route id, routed? call = some (route, id) →
        ((∃ segment,
            address call = withoutEmptyLast base ++ route.front ++ segment :: route.back ∧
            decodeText? segment = some id) ↔ IsPlain id ∧ base ≠ ["", ""]) ∧
        (IsPlain id →
          (∀ call' route' id', routed? call' = some (route', id') → IsPlain id' →
            (address call' = address call ↔ route' = route ∧ id' = id)) ∧
          ∀ call', routed? call' = none →
            (address call' = address call ↔
              call' ≠ .status ∧ route = .subscription ∧ id = "")) := by
  obtain ⟨base, hbase⟩ := segments_of_build built
  refine ⟨base, path (isWellKnown c.base.scheme) base, hbase, extend_endpoint hbase, ?_,
    fun call r made => path_of_request hbase made, ?_⟩
  · intro call web legal
    exact ⟨_, (request_eq_ok_iff hbase).mpr ⟨web, legal, rfl⟩⟩
  · intro call route id routed
    refine ⟨has_segment_iff routed _ base, fun plain => ⟨?_, ?_⟩⟩
    · intro call' route' id' routed' plain'
      exact path_eq_path_iff routed plain routed' plain' _ base
    · intro call' unrouted
      exact path_unrouted_eq_path_iff routed plain unrouted _ base

/-- An identifier of slashes, dots and a percent sign keeps its place below a base path that ends in
a slash. -/
theorem identifier_has_segment_escaped :
    ∃ c, build "http://localhost:8000/api/v1/" none = .ok c ∧
      ∃ r, c.request (.listDeliveries "../%2e" none) = .ok r ∧
        r.target = "/api/v1/subscriptions/..%2F%252e/deliveries" ∧
        ∃ segment, r.url.path = .segments ["api", "v1", "subscriptions", segment, "deliveries"] ∧
          decodeText? segment = some "../%2e" := by
  let base : Url :=
    { scheme := "http", authority := some { host := .domain "localhost", port := some 8000 },
      path := .segments ["api", "v1", ""] }
  have built : build "http://localhost:8000/api/v1/" none = .ok ⟨base, defaultUserAgent⟩ := rfl
  obtain ⟨segments, address, hbase, -, hmade, hpath, hrouted⟩ := identifier_has_segment_iff built
  obtain ⟨r, made⟩ := hmade (.listDeliveries "../%2e" none) (by decide) rfl
  obtain ⟨hsegment, -⟩ := hrouted (.listDeliveries "../%2e" none) .deliveryLog "../%2e" rfl
  obtain ⟨segment, haddress, hdecoded⟩ := hsegment.mpr ⟨by decide, by cases hbase; decide⟩
  refine ⟨_, built, r, made, ?_, segment, ?_, hdecoded⟩
  · have hr := Except.ok.inj made
    rw [← hr]
    rfl
  · rw [hpath _ _ made, haddress]
    cases hbase
    rfl

/-- A client for the address `http://localhost:8000/api/v1` that is asked to delete the subscription
`..` asks to delete what is at the address of all subscriptions, and one that is asked to delete
the subscription made of two points with a tab between them what is one level above that. Neither
path has a segment for the identifier. -/
theorem dots_leave_their_place :
    ∃ c, build "http://localhost:8000/api/v1" none = .ok c ∧
      (∃ r, c.request (.deleteSubscription "..") = .ok r ∧ r.method = .delete ∧
        r.target = "/api/v1/subscriptions" ∧
        ∀ segment, r.url.path ≠ .segments ["api", "v1", "subscriptions", segment]) ∧
      (∃ r, c.request (.deleteSubscription ".\t.") = .ok r ∧ r.method = .delete ∧
        r.target = "/api/v1/" ∧
        ∀ segment, r.url.path ≠ .segments ["api", "v1", "subscriptions", segment]) := by
  refine ⟨_, rfl, ⟨_, rfl, rfl, rfl, fun segment h => ?_⟩, ⟨_, rfl, rfl, rfl, fun segment h => ?_⟩⟩
  · have hlength : 3 = 4 := congrArg List.length (Path.segments.inj h)
    cases hlength
  · have hlength : 3 = 4 := congrArg List.length (Path.segments.inj h)
    cases hlength

end DeliveryDesk.Client

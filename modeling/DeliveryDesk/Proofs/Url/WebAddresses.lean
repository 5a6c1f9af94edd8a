import DeliveryDesk.Client.Basic
import DeliveryDesk.Proofs.Url.HostNames

/-!
# Which web addresses can be used

A web address is a scheme, a host, and much that may stand around it: more slashes than two, a user
name and password, a port, a path, a query, a fragment (`WebParts`). All of it can be told apart in
any text that starts like one (`exists_parts`), but that does not make it a URL. `build_iff` says
what does: the host must be one, and the port a number of sixteen bits, if there is one. Nothing
else matters.
-/

namespace DeliveryDesk.Url

open Text

/-! ## Parts -/

/-- The parts of a web address. -/
structure WebParts where
  scheme : String
  /-- Slashes behind the first two. -/
  slashes : List Char
  /-- The user name and password, with the sign behind them. -/
  credentials : List Char
  host : List Char
  /-- The port, with the colon in front of it. -/
  port : List Char
  /-- The path, the query and the fragment. -/
  tail : List Char

namespace WebParts

/-- What stands between the slashes and the path. -/
def authority (p : WebParts) : List Char := p.credentials ++ (p.host ++ p.port)

/-- The whole address. -/
def chars (p : WebParts) : List Char :=
  p.scheme.toList ++ ':' :: '/' :: '/' :: (p.slashes ++ (p.authority ++ p.tail))

/-- These are the parts of an address, as far as it counts: all slashes of either kind stand in
front of the authority, which ends where the next one stands, or the query or fragment starts; the
last sign in it ends the credentials, and a colon outside of brackets the host. -/
structure Of (p : WebParts) (s : String) : Prop where
  scheme : p.scheme = "http" ∨ p.scheme = "https"
  chars : significant s = p.chars
  slashes : ∀ c ∈ p.slashes, isSeparator true c = true
  behindSlashes : ∀ c ∈ (p.authority ++ p.tail).head?, isSeparator true c = false
  authority : ∀ c ∈ p.authority, endsAuthority true c = false
  tail : ∀ c ∈ p.tail.head?, endsAuthority true c = true
  credentials : p.credentials = [] ∨ ∃ front, p.credentials = front ++ ['@']
  unsigned : '@' ∉ p.host ++ p.port
  host : splitHost false (p.host ++ p.port) = (p.host, p.port)

/-- The port is left out, or a number of sixteen bits, or nothing at all stands behind the colon. -/
def PortFits (cs : List Char) : Prop :=
  cs = [] ∨ ∃ ds, cs = ':' :: ds ∧ AreDigits ds ∧ Nat.ofDigitChars 10 ds 0 ≤ 65535

/-- The host can be read, and the port fits. -/
structure Fits (p : WebParts) : Prop where
  host : ∃ host, Host.read p.host = .ok host
  port : PortFits p.port

end WebParts

/-! ## Splitting -/

/-- Splitting a host from its port loses nothing. -/
theorem splitHost_append (bracketed : Bool) (cs : List Char) :
    (splitHost bracketed cs).1 ++ (splitHost bracketed cs).2 = cs := by
  induction cs generalizing bracketed with
  | nil => rfl
  | cons c cs ih =>
    rw [splitHost]
    by_cases hcolon : c = ':' ∧ bracketed = false
    · rw [if_pos hcolon]
      rfl
    · rw [if_neg hcolon]
      exact congrArg (c :: ·) (ih _)

/-- What stands behind a host starts with a colon. -/
theorem splitHost_behind (bracketed : Bool) (cs : List Char) :
    (splitHost bracketed cs).2 = [] ∨ ∃ rest, (splitHost bracketed cs).2 = ':' :: rest := by
  induction cs generalizing bracketed with
  | nil => exact .inl rfl
  | cons c cs ih =>
    rw [splitHost]
    by_cases hcolon : c = ':' ∧ bracketed = false
    · rw [if_pos hcolon, hcolon.1]
      exact .inr ⟨cs, rfl⟩
    · rw [if_neg hcolon]
      exact ih _

theorem forall_eq_false_of_any {p : Char → Bool} {cs : List Char} (h : cs.any p = false) :
    ∀ c ∈ cs, p c = false := fun c hc => Bool.not_eq_true _ ▸ List.any_eq_false.mp h c hc

/-- The characters up to the first one of a kind. -/
theorem takeWhile_append_of_ends {p : Char → Bool} (front back : List Char)
    (hfront : ∀ c ∈ front, p c = true) (hback : ∀ c ∈ back.head?, p c = false) :
    (front ++ back).takeWhile p = front ∧ (front ++ back).dropWhile p = back := by
  rw [List.takeWhile_append_of_pos hfront, List.dropWhile_append_of_pos hfront]
  cases back with
  | nil => simp
  | cons c back =>
    have hc : ¬ p c = true := by simp [hback c rfl]
    rw [List.takeWhile_cons_of_neg hc, List.dropWhile_cons_of_neg hc]
    exact ⟨List.append_nil front, rfl⟩

/-- A text without the mark is not split. -/
theorem splitLast_of_notMem {mark : Char} {cs : List Char} (h : mark ∉ cs) :
    splitLast mark cs = none := by
  unfold splitLast
  have hdrop : cs.reverse.dropWhile (· != mark) = [] := by
    refine List.dropWhile_eq_nil_iff.mpr fun c hc => ?_
    refine bne_iff_ne.mpr ?_
    rintro rfl
    exact h (List.mem_reverse.mp hc)
  rw [hdrop]

/-- A text is split at a mark behind which no other one stands. -/
theorem splitLast_append {mark : Char} {back : List Char} (front : List Char) (h : mark ∉ back) :
    splitLast mark (front ++ mark :: back) = some (front, back) := by
  have hback : ∀ c ∈ back.reverse, (c != mark) = true := by
    intro c hc
    refine bne_iff_ne.mpr ?_
    rintro rfl
    exact h (List.mem_reverse.mp hc)
  have hmark : ∀ c ∈ (mark :: front.reverse).head?, (c != mark) = false := by
    rintro c ⟨⟩
    exact bne_self_eq_false mark
  have hreverse : (front ++ mark :: back).reverse = back.reverse ++ mark :: front.reverse := by simp
  obtain ⟨htake, hdrop⟩ := takeWhile_append_of_ends (p := fun c => c != mark) _ _ hback hmark
  unfold splitLast
  rw [hreverse, hdrop, htake]
  simp

/-- The last occurrence of a mark. -/
theorem exists_last {mark : Char} {cs : List Char} (h : mark ∈ cs) :
    ∃ front back, cs = front ++ mark :: back ∧ mark ∉ back := by
  obtain ⟨back, front, hcs, hback⟩ := List.eq_append_cons_of_mem (List.mem_reverse.mpr h)
  refine ⟨front.reverse, back.reverse, ?_, mt List.mem_reverse.mp hback⟩
  have hreverse := congrArg List.reverse hcs
  simpa using hreverse

/-! ## Reading -/

namespace WebParts.Of

variable {p : WebParts} {s : String}

theorem isWellKnown (h : p.Of s) : isWellKnown p.scheme = true := by
  rcases h.scheme with hscheme | hscheme
  · rw [hscheme]
    rfl
  · rw [hscheme]
    rfl

/-- The scheme and what stands behind it are found as the parts have them. -/
theorem scheme? (h : p.Of s) : scheme? (significant s) =
    some (p.scheme, '/' :: '/' :: (p.slashes ++ (p.authority ++ p.tail))) := by
  rw [h.chars, WebParts.chars]
  rcases h.scheme with hscheme | hscheme
  · rw [hscheme]
    rfl
  · rw [hscheme]
    rfl

/-- The address is read from its authority on. -/
theorem read_eq (h : p.Of s) :
    Url.read s = readAfterSlashes p.scheme (p.authority ++ p.tail) := by
  have hslashes : ('/' :: '/' :: (p.slashes ++ (p.authority ++ p.tail))).dropWhile
      (isSeparator true) = p.authority ++ p.tail := by
    have hall : ∀ c ∈ '/' :: '/' :: p.slashes, isSeparator true c = true := by
      intro c hc
      simp only [List.mem_cons] at hc
      rcases hc with rfl | rfl | hc
      · rfl
      · rfl
      · exact h.slashes c hc
    exact (takeWhile_append_of_ends _ _ hall h.behindSlashes).2
  have hfile : ¬ p.scheme = fileScheme := by
    rcases h.scheme with hscheme | hscheme
    · rw [hscheme]
      decide
    · rw [hscheme]
      decide
  unfold Url.read
  rw [h.scheme?]
  dsimp only
  rw [if_neg hfile, if_pos h.isWellKnown, hslashes]

end WebParts.Of

/-- A host that is read has a name. -/
theorem Host.ne_empty_of_read {cs : List Char} {host : Host} (h : Host.read cs = .ok host) :
    host ≠ .domain "" := by
  rintro rfl
  unfold Host.read at h
  split at h
  · next rest =>
    unfold Host.ofBrackets at h
    split at h
    · split at h <;> cases h
    · cases h
  · split at h
    · cases h
    · cases h
    · next name hempty hname =>
      split at h
      · split at h <;> cases h
      · have hnil := String.ofList_eq_empty_iff.mp (Host.domain.inj (Except.ok.inj h))
        exact hempty hnil

/-! ### Host and port -/

/-- A step that may fail gives a result exactly if both of its parts do. -/
theorem bind_eq_ok_iff {ε α β : Type} {x : Except ε α} {f : α → Except ε β} {b : β} :
    (x >>= f) = .ok b ↔ ∃ a, x = .ok a ∧ f a = .ok b := by
  cases x with
  | error e => simp [bind, Except.bind]
  | ok a => simp [bind, Except.bind]

theorem not_exists_error_eq_ok {ε α : Type} {e : ε} : ¬ ∃ a : α, Except.error e = .ok a := by
  simp

theorem exists_bind_eq_ok_iff {ε α β : Type} {x : Except ε α} {f : α → Except ε β} :
    (∃ b, (x >>= f) = .ok b) ↔ ∃ a, x = .ok a ∧ ∃ b, f a = .ok b := by
  simp only [bind_eq_ok_iff]
  rw [exists_comm]
  exact exists_congr fun a => exists_and_left

/-- The ports that are read. -/
theorem port_ok_iff (scheme : String) (ds : List Char) :
    (∃ n, port scheme ds = .ok n) ↔ AreDigits ds ∧ Nat.ofDigitChars 10 ds 0 ≤ 65535 := by
  unfold port
  cases hn : numberIn? 10 ds with
  | none =>
    refine iff_of_false not_exists_error_eq_ok ?_
    rintro ⟨hdigits, -⟩
    rw [numberIn?_eq_some_iff.mpr ⟨hdigits, rfl⟩] at hn
    cases hn
  | some n =>
    obtain ⟨hdigits, rfl⟩ := numberIn?_eq_some_iff.mp hn
    dsimp only
    by_cases hlarge : 65535 < Nat.ofDigitChars 10 ds 0
    · rw [if_pos hlarge]
      exact iff_of_false not_exists_error_eq_ok fun h => absurd h.2 (Nat.not_le_of_lt hlarge)
    · rw [if_neg hlarge]
      refine iff_of_true ?_ ⟨hdigits, Nat.le_of_not_lt hlarge⟩
      split
      · exact ⟨none, rfl⟩
      · exact ⟨some _, rfl⟩

theorem portFits_cons_iff (ds : List Char) :
    WebParts.PortFits (':' :: ds) ↔ AreDigits ds ∧ Nat.ofDigitChars 10 ds 0 ≤ 65535 := by
  constructor
  · rintro (h | ⟨ds', hcons, hfits⟩)
    · cases h
    · cases hcons
      exact hfits
  · exact fun h => .inr ⟨ds, rfl, h⟩

/-- A host and its port are read exactly if the host is one and the port fits. -/
theorem readHostAndPort_ok_iff {scheme : String} (wellKnown : isWellKnown scheme = true)
    {host port : List Char} (split : splitHost false (host ++ port) = (host, port))
    (unslashed : '\\' ∉ port) :
    (∃ r, readHostAndPort scheme (host ++ port) = .ok r) ↔
      (∃ h, Host.read host = .ok h) ∧ WebParts.PortFits port := by
  have hbehind : port = [] ∨ ∃ ds, port = ':' :: ds := by
    have hbehind := splitHost_behind false (host ++ port)
    rwa [split] at hbehind
  unfold readHostAndPort
  rw [split, wellKnown]
  dsimp only
  by_cases hempty : host = []
  · subst hempty
    rw [if_pos ⟨rfl, .inl rfl⟩]
    refine iff_of_false not_exists_error_eq_ok ?_
    rintro ⟨⟨_, h⟩, -⟩
    cases h
  · rw [if_neg fun h => hempty (List.isEmpty_iff.mp h.1), if_pos rfl, exists_bind_eq_ok_iff,
      ← exists_and_right]
    refine exists_congr fun h => and_congr_right fun _ => ?_
    rcases hbehind with rfl | ⟨ds, rfl⟩
    · exact iff_of_true ⟨_, rfl⟩ (.inl rfl)
    · have htake : ds.takeWhile (· != '\\') = ds := by
        refine List.takeWhile_eq_self_iff.mpr fun c hc => bne_iff_ne.mpr ?_
        rintro rfl
        exact unslashed (List.mem_cons_of_mem _ hc)
      rw [portFits_cons_iff, ← port_ok_iff scheme ds]
      dsimp only
      rw [htake, exists_bind_eq_ok_iff]
      exact exists_congr fun n => and_iff_left ⟨_, rfl⟩

/-- The host in front of a port has been read. -/
theorem exists_read_of_readHostAndPort {scheme : String} (wellKnown : isWellKnown scheme = true)
    {cs : List Char} {r : Host × Option Nat × List Char} (h : readHostAndPort scheme cs = .ok r) :
    ∃ host, Host.read host = .ok r.1 := by
  unfold readHostAndPort at h
  rw [wellKnown] at h
  dsimp only at h
  split at h
  · cases h
  · rw [if_pos rfl] at h
    obtain ⟨host, hhost, hrest⟩ := bind_eq_ok_iff.mp h
    refine ⟨_, hhost.trans (congrArg Except.ok ?_)⟩
    split at hrest
    · cases hrest
      rfl
    · obtain ⟨n, -, hn⟩ := bind_eq_ok_iff.mp hrest
      cases hn
      rfl

/-! ### Credentials -/

namespace WebParts.Of

variable {p : WebParts} {s : String}

/-- The credentials are told apart from the host. -/
theorem splitLast_authority (h : p.Of s) :
    ∃ front, (splitLast '@' p.authority).getD ([], p.authority) = (front, p.host ++ p.port) := by
  rcases h.credentials with hnone | ⟨front, hsome⟩
  · refine ⟨[], ?_⟩
    rw [WebParts.authority, hnone, List.nil_append, splitLast_of_notMem h.unsigned]
    rfl
  · refine ⟨front, ?_⟩
    rw [WebParts.authority, hsome, List.append_assoc, List.singleton_append,
      splitLast_append front h.unsigned]
    rfl

theorem unslashed_port (h : p.Of s) : '\\' ∉ p.port := by
  intro hmem
  have hauthority := h.authority '\\'
    (List.mem_append_right _ (List.mem_append_right _ hmem))
  cases hauthority

/-- What stands between the slashes and the path is read exactly if the parts fit: the user name and
password never keep it from being read. -/
theorem readAuthority_ok_iff (h : p.Of s) (more : Bool) :
    (∃ r, readAuthority p.scheme p.authority more = .ok r) ↔ p.Fits := by
  obtain ⟨front, hsplit⟩ := h.splitLast_authority
  have hread := readHostAndPort_ok_iff h.isWellKnown h.host h.unslashed_port
  unfold readAuthority
  rw [hsplit]
  dsimp only
  split
  · next hempty =>
    -- credentials alone make no authority
    refine iff_of_false not_exists_error_eq_ok fun hfits => ?_
    obtain ⟨host, hhost⟩ := hfits.host
    rw [(List.append_eq_nil_iff.mp (List.isEmpty_iff.mp hempty.2.1)).1] at hhost
    cases hhost
  · rw [exists_bind_eq_ok_iff]
    constructor
    · rintro ⟨r, hr, -⟩
      obtain ⟨hhost, hport⟩ := hread.mp ⟨r, hr⟩
      exact ⟨hhost, hport⟩
    · rintro ⟨hhost, hport⟩
      obtain ⟨r, hr⟩ := hread.mpr ⟨hhost, hport⟩
      obtain ⟨cs, hcs⟩ := exists_read_of_readHostAndPort h.isWellKnown hr
      refine ⟨r, hr, ?_⟩
      rw [if_neg fun hnone => Host.ne_empty_of_read hcs hnone.1]
      exact ⟨_, rfl⟩

/-! ### The whole address -/

theorem readAfterSlashes_ok_iff (h : p.Of s) :
    (∃ url, readAfterSlashes p.scheme (p.authority ++ p.tail) = .ok url) ↔ p.Fits := by
  have htake : (p.authority ++ p.tail).takeWhile (fun c => !endsAuthority true c) =
      p.authority := by
    refine (takeWhile_append_of_ends _ _ (fun c hc => ?_) fun c hc => ?_).1
    · rw [h.authority c hc]
      rfl
    · rw [h.tail c hc]
      rfl
  unfold readAfterSlashes
  rw [h.isWellKnown]
  dsimp only
  rw [htake, List.drop_left, exists_bind_eq_ok_iff, ← h.readAuthority_ok_iff]
  exact exists_congr fun r => and_iff_left ⟨_, rfl⟩

/-- An address with these parts is a URL exactly if they fit. -/
theorem read_ok_iff (h : p.Of s) : (∃ url, Url.read s = .ok url) ↔ p.Fits := by
  rw [h.read_eq]
  exact h.readAfterSlashes_ok_iff

/-- What is read can be appended to. -/
theorem path_of_readAfterSlashes {scheme : String} {cs : List Char} {url : Url}
    (h : readAfterSlashes scheme cs = .ok url) : ∃ list, url.path = .segments list := by
  obtain ⟨r, -, hr⟩ := bind_eq_ok_iff.mp h
  obtain rfl := Except.ok.inj hr
  unfold withTail pathAfterAuthority
  dsimp only
  split
  · exact ⟨[], rfl⟩
  · exact ⟨_, rfl⟩

/-- **The addresses that a client can be made for** are those whose host and port are fit. -/
theorem build_iff (h : p.Of s) : (∃ client, Client.build s none = .ok client) ↔ p.Fits := by
  rw [← h.read_ok_iff]
  unfold Client.build
  cases hread : Url.read s with
  | error fault => exact iff_of_false not_exists_error_eq_ok not_exists_error_eq_ok
  | ok url =>
    obtain ⟨list, hpath⟩ := path_of_readAfterSlashes (h.read_eq ▸ hread)
    have hagent : isHeaderValue defaultUserAgent = true := by decide +kernel
    dsimp only
    rw [hpath]
    exact iff_of_true ⟨_, if_pos hagent⟩ ⟨url, rfl⟩

/-- Plain names can be used, whatever stands around them. -/
theorem build_of_isPlainName (h : p.Of s) (plain : IsPlainName p.host)
    (port : WebParts.PortFits p.port) : ∃ client, Client.build s none = .ok client :=
  h.build_iff.mpr ⟨⟨_, Host.read_of_isPlainName plain⟩, port⟩

end WebParts.Of

/-! ## Telling the parts apart -/

theorem isMargin_of_isDropped {c : Char} (h : isDropped c = true) : isMargin c = true := by
  simp only [isDropped, Bool.or_eq_true, beq_iff_eq] at h
  obtain (rfl | rfl) | rfl := h <;> rfl

/-- What does not belong to a kind at all stays behind. -/
theorem dropWhile_append_of_none {p : Char → Bool} (front : List Char) {back : List Char}
    (hback : ∀ c ∈ back, p c = false) :
    (front ++ back).dropWhile p = front.dropWhile p ++ back := by
  rw [List.dropWhile_append]
  split
  · next hnone =>
    rw [List.isEmpty_iff.mp hnone]
    exact (takeWhile_append_of_ends [] back (fun c hc => absurd hc List.not_mem_nil)
      fun c hc => hback c (List.mem_of_mem_head? hc)).2
  · rfl

/-- A text without margins at its start keeps it. -/
theorem exists_significant {s : String} {front body : List Char} (hs : s.toList = front ++ body)
    (hfront : ∀ c ∈ front, isMargin c = false) : ∃ rest, significant s = front ++ rest := by
  have hkept : front.filter (fun c => !isDropped c) = front := by
    refine List.filter_eq_self.mpr fun c hc => ?_
    cases hdropped : isDropped c with
    | false => rfl
    | true =>
      have hmargin := isMargin_of_isDropped hdropped
      rw [hfront c hc] at hmargin
      cases hmargin
  cases front with
  | nil => exact ⟨_, rfl⟩
  | cons c front =>
    have hfirst : ¬ isMargin c = true := by simp [hfront c List.mem_cons_self]
    unfold significant
    rw [hs, List.cons_append, List.dropWhile_cons_of_neg hfirst, ← List.cons_append,
      List.reverse_append, dropWhile_append_of_none _ fun c hc => hfront c (List.mem_reverse.mp hc),
      List.reverse_append, List.reverse_reverse, List.filter_append, hkept]
    exact ⟨_, rfl⟩

/-- What is left when a kind of characters is dropped does not start with one. -/
theorem head?_dropWhile {p : Char → Bool} {cs : List Char} :
    ∀ c ∈ (cs.dropWhile p).head?, p c = false := by
  intro c hc
  have hnot := List.head?_dropWhile_not p cs
  rw [Option.mem_def.mp hc] at hnot
  exact hnot

/-- An authority has a host, and may have credentials and a port. -/
theorem exists_authority (cs : List Char) : ∃ credentials host port : List Char,
    cs = credentials ++ (host ++ port) ∧
      (credentials = [] ∨ ∃ front, credentials = front ++ ['@']) ∧
      '@' ∉ host ++ port ∧ splitHost false (host ++ port) = (host, port) := by
  by_cases hsign : '@' ∈ cs
  · obtain ⟨front, back, rfl, hback⟩ := exists_last hsign
    have hsplit := splitHost_append false back
    refine ⟨front ++ ['@'], (splitHost false back).1, (splitHost false back).2, ?_,
      .inr ⟨front, rfl⟩, ?_, ?_⟩
    · rw [hsplit, List.append_assoc]
      rfl
    · rwa [hsplit]
    · rw [hsplit]
  · have hsplit := splitHost_append false cs
    refine ⟨[], (splitHost false cs).1, (splitHost false cs).2, hsplit.symm, .inl rfl, ?_, ?_⟩
    · rwa [hsplit]
    · rw [hsplit]

/-- Every text that starts like a web address has the parts of one. -/
theorem exists_parts {s scheme : String} (hscheme : scheme = "http" ∨ scheme = "https")
    {body : List Char} (hs : s.toList = scheme.toList ++ (':' :: '/' :: '/' :: body)) :
    ∃ p : WebParts, p.Of s := by
  have hmargin : (scheme.toList ++ [':', '/', '/']).any isMargin = false := by
    rcases hscheme with rfl | rfl <;> decide
  have hstart : s.toList = (scheme.toList ++ [':', '/', '/']) ++ body := by
    rw [hs, List.append_assoc]
    rfl
  obtain ⟨rest, hrest⟩ := exists_significant hstart (forall_eq_false_of_any hmargin)
  -- the rest is cut in the order in which it is read
  let behind := rest.dropWhile (isSeparator true)
  let inAuthority := fun c => !endsAuthority true c
  obtain ⟨credentials, host, port, hauthority, hcredentials, hsign, hhost⟩ :=
    exists_authority (behind.takeWhile inAuthority)
  refine ⟨⟨scheme, rest.takeWhile (isSeparator true), credentials, host, port,
    behind.dropWhile inAuthority⟩, ?_⟩
  have hbehind : (credentials ++ (host ++ port)) ++ behind.dropWhile inAuthority = behind := by
    rw [← hauthority]
    exact List.takeWhile_append_dropWhile
  constructor
  · exact hscheme
  · unfold WebParts.chars WebParts.authority
    rw [hrest, hbehind, List.takeWhile_append_dropWhile, List.append_assoc]
    rfl
  · exact fun c => List.mem_takeWhile_imp
  · unfold WebParts.authority
    rw [hbehind]
    exact head?_dropWhile
  · unfold WebParts.authority
    rw [← hauthority]
    intro c hc
    simpa [inAuthority] using List.mem_takeWhile_imp hc
  · intro c hc
    simpa [inAuthority] using head?_dropWhile c hc
  · exact hcredentials
  · exact hsign
  · exact hhost

end DeliveryDesk.Url

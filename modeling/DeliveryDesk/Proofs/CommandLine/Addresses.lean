import DeliveryDesk.Proofs.CommandLine.Persistence
import DeliveryDesk.Proofs.Settings.Editing
import DeliveryDesk.Proofs.Url.WebAddresses

/-!
# Whether the address that is stored can be used

A text is accepted as the address of the service if it starts like a web address. That does not make
it a URL, so a client for it need not exist, and then all commands that need the service are lost:
none of them succeeds, and none of them gets as far as to ask for anything (`Blocks`).

Main statement: `accepted_address_is_usable_iff` tells the addresses that can be used from those
that cannot, and `bare_scheme_is_accepted` is one of these.
-/

namespace DeliveryDesk.CommandLine

open Text Console Errand Url

variable {σ α β : Type}

/-! ## Runs that do not reach the service -/

namespace Run

/-- The service is never asked, and `Q` holds of the result, whatever the operator answers and
whatever the files are like. -/
def StaysAway (Q : α → Prop) : Run α → Prop
  | .done a => Q a
  | .print _ rest => rest.StaysAway Q
  | .warn _ rest => rest.StaysAway Q
  | .ask _ _ _ => False
  | .prompt _ next => ∀ a, (next a).StaysAway Q
  | .readFile _ next => ∀ r, (next r).StaysAway Q
  | .encloseFile _ next => ∀ r, (next r).StaysAway Q
  | .writeFile _ _ next => ∀ r, (next r).StaysAway Q
  | .removeFile _ next => ∀ r, (next r).StaysAway Q
  | .openLog _ rest => rest.StaysAway Q
  | .log _ rest => rest.StaysAway Q

/-- A run that goes on stays away if both parts do. -/
theorem StaysAway.andThen {P : α → Prop} {Q : β → Prop} {r : Run α} {f : α → Run β}
    (h : r.StaysAway P) (next : ∀ a, P a → (f a).StaysAway Q) : (r.andThen f).StaysAway Q := by
  induction r with
  | done a => exact next a h
  | print line rest ih => exact ih h
  | warn line rest ih => exact ih h
  | ask client call next ih => exact h.elim
  | prompt p next ih => exact fun a => ih a (h a)
  | readFile path next ih => exact fun r => ih r (h r)
  | encloseFile path next ih => exact fun r => ih r (h r)
  | writeFile path text next ih => exact fun r => ih r (h r)
  | removeFile path next ih => exact fun r => ih r (h r)
  | openLog filter rest ih => exact ih h
  | log record rest ih => exact ih h

/-- Work on files is nothing to the service. -/
theorem withFiles_service (w : World σ) (r : Except FileFault FileTree) :
    (w.withFiles r).2.service = w.service := by
  cases r <;> rfl

/-- **A run that stays away leaves the service as it is**, however it is carried out. -/
theorem StaysAway.play {Q : α → Prop} {r : Run α} (h : r.StaysAway Q)
    (exchange : HttpRequest → σ → HttpOutcome × σ) (w : World σ) :
    (Run.play exchange r w).2.service = w.service ∧
      ∀ a, (Run.play exchange r w).1 = some a → Q a := by
  induction r generalizing w with
  | done a =>
    refine ⟨rfl, fun b hb => ?_⟩
    obtain rfl := Option.some.inj hb
    exact h
  | print line rest ih => exact ih h _
  | warn line rest ih => exact ih h _
  | ask client call next ih => exact h.elim
  | prompt p next ih =>
    -- only here can the run come to no end, for lack of an answer
    rw [Run.play]
    split
    · exact ih none (h none) w
    · split
      · refine ⟨rfl, fun a ha => ?_⟩
        cases ha
      · exact ih _ (h _) _
  | readFile path next ih => exact ih _ (h _) w
  | encloseFile path next ih =>
    have hservice := withFiles_service w (w.files.encloseFile path)
    rw [← hservice]
    exact ih _ (h _) _
  | writeFile path text next ih =>
    have hservice := withFiles_service w (w.files.write path text)
    rw [← hservice]
    exact ih _ (h _) _
  | removeFile path next ih =>
    have hservice := withFiles_service w (w.files.remove path)
    rw [← hservice]
    exact ih _ (h _) _
  | openLog filter rest ih => exact ih h _
  | log record rest ih => exact ih h _

/-- It does not matter how three runs are put together. -/
theorem andThen_assoc {γ : Type} (r : Run α) (f : α → Run β) (g : β → Run γ) :
    (r.andThen f).andThen g = r.andThen fun a => (f a).andThen g := by
  induction r with
  | done a => rfl
  | print line rest ih => exact congrArg (Run.print line) ih
  | warn line rest ih => exact congrArg (Run.warn line) ih
  | ask client call next ih => exact congrArg (Run.ask client call) (funext ih)
  | prompt p next ih => exact congrArg (Run.prompt p) (funext ih)
  | readFile path next ih => exact congrArg (Run.readFile path) (funext ih)
  | encloseFile path next ih => exact congrArg (Run.encloseFile path) (funext ih)
  | writeFile path text next ih => exact congrArg (Run.writeFile path text) (funext ih)
  | removeFile path next ih => exact congrArg (Run.removeFile path) (funext ih)
  | openLog filter rest ih => exact congrArg (Run.openLog filter) ih
  | log record rest ih => exact congrArg (Run.log record) ih

end Run

namespace Errand

/-- The errand never asks the service. -/
def IsLocal (x : Errand α) : Prop := x.run.StaysAway fun _ => True

/-- The errand never asks the service, and never succeeds. -/
def IsFruitless (x : Errand α) : Prop := x.run.StaysAway fun r => ∀ a, r ≠ .ok a

variable {x : Errand α} {f : α → Errand β}

/-- An errand is local if both its parts are. -/
theorem IsLocal.bind (first : IsLocal x) (second : ∀ a, IsLocal (f a)) : IsLocal (x >>= f) := by
  refine Run.StaysAway.andThen first fun r _ => ?_
  cases r with
  | ok a => exact second a
  | error failure => trivial

/-- A fruitless end makes a local errand fruitless. -/
theorem IsLocal.bind_fruitless (first : IsLocal x) (second : ∀ a, IsFruitless (f a)) :
    IsFruitless (x >>= f) := by
  refine Run.StaysAway.andThen first fun r _ => ?_
  cases r with
  | ok a => exact second a
  | error failure =>
    intro b h
    cases h

/-- What would follow a fruitless errand never happens. -/
theorem IsFruitless.bind (first : IsFruitless x) : IsFruitless (x >>= f) := by
  refine Run.StaysAway.andThen first fun r unsuccessful => ?_
  cases r with
  | ok a => exact absurd rfl (unsuccessful a)
  | error failure =>
    intro b h
    cases h

/-- Prompting the operator is a local matter. -/
theorem isLocal_prompt (p : Prompt) : IsLocal (prompt p) := by
  intro answer
  cases answer with
  | none => trivial
  | some a => trivial

end Errand

/-! ## Commands without a client -/

/-- Whether a command needs the service. -/
def Command.needsService : Command → Bool
  | .version _ => false
  | .config _ => false
  | .completions _ => false
  | _ => true

section Command

variable {v : Viewer} {settings : Settings} {fault : Fault}

theorem givenOr_isLocal (given : Option String) {ask : Errand String} (asks : IsLocal ask) :
    IsLocal (Subscriptions.givenOr given ask) := by
  cases given with
  | none => exact asks
  | some s => trivial

/-- Prompting for all that a new subscription needs does not involve the service. -/
theorem promptCreate_isLocal (secret eventTypes : Option String) :
    IsLocal (Subscriptions.promptCreate secret eventTypes) := by
  unfold Subscriptions.promptCreate
  refine (isLocal_prompt _).bind fun targetUrl => ?_
  refine (givenOr_isLocal secret (isLocal_prompt _)).bind fun secret => ?_
  refine (givenOr_isLocal eventTypes (isLocal_prompt _)).bind fun eventTypes => ?_
  trivial

/-- A payload is given, or read from a file, without the service. -/
theorem payloadOf_isLocal (options : SendOptions) : IsLocal (Deliveries.payloadOf options) := by
  unfold Deliveries.payloadOf
  split
  · trivial
  · intro file
    cases file <;> trivial
  · trivial

/-- Without a client nothing succeeds. -/
theorem clientFor_isFruitless (unbuilt : Client.build settings.apiUrl none = .error fault) :
    IsFruitless (clientFor settings) := by
  unfold clientFor
  rw [unbuilt]
  intro a h
  cases h

/-- Every command that needs the service makes a client before it asks for anything. -/
theorem carryOut_isFruitless (unbuilt : Client.build settings.apiUrl none = .error fault)
    (rounds : Nat) {command : Command} (needs : command.needsService = true) :
    IsFruitless (carryOut v settings rounds command) := by
  -- some prompt or read a file before, but nothing in front of the client asks the service
  have hclient := clientFor_isFruitless unbuilt
  cases command with
  | subscription command =>
    cases command with
    | list page => exact hclient.bind
    | view id => exact hclient.bind
    | create url secret eventTypes =>
      cases url with
      | none =>
        exact (promptCreate_isLocal secret eventTypes).bind_fruitless fun form => hclient.bind
      | some url => exact hclient.bind
    | edit id flags => exact hclient.bind
    | delete id force => exact hclient.bind
  | send options => exact (payloadOf_isLocal options).bind_fruitless fun payload => hclient.bind
  | delivery taskId interactive => exact hclient.bind
  | logs chosen limit => exact hclient.bind
  | health => exact hclient.bind
  | console => exact hclient.bind
  | config command => cases needs
  | completions shell => cases needs
  | version all => cases needs

/-- A command that has not succeeded is reported, and the exit code says so. -/
theorem staysAway_report (verbose : Bool) {r : Except Failure Unit} (h : ∀ a, r ≠ .ok a) :
    (report v verbose r).StaysAway (· = failure) := by
  have hwarnings : ∀ lines : List String,
      (lines.foldr (fun line rest => Run.warn line rest) (.done failure)).StaysAway
        (· = failure) := by
    intro lines
    induction lines with
    | nil => exact rfl
    | cons line lines ih => exact ih
  cases r with
  | ok a => exact absurd rfl (h a)
  | error problem =>
    cases problem with
    | reported => exact rfl
    | failed message causes => exact hwarnings _

end Command

/-! ## Processes without a client -/

section Process

variable {exchange : HttpRequest → σ → HttpOutcome × σ} {v : Viewer} {env : Environment}
  {rounds : Nat} {words : List String} {i : Invocation} {w : World σ} {path : String}
  {p : Preferences} {settings : Settings} {fault : Fault}

/-- What follows an errand that comes to its end, and what follows that. -/
theorem Errand.Ends.play_bind {γ : Type} {x : Errand α} {f : α → Errand β} {a : α} {w' : World σ}
    (first : Ends exchange x w (.ok a) w') (next : Except Failure β → Run γ) :
    Run.play exchange ((x >>= f).run.andThen next) w =
      Run.play exchange ((f a).run.andThen next) w' := by
  show Run.play exchange ((x.run.andThen (ExceptT.bindCont f)).andThen next) w = _
  rw [Run.andThen_assoc, Run.play_andThen (congrArg Prod.fst first), first]
  rfl

/-- The settings are those that the stored preferences resolve to, and the log is told. -/
theorem settingsFor_ends {overrides : Overrides} (known : Stored.path env = pure path)
    (loaded : stored? (w.files.read path) = some p)
    (resolves : p.resolve overrides = .ok settings) :
    Ends exchange (settingsFor env overrides) w (.ok settings)
      { w with log := w.log.add [settingsResolved settings] } := by
  unfold settingsFor
  rw [known]
  refine Ends.bind rfl ((Stored.load_ends loaded).bind ?_)
  rw [resolves]
  rfl

variable (exchange v env rounds) in
/-- A process that needs the service and has no client fails, and does not ask for anything. -/
theorem play_without_client (parsed : Invocation.parse (w.environment env) words = .ok i)
    (needs : i.command.needsService = true) (known : Stored.path (w.environment env) = pure path)
    (loaded : stored? (w.files.read path) = some p)
    (resolves : p.resolve i.overrides = .ok settings)
    (unbuilt : Client.build settings.apiUrl none = .error fault) :
    (Run.play exchange (program v env rounds words) w).2.service = w.service ∧
      ∀ code, (Run.play exchange (program v env rounds words) w).1 = some code →
        code = failure := by
  have hsettings : i.command.needsSettings = true := by
    cases hcommand : i.command <;> rw [hcommand] at needs <;> first | rfl | cases needs
  have ends : Ends exchange (settingsFor (w.environment env) i.overrides)
      (w.opened (i.viewer v) (w.environment env) i) (.ok settings) _ :=
    settingsFor_ends known loaded resolves
  have away : ((carryOut (i.viewer v) settings rounds i.command).run.andThen
      (report (i.viewer v) i.verbose)).StaysAway (· = failure) :=
    (carryOut_isFruitless unbuilt rounds needs).andThen fun r => staysAway_report i.verbose
  rw [play_program_eq exchange v rounds parsed, execute_of_needsSettings rounds hsettings,
    ends.play_bind]
  exact away.play exchange _

/-- While the preferences are stored, no process that needs the service succeeds, nor does it ask
for anything, unless it is given another address. -/
def Blocks (exchange : HttpRequest → σ → HttpOutcome × σ) (p : Preferences) : Prop :=
  ∀ (v : Viewer) (env : Environment) (rounds : Nat) (words : List String) (w : World σ)
    (i : Invocation) (path : String),
    Invocation.parse (w.environment env) words = .ok i → i.command.needsService = true →
    i.overrides.apiUrl = none → Stored.path (w.environment env) = pure path →
    stored? (w.files.read path) = some p →
      (Run.play exchange (program v env rounds words) w).1 ≠ some success ∧
        (Run.play exchange (program v env rounds words) w).2.service = w.service

/-- Preferences block the service if there is no client for their address. -/
theorem blocks_of_unbuilt {url : String} (canonical : p.IsCanonical) (stored : p.apiUrl = some url)
    (unbuilt : Client.build url none = .error fault) : Blocks exchange p := by
  intro v env rounds words w i path parsed needs own known loaded
  obtain ⟨settings, resolves, follows⟩ := canonical.resolve i.overrides
  have haddress : settings.apiUrl = url := by
    have hchosen := follows.apiUrl
    rw [own, stored] at hchosen
    cases hchosen
    rfl
  obtain ⟨hservice, hcode⟩ :=
    play_without_client exchange v env rounds parsed needs known loaded resolves
      (haddress ▸ unbuilt)
  exact ⟨fun h => absurd (hcode _ h) (by decide), hservice⟩

end Process

/-! ## Addresses that are accepted -/

/-- Every address of the web has the parts of one. -/
theorem exists_parts_of_isWeb {url : String} (web : PreferenceKey.IsWeb url) :
    ∃ parts : WebParts, parts.Of url := by
  rcases web with ⟨body, hbody⟩ | ⟨body, hbody⟩
  · exact exists_parts (.inl rfl) hbody.symm
  · exact exists_parts (.inr rfl) hbody.symm

/-- There is a client for the address that is used by default. -/
theorem build_defaultApiUrl : ∃ client, Client.build defaultApiUrl none = .ok client := by
  have hbuilt : (Client.build defaultApiUrl none).toOption.isSome = true := by decide +kernel
  cases hclient : Client.build defaultApiUrl none with
  | ok client => exact ⟨client, rfl⟩
  | error fault =>
    rw [hclient] at hbuilt
    cases hbuilt

/-- Where there is no client, the operator is told for which address. -/
theorem clientFor_ends {settings : Settings} {fault : Fault}
    {exchange : HttpRequest → σ → HttpOutcome × σ}
    (unbuilt : Client.build settings.apiUrl none = .error fault) (w : World σ) :
    Ends exchange (clientFor settings) w
      (.error (.failed ("Could not create a client for " ++ settings.apiUrl) (faultCauses fault)))
      w := by
  unfold clientFor
  rw [unbuilt]
  rfl

/-- **An address that is accepted can be used exactly if its host and port are fit.** Without one
the default address is used, for which there is a client. -/
theorem accepted_address_is_usable_iff (exchange : HttpRequest → σ → HttpOutcome × σ)
    (edits : List Preferences.Edit) :
    ∃ settings, (Preferences.edited edits).resolve {} = .ok settings ∧
      ((Preferences.edited edits).apiUrl = none →
        ∃ client, Client.build settings.apiUrl none = .ok client) ∧
      ∀ url, (Preferences.edited edits).apiUrl = some url →
        (∃ parts : WebParts, parts.Of url) ∧
        ∀ parts : WebParts, parts.Of url →
          ((∃ client, Client.build settings.apiUrl none = .ok client) ↔ parts.Fits) ∧
          (¬ parts.Fits → Blocks exchange (Preferences.edited edits) ∧
            ∃ causes, ∀ w : World σ, Ends exchange (clientFor settings) w
              (.error (.failed ("Could not create a client for " ++ url) causes)) w) := by
  have canonical := Preferences.canonical_edited edits
  obtain ⟨settings, resolves, follows⟩ := canonical.resolve {}
  have hchosen := follows.apiUrl
  refine ⟨settings, resolves, fun unset => ?_, fun url stored => ?_⟩
  · have haddress : settings.apiUrl = defaultApiUrl := by
      rw [unset] at hchosen
      generalize settings.apiUrl = address at hchosen
      cases hchosen
      rfl
    rw [haddress]
    exact build_defaultApiUrl
  · obtain rfl : url = settings.apiUrl := by
      rw [stored] at hchosen
      generalize settings.apiUrl = address at hchosen
      cases hchosen
      rfl
    refine ⟨exists_parts_of_isWeb (canonical.sound.apiUrl_isWeb _ stored), fun parts divides => ?_⟩
    have hbuild := divides.build_iff
    refine ⟨hbuild, fun unfit => ?_⟩
    cases hclient : Client.build settings.apiUrl none with
    | ok client => exact absurd (hbuild.mp ⟨client, hclient⟩) unfit
    | error fault =>
      exact ⟨blocks_of_unbuilt canonical stored hclient, faultCauses fault, clientFor_ends hclient⟩

/-- An address with all parts that there are. -/
def fullAddress : WebParts where
  scheme := "https"
  slashes := []
  credentials := "user@".toList
  host := "Hooks.example".toList
  port := ":8443".toList
  tail := "/base?x#y".toList

theorem fullAddress_of : fullAddress.Of "https://user@Hooks.example:8443/base?x#y" where
  scheme := .inr rfl
  chars := by decide +kernel
  slashes c hc := absurd hc List.not_mem_nil
  behindSlashes := by
    rintro c ⟨⟩
    rfl
  authority := forall_eq_false_of_any (by decide)
  tail := by
    rintro c ⟨⟩
    rfl
  credentials := .inr ⟨"user".toList, rfl⟩
  unsigned := by decide
  host := by decide

/-- A scheme and slashes, and nothing behind them. -/
def bareScheme : WebParts where
  scheme := "https"
  slashes := []
  credentials := []
  host := []
  port := []
  tail := []

theorem bareScheme_of : bareScheme.Of "https://" where
  scheme := .inr rfl
  chars := by decide +kernel
  slashes c hc := absurd hc List.not_mem_nil
  behindSlashes := by
    intro c hc
    cases hc
  authority c hc := absurd hc List.not_mem_nil
  tail := by
    intro c hc
    cases hc
  credentials := .inl rfl
  unsigned := by decide
  host := rfl

/-- What is left behind when a bare scheme is set as the address. -/
def bareSchemeWorld : World Unit :=
  (Run.play unreachable (program {} namedFile 0 ["config", "set", "api_url", "https://"])
    bareWorld).2

/-- There is a client for the full address, and for the bare scheme there is none. -/
theorem accepted_address_is_usable_iff_full :
    (∃ settings client, (Preferences.edited
        [⟨"api_url", " https://user@Hooks.example:8443/base?x#y "⟩]).resolve {} = .ok settings ∧
      Client.build settings.apiUrl none = .ok client) ∧
    (Run.play unreachable (program {} namedFile 0 ["health"]) bareSchemeWorld).1 ≠
      some success := by
  obtain ⟨settings, resolves, -, usable⟩ := accepted_address_is_usable_iff unreachable
    [⟨"api_url", " https://user@Hooks.example:8443/base?x#y "⟩]
  obtain ⟨_, -, -, bare⟩ := accepted_address_is_usable_iff unreachable [⟨"api_url", "https://"⟩]
  have plain : IsPlainName fullAddress.host :=
    ⟨by decide, List.all_eq_true.mp (by decide), by decide +kernel, by decide +kernel⟩
  have fits : fullAddress.Fits :=
    ⟨⟨_, Host.read_of_isPlainName plain⟩, .inr ⟨"8443".toList, rfl, by decide, by decide⟩⟩
  obtain ⟨client, built⟩ := ((usable _ (by decide +kernel)).2 _ fullAddress_of).1.mpr fits
  have unfit : ¬ bareScheme.Fits := by
    rintro ⟨⟨host, hhost⟩, -⟩
    cases hhost
  have blocks := (((bare _ (by decide +kernel)).2 _ bareScheme_of).2 unfit).1
  -- the file that was written holds no variables
  have henvironment : bareSchemeWorld.environment namedFile = namedFile := by decide +kernel
  have known : Stored.path (bareSchemeWorld.environment namedFile) = pure "config.toml" := by
    rw [henvironment]
    rfl
  have blocked := blocks {} namedFile 0 ["health"] bareSchemeWorld
    ⟨{}, defaultLogFilter, false, true, .health⟩ "config.toml" (by decide +kernel) rfl rfl known
    (by decide +kernel)
  exact ⟨⟨settings, client, resolves, built⟩, blocked.1⟩

/-- A bare scheme is accepted as the address, and the health of the service cannot be asked for
then. -/
theorem bare_scheme_is_accepted :
    ({} : Preferences).set "api_url" "https://" = .ok { apiUrl := some "https://" } ∧
      Client.build "https://" none = .error (.url "empty host") ∧
      (Run.play unreachable (program {} namedFile 0 ["config", "set", "api_url", "https://"])
        bareWorld).1 = some success ∧
      (Run.play unreachable (program {} namedFile 0 ["health"]) bareSchemeWorld).1 = some failure ∧
      (Run.play unreachable (program {} namedFile 0 ["health"]) bareSchemeWorld).2.errors =
        ["Error: Could not create a client for https://"] := by
  exact ⟨by decide +kernel, rfl, by decide +kernel, by decide +kernel, by decide +kernel⟩

end DeliveryDesk.CommandLine

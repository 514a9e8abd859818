import Maintainerd.Boot.Posture
import Maintainerd.Http.Capabilities
import Maintainerd.Setup.Gate

/-!
# What a caller without credentials gets

The whole surface under `/api/v1`, as one function of a request: the guard, the router, the probe,
the two routes of setup, and behind them any handlers at all, `api`, on any further state.

A caller without credentials gets to three of the handlers, and `serve_anonymous` says what they do
for it: they leave everything as it is but the memory of the probe, and what they answer depends on
nothing of the installation but what `World.shown` shows.  `anonymous_noninterference` follows any
number of such requests through two histories of an installation that look the same.
-/

set_option autoImplicit false

namespace Maintainerd.Http

variable {ρ β : Type}

/-! ## The surface -/

/-- A request, with the header and the body that setup reads, and what its handler is told. -/
structure Incoming where
  request : Request
  setupToken : String
  body : String
  told : ProbeTold
  busy : Bool
  attempt : Attempt

/-- An answer; what the other handlers answer is a `β`. -/
inductive Answer (β : Type) where
  /-- The router has no handler for it. -/
  | unrouted
  | refused (status : ℕ) (message : String)
  | capabilities (p : CapabilitiesPayload)
  | setup (a : SetupAnswer)
  | api (b : β)

/-- What is served; the other handlers work on the installation and on a `ρ`. -/
structure Site (ρ β : Type) where
  routing : Routing
  guard : Guard
  info : CapabilityInfo
  setup : SetupHandler
  api : Handler → Option Claims → Incoming → World × ρ → (World × ρ) × β

/-- A handler of the surface. -/
def Site.handle (site : Site ρ β) (h : Handler) (claims : Option Claims) (i : Incoming)
    (cache : ProbeCache) (s : World × ρ) : ProbeCache × (World × ρ) × Answer β :=
  if h = ⟨"capabilities", .probe⟩ then
    let out := cache.setupIdentity site.info i.told s.1.row
    (out.1, s, .capabilities (payload site.info site.guard out.2))
  else if h = ⟨"setup", .status⟩ then
    (cache, s, .setup (site.setup.status (i.told.seen s.1.row) i.setupToken
      i.request.authorization))
  else if h = ⟨"setup", .trigger⟩ then
    let out := site.setup.trigger s.1 i.setupToken i.request.authorization i.body i.busy i.attempt
    (cache, (out.1, s.2), .setup out.2)
  else
    let out := site.api h claims i s
    (cache, out.1, .api out.2)

/-- `Router`, under `/api/v1`. -/
def Site.serve (site : Site ρ β) (i : Incoming) (cache : ProbeCache) (s : World × ρ) :
    ProbeCache × (World × ρ) × Answer β :=
  if site.routing.under i.request = false then (cache, s, .unrouted)
  else
    match site.guard.middleware i.request with
    | .refuse status message => (cache, s, .refused status message)
    | .pass claims =>
      match site.routing.handler i.request with
      | none => (cache, s, .unrouted)
      | some h => site.handle h claims i cache s

/-- The request shows nothing that is accepted. -/
structure Site.Anonymous (site : Site ρ β) (i : Incoming) : Prop where
  setupToken : site.setup.gate.tokenMatches i.setupToken = false
  bearer : site.guard.verify (Http.bearer i.request.authorization) = none
  gate : (gateBearer i.request.authorization).bind site.setup.gate.verify = none

/-- What is shown of an installation: whether setup is complete, and then the console's client. -/
def shown (w : World) : Bool × String := consoleIdentity w.row

/-! ## A request without credentials -/

/-- The handlers that are open. -/
theorem open_handlers {routing : Routing} {r : Request} {h : Handler}
    (hr : routing.handler r = some h) (hopen : h.open = true) :
    h = ⟨"capabilities", .probe⟩ ∨ h = ⟨"setup", .status⟩ ∨ h = ⟨"setup", .trigger⟩ := by
  have hall : ∀ m ∈ mounts, ∀ route ∈ m.2, (⟨m.1, route.action⟩ : Handler).open = true →
      (⟨m.1, route.action⟩ : Handler) = ⟨"capabilities", .probe⟩ ∨
        (⟨m.1, route.action⟩ : Handler) = ⟨"setup", .status⟩ ∨
          (⟨m.1, route.action⟩ : Handler) = ⟨"setup", .trigger⟩ := by
    decide
  obtain ⟨m, hm, hsegment, hroute⟩ := routing.registered hr
  obtain ⟨segment, action⟩ := h
  obtain rfl : segment = m.1 := hsegment
  exact hall m hm _ hroute hopen

/-- What a probe remembers and answers is what is shown, or nothing. -/
theorem setupIdentity_congr (cache : ProbeCache) (info : CapabilityInfo) (t : ProbeTold)
    {w w' : World} (h : shown w = shown w') :
    cache.setupIdentity info t w.row = cache.setupIdentity info t w'.row := by
  have hseen : consoleIdentity (t.seen w.row) = consoleIdentity (t.seen w'.row) := by
    rw [ProbeTold.seen, ProbeTold.seen]
    split
    · exact h
    · rfl
  simp only [ProbeCache.setupIdentity, hseen]

theorem setupCompleted_congr (t : ProbeTold) {w w' : World} (h : shown w = shown w') :
    setupCompleted (t.seen w.row) = setupCompleted (t.seen w'.row) := by
  rw [ProbeTold.seen, ProbeTold.seen]
  split
  · rw [← consoleIdentity_fst, ← consoleIdentity_fst]
    exact congrArg Prod.fst h
  · rfl

/-- **A request without credentials changes nothing**, and installations that show the same answer
it alike. -/
theorem serve_anonymous {site : Site ρ β} (hguard : site.guard.mode ≠ .devOpen)
    (hgate : site.setup.gate.dev = false) {i : Incoming} (hi : site.Anonymous i)
    (cache : ProbeCache) :
    (∀ s, (site.serve i cache s).2.1 = s) ∧
      ∀ s s', shown s.1 = shown s'.1 →
        (site.serve i cache s).1 = (site.serve i cache s').1 ∧
          (site.serve i cache s).2.2 = (site.serve i cache s').2.2 := by
  have hauth : site.setup.gate.authorized i.setupToken i.request.authorization = false := by
    rw [Gate.authorized, hi.setupToken, hi.gate]
    rfl
  simp only [Site.serve]
  split
  · exact ⟨fun _ ↦ rfl, fun _ _ _ ↦ ⟨rfl, rfl⟩⟩
  rcases hverdict : site.guard.middleware i.request with claims | ⟨status, message⟩
  · rcases hr : site.routing.handler i.request with _ | h
    · exact ⟨fun _ ↦ rfl, fun _ _ _ ↦ ⟨rfl, rfl⟩⟩
    -- it has passed the guard, so its handler is open
    have hopen : h.open = true := by
      rcases (middleware_pass_iff _ _).mp ⟨claims, hverdict⟩ with hexempt | hdev |
        ⟨-, perm, -, -, c, hverify, -⟩
      · rw [apiSegment_of_handler hr, (guard_of_handler hr).1] at hexempt
        exact hexempt
      · exact absurd hdev hguard
      · rw [hi.bearer] at hverify
        cases hverify
    rcases open_handlers hr hopen with rfl | rfl | rfl
    · refine ⟨fun _ ↦ rfl, fun s s' hshown ↦ ?_⟩
      simp only [Site.handle, if_true, setupIdentity_congr cache site.info i.told hshown, and_self]
    · refine ⟨fun _ ↦ rfl, fun s s' hshown ↦ ⟨rfl, ?_⟩⟩
      show Answer.setup _ = Answer.setup _
      rw [SetupHandler.status_of_not_authorized hauth, SetupHandler.status_of_not_authorized hauth,
        setupCompleted_congr i.told hshown]
    · obtain ⟨answer, hanswer⟩ :=
        SetupHandler.trigger_of_not_authorized hgate hauth i.body i.busy i.attempt
      have hhandle : ∀ s, site.handle ⟨"setup", .trigger⟩ claims i cache s =
          (cache, s, .setup answer) := by
        intro s
        simp only [Site.handle, hanswer]
        rfl
      simp only [hhandle]
      exact ⟨fun _ ↦ trivial, fun _ _ _ ↦ ⟨trivial, trivial⟩⟩
  · exact ⟨fun _ ↦ rfl, fun _ _ _ ↦ ⟨rfl, rfl⟩⟩

/-! ## Any number of them -/

/-- The answers to requests, each of which finds the installation in the state beside it. -/
def Site.answers (site : Site ρ β) : ProbeCache → List (Incoming × World × ρ) → List (Answer β)
  | _, [] => []
  | cache, (i, s) :: rest =>
    (site.serve i cache s).2.2 :: site.answers (site.serve i cache s).1 rest

/-- What a process serves over HTTP; the gate of setup is made of the same verifier. -/
def site (routing : Routing) (p : Process) (c : BootConfig) (info : CapabilityInfo)
    (setup : SetupHandler) (token : String) (digest : String → List UInt8)
    (api : Handler → Option Claims → Incoming → World × ρ → (World × ρ) × β) : Site ρ β where
  routing := routing
  guard := p.httpGuard
  info := info
  setup := { setup with gate := ⟨token, digest, c.isDevelopment, p.httpGuard.verify⟩ }
  api := api

/-- **Without credentials there is one bit and one public name to learn, and nothing to change.**
Take any process that was booted outside development, with any routing and any handlers behind its
guard, and two histories of an installation, given by the states that a series of requests finds it
in.  If no request shows anything that is accepted, and at each one the two histories agree on
whether setup is complete and on the console's client, then the requests are answered alike in both;
and no request changes the state it finds. -/
theorem anonymous_noninterference (routing : Routing) (out : BootEnv) (c : BootConfig)
    (newVerifier : Option (String → Option Claims)) (p : Process)
    (hboot : boot out c newVerifier = .ok p) (hprod : c.appEnv ≠ "development")
    (info : CapabilityInfo) (setup : SetupHandler) (token : String)
    (digest : String → List UInt8)
    (api : Handler → Option Claims → Incoming → World × ρ → (World × ρ) × β) (cache : ProbeCache)
    (xs : List (Incoming × (World × ρ) × (World × ρ)))
    (hxs : ∀ x ∈ xs, (site routing p c info setup token digest api).Anonymous x.1 ∧
      shown x.2.1.1 = shown x.2.2.1) :
    let served := site routing p c info setup token digest api
    served.answers cache (xs.map fun x ↦ (x.1, x.2.1)) =
        served.answers cache (xs.map fun x ↦ (x.1, x.2.2)) ∧
      ∀ x ∈ xs, ∀ cache', (served.serve x.1 cache' x.2.1).2.1 = x.2.1 := by
  intro served
  have hguard : served.guard.mode ≠ .devOpen := by
    rcases boot_closed hboot hprod with ⟨verify, -, hhttp, -⟩ | ⟨hhttp, -⟩
    · show p.httpGuard.mode ≠ .devOpen
      rw [hhttp]
      exact fun e ↦ by cases e
    · show p.httpGuard.mode ≠ .devOpen
      rw [hhttp]
      decide
  have hgate : served.setup.gate.dev = false := beq_false_of_ne hprod
  refine ⟨?_, fun x hx cache' ↦ (serve_anonymous hguard hgate (hxs x hx).1 cache').1 _⟩
  induction xs generalizing cache with
  | nil => rfl
  | cons x xs ih =>
    obtain ⟨hanonymous, hshown⟩ := hxs x List.mem_cons_self
    obtain ⟨hcache, hanswer⟩ := (serve_anonymous hguard hgate hanonymous cache).2 _ _ hshown
    rw [List.map_cons, List.map_cons, Site.answers, Site.answers, hanswer, hcache]
    exact congrArg _ (ih _ fun x hx ↦ hxs x (List.mem_cons_of_mem _ hx))

/-- A configuration that boots; its verifier accepts nothing. -/
def shutConfig : BootConfig :=
  ⟨"production", "https://auth/jwks", "https://auth", "core", "https://auth/token",
    "https://secret", "", 60, 10⟩

def shutEnv : BootEnv :=
  ⟨fun _ ↦ .ok ("https", "secret"), id, fun _ ↦ none, fun _ ↦ none, fun _ ↦ ""⟩

def shutProcess : Process where
  httpGuard := ⟨.enforced, fun _ ↦ none, ""⟩
  grpcGuard := ⟨.enforced, fun _ ↦ none, "", false⟩
  requireClientCert := false
  gateway := newAgentGateway ⟨true, 60, 10⟩ (fun _ ↦ none) (fun _ ↦ none) fun _ ↦ ""

/-- A handler whose gate is put in by `site`. -/
def shutHandler : SetupHandler :=
  ⟨plainSetup, true, ⟨"", fun _ ↦ [], false, fun _ ↦ none⟩, some, fun _ ↦ none, fun _ ↦ ""⟩

/-- Somebody asks for the status of setup with a token that is wrong. -/
def askStatus : Incoming where
  request := ⟨"GET", "/api/v1/setup/status".toList, [], "Bearer x", Or.inl rfl⟩
  setupToken := "guess"
  body := ""
  told := ⟨0, 0, true⟩
  busy := false
  attempt := smooth

/-- An installation where nothing was done, and one where setup got stuck half-way. -/
theorem anonymous_noninterference_half_way :
    let half := attempted plainSetup World.fresh ("", { smooth with createAdmin := .refused })
    let served := site (ρ := Unit) (β := Unit) .plain shutProcess shutConfig
      ⟨"", "", "", "", "", true⟩ shutHandler "secret"
      (fun s ↦ s.toList.map fun c ↦ c.val.toUInt8) fun _ _ _ s ↦ (s, ())
    half ≠ World.fresh ∧
      (served.answers {} [(askStatus, World.fresh, ())]).map (fun
        | .setup a => some a
        | _ => none) = [some (.slim false)] ∧
      served.answers {} [(askStatus, World.fresh, ())] =
        served.answers {} [(askStatus, half, ())] := by
  intro half served
  refine ⟨by decide, by decide +kernel, (anonymous_noninterference .plain shutEnv shutConfig
    (some fun _ ↦ none) shutProcess rfl (by decide) _ shutHandler "secret" _ _ {}
    [(askStatus, (World.fresh, ()), (half, ()))] fun x hx ↦ ?_).1⟩
  obtain rfl := List.mem_singleton.mp hx
  exact ⟨⟨by decide, rfl, Option.bind_fun_none _⟩, by decide⟩

end Maintainerd.Http

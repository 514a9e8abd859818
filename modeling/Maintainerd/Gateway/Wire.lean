import Maintainerd.Boot.Posture
import Maintainerd.Gateway.Principal

/-!
# The gateway on the wire

The RPCs of `Gateway/Rpc.lean` are given their claims.  Here is where these come from: the
interceptors of `internal/grpcserver/interceptor.go` and `mtls.go`, in the order `Serve` puts them
in, in front of a process that was booted from a configuration (`Boot/Posture.lean`).

A run of such a process is a list of `WireTurn`s: a call arrives with whatever metadata and peer it
has, core does something to a resource of its own accord, or a call that was let in makes its next
step.  `gateway_handles_for_verified` is about all of them.  `Enroll` needs no token and is not
among the calls: what it does is in `Agents/JoinToken.lean`, and it writes neither a resource nor
the subject of an agent.
-/

set_option autoImplicit false

namespace Maintainerd

open Interleave Machine
open Http (Claims bearer gatewayPermission)

/-! ## The interceptors -/

/-- The codes a call is turned away with before it gets to the gateway. -/
inductive WireCode where
  | unauthenticated
  | permissionDenied
  | unimplemented
deriving DecidableEq, Repr

/-- A call that is turned away. -/
structure Refusal where
  code : WireCode
  message : String
deriving DecidableEq, Repr

def gatewayService : String := "maintainerd.core.v1.AgentGatewayService"

/-- `AgentGatewayService_Enroll_FullMethodName`. -/
def enrollFullMethodName : String := "/maintainerd.core.v1.AgentGatewayService/Enroll"

/-- `methodPermissions`. -/
def methodPermissions : List (String × String) :=
  [(enrollFullMethodName, ""),
    ("/maintainerd.core.v1.AgentGatewayService/Register", gatewayPermission),
    ("/maintainerd.core.v1.AgentGatewayService/Heartbeat", gatewayPermission),
    ("/maintainerd.core.v1.AgentGatewayService/PullWork", gatewayPermission),
    ("/maintainerd.core.v1.AgentGatewayService/ReportStatus", gatewayPermission)]

/-- `hasHealthPrefix`. -/
def hasHealthPrefix (method : String) : Bool :=
  "/grpc.health.v1.Health/".toList.isPrefixOf method.toList

/-- What is known of the other end: nothing, that it does not use TLS, or the certificates it
presented and the chains that were verified. -/
inductive Peer where
  | missing
  | plain
  | tls (peerCertificates : List String) (verifiedChains : List (List String))

/-- The peer presented a certificate that leads to a CA of the process. -/
def Peer.Trusted (peer : Peer) : Prop :=
  ∃ certs chains, peer = .tls certs chains ∧ certs ≠ [] ∧ chains ≠ []

/-- `RequireClientCertUnaryInterceptor`. -/
def requireClientCertUnary (fullMethod : String) (peer : Peer) : Option Refusal :=
  if fullMethod = enrollFullMethodName ∨ hasHealthPrefix fullMethod = true then none
  else
    match peer with
    | .missing => some ⟨.unauthenticated, "missing peer information"⟩
    | .plain => some ⟨.unauthenticated, "client certificate required"⟩
    | .tls certs chains =>
      if certs = [] then some ⟨.unauthenticated, "client certificate required"⟩
      else if chains = [] then some ⟨.unauthenticated, "client certificate is not trusted"⟩
      else none

/-- `AuthUnaryInterceptor`; the header is the first value of the metadata. -/
def authUnary (verify : String → Option Claims) (fullMethod : String)
    (authorization : Option String) : Except Refusal (Option Claims) :=
  if hasHealthPrefix fullMethod then .ok none
  else if fullMethod = enrollFullMethodName then .ok none
  else if bearer (authorization.getD "") = "" then
    .error ⟨.unauthenticated, "missing bearer token"⟩
  else
    match verify (bearer (authorization.getD "")) with
    | none => .error ⟨.unauthenticated, "invalid token"⟩
    | some claims =>
      match methodPermissions.lookup fullMethod with
      | none => .error ⟨.permissionDenied, "method " ++ fullMethod ++ " has no permission mapping"⟩
      | some required =>
        if required ≠ "" ∧ claims.hasPermission required = false then
          .error ⟨.permissionDenied, "requires permission " ++ required⟩
        else .ok (some claims)

/-! ## The calls -/

/-- The request of a call. -/
inductive GatewayCall where
  | register (agentUuid version : String) (capabilities : List String)
  | heartbeat (agentUuid : String)
  | pullWork (agentUuid : String) (maxItems : Int)
  | reportStatus (agentUuid : String) (reports : List StatusReport)

/-- `FullMethod`. -/
def GatewayCall.fullMethod : GatewayCall → String
  | .register .. => "/maintainerd.core.v1.AgentGatewayService/Register"
  | .heartbeat .. => "/maintainerd.core.v1.AgentGatewayService/Heartbeat"
  | .pullWork .. => "/maintainerd.core.v1.AgentGatewayService/PullWork"
  | .reportStatus .. => "/maintainerd.core.v1.AgentGatewayService/ReportStatus"

/-- The handler of the call, with the claims it finds in its context. -/
def GatewayCall.job (claims : Option String) : GatewayCall → Job
  | .register agentUuid version capabilities => .register claims agentUuid version capabilities
  | .heartbeat agentUuid => .heartbeat claims agentUuid
  | .pullWork agentUuid maxItems => .pullWork claims agentUuid maxItems
  | .reportStatus agentUuid reports => .reportStatus claims agentUuid reports

/-- A call as it arrives. -/
structure WireCall where
  call : GatewayCall
  authorization : Option String
  peer : Peer

/-- What `Serve` puts in front of the gateway: why the call is turned away, or the claims in its
context.  A service that is not registered is refused by the server itself. -/
def Process.intercept (p : Process) (w : WireCall) : Except Refusal (Option Claims) :=
  match p.grpcGuard.mode with
  | .enforced =>
    match if p.requireClientCert then requireClientCertUnary w.call.fullMethod w.peer else none with
    | some e => .error e
    | none => authUnary p.grpcGuard.verify w.call.fullMethod w.authorization
  | .devOpen => .ok none
  | .healthOnly => .error ⟨.unimplemented, "unknown service " ++ gatewayService⟩

/-- What core does to a resource of its own accord, or for a request over HTTP. -/
inductive Operation where
  | create (uuid : Uuid) (input : CreateInput)
  | write (c : Call)
  | flagHostUnreachable (id : Uuid)

def Operation.job : Operation → Job
  | .create uuid input => .create uuid input
  | .write c => .write c
  | .flagHostUnreachable id => .flagHostUnreachable id

/-- A step of a process. -/
inductive WireTurn where
  | call (w : WireCall)
  | operate (o : Operation)
  | resume (i : ℕ) (m : Moment)

/-- What the step is to the gateway: a call that is turned away is nothing. -/
def Process.turns (p : Process) : WireTurn → List Turn
  | .call w =>
    match p.intercept w with
    | .error _ => []
    | .ok claims => [.start (w.call.job (claims.map Claims.subject))]
  | .operate o => [.start o.job]
  | .resume i m => [.resume i m]

/-- Where a list of steps leads a process. -/
def Process.played (p : Process) (env : Env) (db : Db) (ws : List WireTurn) : System :=
  Maintainerd.played env p.gateway db (ws.flatMap p.turns)

/-! ## What a call has shown -/

/-- The call carries a token that is accepted, with the permission and the subject. -/
def WireCall.Shows (w : WireCall) (verify : String → Option Claims) (subject : String) : Prop :=
  ∃ claims, verify (bearer (w.authorization.getD "")) = some claims ∧
    claims.hasPermission gatewayPermission = true ∧ claims.subject = subject

/-- No method of the gateway but `Enroll` gets around the interceptors, and each asks for the one
permission. -/
theorem GatewayCall.guarded (c : GatewayCall) :
    c.fullMethod ≠ enrollFullMethodName ∧ hasHealthPrefix c.fullMethod = false ∧
      methodPermissions.lookup c.fullMethod = some gatewayPermission := by
  have hall : ∀ m ∈ methodPermissions.tail.map Prod.fst, m ≠ enrollFullMethodName ∧
      hasHealthPrefix m = false ∧ methodPermissions.lookup m = some gatewayPermission := by
    decide
  refine hall _ ?_
  cases c <;> simp [fullMethod, methodPermissions]

theorem trusted_of_requireClientCertUnary {c : GatewayCall} {peer : Peer}
    (h : requireClientCertUnary c.fullMethod peer = none) : peer.Trusted := by
  obtain ⟨hmethod, hhealth, -⟩ := c.guarded
  unfold requireClientCertUnary at h
  rw [if_neg (by simp [hmethod, hhealth])] at h
  rcases peer with _ | _ | ⟨certs, chains⟩
  · cases h
  · cases h
  · dsimp only at h
    split at h
    · cases h
    rename_i hcerts
    split at h
    · cases h
    rename_i hchains
    exact ⟨certs, chains, rfl, hcerts, hchains⟩

theorem shows_of_authUnary {w : WireCall} {verify : String → Option Claims}
    {claims : Option Claims} (h : authUnary verify w.call.fullMethod w.authorization = .ok claims) :
    ∃ c, claims = some c ∧ w.Shows verify c.subject := by
  obtain ⟨hmethod, hhealth, hlookup⟩ := w.call.guarded
  rw [authUnary, if_neg (by simp [hhealth]), if_neg hmethod] at h
  split at h
  · cases h
  split at h
  · cases h
  rename_i c hverify
  rw [hlookup] at h
  dsimp only at h
  split at h
  · cases h
  rename_i hperm
  cases h
  refine ⟨c, rfl, c, hverify, ?_, rfl⟩
  rw [not_and, Bool.not_eq_false] at hperm
  exact hperm (by decide)

/-- **What is let in** where the guard is enforced. -/
theorem Process.intercept_enforced {p : Process} (hmode : p.grpcGuard.mode = .enforced)
    {w : WireCall} {claims : Option Claims} (h : p.intercept w = .ok claims) :
    (∃ c, claims = some c ∧ w.Shows p.grpcGuard.verify c.subject) ∧
      (p.requireClientCert = true → w.peer.Trusted) := by
  rw [intercept, hmode] at h
  dsimp only at h
  split at h
  · cases h
  rename_i hcert
  refine ⟨shows_of_authUnary h, fun hrequire ↦ ?_⟩
  rw [if_pos hrequire] at hcert
  exact trusted_of_requireClientCertUnary hcert

/-! ## What a call can say -/

/-- Whatever the event says was handled was handled under a subject of which `P` holds. -/
def Event.Under (P : String → Prop) (e : Event) : Prop :=
  ∀ resource q, e.Handles resource q → P q.subject

section Says

variable {env : Env} {g : AgentGateway} {P : String → Prop}

theorem Event.under_of_quiet (e : Event) (h : ∀ resource q, ¬e.Handles resource q) :
    e.Under P := fun resource q hq ↦ absurd hq (h resource q)

/-- With binding enforced, what is done under the subject of the caller is done under the subject of
the claims. -/
theorem subject_of_callerSubject (henforce : g.opts.enforceBinding = true) {claims : Option String}
    (hclaims : claims.getD "" ≠ "" → P (claims.getD "")) {subject : String}
    (h : g.callerSubject claims = .ok subject) : P subject := by
  rw [AgentGateway.callerSubject, henforce, Bool.not_true, if_neg Bool.false_ne_true] at h
  split at h
  · cases h
  rename_i hne
  cases h
  exact hclaims hne

/-- **A call of the gateway handles under the subject of its claims.** -/
theorem GatewayCall.work_under (henforce : g.opts.enforceBinding = true) {claims : Option String}
    (hclaims : claims.getD "" ≠ "" → P (claims.getD "")) (c : GatewayCall) :
    ((c.job claims).work env g).Says (Event.Under P) := by
  have hsubject : ∀ {subject}, g.callerSubject claims = .ok subject → P subject :=
    fun h ↦ subject_of_callerSubject henforce hclaims h
  cases c with
  | register agentUuid version capabilities => exact says_register Event.under_of_quiet _ _ _ _
  | heartbeat agentUuid => exact says_heartbeat Event.under_of_quiet _ _
  | pullWork agentUuid maxItems =>
    rw [job, Job.work, AgentGateway.pullWork]
    refine says_requireAgent Event.under_of_quiet fun a q hq rows ↦ ⟨?_, trivial⟩
    rintro resource _ ⟨rfl, -⟩
    exact hsubject hq
  | reportStatus agentUuid reports =>
    rw [job, Job.work, AgentGateway.reportStatus]
    refine says_requireAgent Event.under_of_quiet fun a q hq ↦ ?_
    refine says_reportLoop Event.under_of_quiet (fun u resource q' hq' ↦ ?_) reports 0
    rw [← hq'.1]
    exact hsubject hq

/-- What core does of its own accord says nothing. -/
theorem Operation.work_silent {V : Event → Prop} (o : Operation) : (o.job.work env g).Says V := by
  cases o with
  | create uuid input => exact fun _ ↦ trivial
  | write c => exact says_callWork c
  | flagHostUnreachable id => exact fun _ ↦ trivial

/-- What no call that was started can fail to meet, everything said meets. -/
theorem played_meets {V : Event → Prop} {db : Db} {ts : List Turn}
    (hts : ∀ j, .start j ∈ ts → (j.work env g).Says V) :
    ∀ e ∈ (played env g db ts).history, V e := by
  have hguard : Guarded (System.turn env g)
      (fun _ t ↦ ∀ j, t = .start j → (j.work env g).Says V) ⟨db, [], []⟩ ts :=
    guarded_of_forall fun _ t ht j hj ↦ hts j (hj ▸ ht)
  have hsound : Pool.Sound (fun _ _ ↦ True) (fun e _ ↦ V e) (played env g db ts) := by
    refine hguard.invariant (Pool.sound_start db) fun s t hs ht ↦ ?_
    cases t with
    | start j =>
      rw [System.turn]
      refine (Pool.Sound.step (saying_discipline V) hs fun w hw ↦ ?_).2
      cases hw
      exact (ht j rfl).ok _
    | resume i m =>
      rw [System.turn]
      refine (Pool.Sound.step (saying_discipline V) hs fun w hw ↦ ?_).2
      cases hw
  exact hsound.history

end Says

/-! ## A process outside development -/

/-- A call that a step of a process starts came in over the wire and was let in, or is core's
own. -/
theorem Process.start_mem_turns {p : Process} {ws : List WireTurn} {j : Job}
    (h : .start j ∈ ws.flatMap p.turns) :
    (∃ o : Operation, j = o.job) ∨ ∃ w claims, .call w ∈ ws ∧ p.intercept w = .ok claims ∧
      j = w.call.job (claims.map Claims.subject) := by
  obtain ⟨t, ht, hj⟩ := List.mem_flatMap.mp h
  cases t with
  | call w =>
    rw [turns] at hj
    split at hj
    · cases hj
    rename_i claims hlet
    cases List.mem_singleton.mp hj
    exact Or.inr ⟨w, claims, ht, hlet, rfl⟩
  | operate o =>
    cases List.mem_singleton.mp hj
    exact Or.inl ⟨o, rfl⟩
  | resume i m => cases List.mem_singleton.mp hj

/-- A gateway that is not registered handles nothing. -/
theorem Process.played_healthOnly {p : Process} (hmode : p.grpcGuard.mode = .healthOnly)
    (env : Env) (db : Db) (ws : List WireTurn) :
    ∀ e ∈ (p.played env db ws).history, e.Under fun _ ↦ False := by
  refine played_meets fun j hj ↦ ?_
  rcases start_mem_turns hj with ⟨o, rfl⟩ | ⟨w, claims, -, hlet, -⟩
  · exact o.work_silent
  · rw [intercept, hmode] at hlet
    cases hlet

/-- A gateway that is guarded handles under subjects that calls of the run have shown. -/
theorem Process.played_enforced {p : Process} (hmode : p.grpcGuard.mode = .enforced)
    (henforce : p.gateway.opts.enforceBinding = true) (env : Env) (db : Db)
    (ws : List WireTurn) :
    ∀ e ∈ (p.played env db ws).history, e.Under fun subject ↦ subject ≠ "" ∧
      ∃ w, .call w ∈ ws ∧ w.Shows p.grpcGuard.verify subject ∧
        (p.requireClientCert = true → w.peer.Trusted) := by
  refine played_meets fun j hj ↦ ?_
  rcases start_mem_turns hj with ⟨o, rfl⟩ | ⟨w, claims, hw, hlet, rfl⟩
  · exact o.work_silent
  · obtain ⟨⟨c, rfl, hshows⟩, hpeer⟩ := intercept_enforced hmode hlet
    exact w.call.work_under henforce fun hne ↦ ⟨hne, w, hw, hshows, hpeer⟩

/-- **Outside development, work is handed out and reported for verified callers only.**  Take any
configuration that a process boots from with an `APP_ENV` other than `development`, any database,
and any list of steps: calls with any metadata from any peers, core's own operations, and any
interleaving of them.  Whatever the gateway handed out, and whatever report it accepted, it did
under a subject that a call of the run showed in a token with `core:agent:gateway`, accepted by the
verifier of the process, over a connection with a trusted client certificate if there is a CA for
them; and all that had to do with one resource was done as one agent row under one subject.  The
HTTP API lets in nothing but the exempt routes and requests with a token that the same verifier
accepts. -/
theorem gateway_handles_for_verified (env : Env) (out : BootEnv) (c : BootConfig)
    (newVerifier : Option (String → Option Claims)) (p : Process)
    (hboot : boot out c newVerifier = .ok p) (hprod : c.appEnv ≠ "development") (db : Db)
    (ws : List WireTurn) :
    (∀ e ∈ (p.played env db ws).history, ∀ resource q, e.Handles resource q →
      q.subject ≠ "" ∧ ∃ verify w, newVerifier = some verify ∧ .call w ∈ ws ∧
        w.Shows verify q.subject ∧ (c.grpcClientCAFile ≠ "" → w.peer.Trusted)) ∧
    (∀ resource q q', ∀ e ∈ (p.played env db ws).history,
      ∀ e' ∈ (p.played env db ws).history,
      e.Handles resource q → e'.Handles resource q' → q = q') ∧
    ∀ r claims, p.httpGuard.middleware r = .pass claims →
      Http.exempt (Http.apiSegment r.path) r.method = true ∨
        ∃ verify perm, newVerifier = some verify ∧
          Http.demanded (Http.apiSegment r.path) r.method = some perm ∧
          (Http.Guard.mk .enforced verify "").Vouches r perm := by
  rcases boot_closed hboot hprod with ⟨verify, hverify, hhttp, hgrpc, hcert, henforce⟩ |
    ⟨hhttp, hgrpc⟩
  · have hmode : p.grpcGuard.mode = .enforced := by rw [hgrpc]
    refine ⟨fun e he resource q hq ↦ ?_, fun resource q q' e he e' he' hq hq' ↦ ?_,
      fun r claims hpass ↦ ?_⟩
    · obtain ⟨hne, w, hw, hshows, hpeer⟩ :=
        Process.played_enforced hmode henforce env db ws e he resource q hq
      rw [hgrpc] at hshows
      rw [hcert, bne_iff_ne] at hpeer
      exact ⟨hne, verify, w, hverify, hw, hshows, hpeer⟩
    · obtain ⟨-, hsound⟩ := played_settles env henforce db [] (ws.flatMap p.turns)
      exact Principal.eq_of_assigned (hsound.history e he resource q hq)
        (hsound.history e' he' resource q' hq')
    · rw [hhttp] at hpass
      rcases (Http.middleware_pass_iff _ r).mp ⟨claims, hpass⟩ with h | h | ⟨-, perm, h, hvouches⟩
      · exact Or.inl h
      · cases h
      · exact Or.inr ⟨verify, perm, hverify, h, hvouches⟩
  · have hnone := Process.played_healthOnly hgrpc env db ws
    refine ⟨fun e he resource q hq ↦ (hnone e he resource q hq).elim,
      fun resource q q' e he _ _ hq _ ↦ (hnone e he resource q hq).elim, fun r claims hpass ↦ ?_⟩
    rcases (Http.middleware_pass_iff _ r).mp ⟨claims, hpass⟩ with h | h | ⟨h, -⟩
    · exact Or.inl h
    · rw [hhttp] at h
      cases h
    · rw [hhttp] at h
      cases h

/-- A complete configuration, with a CA for client certificates. -/
def productionConfig : BootConfig :=
  ⟨"production", "https://auth/jwks", "https://auth", "core", "https://auth/token",
    "https://secret", "/etc/ca.pem", 60, 10⟩

/-- The names of `plainGateway`, and a parser that knows one URL. -/
def plainBootEnv : BootEnv :=
  ⟨fun _ ↦ .ok ("https", "secret"), id, plainGateway.parseUuid, fun _ ↦ none, fun _ ↦ ""⟩

/-- Two tokens are accepted; the second has no permission. -/
def plainVerifier (token : String) : Option Claims :=
  if token = "a" then some ⟨"alice", [gatewayPermission], []⟩
  else if token = "m" then some ⟨"mallory", [], []⟩
  else none

/-- The process `productionConfig` boots to. -/
def productionProcess : Process where
  httpGuard := ⟨.enforced, plainVerifier, ""⟩
  grpcGuard := ⟨.enforced, plainVerifier, "", false⟩
  requireClientCert := true
  gateway := newAgentGateway ⟨true, 60, 10⟩ plainGateway.parseUuid (fun _ ↦ none) fun _ ↦ ""

/-- A call over a connection with a trusted certificate. -/
def overTls (call : GatewayCall) (header : String) : WireTurn :=
  .call ⟨call, some header, .tls ["cert"] [["cert", "ca"]]⟩

/-- A resource is created, and the agent is claimed by a caller without the permission, by one
without a certificate, and by one with both, who registers and pulls. -/
def contestedWire : List WireTurn :=
  .operate (.create 7 ⟨2, none, "Container", "web", none, none⟩) ::
  overTls (.register "host" "v1" []) "Bearer m" ::
  .call ⟨.register "host" "v1" [], some "Bearer a", .plain⟩ ::
  overTls (.register "host" "v1" []) "Bearer a" ::
  [0, 1, 1, 1, 1, 1, 1].map (.resume · ⟨10, []⟩) ++
  overTls (.pullWork "host" 10) "bearer a" ::
  [2, 2, 2, 2].map (.resume · ⟨10, []⟩)

theorem gateway_handles_for_verified_alice :
    boot plainBootEnv productionConfig (some plainVerifier) = .ok productionProcess ∧
      ((productionProcess.played plainEnv oneAgent contestedWire).history.filterMap fun
        | .pulled q items => some (q, items.map ShippedItem.resourceUuid)
        | _ => none) = [(⟨1, "alice"⟩, [7])] ∧
      ∀ q q', ∀ e ∈ (productionProcess.played plainEnv oneAgent contestedWire).history,
        ∀ e' ∈ (productionProcess.played plainEnv oneAgent contestedWire).history,
        e.Handles 7 q → e'.Handles 7 q' → q = q' :=
  ⟨rfl, by decide +kernel, (gateway_handles_for_verified plainEnv plainBootEnv productionConfig
    (some plainVerifier) productionProcess rfl (by decide) oneAgent contestedWire).2.1 7⟩

/-! ## What setup registers -/

/-- **The permissions setup registers are the ones that are asked for**, by a route of the API or by
a method of the gateway. -/
theorem mem_corePermissions_iff {perm : String} :
    perm ∈ Http.corePermissions ↔
      (∃ segment method, Http.demanded segment method = some perm) ∨
        perm ≠ "" ∧ ∃ method, methodPermissions.lookup method = some perm := by
  have hadmin : Http.demanded "steward" "GET" = some Http.adminPermission := by decide
  have hgateway : methodPermissions.lookup
      "/maintainerd.core.v1.AgentGatewayService/Register" = some gatewayPermission := by decide
  rw [Http.corePermissions, List.mem_cons, List.mem_filter, Http.mem_declaredPermissions]
  constructor
  · rintro (rfl | ⟨⟨rfl | ⟨segment, perms, hperms, rfl | rfl⟩, hne⟩, -⟩)
    · exact Or.inl ⟨_, _, hadmin⟩
    · exact Or.inr ⟨hne, _, hgateway⟩
    · exact Or.inl ⟨segment, "GET", by rw [Http.demanded, hperms]; rfl⟩
    · exact Or.inl ⟨segment, "POST", by rw [Http.demanded, hperms]; rfl⟩
  · intro h
    by_cases hperm : perm = Http.adminPermission
    · exact Or.inl hperm
    refine Or.inr ⟨⟨?_, ?_⟩, by simpa using hperm⟩
    · rcases h with ⟨segment, method, h⟩ | ⟨hne, method, h⟩
      · obtain ⟨perms, hperms, h⟩ := Option.map_eq_some_iff.mp h
        refine Or.inr ⟨segment, perms, hperms, ?_⟩
        split at h
        · exact Or.inl h.symm
        · exact Or.inr h.symm
      · refine Or.inl ?_
        have hall : ∀ m ∈ methodPermissions, m.2 = "" ∨ m.2 = gatewayPermission := by decide
        obtain ⟨l, l', hl, -⟩ := List.lookup_eq_some_iff.mp h
        exact (hall (method, perm) (by rw [hl]; simp)).resolve_left hne
    · rcases h with ⟨segment, method, h⟩ | ⟨hne, -⟩
      · have hall : ∀ m ∈ Http.routePermissions, m.2.read ≠ "" ∧ m.2.write ≠ "" := by decide
        obtain ⟨perms, hperms, h⟩ := Option.map_eq_some_iff.mp h
        obtain ⟨l, l', hl, -⟩ := List.lookup_eq_some_iff.mp hperms
        have hboth := hall (segment, perms) (by rw [hl]; simp)
        split at h
        · exact h ▸ hboth.1
        · exact h ▸ hboth.2
      · exact hne

end Maintainerd

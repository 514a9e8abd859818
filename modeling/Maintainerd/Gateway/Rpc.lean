import Maintainerd.Agents.Service
import Maintainerd.Gateway.Envelope
import Maintainerd.Lib.Run

/-!
# The RPCs of the agent gateway

`Register`, `Heartbeat`, `PullWork` and `ReportStatus` of `internal/grpcserver/server.go`, as tasks
on the database, and the operations of the resource service that run beside them.  Every statement
is an action of its own, so whatever another call does between two statements of an RPC happens
here as well.  An RPC says what it answers, and a report says that it was accepted as soon as the
service has returned; both name the agent row and the verified subject they were made under.

`Turn` is a step of the system: a call comes in, or one of the calls that are under way makes its
next step.  `played` is where a list of turns leads.
-/

set_option autoImplicit false

namespace Maintainerd

open Interleave Machine

/-! ## The gateway -/

/-- `Options`, as far as the four RPCs read them. -/
structure GatewayOptions where
  enforceBinding : Bool
  leaseTTL : Int
  attemptBudget : Int

/-- The gateway, with what it takes from outside: `uuid.Parse`, `json.Unmarshal` into a map, which
fails on anything else than an object, and the texts of the errors of the database. -/
structure AgentGateway where
  opts : GatewayOptions
  parseUuid : String → Option Uuid
  unmarshal : String → Option JsonMap
  queryText : QueryError → String

/-- `NewAgentGateway`. -/
def newAgentGateway (opts : GatewayOptions) (parseUuid : String → Option Uuid)
    (unmarshal : String → Option JsonMap) (queryText : QueryError → String) : AgentGateway where
  opts :=
    { enforceBinding := opts.enforceBinding
      leaseTTL := if opts.leaseTTL ≤ 0 then 60 * 10 ^ 9 else opts.leaseTTL
      attemptBudget := if opts.attemptBudget < 1 then 10 else opts.attemptBudget }
  parseUuid := parseUuid
  unmarshal := unmarshal
  queryText := queryText

/-- `codes.Code`, as far as the gateway uses it. -/
inductive Code where
  | invalidArgument
  | notFound
  | permissionDenied
  | internal
deriving DecidableEq, Repr

/-- `status.Status`. -/
structure Status where
  code : Code
  message : String
deriving DecidableEq, Repr

/-- `toStatus`. -/
def AgentGateway.toStatus (g : AgentGateway) : AppError → Status
  | .notFound entity => ⟨.notFound, entity ++ " not found"⟩
  | .validation reason => ⟨.invalidArgument, reason⟩
  | .forbidden reason => ⟨.permissionDenied, reason⟩
  | .query e => ⟨.internal, g.queryText e⟩

/-! ## What the calls say -/

/-- The agent row a call acts as, and the verified subject it was made under. -/
structure Principal where
  agentID : Int
  subject : String
deriving DecidableEq, Repr

/-- What a call says. -/
inductive Event where
  /-- An RPC fails. -/
  | refused (status : Status)
  /-- `RegisterResponse`. -/
  | registered
  /-- `HeartbeatResponse`. -/
  | beaten
  /-- `PullWorkResponse`. -/
  | pulled (p : Principal) (items : List ShippedItem)
  /-- A report of a `ReportStatus` is accepted. -/
  | accepted (p : Principal) (resource : Uuid)
  /-- `ReportStatusResponse`. -/
  | reported (accepted : ℕ)

/-- An RPC ends with an error. -/
def refuse (status : Status) : Work Event := .say (.refused status) .done

/-! ## The RPCs -/

/-- `callerSubject`; the claims are the subject of the verified token, if there is one. -/
def AgentGateway.callerSubject (g : AgentGateway) (claims : Option String) :
    Except Status String :=
  if !g.opts.enforceBinding then .ok ""
  else if claims.getD "" = "" then
    .error ⟨.permissionDenied, "token has no subject to bind an agent identity to"⟩
  else .ok (claims.getD "")

/-- `requireAgent`: the row, and the subject of the caller. -/
def AgentGateway.requireAgent (g : AgentGateway) (claims : Option String) (agentUuid : String)
    (k : Agent → Principal → Work Event) : Work Event :=
  match g.parseUuid agentUuid with
  | none => refuse ⟨.invalidArgument, "invalid agent_uuid"⟩
  | some id =>
    if !g.opts.enforceBinding then
      getAgent id fun
        | .error e => refuse (g.toStatus e)
        | .ok a => k a ⟨a.agentID, ""⟩
    else
      match g.callerSubject claims with
      | .error status => refuse status
      | .ok subject =>
        requireSubject id subject fun
          | .error e => refuse (g.toStatus e)
          | .ok a => k a ⟨a.agentID, subject⟩

/-- **What `requireAgent` comes to**, with nothing else going on: the RPC is refused, or it goes on
with the live row it was named, whose tenant is there. -/
theorem AgentGateway.alone_requireAgent (g : AgentGateway) (claims : Option String)
    (agentUuid : String) (k : Agent → Principal → Work Event) (m : Moment) (db : Db) :
    (∃ status, (g.requireAgent claims agentUuid k).alone m db = (db, [.refused status])) ∨
      ∃ id a p, g.parseUuid agentUuid = some id ∧ getAgentByUUID db id = some a ∧
        (getTenantByID db a.tenantID).isSome = true ∧ p.agentID = a.agentID ∧
        (g.requireAgent claims agentUuid k).alone m db = (k a p).alone m db := by
  rw [requireAgent]
  split
  · exact Or.inl ⟨_, rfl⟩
  rename_i id hid
  split
  · rw [getAgent, alone_query]
    rcases ha : getAgentByUUID db id with _ | a
    · exact Or.inl ⟨_, rfl⟩
    rcases ht : getTenantByID db a.tenantID with _ | t <;>
      simp only [resolveTenantUUID, alone_query, ht]
    · exact Or.inl ⟨_, rfl⟩
    · exact Or.inr ⟨id, a, ⟨a.agentID, ""⟩, hid, ha, Option.isSome_of_eq_some ht, rfl, rfl⟩
  split
  · exact Or.inl ⟨_, rfl⟩
  rename_i subject hsubject
  rw [requireSubject, alone_query]
  rcases ha : getAgentByUUID db id with _ | a
  · exact Or.inl ⟨_, rfl⟩
  dsimp only
  split
  · exact Or.inl ⟨_, rfl⟩
  split
  · exact Or.inl ⟨_, rfl⟩
  rcases ht : getTenantByID db a.tenantID with _ | t <;>
    simp only [resolveTenantUUID, alone_query, ht]
  · exact Or.inl ⟨_, rfl⟩
  · exact Or.inr ⟨id, a, ⟨a.agentID, subject⟩, hid, ha, Option.isSome_of_eq_some ht, rfl, rfl⟩

/-- The part of `Register` after the subject is bound. -/
def AgentGateway.registerOnline (g : AgentGateway) (id : Uuid) (version : String)
    (capabilities : List String) : Work Event :=
  updateAgentRow id ⟨"online", "", version, capabilities⟩ fun
    | .error e => refuse (g.toStatus e)
    | .ok _ => .say .registered .done

/-- `Register`. -/
def AgentGateway.register (g : AgentGateway) (claims : Option String) (agentUuid version : String)
    (capabilities : List String) : Work Event :=
  match g.parseUuid agentUuid with
  | none => refuse ⟨.invalidArgument, "invalid agent_uuid"⟩
  | some id =>
    if !g.opts.enforceBinding then g.registerOnline id version capabilities
    else
      match g.callerSubject claims with
      | .error status => refuse status
      | .ok subject =>
        bindSubject id subject fun
          | .error e => refuse (g.toStatus e)
          | .ok _ => g.registerOnline id version capabilities

/-- `Heartbeat`. -/
def AgentGateway.heartbeat (g : AgentGateway) (claims : Option String) (agentUuid : String) :
    Work Event :=
  g.requireAgent claims agentUuid fun a _ ↦
    heartbeatAgent a.agentUuid fun
      | .error e => refuse (g.toStatus e)
      | .ok _ => .say .beaten .done

/-- `PullWork`. -/
def AgentGateway.pullWork (g : AgentGateway) (claims : Option String) (agentUuid : String)
    (maxItems : Int) : Work Event :=
  g.requireAgent claims agentUuid fun a p ↦
    .act (fun m db ↦ claimForAgent db m.now a.agentID maxItems g.opts.leaseTTL m.locked) fun rows ↦
      .say (.pulled p (rows.map fun r ↦ ship (toWorkItem r))) .done

/-- `StatusReport`. -/
structure StatusReport where
  resourceUuid : String
  state : String
  statusJson : String
  observedGeneration : Int

/-- What the gateway makes of a report. -/
def AgentGateway.reportInput (g : AgentGateway) (rep : StatusReport) : AgentReportInput where
  state := rep.state
  status := if rep.statusJson = "" then none else g.unmarshal rep.statusJson
  observedGeneration := rep.observedGeneration

/-- The loop of `ReportStatus`, with the reports left and the number accepted so far.  A report
that fails is passed over. -/
def AgentGateway.reportLoop (g : AgentGateway) (env : Env) (a : Agent) (p : Principal) :
    List StatusReport → ℕ → Work Event
  | [], accepted => .say (.reported accepted) .done
  | rep :: reports, accepted =>
    match g.parseUuid rep.resourceUuid with
    | none => g.reportLoop env a p reports accepted
    | some id =>
      .act (fun m db ↦ (db, (Call.applyAgentReport a.agentID id (g.reportInput rep)
        g.opts.attemptBudget).read env db m.now)) fun
        | .error _ => g.reportLoop env a p reports accepted
        | .ok st =>
          .act (fun m db ↦ st.write db m.now) fun
            | .error _ => g.reportLoop env a p reports accepted
            | .ok _ => .say (.accepted p id) (g.reportLoop env a p reports (accepted + 1))

/-- `ReportStatus`. -/
def AgentGateway.reportStatus (g : AgentGateway) (env : Env) (claims : Option String)
    (agentUuid : String) (reports : List StatusReport) : Work Event :=
  g.requireAgent claims agentUuid fun a p ↦ g.reportLoop env a p reports 0

/-! ## The calls of the system -/

/-- A call: an RPC under some claims, or an operation of the resource service. -/
inductive Job where
  | register (claims : Option String) (agentUuid version : String) (capabilities : List String)
  | heartbeat (claims : Option String) (agentUuid : String)
  | pullWork (claims : Option String) (agentUuid : String) (maxItems : Int)
  | reportStatus (claims : Option String) (agentUuid : String) (reports : List StatusReport)
  | create (uuid : Uuid) (input : CreateInput)
  | write (c : Call)
  | flagHostUnreachable (id : Uuid)

/-- A writer of the resource service, with its read and its write apart. -/
def callWork (env : Env) (c : Call) : Work Event :=
  .act (fun m db ↦ (db, c.read env db m.now)) fun
    | .error _ => .done
    | .ok st => .act (fun m db ↦ st.write db m.now) fun _ ↦ .done

/-- What a call does. -/
def Job.work (env : Env) (g : AgentGateway) : Job → Work Event
  | .register claims agentUuid version capabilities =>
    g.register claims agentUuid version capabilities
  | .heartbeat claims agentUuid => g.heartbeat claims agentUuid
  | .pullWork claims agentUuid maxItems => g.pullWork claims agentUuid maxItems
  | .reportStatus claims agentUuid reports => g.reportStatus env claims agentUuid reports
  | .create uuid input => .act (fun m db ↦ Maintainerd.create env db m.now uuid input) fun _ ↦ .done
  | .write c => callWork env c
  | .flagHostUnreachable id =>
    .act (fun m db ↦ Maintainerd.flagHostUnreachable db m.now id) fun _ ↦ .done

/-- A step of the system. -/
inductive Turn where
  /-- A call comes in. -/
  | start (j : Job)
  /-- The i-th call makes its next step. -/
  | resume (i : ℕ) (m : Moment)

/-- The database, the calls under way, and what was said so far. -/
abbrev System : Type 1 := Pool Moment Db Event

/-- What a turn does. -/
def System.turn (env : Env) (g : AgentGateway) (p : System) : Turn → System
  | .start j => p.step (.spawn (j.work env g))
  | .resume i m => p.step (.resume i m)

/-- Where a list of turns leads from a database with no call under way. -/
def played (env : Env) (g : AgentGateway) (db : Db) (ts : List Turn) : System :=
  run (System.turn env g) ⟨db, [], []⟩ ts

end Maintainerd

import Maintainerd.Resource.Service

/-!
# The availability loop

One pass of the supervisor, from `internal/supervisor/supervisor.go`: the sweep of the agents, the
flags on system workloads whose host is gone, and keep-alive, which re-dispatches what does not run
and keeps an `Episode` per service so that it escalates once per incident.

A `Tick` is everything a pass is told from outside: what its reads return (`none` for a read that
fails) and what its two writes answer.  What a pass does is the list of its `Effect`s, which are the
events it emits and the re-dispatches that went through.  Of an event the kind, the severity and the
subject are here; nothing reads its message or its details.
-/

set_option autoImplicit false

namespace Maintainerd

/-! ## Configuration -/

/-- `Options`, as the bootstrap fills it.  Durations are in nanoseconds. -/
structure RawOptions where
  interval : Int
  agentOfflineAfter : Int
  staleAfter : Int
  escalateAfter : Int
  deploymentMode : String

/-- The options a supervisor runs with. -/
structure SupervisorOptions extends RawOptions where
  interval_pos : 0 < interval
  agentOfflineAfter_pos : 0 < agentOfflineAfter
  staleAfter_pos : 0 < staleAfter
  escalateAfter_pos : 0 < escalateAfter

/-- A positive value, or the default. -/
def orDefault (x d : Int) : Int := if x ≤ 0 then d else x

theorem orDefault_pos (x : Int) {d : Int} (hd : 0 < d) : 0 < orDefault x d := by
  rw [orDefault]
  split
  · exact hd
  · omega

/-- `withDefaults`. -/
def RawOptions.withDefaults (o : RawOptions) : SupervisorOptions where
  interval := orDefault o.interval (15 * 10 ^ 9)
  agentOfflineAfter := orDefault o.agentOfflineAfter (90 * 10 ^ 9)
  staleAfter := orDefault o.staleAfter (300 * 10 ^ 9)
  escalateAfter := orDefault o.escalateAfter 5
  deploymentMode := if o.deploymentMode = "" then "docker" else o.deploymentMode
  interval_pos := orDefault_pos _ (by decide)
  agentOfflineAfter_pos := orDefault_pos _ (by decide)
  staleAfter_pos := orDefault_pos _ (by decide)
  escalateAfter_pos := orDefault_pos _ (by decide)

/-- `steward.Tier`. -/
inductive Tier where
  | system
  | app
deriving DecidableEq, Repr

/-- What a supervisor is made of. -/
structure Supervisor where
  opts : SupervisorOptions
  /-- The catalogue: the tier it declares for a service, if it declares one. -/
  tiers : String → Option Tier
  /-- `unicode.ToLower`. -/
  lower : Char → Char

/-! ## What a pass is told -/

/-- `service.Registration`. -/
structure Registration where
  serviceUuid : Uuid
  name : String

/-- One round of keep-alive: the registration it is about, the time in nanoseconds when it looks at
the clock, and whether `RedispatchSystem` goes through if it is called. -/
structure Visit where
  reg : Registration
  now : Int
  redispatches : Bool

/-- What one pass is told from outside. -/
structure Tick where
  /-- `ctx.Err() != nil`. -/
  cancelled : Bool
  /-- `SweepOffline`: the agents that have just gone. -/
  swept : List Agent
  /-- `ListOffline`. -/
  offline : Option (List Agent)
  /-- `ListSystemTier`. -/
  instances : Option (List SystemInstance)
  /-- `FlagHostUnreachable`, for each instance. -/
  flags : Uuid → Option Bool
  /-- `ListSystem`, and what the round for each registration is told. -/
  visits : Option (List Visit)

/-! ## What a pass does -/

/-- The events a pass emits, and its calls of `RedispatchSystem` that went through.  The last four
belong to the service of an episode. -/
inductive Effect where
  | agentOffline (agent : Uuid)
  | hostUnreachable (resource : Uuid)
  | instanceMissing (key : String) (service : Uuid)
  | redispatched (key : String) (resource : Uuid)
  | redispatchEscalated (key : String) (resource : Uuid)
  | recovered (key : String) (resource : Uuid)
deriving DecidableEq, Repr

/-- `event.Input`, without its message and its details. -/
structure EventInput where
  kind : String
  severity : String
  subjectType : String
  subjectUuid : Uuid
deriving DecidableEq, Repr

/-- The event behind an effect. -/
def Effect.event : Effect → Option EventInput
  | .agentOffline a => some ⟨"agent.offline", "warning", "agent", a⟩
  | .hostUnreachable r => some ⟨"system.host_unreachable", "critical", "resource", r⟩
  | .instanceMissing _ s => some ⟨"system.instance_missing", "critical", "service", s⟩
  | .redispatched _ _ => none
  | .redispatchEscalated _ r => some ⟨"system.redispatch_escalated", "critical", "resource", r⟩
  | .recovered _ r => some ⟨"system.recovered", "info", "resource", r⟩

/-! ## Episodes -/

/-- `episode`. -/
structure Episode where
  missingReported : Bool := false
  redispatches : ℕ := 0
  escalated : Bool := false
deriving DecidableEq, Repr

/-- The supervisor's memory. -/
abbrev Episodes : Type := String → Option Episode

/-- A supervisor that has just started. -/
def Episodes.fresh : Episodes := fun _ ↦ none

/-- The map with one entry replaced. -/
def Episodes.set (eps : Episodes) (key : String) (e : Option Episode) : Episodes :=
  fun k ↦ if k = key then e else eps k

@[simp] theorem Episodes.set_self (eps : Episodes) (key : String) (e : Option Episode) :
    eps.set key e key = e := if_pos rfl

theorem Episodes.set_of_ne (eps : Episodes) {k key : String} (e : Option Episode) (h : k ≠ key) :
    eps.set key e k = eps k := if_neg h

/-- `forget`. -/
def forget (eps : Episodes) (key : String) : Episodes := eps.set key none

/-- `prune`. -/
def prune (eps : Episodes) (live : List String) : Episodes :=
  fun key ↦ if live.contains key then eps key else none

/-- `clearMissing`. -/
def clearMissing (eps : Episodes) (key : String) : Episodes :=
  match eps key with
  | none => eps
  | some ep => eps.set key (some { ep with missingReported := false })

/-- `reportMissingInstance`. -/
def reportMissingInstance (eps : Episodes) (key : String) (reg : Registration) :
    Episodes × List Effect :=
  let ep := (eps key).getD {}
  (eps.set key (some { ep with missingReported := true }),
    if ep.missingReported then [] else [.instanceMissing key reg.serviceUuid])

/-- `noteRecovered`. -/
def noteRecovered (eps : Episodes) (key : String) (inst : SystemInstance) :
    Episodes × List Effect :=
  match eps key with
  | none => (eps, [])
  | some ep =>
    (eps.set key (some { ep with redispatches := 0, escalated := false }),
      if ep.escalated then [.recovered key inst.uuid] else [])

/-- `redispatch`. -/
def redispatch (s : Supervisor) (eps : Episodes) (key : String) (inst : SystemInstance)
    (goesThrough : Bool) : Episodes × List Effect :=
  if goesThrough then
    let ep := (eps key).getD {}
    let count := ep.redispatches + 1
    let escalate := decide (s.opts.escalateAfter < count) && !ep.escalated
    (eps.set key (some { ep with redispatches := count, escalated := ep.escalated || escalate }),
      .redispatched key inst.uuid ::
        if escalate then [.redispatchEscalated key inst.uuid] else [])
  else (eps, [])

/-! ## Keep-alive -/

/-- `substrateServices`. -/
def substrateServices : List String := ["core", "agent", "docker", "runtime"]

/-- `supervises`. -/
def supervises (s : Supervisor) (name : String) : Bool :=
  if substrateServices.contains name then false
  else
    match s.tiers name with
    | some tier => tier == .system
    | none => true

/-- Why an instance is re-dispatched. -/
inductive Reason where
  | unhealthy
  | unknownHealth
  | parked
  | reported (state : String)
  | silent (generation observedGeneration : Int)
deriving DecidableEq, Repr

/-- `redispatchReason`, with `none` for the empty string.  `updated_at` is in microseconds. -/
def redispatchReason (s : Supervisor) (now : Int) (inst : SystemInstance) : Option Reason :=
  if inst.health = "unhealthy" then some .unhealthy
  else if inst.health = "unknown" then some .unknownHealth
  else if inst.state = "failed" then some .parked
  else if inst.state = "running" ∧ inst.converged = true then none
  else if inst.converged = true then some (.reported inst.state)
  else if s.opts.staleAfter < now - 1000 * inst.updatedAt then
    some (.silent inst.generation inst.observedGeneration)
  else none

/-- The name under which keep-alive looks after a registration, if it does. -/
def serviceOf (s : Supervisor) (reg : Registration) : Option String :=
  let name := Text.toLower s.lower (Text.trimSpace reg.name)
  if name = "" || !supervises s name then none else some name

/-- The key of the episode of a service. -/
def episodeKey (name : String) : String := "service:" ++ name

/-- The instance of a service: `byName` keeps the last instance of a name. -/
def instanceOf (instances : List SystemInstance) (name : String) : Option SystemInstance :=
  (instances.filter fun i ↦ i.name == "system-" ++ name).getLast?

/-- The instance is assigned to an agent that is offline. -/
def stranded (offline : List Agent) (inst : SystemInstance) : Bool :=
  inst.agentID != 0 && offline.any fun a ↦ a.agentID == inst.agentID

/-- One round of the loop of `keepAlive`. -/
def visit (s : Supervisor) (instances : List SystemInstance) (offline : List Agent)
    (eps : Episodes) (v : Visit) : Episodes × List Effect :=
  match serviceOf s v.reg with
  | none => (eps, [])
  | some name =>
    match instanceOf instances name with
    | none => reportMissingInstance eps (episodeKey name) v.reg
    | some inst =>
      let eps := clearMissing eps (episodeKey name)
      if inst.terminating then (forget eps (episodeKey name), [])
      else if stranded offline inst then (eps, [])
      else
        match redispatchReason s v.now inst with
        | none => noteRecovered eps (episodeKey name) inst
        | some _ => redispatch s eps (episodeKey name) inst v.redispatches

/-- The loop of `keepAlive`. -/
def visitAll (s : Supervisor) (instances : List SystemInstance) (offline : List Agent) :
    Episodes → List Visit → Episodes × List Effect
  | eps, [] => (eps, [])
  | eps, v :: vs =>
    let first := visit s instances offline eps v
    let rest := visitAll s instances offline first.1 vs
    (rest.1, first.2 ++ rest.2)

/-- `keepAlive`. -/
def keepAlive (s : Supervisor) (instances : List SystemInstance) (offline : List Agent)
    (eps : Episodes) (visits : Option (List Visit)) : Episodes × List Effect :=
  match visits with
  | none => (eps, [])
  | some vs =>
    let walked := visitAll s instances offline eps vs
    (prune walked.1 ((vs.filterMap fun v ↦ serviceOf s v.reg).map episodeKey), walked.2)

/-! ## The pass -/

/-- `flagStranded`. -/
def flagStranded (instances : List SystemInstance) (offline : List Agent)
    (flags : Uuid → Option Bool) : List Effect :=
  (instances.filter fun i ↦ !i.terminating && stranded offline i && flags i.uuid == some true).map
    fun i ↦ .hostUnreachable i.uuid

/-- `Tick`. -/
def tick (s : Supervisor) (eps : Episodes) (t : Tick) : Episodes × List Effect :=
  if t.cancelled then (eps, [])
  else
    let swept := t.swept.map fun a ↦ Effect.agentOffline a.agentUuid
    -- a failed read of the offline set counts as an empty one
    let offline := t.offline.getD []
    match t.instances with
    | none => (eps, swept)
    | some instances =>
      let kept := keepAlive s instances offline eps t.visits
      (kept.1, swept ++ flagStranded instances offline t.flags ++ kept.2)

end Maintainerd

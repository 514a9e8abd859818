import Maintainerd.Agents.Enrolment
import Maintainerd.Gateway.Rpc
import Maintainerd.Supervisor.KeepAlive
import Mathlib.Data.List.Count

/-!
# The pulse of an agent

Two columns of an agent's row say whether it is there: `status` and `last_seen_at`.  `Create`,
`Enroll`, `Register`, `Heartbeat` and the sweep of the supervisor all write to the row, and this
file says what each of them does to these two columns, the `Pulse` of the agent.

`Core.step` is the system: the calls of the agent service and of the gateway, and the passes of the
supervisor, each one from its beginning to its end at one time.  `Touch` is what a step means for
one agent, read off what the step answers and emits, and `touched_of_housed` is the refinement: the
pulse after a step is the pulse before it with the touch applied.  Everything else about liveness is
proved from that theorem.

An agent is only ever answered together with its tenant, so a call whose tenant lookup fails has
written and returns an error.  None of these operations removes a tenant, and an agent is created
under one that is there; `Housed` says so of one agent, and with it a call that was answered is a
call that has written.
-/

set_option autoImplicit false

namespace Maintainerd

open Interleave Machine Postgres

/-! ## The system -/

/-- `SweepOffline`. -/
def Fleet.sweepOffline (fleet : Fleet) (now staleAfter : Int) :
    Fleet × Except AppError (List Agent) :=
  if staleAfter ≤ 0 then (fleet, .error (.validation "staleAfter must be positive"))
  else
    let out := markStaleAgentsOffline fleet.db now (makeInterval staleAfter)
    ({ fleet with db := out.1 }, .ok out.2)

/-- The parts of core an agent meets. -/
structure Core where
  pki : Pki
  gateway : AgentGateway
  supervisor : Supervisor

/-- The fleet, and the memory of the supervisor. -/
structure Platform where
  fleet : Fleet
  episodes : Episodes

/-- An operation. -/
inductive FleetCall where
  | create (uuid : Uuid) (token : Option String) (input : AgentCreateInput)
  | enroll (input : EnrollInput) (told : List EnrollTold)
  | register (claims : Option String) (agentUuid version : String) (capabilities : List String)
  | heartbeat (claims : Option String) (agentUuid : String)
  /-- A pass of the supervisor; which agents are swept is not told from outside but found. -/
  | pass (t : Tick)

/-- An operation, and the time it runs at. -/
structure FleetOp where
  now : Int
  call : FleetCall

/-- The pass as the supervisor makes it: it sweeps first, unless it is cancelled, and emits what the
sweep returns.  A sweep that fails is logged and passed over. -/
def Core.sweep (core : Core) (fleet : Fleet) (now : Int) (t : Tick) : Fleet × Tick :=
  if t.cancelled then (fleet, t)
  else
    let out := fleet.sweepOffline now core.supervisor.opts.agentOfflineAfter
    (out.1, { t with swept := out.2.toOption.getD [] })

/-- An RPC of the gateway: the fleet after it, and what it says. -/
def Fleet.rpc (fleet : Fleet) (now : Int) (work : Work Event) : Fleet × List Event :=
  let out := work.alone ⟨now, []⟩ fleet.db
  ({ fleet with db := out.1 }, out.2)

/-- What an operation does to the platform, what an RPC says, and what a pass emits. -/
def Core.apply (core : Core) (p : Platform) (o : FleetOp) : Platform × List Event × List Effect :=
  match o.call with
  | .create uuid token input =>
    ({ p with fleet := (p.fleet.create core.pki o.now uuid token input).1 }, [], [])
  | .enroll input told =>
    ({ p with fleet := (p.fleet.enroll core.pki (.start input) told).1 }, [], [])
  | .register claims agentUuid version capabilities =>
    let out := p.fleet.rpc o.now (core.gateway.register claims agentUuid version capabilities)
    ({ p with fleet := out.1 }, out.2, [])
  | .heartbeat claims agentUuid =>
    let out := p.fleet.rpc o.now (core.gateway.heartbeat claims agentUuid)
    ({ p with fleet := out.1 }, out.2, [])
  | .pass t =>
    let swept := core.sweep p.fleet o.now t
    let out := tick core.supervisor p.episodes swept.2
    (⟨swept.1, out.1⟩, [], out.2)

/-- The platform after an operation. -/
def Core.step (core : Core) (p : Platform) (o : FleetOp) : Platform := (core.apply p o).1

/-- What a pass emits. -/
def Core.effects (core : Core) (p : Platform) (o : FleetOp) : List Effect := (core.apply p o).2.2

/-! ## The pulse -/

/-- The columns of an agent that say whether it is there, and its tenant. -/
structure Pulse where
  status : String
  lastSeenAt : Option Int
  tenantID : Int
deriving DecidableEq, Repr

/-- The pulse in a row. -/
def Agent.pulse (a : Agent) : Pulse := ⟨a.status, a.lastSeenAt, a.tenantID⟩

theorem UpdateAgentStatusParams.pulse_patch {p : UpdateAgentStatusParams}
    (h : p.status.length ≤ 20) (now : Int) (a : Agent) :
    (p.patch now a).pulse = { a.pulse with status := p.status } :=
  congrArg (fun status ↦ { a.pulse with status := status }) (clip_of_length_le h)

theorem CreateAgentParams.pulse_row {p : CreateAgentParams} (h : p.status.length ≤ 20)
    (now id : Int) : (p.row now id).pulse = ⟨p.status, none, p.tenantID⟩ :=
  congrArg (fun status ↦ (⟨status, none, p.tenantID⟩ : Pulse)) (clip_of_length_le h)

/-- The pulse of an agent, if there is a live row. -/
def pulseOf (db : Db) (u : Uuid) : Option Pulse := (getAgentByUUID db u).map Agent.pulse

/-- What an operation means for one agent. -/
inductive Touch where
  | nothing
  | created (tenantID : Int)
  | registered
  | beaten
  | swept
deriving DecidableEq, Repr

/-- What a touch at a time does to the pulse. -/
def Touch.apply (now : Int) (pulse : Option Pulse) : Touch → Option Pulse
  | .nothing => pulse
  | .created tenantID => some ⟨"pending", none, tenantID⟩
  | .registered => pulse.map fun x ↦ { x with status := "online" }
  | .beaten => pulse.map fun x ↦ { x with status := "online", lastSeenAt := some now }
  | .swept => pulse.map fun x ↦ { x with status := "offline" }

/-- The RPC was answered. -/
def Event.isAnswer : Event → Bool
  | .registered => true
  | .beaten => true
  | _ => false

/-- What an operation means for an agent: an RPC that names it and is answered, its creation, or its
event of a sweep. -/
def Core.touch (core : Core) (u : Uuid) (p : Platform) (o : FleetOp) : Touch :=
  let out := core.apply p o
  match o.call with
  | .create _ _ _ =>
    match pulseOf p.fleet.db u, pulseOf out.1.fleet.db u with
    | none, some x => .created x.tenantID
    | _, _ => .nothing
  | .enroll _ _ => .nothing
  | .register _ agentUuid _ _ =>
    if core.gateway.parseUuid agentUuid = some u ∧ out.2.1.any Event.isAnswer then .registered
    else .nothing
  | .heartbeat _ agentUuid =>
    if core.gateway.parseUuid agentUuid = some u ∧ out.2.1.any Event.isAnswer then .beaten
    else .nothing
  | .pass _ => if .agentOffline u ∈ out.2.2 then .swept else .nothing

/-- The tenant of the agent, if there is one, is there. -/
def Housed (db : Db) (u : Uuid) : Prop :=
  ∀ x, pulseOf db u = some x → (getTenantByID db x.tenantID).isSome = true

/-- A step leaves the tenants alone, and does this to the pulse of the agent. -/
def Moves (u : Uuid) (db db' : Db) (pulse : Option Pulse) : Prop :=
  db'.tenants = db.tenants ∧ pulseOf db' u = pulse

theorem getTenantByID_congr {db db' : Db} (h : db'.tenants = db.tenants) (id : Int) :
    getTenantByID db' id = getTenantByID db id := by
  rw [getTenantByID, h]
  rfl

/-- A row that is rewritten as `f` does, and stays live, has its pulse rewritten as `fp` does. -/
theorem pulseOf_map {db db' : Db} {u : Uuid} {f : Agent → Agent} (fp : Pulse → Pulse)
    (h : db'.agents.get? u = (db.agents.get? u).map f) (hlive : ∀ a, (f a).live = a.live)
    (hpulse : ∀ a, a.live = true → (f a).pulse = fp a.pulse) :
    pulseOf db' u = (pulseOf db u).map fp := by
  rw [pulseOf, pulseOf, getAgentByUUID, getAgentByUUID, h]
  rcases db.agents.get? u with _ | a
  · rfl
  rw [Option.map_some, Option.filter_some, Option.filter_some, hlive]
  split
  · rename_i ha
    rw [Option.map_some, Option.map_some, Option.map_some, hpulse a ha]
  · rfl

/-- An update of one row, where what is set does `fp` to the pulse. -/
theorem moves_updateAgent {db db' : Db} {w : Uuid} {guard : Agent → Bool} {holds : Bool}
    {f : Patch Agent} {a' : Agent} (fp : Pulse → Pulse) (hpulse : ∀ a, (f a).pulse = fp a.pulse)
    (hlive : ∀ a, (f a).live = a.live) (h : updateAgent db w guard holds f = .ok (db', a'))
    (u : Uuid) :
    Moves u db db' (if u = w then (pulseOf db w).map fp else pulseOf db u) ∧
      (pulseOf db w).map fp = some a'.pulse := by
  obtain ⟨a, hget, ha, -, rfl, hdb, hrows⟩ := updateAgent_spec h
  have hw : getAgentByUUID db w = some a := getAgentByUUID_eq_some.mpr ⟨hget, ha⟩
  have hfp : (pulseOf db w).map fp = some (f a).pulse := by
    rw [pulseOf, hw, Option.map_some, Option.map_some, hpulse]
  refine ⟨⟨by rw [hdb], ?_⟩, hfp⟩
  by_cases hu : u = w
  · subst hu
    rw [if_pos rfl]
    exact pulseOf_map fp (by rw [hrows, if_pos rfl, hget]; rfl) hlive fun a _ ↦ hpulse a
  · rw [if_neg hu, pulseOf, getAgentByUUID, hrows, if_neg hu]
    rfl

/-! ## The RPCs -/

/-- An RPC that names the agent `w`: it is answered, and then there is such an agent and its pulse
is touched; or it is not, and then the pulse of every agent is as it was. -/
structure Rpc (u w : Uuid) (now : Int) (touch : Touch) (db : Db) (out : Db × List Event) :
    Prop where
  tenants : out.1.tenants = db.tenants
  pulse : pulseOf out.1 u =
    if w = u ∧ out.2.any Event.isAnswer = true then touch.apply now (pulseOf db u)
    else pulseOf db u
  found : w = u → out.2.any Event.isAnswer = true → (pulseOf db u).isSome = true

theorem rpc_refuse (u w : Uuid) (now : Int) (touch : Touch) (status : Status) (m : Moment)
    (db : Db) : Rpc u w now touch db ((refuse status).alone m db) :=
  ⟨rfl, (if_neg fun h ↦ Bool.false_ne_true h.2).symm, fun _ h ↦ absurd h Bool.false_ne_true⟩

/-- A step that leaves the pulse alone may come before. -/
theorem Rpc.of_moves {u w : Uuid} {now : Int} {touch : Touch} {db db' : Db} {out : Db × List Event}
    (h : Rpc u w now touch db' out) (hmoves : Moves u db db' (pulseOf db u)) :
    Rpc u w now touch db out := by
  obtain ⟨htenants, hpulse⟩ := hmoves
  exact ⟨h.tenants.trans htenants, by rw [h.pulse, hpulse], fun hw ha ↦ hpulse ▸ h.found hw ha⟩

theorem Housed.of_moves {u : Uuid} {db db' : Db} (h : Housed db u)
    (hmoves : Moves u db db' (pulseOf db u)) : Housed db' u := by
  intro x hx
  rw [getTenantByID_congr hmoves.1]
  exact h x (hmoves.2 ▸ hx)

/-- The end of a call that has updated the row of `w` and answers with the agent and its tenant. -/
theorem rpc_resolve {u w : Uuid} {now : Int} {touch : Touch} {fp : Pulse → Pulse} {db db' : Db}
    {row : Agent} {k : Except AppError Agent → Work Event} {e : Event} {m : Moment}
    (htouch : ∀ x, touch.apply now x = x.map fp) (hfp : ∀ x, (fp x).tenantID = x.tenantID)
    (he : e.isAnswer = true) (hk : ∀ a, k (.ok a) = .say e .done)
    (hk' : ∀ err, ∃ status, k (.error err) = refuse status) (hh : Housed db u)
    (hmoves : Moves u db db' (if u = w then (pulseOf db w).map fp else pulseOf db u))
    (hrow : (pulseOf db w).map fp = some row.pulse) :
    Rpc u w now touch db ((resolveTenantUUID row k).alone m db') := by
  obtain ⟨htenants, hpulse⟩ := hmoves
  obtain ⟨x, hx, hxrow⟩ := Option.map_eq_some_iff.mp hrow
  have hid : x.tenantID = row.tenantID := by rw [← hfp, hxrow]; rfl
  have hsame := getTenantByID_congr htenants row.tenantID
  rcases ht : getTenantByID db row.tenantID with _ | t
  · -- the tenant is not there, so this is not the agent that is housed
    have hne : u ≠ w := by
      rintro rfl
      have hhoused := hh x hx
      rw [hid, ht] at hhoused
      cases hhoused
    obtain ⟨status, hstatus⟩ := hk' (.query .noRows)
    have hout : (resolveTenantUUID row k).alone m db' = (refuse status).alone m db' := by
      rw [resolveTenantUUID, alone_query, hsame, ht]
      exact congrArg (fun t ↦ Task.alone m t db') hstatus
    rw [if_neg hne] at hpulse
    rw [hout]
    exact ⟨htenants, hpulse.trans (if_neg fun h ↦ Bool.false_ne_true h.2).symm,
      fun _ h ↦ absurd h Bool.false_ne_true⟩
  · have hout : (resolveTenantUUID row k).alone m db' = (db', [e]) := by
      rw [resolveTenantUUID, alone_query, hsame, ht]
      exact congrArg (fun t ↦ Task.alone m t db') (hk row)
    rw [hout]
    refine ⟨htenants, ?_, ?_⟩
    · rw [hpulse, htouch]
      by_cases hu : u = w
      · subst hu
        simp [he]
      · rw [if_neg hu, if_neg fun h ↦ hu h.1.symm]
    · rintro rfl _
      rw [hx]
      rfl

/-- `Register` after the subject is bound. -/
theorem rpc_registerOnline (g : AgentGateway) {db : Db} {u : Uuid} (hh : Housed db u) (w : Uuid)
    (version : String) (capabilities : List String) (m : Moment) :
    Rpc u w m.now .registered db ((g.registerOnline w version capabilities).alone m db) := by
  unfold AgentGateway.registerOnline updateAgentRow
  rw [alone_query]
  rcases hget : getAgentByUUID db w with _ | current
  · exact rpc_refuse ..
  simp only [alone_statement]
  rcases hupdate : updateAgentStatus db m.now
      (updateAgentParams w current ⟨"online", "", version, capabilities⟩) with err | ⟨db', row⟩
  · cases err <;> exact rpc_refuse ..
  · have honline : (updateAgentParams w current ⟨"online", "", version, capabilities⟩).status.length
        ≤ 20 := (by decide : "online".length ≤ 20)
    obtain ⟨hmoves, hrow⟩ := moves_updateAgent (fun x ↦ { x with status := "online" })
      (UpdateAgentStatusParams.pulse_patch honline m.now) (fun _ ↦ rfl) hupdate u
    exact rpc_resolve (fun _ ↦ rfl) (fun _ ↦ rfl) rfl (fun _ ↦ rfl) (fun _ ↦ ⟨_, rfl⟩) hh hmoves
      hrow

/-- `Register`. -/
theorem rpc_register (g : AgentGateway) {db : Db} {u w : Uuid} (hh : Housed db u)
    (claims : Option String) {agentUuid : String} (hw : g.parseUuid agentUuid = some w)
    (version : String) (capabilities : List String) (m : Moment) :
    Rpc u w m.now .registered db
      ((g.register claims agentUuid version capabilities).alone m db) := by
  unfold AgentGateway.register
  rw [hw]
  dsimp only
  split
  · exact rpc_registerOnline g hh w version capabilities m
  split
  · exact rpc_refuse ..
  rename_i subject _
  unfold bindSubject
  split
  · exact rpc_refuse ..
  rw [alone_statement]
  rcases hbind : bindAgentSubject db m.now ⟨w, subject⟩ with err | ⟨db', row⟩
  · cases err with
    | noRows =>
      simp only [outcome, alone_query]
      split <;> exact rpc_refuse ..
    | dataException => exact rpc_refuse ..
  · obtain ⟨hmoves, -⟩ := moves_updateAgent id (fun _ ↦ rfl) (fun _ ↦ rfl) hbind u
    have hsame : Moves u db db' (pulseOf db u) := by
      refine ⟨hmoves.1, hmoves.2.trans ?_⟩
      rw [Option.map_id]
      split
      · rename_i hu
        rw [hu]
        rfl
      · rfl
    simp only [outcome, resolveTenantUUID, alone_query]
    split
    · exact (rpc_refuse ..).of_moves hsame
    · exact (rpc_registerOnline g (hh.of_moves hsame) w version capabilities m).of_moves hsame

/-- `Heartbeat` of the service. -/
theorem rpc_heartbeatAgent {db : Db} {u : Uuid} (hh : Housed db u) (w : Uuid) (m : Moment)
    (k : Except AppError Agent → Work Event) (hk : ∀ a, k (.ok a) = .say .beaten .done)
    (hk' : ∀ err, ∃ status, k (.error err) = refuse status) :
    Rpc u w m.now .beaten db ((heartbeatAgent w k).alone m db) := by
  unfold heartbeatAgent
  rw [alone_statement]
  rcases hbeat : agentHeartbeat db m.now w with err | ⟨db', row⟩
  · cases err with
    | noRows =>
      obtain ⟨status, hstatus⟩ := hk' (.notFound "agent")
      simp only [outcome, hstatus]
      exact rpc_refuse ..
    | dataException =>
      obtain ⟨status, hstatus⟩ := hk' (.query .dataException)
      simp only [outcome, hstatus]
      exact rpc_refuse ..
  · obtain ⟨hmoves, hrow⟩ := moves_updateAgent
      (fun x ↦ { x with status := "online", lastSeenAt := some m.now })
      (fun _ ↦ rfl) (fun _ ↦ rfl) hbeat u
    exact rpc_resolve (fun _ ↦ rfl) (fun _ ↦ rfl) rfl hk hk' hh hmoves hrow

/-- `Heartbeat`.  The row it beats for is the one it was named. -/
theorem rpc_heartbeat (g : AgentGateway) {db : Db} {u w : Uuid} (hh : Housed db u)
    (claims : Option String) {agentUuid : String} (hw : g.parseUuid agentUuid = some w)
    (m : Moment) :
    Rpc u w m.now .beaten db ((g.heartbeat claims agentUuid).alone m db) := by
  have hbeat : ∀ a, getAgentByUUID db w = some a → ∀ k : Except AppError Agent → Work Event,
      (∀ a, k (.ok a) = .say .beaten .done) → (∀ err, ∃ status, k (.error err) = refuse status) →
        Rpc u w m.now .beaten db ((heartbeatAgent a.agentUuid k).alone m db) := by
    intro a ha k hk hk'
    rw [show a.agentUuid = w from Table.uuid_of_get? (getAgentByUUID_eq_some.mp ha).1]
    exact rpc_heartbeatAgent hh w m k hk hk'
  rcases g.alone_requireAgent claims agentUuid _ m db with
    ⟨status, hrefused⟩ | ⟨id, a, p, hid, ha, -, -, halone⟩
  · rw [AgentGateway.heartbeat, hrefused]
    exact rpc_refuse u w m.now .beaten status m db
  · obtain rfl : id = w := Option.some.inj (hid.symm.trans hw)
    rw [AgentGateway.heartbeat, halone]
    exact hbeat a ha _ (fun _ ↦ rfl) fun _ ↦ ⟨_, rfl⟩

/-! ## Creating and enrolling -/

theorem moves_refl (u : Uuid) (db : Db) : Moves u db db (pulseOf db u) := ⟨rfl, rfl⟩

theorem getTenantByID_of_getTenantByUUID {db : Db} {v : Uuid} {t : Tenant}
    (h : getTenantByUUID db v = some t) : getTenantByID db t.tenantID = some t := by
  rw [getTenantByUUID, Option.filter_eq_some_iff] at h
  have hget : db.tenants.getByID? t.tenantID = some t :=
    Table.getByID?_of_mem (Table.mem_of_get? h.1)
  rw [getTenantByID, hget, Option.filter_some, if_pos h.2]

/-- `Create` leaves the pulse of the agent alone, or creates the agent under a tenant that is
there. -/
theorem create_cases (pki : Pki) (fleet : Fleet) (now : Int) (uuid : Uuid) (token : Option String)
    (input : AgentCreateInput) (u : Uuid) :
    let db' := (fleet.create pki now uuid token input).1.db
    Moves u fleet.db db' (pulseOf fleet.db u) ∨
      ∃ t, getTenantByID fleet.db t.tenantID = some t ∧ pulseOf fleet.db u = none ∧
        Moves u fleet.db db' (some ⟨"pending", none, t.tenantID⟩) := by
  intro db'
  unfold db' Fleet.create
  split
  · exact .inl (moves_refl u fleet.db)
  split
  · exact .inl (moves_refl u fleet.db)
  · exact .inl (moves_refl u fleet.db)
  rename_i t token ht
  split
  · exact .inl (moves_refl u fleet.db)
  rename_i db row hcreate
  obtain ⟨⟨id, rfl⟩, hfree, hdb, hrows⟩ := createAgent_spec hcreate
  have htenants : db.tenants = fleet.db.tenants := by rw [hdb]
  by_cases hu : uuid = u
  · subst hu
    refine .inr ⟨t, getTenantByID_of_getTenantByUUID ht, ?_, htenants, ?_⟩
    · rw [pulseOf, getAgentByUUID, hfree]
      rfl
    · rw [pulseOf, getAgentByUUID, hrows, if_pos rfl]
      exact congrArg some (CreateAgentParams.pulse_row (by decide : "pending".length ≤ 20) now id)
  · refine .inl ⟨htenants, ?_⟩
    rw [pulseOf, getAgentByUUID, hrows, if_neg hu]
    rfl

/-- A step of `Enroll` leaves every pulse alone. -/
theorem moves_advance (pki : Pki) (told : EnrollTold) (fleet : Fleet) (c : EnrollCall) (u : Uuid) :
    Moves u fleet.db (c.advance pki told fleet).1.db (pulseOf fleet.db u) := by
  obtain ⟨input, stage⟩ := c
  cases stage with
  | marking certificate expiresAt =>
    have hcommitted : Moves u fleet.db
        (fleet.committed (fleet.mark pki told.now input certificate)).db (pulseOf fleet.db u) := by
      rcases hmark : fleet.mark pki told.now input certificate with e | ⟨fleet', row⟩
      · exact moves_refl u fleet.db
      · obtain ⟨-, -, -, hrows, hdb⟩ := markAgentEnrolled_spec hmark
        refine ⟨by rw [Fleet.committed, hdb], ?_⟩
        by_cases hu : u = input.agentUuid
        · subst hu
          have hpulse := pulseOf_map id ((hrows _).trans (if_pos rfl)) (fun _ ↦ rfl) fun _ _ ↦ rfl
          rwa [Option.map_id] at hpulse
        · rw [Fleet.committed, pulseOf, getAgentByUUID, hrows, if_neg hu]
          rfl
    simp only [EnrollCall.advance]
    cases told.outcome with
    | answered => exact hcommitted
    | lost => exact hcommitted
    | refused => exact moves_refl u fleet.db
  | reading => exact moves_refl u fleet.db
  | signing => exact moves_refl u fleet.db
  | resolving row certificate expiresAt => exact moves_refl u fleet.db
  | returned result => exact moves_refl u fleet.db

/-- `Enroll` leaves every pulse alone. -/
theorem moves_enroll (pki : Pki) (fleet : Fleet) (c : EnrollCall) (told : List EnrollTold)
    (u : Uuid) : Moves u fleet.db (fleet.enroll pki c told).1.db (pulseOf fleet.db u) := by
  induction told generalizing fleet c with
  | nil => exact moves_refl u fleet.db
  | cons t told ih =>
    obtain ⟨htenants, hpulse⟩ := moves_advance pki t fleet c u
    obtain ⟨htenants', hpulse'⟩ := ih (c.advance pki t fleet).1 ⟨c.input, (c.advance pki t fleet).2⟩
    exact ⟨htenants'.trans htenants, hpulse'.trans hpulse⟩

/-! ## The sweep -/

/-- The sweep of an interval would pick the agent. -/
def Pulse.stale (x : Pulse) (now interval : Int) : Bool :=
  x.status != "offline" && x.lastSeenAt.any (· < now - interval)

theorem stale_pulse {a : Agent} (h : a.live = true) (now interval : Int) :
    a.stale now interval = a.pulse.stale now interval := by
  rw [Agent.stale, h, Bool.true_and]
  rfl

/-- The pulse after a sweep. -/
theorem moves_markStaleAgentsOffline (db : Db) (now interval : Int) (u : Uuid) :
    Moves u db (markStaleAgentsOffline db now interval).1
      (if (pulseOf db u).any (fun x ↦ x.stale now interval) then
        Touch.swept.apply now (pulseOf db u)
      else pulseOf db u) := by
  refine ⟨rfl, (pulseOf_map (fun x ↦ if x.stale now interval then { x with status := "offline" }
    else x) (get?_markStaleAgentsOffline db now interval u) ?_ ?_).trans ?_⟩
  · intro a
    split <;> rfl
  · intro a ha
    rw [stale_pulse ha]
    split <;> rfl
  · rcases pulseOf db u with _ | x
    · rfl
    · simp only [Option.map_some, Option.any_some, Touch.apply]
      split <;> rfl

/-- The agents a sweep returns are the ones it picks. -/
theorem count_swept (db : Db) (now interval : Int) (u : Uuid) :
    ((markStaleAgentsOffline db now interval).2.map Agent.agentUuid).count u =
      if (pulseOf db u).any (fun x ↦ x.stale now interval) then 1 else 0 := by
  rw [count_markStaleAgentsOffline, pulseOf, getAgentByUUID]
  rcases db.agents.get? u with _ | a
  · rfl
  rw [Option.filter_some]
  by_cases ha : a.live = true
  · rw [if_pos ha, Option.map_some, Option.any_some, Option.any_some, stale_pulse ha]
  · rw [if_neg ha, Option.any_some, Agent.stale]
    simp [ha]

/-! ## The pass -/

/-- A round of keep-alive is not about agents. -/
theorem agentOffline_notMem_visit (s : Supervisor) (instances : List SystemInstance)
    (offline : List Agent) (eps : Episodes) (v : Visit) (u : Uuid) :
    Effect.agentOffline u ∉ (visit s instances offline eps v).2 := by
  unfold visit
  split
  · exact List.not_mem_nil
  split
  · rw [reportMissingInstance]
    dsimp only
    split <;> simp
  dsimp only
  split
  · exact List.not_mem_nil
  split
  · exact List.not_mem_nil
  split
  · rw [noteRecovered]
    split
    · exact List.not_mem_nil
    · dsimp only
      split <;> simp
  · rw [redispatch]
    split
    · dsimp only
      split <;> simp
    · exact List.not_mem_nil

theorem agentOffline_notMem_visitAll (s : Supervisor) (instances : List SystemInstance)
    (offline : List Agent) (eps : Episodes) (vs : List Visit) (u : Uuid) :
    Effect.agentOffline u ∉ (visitAll s instances offline eps vs).2 := by
  induction vs generalizing eps with
  | nil => exact List.not_mem_nil
  | cons v vs ih =>
    rw [visitAll]
    exact List.not_mem_append (agentOffline_notMem_visit s instances offline eps v u) (ih _)

/-- Of the events of a pass the ones about agents are those of the sweep. -/
theorem count_agentOffline_tick (s : Supervisor) (eps : Episodes) (t : Tick) (u : Uuid) :
    (tick s eps t).2.count (.agentOffline u) =
      if t.cancelled then 0 else (t.swept.map Agent.agentUuid).count u := by
  rw [tick]
  split
  · rfl
  have hswept : (t.swept.map fun a ↦ Effect.agentOffline a.agentUuid).count (.agentOffline u) =
      (t.swept.map Agent.agentUuid).count u := by
    rw [← List.count_map_of_injective (t.swept.map Agent.agentUuid) Effect.agentOffline
      (fun _ _ h ↦ Effect.agentOffline.inj h), List.map_map]
    rfl
  rcases t.instances with _ | instances
  · exact hswept
  dsimp only
  have hflags : Effect.agentOffline u ∉ flagStranded instances (t.offline.getD []) t.flags := by
    simp [flagStranded]
  have hkept : Effect.agentOffline u ∉
      (keepAlive s instances (t.offline.getD []) eps t.visits).2 := by
    rcases t.visits with _ | vs
    · exact List.not_mem_nil
    · exact agentOffline_notMem_visitAll _ _ _ _ _ _
  rw [List.count_append, List.count_append, hswept, List.count_eq_zero.mpr hflags,
    List.count_eq_zero.mpr hkept]
  rfl

/-! ## One operation -/

/-- The operation sweeps the fleet. -/
def FleetOp.sweeps (o : FleetOp) : Bool :=
  match o.call with
  | .pass t => !t.cancelled
  | _ => false

/-- How long an agent may be silent, in microseconds. -/
def Core.interval (core : Core) : Int := makeInterval core.supervisor.opts.agentOfflineAfter

/-- What is known of an operation and one agent. -/
structure Touched (core : Core) (u : Uuid) (p : Platform) (o : FleetOp) : Prop where
  moves : Moves u p.fleet.db (core.step p o).fleet.db
    ((core.touch u p o).apply o.now (pulseOf p.fleet.db u))
  /-- An agent is created once, under a tenant that is there. -/
  created : ∀ id, core.touch u p o = .created id →
    pulseOf p.fleet.db u = none ∧ (getTenantByID p.fleet.db id).isSome = true
  /-- An agent that is answered is there. -/
  found : core.touch u p o = .registered ∨ core.touch u p o = .beaten →
    (pulseOf p.fleet.db u).isSome = true
  /-- A sweep does nothing else. -/
  sweeps : o.sweeps = true → core.touch u p o = .swept ∨ core.touch u p o = .nothing
  /-- The sweep picks the agents that are stale. -/
  swept : core.touch u p o = .swept ↔
    o.sweeps = true ∧ (pulseOf p.fleet.db u).any (fun x ↦ x.stale o.now core.interval) = true
  /-- An agent is announced once when it is swept, and not otherwise. -/
  announced : (core.effects p o).count (.agentOffline u) =
    if core.touch u p o = .swept then 1 else 0

/-- An operation that is no sweep, touches nobody and leaves the pulse alone. -/
theorem touched_nothing {core : Core} {u : Uuid} {p : Platform} {o : FleetOp}
    (htouch : core.touch u p o = .nothing) (hsweeps : o.sweeps = false)
    (heffects : core.effects p o = [])
    (hmoves : Moves u p.fleet.db (core.step p o).fleet.db (pulseOf p.fleet.db u)) :
    Touched core u p o where
  moves := by rw [htouch]; exact hmoves
  created := by simp [htouch]
  found := by simp [htouch]
  sweeps := by simp [htouch]
  swept := by simp [htouch, hsweeps]
  announced := by simp [htouch, heffects]

theorem touched_create (core : Core) (u : Uuid) (p : Platform) (now : Int) (uuid : Uuid)
    (token : Option String) (input : AgentCreateInput) :
    Touched core u p ⟨now, .create uuid token input⟩ := by
  rcases create_cases core.pki p.fleet now uuid token input u with hsame | ⟨t, ht, hnone, hmoves⟩
  · refine touched_nothing ?_ rfl rfl hsame
    simp only [Core.touch, Core.apply, hsame.2]
    cases pulseOf p.fleet.db u <;> rfl
  · have htouch : core.touch u p ⟨now, .create uuid token input⟩ = .created t.tenantID := by
      simp only [Core.touch, Core.apply, hmoves.2, hnone]
    refine ⟨by rw [htouch]; exact hmoves, ?_, by simp [htouch], by simp [FleetOp.sweeps],
      by simp [htouch, FleetOp.sweeps], by rw [htouch]; rfl⟩
    intro id hid
    rw [htouch, Touch.created.injEq] at hid
    subst hid
    rw [ht]
    exact ⟨hnone, rfl⟩

/-- An RPC. -/
theorem touched_rpc {core : Core} {u w : Uuid} {p : Platform} {o : FleetOp} {touch : Touch}
    {out : Db × List Event} (hrpc : Rpc u w o.now touch p.fleet.db out)
    (htouch : core.touch u p o =
      if some w = some u ∧ out.2.any Event.isAnswer = true then touch else .nothing)
    (hkind : touch = .registered ∨ touch = .beaten) (hsweeps : o.sweeps = false)
    (heffects : core.effects p o = []) (hstep : (core.step p o).fleet.db = out.1) :
    Touched core u p o := by
  by_cases hanswer : some w = some u ∧ out.2.any Event.isAnswer = true
  · rw [if_pos hanswer] at htouch
    have hw : w = u := Option.some.inj hanswer.1
    have hmoves := hrpc.pulse
    rw [if_pos ⟨hw, hanswer.2⟩] at hmoves
    refine ⟨?_, ?_, fun _ ↦ hrpc.found hw hanswer.2, by simp [hsweeps], ?_, ?_⟩
    · rw [htouch, hstep]
      exact ⟨hrpc.tenants, hmoves⟩
    · rcases hkind with hk | hk <;> simp [htouch, hk]
    · rcases hkind with hk | hk <;> simp [htouch, hk, hsweeps]
    · rcases hkind with hk | hk <;> simp [htouch, hk, heffects]
  · rw [if_neg hanswer] at htouch
    have hmoves := hrpc.pulse
    rw [if_neg fun h ↦ hanswer ⟨congrArg some h.1, h.2⟩] at hmoves
    refine touched_nothing htouch hsweeps heffects ?_
    rw [hstep]
    exact ⟨hrpc.tenants, hmoves⟩

theorem sweepOffline_of_pos (fleet : Fleet) (now : Int) {staleAfter : Int} (h : 0 < staleAfter) :
    fleet.sweepOffline now staleAfter =
      ({ fleet with db := (markStaleAgentsOffline fleet.db now (makeInterval staleAfter)).1 },
        .ok (markStaleAgentsOffline fleet.db now (makeInterval staleAfter)).2) := by
  rw [Fleet.sweepOffline, if_neg (by omega)]

/-- A pass that is not cancelled sweeps. -/
theorem sweep_of_not_cancelled (core : Core) (fleet : Fleet) (now : Int) {t : Tick}
    (ht : t.cancelled = false) :
    core.sweep fleet now t =
      ({ fleet with db := (markStaleAgentsOffline fleet.db now core.interval).1 },
        { t with swept := (markStaleAgentsOffline fleet.db now core.interval).2 }) := by
  rw [Core.sweep, ht, sweepOffline_of_pos _ _ core.supervisor.opts.agentOfflineAfter_pos]
  rfl

/-- A pass sweeps the agent if it is stale, and announces it then. -/
theorem touched_pass (core : Core) (u : Uuid) (p : Platform) (now : Int) (t : Tick) :
    Touched core u p ⟨now, .pass t⟩ := by
  have htouch : core.touch u p ⟨now, .pass t⟩ =
      if .agentOffline u ∈ core.effects p ⟨now, .pass t⟩ then .swept else .nothing := rfl
  rcases ht : t.cancelled with _ | _
  · have hsweep := sweep_of_not_cancelled core p.fleet now ht
    have hsweeps : (⟨now, .pass t⟩ : FleetOp).sweeps = true := by simp [FleetOp.sweeps, ht]
    have hcount : (core.effects p ⟨now, .pass t⟩).count (.agentOffline u) =
        if (pulseOf p.fleet.db u).any (fun x ↦ x.stale now core.interval) then 1 else 0 := by
      simp only [Core.effects, Core.apply, hsweep]
      rw [count_agentOffline_tick, ← count_swept]
      simp only [ht, Bool.false_eq_true, if_false]
    have hmoves := moves_markStaleAgentsOffline p.fleet.db now core.interval u
    have hdb : (core.step p ⟨now, .pass t⟩).fleet.db =
        (markStaleAgentsOffline p.fleet.db now core.interval).1 := by
      simp only [Core.step, Core.apply, hsweep]
    rw [← hdb] at hmoves
    rcases hstale : (pulseOf p.fleet.db u).any (fun x ↦ x.stale now core.interval) with _ | _
    · rw [hstale, if_neg Bool.false_ne_true] at hcount hmoves
      rw [if_neg (List.count_eq_zero.mp hcount)] at htouch
      exact ⟨by rw [htouch]; exact hmoves, by simp [htouch], by simp [htouch],
        fun _ ↦ .inr htouch, by simp [htouch, hstale], by simp [htouch, hcount]⟩
    · rw [hstale, if_pos rfl] at hcount hmoves
      rw [if_pos (List.count_pos_iff.mp (by omega))] at htouch
      exact ⟨by rw [htouch]; exact hmoves, by simp [htouch], by simp [htouch],
        fun _ ↦ .inl htouch, by simp [htouch, hstale, hsweeps], by simp [htouch, hcount]⟩
  · have hsweep : core.sweep p.fleet now t = (p.fleet, t) := by rw [Core.sweep, if_pos ht]
    have heffects : core.effects p ⟨now, .pass t⟩ = [] := by
      simp only [Core.effects, Core.apply, hsweep, tick, ht, if_true]
    refine touched_nothing (by rw [htouch, heffects]; rfl) (by simp [FleetOp.sweeps, ht])
      heffects ?_
    simp only [Core.step, Core.apply, hsweep]
    exact moves_refl u p.fleet.db

/-- An RPC whose agent has no uuid is refused. -/
theorem register_of_none {g : AgentGateway} {agentUuid : String}
    (h : g.parseUuid agentUuid = none) (claims : Option String) (version : String)
    (capabilities : List String) :
    g.register claims agentUuid version capabilities =
      refuse ⟨.invalidArgument, "invalid agent_uuid"⟩ := by
  rw [AgentGateway.register, h]

theorem heartbeat_of_none {g : AgentGateway} {agentUuid : String}
    (h : g.parseUuid agentUuid = none) (claims : Option String) :
    g.heartbeat claims agentUuid = refuse ⟨.invalidArgument, "invalid agent_uuid"⟩ := by
  rw [AgentGateway.heartbeat, AgentGateway.requireAgent, h]

/-- **One operation and one agent.** -/
theorem touched_of_housed (core : Core) {u : Uuid} {p : Platform} (hh : Housed p.fleet.db u)
    (o : FleetOp) : Touched core u p o := by
  obtain ⟨now, call⟩ := o
  cases call with
  | create uuid token input => exact touched_create core u p now uuid token input
  | enroll input told =>
    exact touched_nothing rfl rfl rfl (moves_enroll core.pki p.fleet (.start input) told u)
  | register claims agentUuid version capabilities =>
    rcases hw : core.gateway.parseUuid agentUuid with _ | w
    · refine touched_nothing (by simp [Core.touch, hw]) rfl rfl ?_
      simp only [Core.step, Core.apply, register_of_none hw]
      exact moves_refl u p.fleet.db
    · refine touched_rpc (rpc_register core.gateway hh claims hw version capabilities ⟨now, []⟩) ?_
        (.inl rfl) rfl rfl rfl
      rw [← hw]
      rfl
  | heartbeat claims agentUuid =>
    rcases hw : core.gateway.parseUuid agentUuid with _ | w
    · refine touched_nothing (by simp [Core.touch, hw]) rfl rfl ?_
      simp only [Core.step, Core.apply, heartbeat_of_none hw]
      exact moves_refl u p.fleet.db
    · refine touched_rpc (rpc_heartbeat core.gateway hh claims hw ⟨now, []⟩) ?_ (.inr rfl) rfl rfl
        rfl
      rw [← hw]
      rfl
  | pass t => exact touched_pass core u p now t

/-- An agent that is housed stays housed. -/
theorem Housed.step {core : Core} {u : Uuid} {p : Platform} (hh : Housed p.fleet.db u)
    (o : FleetOp) : Housed (core.step p o).fleet.db u := by
  have h := touched_of_housed core hh o
  intro x hx
  rw [getTenantByID_congr h.moves.1]
  rw [h.moves.2] at hx
  -- only `Create` sets the tenant
  cases htouch : core.touch u p o with
  | created id =>
    rw [htouch, Touch.apply, Option.some.injEq] at hx
    rw [← hx]
    exact (h.created id htouch).2
  | nothing => rw [htouch] at hx; exact hh x hx
  | _ =>
    rw [htouch, Touch.apply, Option.map_eq_some_iff] at hx
    obtain ⟨y, hy, rfl⟩ := hx
    exact hh y hy

/-- A heartbeat for an agent whose tenant is gone is refused before it writes. -/
theorem heartbeat_of_tenant_gone {g : AgentGateway} {agentUuid : String} {u : Uuid} {db : Db}
    {a : Agent} (hu : g.parseUuid agentUuid = some u) (ha : getAgentByUUID db u = some a)
    (ht : getTenantByID db a.tenantID = none) (claims : Option String) (m : Moment) :
    ∃ status, (g.heartbeat claims agentUuid).alone m db = (db, [.refused status]) := by
  rcases g.alone_requireAgent claims agentUuid _ m db with
    hrefused | ⟨id, b, p, hid, hb, htenant, -, -⟩
  · exact hrefused
  · obtain rfl : u = id := Option.some.inj (hu.symm.trans hid)
    obtain rfl : a = b := Option.some.inj (ha.symm.trans hb)
    rw [ht] at htenant
    cases htenant

/-- So an agent that beats is housed. -/
theorem housed_of_beaten {core : Core} {u : Uuid} {p : Platform} {o : FleetOp}
    (h : core.touch u p o = .beaten) : Housed p.fleet.db u := by
  obtain ⟨now, call⟩ := o
  cases call with
  | heartbeat claims agentUuid =>
    simp only [Core.touch] at h
    split at h
    · rename_i hanswer
      simp only [Core.apply, Fleet.rpc] at hanswer
      intro x hx
      obtain ⟨a, ha, rfl⟩ := Option.map_eq_some_iff.mp hx
      rw [Option.isSome_iff_ne_none]
      intro hnone
      obtain ⟨status, hrefused⟩ :=
        heartbeat_of_tenant_gone hanswer.1 ha hnone claims ⟨now, []⟩
      rw [hrefused] at hanswer
      exact absurd hanswer.2 Bool.false_ne_true
    · cases h
  | create uuid token input =>
    simp only [Core.touch] at h
    split at h <;> cases h
  | enroll input told => cases h
  | register claims agentUuid version capabilities =>
    simp only [Core.touch] at h
    split at h <;> cases h
  | pass t =>
    simp only [Core.touch] at h
    split at h <;> cases h

end Maintainerd

import Maintainerd.Storage.Queries

/-!
# The statements on `agents`

The part of `internal/storage/queries/agent.sql` the agent service uses.  As on `resources`, every
`UPDATE` but the sweep picks one live row by its uuid: it is `updateAgent`, applied to the guard the
statement adds, to what the columns can hold, and to what it sets.
-/

set_option autoImplicit false

namespace Maintainerd

open Postgres

/-- `deleted_at IS NULL`. -/
def Agent.live (a : Agent) : Bool := a.deletedAt.isNone

/-- `GetAgentByUUID`. -/
def getAgentByUUID (db : Db) (u : Uuid) : Option Agent := (db.agents.get? u).filter Agent.live

theorem getAgentByUUID_eq_some {db : Db} {u : Uuid} {a : Agent} :
    getAgentByUUID db u = some a ↔ db.agents.get? u = some a ∧ a.live = true := by
  rw [getAgentByUUID, Option.filter_eq_some_iff]

/-- `UPDATE agents SET f WHERE agent_uuid = u AND deleted_at IS NULL AND guard`. -/
def updateAgent (db : Db) (u : Uuid) (guard : Agent → Bool) (holds : Bool) (f : Patch Agent) :
    Except QueryError (Db × Agent) :=
  match (getAgentByUUID db u).filter guard with
  | none => .error .noRows
  | some a =>
    let hit := fun x : Agent ↦ x.agentUuid == u && x.live && guard x
    if holds then .ok ({ db with agents := db.agents.updateWhere hit f }, f a)
    else .error .dataException

/-- **What an update of one agent does.**  It found the row, live and past the guard; it put the
patched row in its place, and it touched nothing else. -/
theorem updateAgent_spec {db db' : Db} {u : Uuid} {guard : Agent → Bool} {holds : Bool}
    {f : Patch Agent} {a' : Agent} (h : updateAgent db u guard holds f = .ok (db', a')) :
    ∃ a, db.agents.get? u = some a ∧ a.live = true ∧ guard a = true ∧ a' = f a ∧
      db' = { db with agents := db'.agents } ∧
      ∀ v, db'.agents.get? v = if v = u then some (f a) else db.agents.get? v := by
  rw [updateAgent] at h
  split at h
  · cases h
  · rename_i a ha
    split at h
    · cases h
      rw [Option.filter_eq_some_iff, getAgentByUUID_eq_some] at ha
      obtain ⟨⟨hget, hlive⟩, hguard⟩ := ha
      have hu : a.agentUuid = u := Table.uuid_of_get? hget
      refine ⟨a, hget, hlive, hguard, rfl, rfl, Table.get?_updateWhere_one f hget ?_ ?_⟩
      · simp [hu, hlive, hguard]
      · intro x hx
        have hne : (x.agentUuid == u) = false := by simpa using hx
        rw [hne]
        rfl
    · cases h

/-- The parameters of `UpdateAgentStatus`. -/
structure UpdateAgentStatusParams where
  agentUuid : Uuid
  status : String
  endpoint : String
  version : String
  capabilities : List String

/-- What `UpdateAgentStatus` sets. -/
def UpdateAgentStatusParams.patch (p : UpdateAgentStatusParams) (now : Int) : Patch Agent where
  apply a := { a with
    status := clip 20 p.status, endpoint := p.endpoint, version := clip 50 p.version,
    capabilities := p.capabilities, updatedAt := now }

/-- `UpdateAgentStatus`. -/
def updateAgentStatus (db : Db) (now : Int) (p : UpdateAgentStatusParams) :
    Except QueryError (Db × Agent) :=
  updateAgent db p.agentUuid (fun _ ↦ true)
    (varchar 20 p.status && text p.endpoint && varchar 50 p.version && p.capabilities.all text)
    (p.patch now)

/-- What `AgentHeartbeat` sets. -/
def heartbeatPatch (now : Int) : Patch Agent where
  apply a := { a with lastSeenAt := some now, status := "online", updatedAt := now }

/-- `AgentHeartbeat`. -/
def agentHeartbeat (db : Db) (now : Int) (u : Uuid) : Except QueryError (Db × Agent) :=
  updateAgent db u (fun _ ↦ true) true (heartbeatPatch now)

/-- The parameters of `BindAgentSubject`. -/
structure BindAgentSubjectParams where
  agentUuid : Uuid
  boundSubject : String

/-- What `BindAgentSubject` sets. -/
def BindAgentSubjectParams.patch (p : BindAgentSubjectParams) (now : Int) : Patch Agent where
  apply a := { a with
    boundSubject := clip 255 p.boundSubject, updatedAt := now,
    boundSubject_le := length_clip_le 255 p.boundSubject }

/-- `BindAgentSubject`: it matches a row that is not bound, or bound to the same subject. -/
def bindAgentSubject (db : Db) (now : Int) (p : BindAgentSubjectParams) :
    Except QueryError (Db × Agent) :=
  updateAgent db p.agentUuid (fun a ↦ a.boundSubject == "" || a.boundSubject == p.boundSubject)
    (varchar 255 p.boundSubject) (p.patch now)

/-! ## Creating a row -/

/-- The parameters of `CreateAgent`, with the uuid the column's default draws. -/
structure CreateAgentParams where
  agentUuid : Uuid
  tenantID : Int
  name : String
  status : String
  endpoint : String
  version : String
  capabilities : List String

/-- The row `CreateAgent` inserts: the parameters, and the defaults of the other columns. -/
def CreateAgentParams.row (p : CreateAgentParams) (now : Int) (id : Int) : Agent where
  agentID := id
  agentUuid := p.agentUuid
  tenantID := p.tenantID
  name := clip 100 p.name
  status := clip 20 p.status
  endpoint := p.endpoint
  version := clip 50 p.version
  capabilities := p.capabilities
  boundSubject := ""
  lastSeenAt := none
  updatedAt := now
  deletedAt := none
  boundSubject_le := unbound_le

/-- `CreateAgent`, with the index `uq_agents_tenant_name`. -/
def createAgent (db : Db) (now : Int) (p : CreateAgentParams) : Except QueryError (Db × Agent) :=
  if db.agents.rows.any fun a ↦ a.tenantID == p.tenantID && a.name == clip 100 p.name && a.live then
    .error .dataException
  else if varchar 100 p.name && varchar 20 p.status && text p.endpoint && varchar 50 p.version &&
      p.capabilities.all text then
    match db.agents.insert? (p.row now) fun _ ↦ rfl with
    | none => .error .dataException
    | some (t, a) => .ok ({ db with agents := t }, a)
  else .error .dataException

/-- **What an insertion does.**  The uuid was free; the row is there now, with the defaults of the
table, and every other row is as it was. -/
theorem createAgent_spec {db db' : Db} {now : Int} {p : CreateAgentParams} {a : Agent}
    (h : createAgent db now p = .ok (db', a)) :
    (∃ id, a = p.row now id) ∧ db.agents.get? p.agentUuid = none ∧
      db' = { db with agents := db'.agents } ∧
      ∀ v, db'.agents.get? v = if p.agentUuid = v then some a else db.agents.get? v := by
  rw [createAgent] at h
  split at h
  · cases h
  split at h
  · split at h
    · cases h
    · rename_i t a' hins
      cases h
      have hrow := Table.row_of_insert? hins
      have hu : Keyed.uuid a = p.agentUuid := by rw [hrow]; rfl
      have hget := fun v ↦ Table.get?_insert? hins v
      rw [hu] at hget
      exact ⟨⟨_, hrow⟩, (hget p.agentUuid).1, rfl, fun v ↦ (hget v).2⟩
  · cases h

/-! ## Deleting a row -/

/-- What `SoftDeleteAgent` sets. -/
def softDeleteAgentPatch (now : Int) : Patch Agent where
  apply a := { a with deletedAt := some now, updatedAt := now }

/-- `SoftDeleteAgent`. -/
def softDeleteAgent (db : Db) (now : Int) (u : Uuid) : Db :=
  { db with agents :=
      db.agents.updateWhere (fun a ↦ a.agentUuid == u && a.live) (softDeleteAgentPatch now) }

/-! ## The sweep -/

/-- The rows `MarkStaleAgentsOffline` picks: live, not offline, and last seen more than `interval`
microseconds ago.  A row that was never seen is passed over. -/
def Agent.stale (a : Agent) (now interval : Int) : Bool :=
  a.live && a.status != "offline" && a.lastSeenAt.any (· < now - interval)

/-- What `MarkStaleAgentsOffline` sets. -/
def offlinePatch (now : Int) : Patch Agent where
  apply a := { a with status := "offline", updatedAt := now }

/-- `MarkStaleAgentsOffline`: the database after it, and the rows it returns. -/
def markStaleAgentsOffline (db : Db) (now interval : Int) : Db × List Agent :=
  ({ db with agents := db.agents.updateWhere (fun a ↦ a.stale now interval) (offlinePatch now) },
    (db.agents.rows.filter fun a ↦ a.stale now interval).map (offlinePatch now))

/-- What the sweep does to one row. -/
theorem get?_markStaleAgentsOffline (db : Db) (now interval : Int) (u : Uuid) :
    (markStaleAgentsOffline db now interval).1.agents.get? u =
      (db.agents.get? u).map fun a ↦ if a.stale now interval then offlinePatch now a else a :=
  Table.get?_updateWhere _ _ _ _

/-- A row is returned once if it is picked, and not otherwise. -/
theorem count_markStaleAgentsOffline (db : Db) (now interval : Int) (u : Uuid) :
    ((markStaleAgentsOffline db now interval).2.map Agent.agentUuid).count u =
      if (db.agents.get? u).any (fun a ↦ a.stale now interval) then 1 else 0 := by
  rw [← Table.count_filter_uuid, markStaleAgentsOffline, List.map_map]
  rfl

end Maintainerd

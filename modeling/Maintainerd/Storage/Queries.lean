import Maintainerd.Storage.Rows
import Maintainerd.Lib.Postgres
import Maintainerd.Lib.Text
import Mathlib.Data.List.Sort

/-!
# The statements on `resources`

`internal/storage/queries/resource.sql`, one definition a statement.  Apart from `ClaimAgentWork`
every `UPDATE` there picks one live row by its uuid, so they are all `updateResource`, applied to
the guard the statement adds to its `WHERE` clause, to the values the columns of the row can hold,
and to what it sets.  `updateResource_spec` is the one thing ever used about it.  What a column
refuses, and what it cuts off, is in `Lib/Postgres.lean`; the limits on the size of a value that
come from memory and not from the column are left out.

`now` is the `now()` of the statement.  `ClaimAgentWork` also takes the rows that other
transactions have locked at that moment, because `FOR UPDATE SKIP LOCKED` passes over them.
-/

set_option autoImplicit false

namespace Maintainerd

open Postgres

/-! ## What a column can hold -/

/-- The largest `bigint`. -/
def bigintMax : Int := 2 ^ 63 - 1

/-! ## Reading -/

/-- `GetTenantByID`. -/
def getTenantByID (db : Db) (id : Int) : Option Tenant :=
  (db.tenants.getByID? id).filter fun t ↦ t.deletedAt.isNone

/-- `GetTenantByUUID`. -/
def getTenantByUUID (db : Db) (u : Uuid) : Option Tenant :=
  (db.tenants.get? u).filter fun t ↦ t.deletedAt.isNone

/-- `GetProjectByID`. -/
def getProjectByID (db : Db) (id : Int) : Option Project :=
  (db.projects.getByID? id).filter fun p ↦ p.deletedAt.isNone

/-- `GetProjectByUUID`. -/
def getProjectByUUID (db : Db) (u : Uuid) : Option Project :=
  (db.projects.get? u).filter fun p ↦ p.deletedAt.isNone

/-- `GetProjectByTenantAndName`. -/
def getProjectByTenantAndName (db : Db) (tenantID : Int) (name : String) : Option Project :=
  db.projects.rows.find? fun p ↦ p.tenantID == tenantID && p.name == name && p.deletedAt.isNone

/-- `GetProviderByUUID`. -/
def getProviderByUUID (db : Db) (u : Uuid) : Option Provider :=
  (db.providers.get? u).filter fun p ↦ p.deletedAt.isNone

/-- `GetResourceByUUID`. -/
def getResourceByUUID (db : Db) (u : Uuid) : Option Resource :=
  (db.resources.get? u).filter Resource.live

theorem getResourceByUUID_eq_some {db : Db} {u : Uuid} {r : Resource} :
    getResourceByUUID db u = some r ↔ db.resources.get? u = some r ∧ r.live = true := by
  rw [getResourceByUUID, Option.filter_eq_some_iff]

/-! ## Updating one row -/

/-- `UPDATE resources SET f WHERE resource_uuid = u AND deleted_at IS NULL AND guard`.  `holds`
says that the columns of the row can hold what is written into them. -/
def updateResource (db : Db) (u : Uuid) (guard holds : Resource → Bool) (f : Patch Resource) :
    Except QueryError (Db × Resource) :=
  match (getResourceByUUID db u).filter guard with
  | none => .error .noRows
  | some r =>
    let hit := fun x : Resource ↦ x.resourceUuid == u && x.live && guard x
    if holds r then .ok ({ db with resources := db.resources.updateWhere hit f }, f r)
    else .error .dataException

/-- **What an update of one row does.**  It found the row, live and past the guard; it put the
patched row in its place, and it touched nothing else. -/
theorem updateResource_spec {db db' : Db} {u : Uuid} {guard holds : Resource → Bool}
    {f : Patch Resource} {r' : Resource}
    (h : updateResource db u guard holds f = .ok (db', r')) :
    ∃ r, db.resources.get? u = some r ∧ r.live = true ∧ guard r = true ∧ holds r = true ∧
      r' = f r ∧ db' = { db with resources := db'.resources } ∧
      ∀ v, db'.resources.get? v = if v = u then some (f r) else db.resources.get? v := by
  rw [updateResource] at h
  split at h
  · cases h
  · rename_i r hr
    split at h
    · rename_i hholds
      cases h
      rw [Option.filter_eq_some_iff, getResourceByUUID_eq_some] at hr
      obtain ⟨⟨hget, hlive⟩, hguard⟩ := hr
      have hu : r.resourceUuid = u := Table.uuid_of_get? hget
      refine ⟨r, hget, hlive, hguard, hholds, rfl, rfl, Table.get?_updateWhere_one f hget ?_ ?_⟩
      · simp [hu, hlive, hguard]
      · intro x hx
        have hne : (x.resourceUuid == u) = false := by simpa using hx
        rw [hne]
        rfl
    · cases h

/-- An update that finds its row goes through when the row can hold what is written. -/
theorem isOk_updateResource {db : Db} {u : Uuid} {guard : Resource → Bool}
    (holds : Resource → Bool) (f : Patch Resource) {r : Resource}
    (hget : db.resources.get? u = some r) (hlive : r.live = true) (hguard : guard r = true) :
    (updateResource db u guard holds f).isOk = holds r := by
  have hr : (getResourceByUUID db u).filter guard = some r :=
    Option.filter_eq_some_iff.mpr ⟨getResourceByUUID_eq_some.mpr ⟨hget, hlive⟩, hguard⟩
  rw [updateResource, hr]
  rcases hholds : holds r with _ | _
  · simp [hholds, Except.isOk, Except.toBool]
  · simp [hholds, Except.isOk, Except.toBool]

/-- An update of one row goes through when the row is there, live and past the guard, and can hold
what is written. -/
theorem updateResource_of_get? {db : Db} {u : Uuid} {guard holds : Resource → Bool}
    (f : Patch Resource) {r : Resource} (hget : db.resources.get? u = some r)
    (hlive : r.live = true) (hguard : guard r = true) (hholds : holds r = true) :
    ∃ db', updateResource db u guard holds f = .ok (db', f r) := by
  have hr : (getResourceByUUID db u).filter guard = some r :=
    Option.filter_eq_some_iff.mpr ⟨getResourceByUUID_eq_some.mpr ⟨hget, hlive⟩, hguard⟩
  rw [updateResource, hr]
  exact ⟨_, if_pos hholds⟩

/-- An update that finds no row does nothing. -/
theorem updateResource_of_none {db : Db} {u : Uuid} {guard : Resource → Bool}
    (holds : Resource → Bool) (f : Patch Resource)
    (h : (getResourceByUUID db u).filter guard = none) :
    updateResource db u guard holds f = .error .noRows := by
  rw [updateResource, h]

/-- The parameters of `UpdateResourceSpec`. -/
structure UpdateResourceSpecParams where
  resourceUuid : Uuid
  spec : JsonMap
  metadata : JsonMap
  mrnService : String
  mrnTenant : String
  mrnProject : String
  mrnResourceType : String
  mrnResourcePath : String

/-- What `UpdateResourceSpec` sets. -/
def UpdateResourceSpecParams.patch (p : UpdateResourceSpecParams) (now : Int) :
    Patch Resource where
  apply r := { r with
    spec := p.spec, metadata := p.metadata,
    mrnService := clip 63 p.mrnService, mrnTenant := clip 63 p.mrnTenant,
    mrnProject := clip 63 p.mrnProject, mrnResourceType := clip 63 p.mrnResourceType,
    mrnResourcePath := p.mrnResourcePath,
    generation := r.generation + 1, state := "pending",
    attempts := 0, nextAttemptAt := none, updatedAt := now }

/-- `UpdateResourceSpec`. -/
def updateResourceSpec (db : Db) (now : Int) (p : UpdateResourceSpecParams) :
    Except QueryError (Db × Resource) :=
  updateResource db p.resourceUuid (fun _ ↦ true)
    (fun r ↦ decide (r.generation + 1 ≤ bigintMax) && varchar 63 p.mrnService &&
      varchar 63 p.mrnTenant && varchar 63 p.mrnProject && varchar 63 p.mrnResourceType &&
      text p.mrnResourcePath && jsonb p.spec && jsonb p.metadata)
    (p.patch now)

/-- The parameters of `UpdateResourceStatus`. -/
structure UpdateResourceStatusParams where
  resourceUuid : Uuid
  status : JsonMap
  state : String
  observedGeneration : Int

/-- What `UpdateResourceStatus` sets. -/
def UpdateResourceStatusParams.patch (p : UpdateResourceStatusParams) (now : Int) :
    Patch Resource where
  apply r := { r with
    status := p.status, state := clip 20 p.state, observedGeneration := p.observedGeneration,
    updatedAt := now }

/-- The state of the row after it is a word exactly if the one written is. -/
theorem UpdateResourceStatusParams.patch_state_iff (p : UpdateResourceStatusParams) (now : Int)
    (r : Resource) {word : String} (h : word.length < 20) :
    (p.patch now r).state = word ↔ p.state = word := clip_eq_iff h

/-- `UpdateResourceStatus`. -/
def updateResourceStatus (db : Db) (now : Int) (p : UpdateResourceStatusParams) :
    Except QueryError (Db × Resource) :=
  updateResource db p.resourceUuid (fun _ ↦ true)
    (fun _ ↦ varchar 20 p.state && jsonb p.status) (p.patch now)

/-- The parameters of `ApplyAgentReport`.  `health` is `none` when it is not valid UTF-8. -/
structure ApplyAgentReportParams where
  resourceUuid : Uuid
  status : JsonMap
  state : String
  observedGeneration : Int
  attempts : Int
  nextAttemptAt : Option Int
  health : Option String
  finalize : Bool

/-- What `ApplyAgentReport` sets.  A health that is not valid UTF-8 never gets here. -/
def ApplyAgentReportParams.patch (p : ApplyAgentReportParams) (now : Int) : Patch Resource where
  apply r := { r with
    status := p.status, state := clip 20 p.state,
    observedGeneration := max r.observedGeneration p.observedGeneration,
    attempts := p.attempts, nextAttemptAt := p.nextAttemptAt,
    health := (p.health.map (clip 20)).getD r.health, leasedUntil := none,
    deletedAt := if p.finalize then some now else r.deletedAt, updatedAt := now }

/-- The state of the row after a report is a word exactly if the one written is. -/
theorem ApplyAgentReportParams.patch_state_iff (p : ApplyAgentReportParams) (now : Int)
    (r : Resource) {word : String} (h : word.length < 20) :
    (p.patch now r).state = word ↔ p.state = word := clip_eq_iff h

/-- A report that does not finalise leaves the stamp of the row alone. -/
theorem ApplyAgentReportParams.patch_deletedAt {p : ApplyAgentReportParams}
    (h : p.finalize = false) (now : Int) (r : Resource) :
    (p.patch now r).deletedAt = r.deletedAt := by
  rw [ApplyAgentReportParams.patch]
  simp only [h, Bool.false_eq_true, if_false]

theorem ApplyAgentReportParams.patch_live {p : ApplyAgentReportParams} (h : p.finalize = false)
    (now : Int) (r : Resource) : (p.patch now r).live = r.live := by
  rw [Resource.live, patch_deletedAt h, Resource.live]

/-- The columns can hold what `ApplyAgentReport` sets. -/
def ApplyAgentReportParams.storable (p : ApplyAgentReportParams) : Bool :=
  varchar 20 p.state && p.health.any (varchar 20) && jsonb p.status

/-- `ApplyAgentReport`. -/
def applyAgentReport (db : Db) (now : Int) (p : ApplyAgentReportParams) :
    Except QueryError (Db × Resource) :=
  updateResource db p.resourceUuid (fun _ ↦ true) (fun _ ↦ p.storable) (p.patch now)

/-- What `RedispatchSystemResource` sets. -/
def redispatchPatch (now : Int) : Patch Resource where
  apply r := { r with
    generation := r.generation + 1, state := "pending", leasedUntil := none,
    attempts := 0, nextAttemptAt := none, updatedAt := now }

/-- `RedispatchSystemResource`. -/
def redispatchSystemResource (db : Db) (now : Int) (u : Uuid) :
    Except QueryError (Db × Resource) :=
  updateResource db u (fun r ↦ r.state != "deleting")
    (fun r ↦ decide (r.generation + 1 ≤ bigintMax)) (redispatchPatch now)

/-- What `FlagResourceHostUnreachable` sets.  Nothing reads the time it writes beside the flag, and
its text is the number of microseconds here. -/
def flagPatch (now : Int) : Patch Resource where
  apply r := { r with
    status := JsonMap.concat r.status
      [("host_unreachable", .bool true), ("host_unreachable_at", .str (toString now))],
    health := "unknown", updatedAt := now }

/-- `FlagResourceHostUnreachable`. -/
def flagResourceHostUnreachable (db : Db) (now : Int) (u : Uuid) :
    Except QueryError (Db × Resource) :=
  updateResource db u (fun r ↦ !JsonMap.textIs r.status "host_unreachable" "true")
    (fun _ ↦ true) (flagPatch now)

/-- What `MarkResourceDeleting` sets. -/
def deletingPatch (now : Int) : Patch Resource where
  apply r := { r with state := "deleting", updatedAt := now }

/-- `MarkResourceDeleting`. -/
def markResourceDeleting (db : Db) (now : Int) (u : Uuid) : Except QueryError (Db × Resource) :=
  updateResource db u (fun _ ↦ true) (fun _ ↦ true) (deletingPatch now)

/-! ## Creating a row -/

/-- The parameters of `CreateResource`, with the uuid the column's default draws.  `Create` never
sets the agent nor the owner. -/
structure CreateResourceParams where
  resourceUuid : Uuid
  tenantID : Int
  projectID : Int
  providerID : Option Int
  mrnService : String
  mrnTenant : String
  mrnProject : String
  mrnResourceType : String
  mrnResourcePath : String
  kind : String
  name : String
  spec : JsonMap
  metadata : JsonMap

/-- The row `CreateResource` inserts: the parameters, and the defaults of the other columns. -/
def CreateResourceParams.row (p : CreateResourceParams) (now : Int) (id : Int) : Resource where
  resourceID := id
  resourceUuid := p.resourceUuid
  tenantID := p.tenantID
  projectID := p.projectID
  providerID := p.providerID
  agentID := none
  mrnService := clip 63 p.mrnService
  mrnTenant := clip 63 p.mrnTenant
  mrnProject := clip 63 p.mrnProject
  mrnResourceType := clip 63 p.mrnResourceType
  mrnResourcePath := p.mrnResourcePath
  kind := clip 50 p.kind
  name := clip 100 p.name
  state := "pending"
  health := ""
  spec := p.spec
  status := []
  generation := 1
  observedGeneration := 0
  leasedUntil := none
  attempts := 0
  nextAttemptAt := none
  metadata := p.metadata
  createdAt := now
  updatedAt := now
  deletedAt := none
  kind_le := length_clip_le 50 p.kind

/-- The columns can hold what `CreateResource` inserts. -/
def CreateResourceParams.storable (p : CreateResourceParams) : Bool :=
  varchar 50 p.kind && varchar 100 p.name && varchar 63 p.mrnService && varchar 63 p.mrnTenant &&
    varchar 63 p.mrnProject && varchar 63 p.mrnResourceType && text p.mrnResourcePath &&
    jsonb p.spec && jsonb p.metadata

theorem CreateResourceParams.varchar_kind {p : CreateResourceParams} (h : p.storable = true) :
    varchar 50 p.kind = true := by
  simp only [CreateResourceParams.storable, Bool.and_eq_true] at h
  exact h.1.1.1.1.1.1.1.1

theorem CreateResourceParams.varchar_name {p : CreateResourceParams} (h : p.storable = true) :
    varchar 100 p.name = true := by
  simp only [CreateResourceParams.storable, Bool.and_eq_true] at h
  exact h.1.1.1.1.1.1.1.2

/-- `CreateResource`, with the index `uq_resources_project_kind_name`. -/
def createResource (db : Db) (now : Int) (p : CreateResourceParams) :
    Except QueryError (Db × Resource) :=
  if db.resources.rows.any fun r ↦ r.projectID == p.projectID && r.kind == clip 50 p.kind &&
      r.name == clip 100 p.name && r.live then .error .dataException
  else if p.storable then
    match db.resources.insert? (p.row now) fun _ ↦ rfl with
    | none => .error .dataException
    | some (t, r) => .ok ({ db with resources := t }, r)
  else .error .dataException

/-- **What an insertion does.**  The uuid was free; the row is there now, with the defaults of the
table, and every other row is as it was. -/
theorem createResource_spec {db db' : Db} {now : Int} {p : CreateResourceParams} {r : Resource}
    (h : createResource db now p = .ok (db', r)) :
    (∃ id, r = p.row now id) ∧ db.resources.get? p.resourceUuid = none ∧
      db' = { db with resources := db'.resources } ∧
      ∀ v, db'.resources.get? v = if p.resourceUuid = v then some r else db.resources.get? v := by
  rw [createResource] at h
  split at h
  · cases h
  split at h
  · split at h
    · cases h
    · rename_i t r' hins
      cases h
      have hrow := Table.row_of_insert? hins
      have hu : Keyed.uuid r = p.resourceUuid := by rw [hrow]; rfl
      have hget := fun v ↦ Table.get?_insert? hins v
      rw [hu] at hget
      exact ⟨⟨_, hrow⟩, (hget p.resourceUuid).1, rfl, fun v ↦ (hget v).2⟩
  · cases h

/-- What is inserted is what the columns can hold. -/
theorem createResource_storable {db db' : Db} {now : Int} {p : CreateResourceParams} {r : Resource}
    (h : createResource db now p = .ok (db', r)) : p.storable = true := by
  rw [createResource] at h
  split at h
  · cases h
  split at h
  · assumption
  · cases h

/-- What refuses a resource: a live one of its project, kind and name. -/
def resourceTaken (db : Db) (p : CreateResourceParams) : Bool :=
  db.resources.rows.any fun r ↦ r.projectID == p.projectID && r.kind == clip 50 p.kind &&
    r.name == clip 100 p.name && r.live

/-- A resource that nothing refuses, and whose uuid is free, is created. -/
theorem createResource_ne_error {db : Db} {now : Int} {p : CreateResourceParams} {err : QueryError}
    (htaken : resourceTaken db p = false) (hfits : p.storable = true)
    (hfree : db.resources.get? p.resourceUuid = none) : createResource db now p ≠ .error err := by
  rw [resourceTaken, Bool.eq_false_iff] at htaken
  rw [createResource, if_neg htaken, if_pos hfits]
  split
  · rename_i hnone
    exact absurd hnone (Table.insert?_ne_none hfree)
  · simp

/-- The parameters of `CreateProject`, with the uuid the column's default draws. -/
structure CreateProjectParams where
  projectUuid : Uuid
  tenantID : Int
  name : String

/-- The row `CreateProject` inserts. -/
def CreateProjectParams.row (p : CreateProjectParams) (id : Int) : Project :=
  ⟨id, p.projectUuid, p.tenantID, clip 63 p.name, none, length_clip_le 63 p.name⟩

/-- `CreateProject`, with the index `uq_projects_tenant_name` and the foreign key. -/
def createProject (db : Db) (p : CreateProjectParams) : Except QueryError (Db × Project) :=
  if db.projects.rows.any fun q ↦ q.tenantID == p.tenantID && q.name == clip 63 p.name &&
      q.deletedAt.isNone then .error .dataException
  else if varchar 63 p.name && db.tenants.rows.any fun t ↦ t.tenantID == p.tenantID then
    match db.projects.insert? p.row fun _ ↦ rfl with
    | none => .error .dataException
    | some (t, q) => .ok ({ db with projects := t }, q)
  else .error .dataException

/-! ## The work feed -/

/-- `make_interval(secs => d.Seconds())`: PostgreSQL rounds to the nearest microsecond, ties to
even. -/
def makeInterval (d : Int) : Int :=
  if d % 1000 < 500 then d / 1000
  else if 500 < d % 1000 then d / 1000 + 1
  else if d / 1000 % 2 = 0 then d / 1000 else d / 1000 + 1

/-- The rule of the feed that does not depend on who asks: the observed state lags the spec, or the
row is being torn down, or an attempt failed retryably; and the row is not parked. -/
def Resource.outOfSync (r : Resource) : Bool :=
  (decide (r.observedGeneration < r.generation) || r.state == "deleting" || r.state == "error") &&
    r.state != "failed" && r.live

/-- The rows `ClaimAgentWork` may hand to an agent: out of sync, the agent's own or nobody's, with
no lease running and no backoff pending. -/
def Resource.claimable (r : Resource) (agentID : Int) (now : Int) : Bool :=
  r.outOfSync && r.agentID.all (· == agentID) && r.leasedUntil.all (· < now) &&
    r.nextAttemptAt.all (· ≤ now)

/-- What `ClaimAgentWork` sets. -/
def claimPatch (agentID : Int) (leaseTTL : Int) (now : Int) : Patch Resource where
  apply r := { r with
    agentID := some agentID, leasedUntil := some (now + makeInterval leaseTTL),
    updatedAt := now }

/-- The subselect of `ClaimAgentWork`: the oldest `maxItems` claimable rows that no other
transaction has locked. -/
def claimSelect (db : Db) (now : Int) (agentID : Int) (maxItems : ℕ) (locked : List Int) :
    List Int :=
  (((db.resources.rows.filter fun r ↦
      r.claimable agentID now && !locked.contains r.resourceID).insertionSort
    fun r r' ↦ r.updatedAt ≤ r'.updatedAt).take maxItems).map Resource.resourceID

/-- `ClaimAgentWork`: the database after it, and the rows it returns. -/
def claimAgentWork (db : Db) (now : Int) (agentID : Int) (leaseTTL : Int) (maxItems : ℕ)
    (locked : List Int) : Db × List Resource :=
  let ids := claimSelect db now agentID maxItems locked
  let hit := fun r : Resource ↦ ids.contains r.resourceID
  let f := claimPatch agentID leaseTTL now
  ({ db with resources := db.resources.updateWhere hit f },
    (db.resources.rows.filter hit).map f)

/-- A row the claim hits was claimable. -/
theorem claimable_of_mem_claimSelect {db : Db} {now : Int} {agentID : Int} {maxItems : ℕ}
    {locked : List Int} {r : Resource} (hr : r ∈ db.resources.rows)
    (h : r.resourceID ∈ claimSelect db now agentID maxItems locked) :
    r.claimable agentID now = true := by
  rw [claimSelect] at h
  obtain ⟨r', hr', hid⟩ := List.mem_map.mp h
  have hmem := (List.mem_insertionSort _).mp (List.mem_of_mem_take hr')
  rw [List.mem_filter, Bool.and_eq_true] at hmem
  have : r' = r := Table.eq_of_id_eq hmem.1 hr hid
  exact this ▸ hmem.2.1

/-- **What a claim does to one row.**  It leaves it alone, or the row was claimable and is leased
to the caller. -/
theorem claimAgentWork_get? {db : Db} (now agentID leaseTTL : Int) (maxItems : ℕ)
    (locked : List Int) {u : Uuid} {r : Resource}
    (h : db.resources.get? u = some r) :
    (claimAgentWork db now agentID leaseTTL maxItems locked).1.resources.get? u = some r ∨
      r.claimable agentID now = true ∧
      (claimAgentWork db now agentID leaseTTL maxItems locked).1.resources.get? u
        = some (claimPatch agentID leaseTTL now r) := by
  simp only [claimAgentWork, Table.get?_updateWhere, h, Option.map_some]
  split
  · rename_i hin
    exact Or.inr ⟨claimable_of_mem_claimSelect (Table.mem_of_get? h) (by simpa using hin), rfl⟩
  · exact Or.inl rfl

theorem claimAgentWork_get?_eq_none {db : Db} {now : Int} {agentID : Int} {leaseTTL : Int}
    {maxItems : ℕ} {locked : List Int} {u : Uuid} (h : db.resources.get? u = none) :
    (claimAgentWork db now agentID leaseTTL maxItems locked).1.resources.get? u = none := by
  simp [claimAgentWork, Table.get?_updateWhere, h]

/-- The columns of a row let it be dispatched, to whoever it may go to: it is out of sync, no lease
is running and no backoff pending. -/
def Resource.due (r : Resource) (now : Int) : Bool :=
  r.outOfSync && r.leasedUntil.all (· < now) && r.nextAttemptAt.all (· ≤ now)

theorem claimable_of_due {r : Resource} {now : Int} (h : r.due now = true) (agentID : Int) :
    r.claimable agentID now = r.agentID.all (· == agentID) := by
  simp only [Resource.due, Bool.and_eq_true] at h
  simp [Resource.claimable, h.1.1, h.1.2, h.2]

/-- With room for all of them, a claim takes every claimable row that is not locked. -/
theorem mem_claimSelect_of_room {db : Db} {now agentID : Int} {maxItems : ℕ} {locked : List Int}
    {r : Resource} (hr : r ∈ db.resources.rows) (hclaim : r.claimable agentID now = true)
    (hfree : r.resourceID ∉ locked)
    (hroom : (db.resources.rows.filter fun r ↦ r.claimable agentID now).length ≤ maxItems) :
    r.resourceID ∈ claimSelect db now agentID maxItems locked := by
  have hfew : (db.resources.rows.filter fun r ↦
      r.claimable agentID now && !locked.contains r.resourceID).length ≤ maxItems := by
    refine Nat.le_trans (List.Sublist.length_le ?_) hroom
    exact List.monotone_filter_right _ fun r hr ↦ (Bool.and_eq_true _ _ ▸ hr).1
  rw [claimSelect, List.take_of_length_le (by rw [List.length_insertionSort]; exact hfew)]
  refine List.mem_map_of_mem ((List.mem_insertionSort _).mpr (List.mem_filter.mpr ⟨hr, ?_⟩))
  simp [hclaim, hfree]

theorem mem_claimAgentWork_of_room {db : Db} {now agentID leaseTTL : Int} {maxItems : ℕ}
    {locked : List Int} {u : Uuid} {r : Resource} (hr : db.resources.get? u = some r)
    (hclaim : r.claimable agentID now = true) (hfree : r.resourceID ∉ locked)
    (hroom : (db.resources.rows.filter fun r ↦ r.claimable agentID now).length ≤ maxItems) :
    claimPatch agentID leaseTTL now r ∈
      (claimAgentWork db now agentID leaseTTL maxItems locked).2 := by
  have hmem := Table.mem_of_get? hr
  refine List.mem_map_of_mem (List.mem_filter.mpr ⟨hmem, ?_⟩)
  simpa using mem_claimSelect_of_room hmem hclaim hfree hroom

/-- **What a claim returns.**  Each returned row is a claimable row of the table, leased to the
caller, and is what the table holds afterwards. -/
theorem mem_claimAgentWork {db : Db} {now : Int} {agentID : Int} {leaseTTL : Int}
    {maxItems : ℕ} {locked : List Int} {r' : Resource}
    (h : r' ∈ (claimAgentWork db now agentID leaseTTL maxItems locked).2) :
    ∃ r, db.resources.get? r'.resourceUuid = some r ∧ r.claimable agentID now = true ∧
      r' = claimPatch agentID leaseTTL now r ∧
      (claimAgentWork db now agentID leaseTTL maxItems locked).1.resources.get? r'.resourceUuid
        = some r' := by
  simp only [claimAgentWork] at h
  obtain ⟨r, hr, rfl⟩ := List.mem_map.mp h
  rw [List.mem_filter] at hr
  have hget : db.resources.get? r.resourceUuid = some r := Table.get?_of_mem hr.1
  refine ⟨r, hget, claimable_of_mem_claimSelect hr.1 (by simpa using hr.2), rfl, ?_⟩
  show (claimAgentWork db now agentID leaseTTL maxItems locked).1.resources.get? r.resourceUuid = _
  simp only [claimAgentWork, Table.get?_updateWhere, hget, Option.map_some, hr.2, if_true]

end Maintainerd

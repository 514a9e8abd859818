import Maintainerd.Storage.Queries

/-!
# The statements on `tenants` and `services`

`internal/storage/queries/tenant.sql` and `service.sql`, one definition a statement, as far as the
tenant service and the service registry use them to write and to read a row.  The two tables are
taken by themselves, with all their columns: `Registry` holds them together with the foreign key
between them, so that a registration without a tenant cannot be written down.  Both tables delete
softly, so the key is never the reason a statement fails and `ON DELETE CASCADE` never acts; a
registration keeps its tenant's number when the tenant is gone.
-/

set_option autoImplicit false

namespace Maintainerd

open Postgres

/-! ## The tables -/

/-- A row of `tenants`, with the columns only the tenant service reads. -/
structure TenantRow extends Tenant where
  displayName : String
  status : String
  isSystem : Bool
  authTenantUuid : Option Uuid
  metadata : JsonMap
  createdAt : Int
  updatedAt : Int

/-- A row of `services`. -/
structure Service where
  serviceID : Int
  serviceUuid : Uuid
  tenantID : Int
  name : String
  kind : String
  isSystem : Bool
  status : String
  endpoint : String
  version : String
  metadata : JsonMap
  registeredAt : Option Int
  createdAt : Int
  updatedAt : Int
  deletedAt : Option Int
  status_le : status.length ≤ 20

instance : Keyed TenantRow := ⟨fun t ↦ t.tenantID, fun t ↦ t.tenantUuid⟩
instance : Keyed Service := ⟨Service.serviceID, Service.serviceUuid⟩

/-- `deleted_at IS NULL`. -/
def TenantRow.live (t : TenantRow) : Bool := t.deletedAt.isNone

/-- `deleted_at IS NULL`. -/
def Service.live (s : Service) : Bool := s.deletedAt.isNone

/-- The two tables, and the foreign key. -/
structure Registry where
  tenants : Table TenantRow
  services : Table Service
  /-- `tenant_id BIGINT NOT NULL REFERENCES tenants (tenant_id)`. -/
  references : ∀ s ∈ services.rows, ∃ t ∈ tenants.rows, t.tenantID = s.tenantID

namespace Registry

/-- A new installation. -/
def empty : Registry := ⟨.empty, .empty, by simp [Table.empty]⟩

/-! ## Reading -/

/-- `GetTenantByID`. -/
def getTenantByID (r : Registry) (id : Int) : Option TenantRow :=
  (r.tenants.getByID? id).filter TenantRow.live

/-- `GetTenantByUUID`. -/
def getTenantByUUID (r : Registry) (u : Uuid) : Option TenantRow :=
  (r.tenants.get? u).filter TenantRow.live

/-- `GetSystemTenant`. -/
def getSystemTenant (r : Registry) : Option TenantRow :=
  r.tenants.rows.find? fun t ↦ t.isSystem && t.live

/-- `GetServiceByUUID`. -/
def getServiceByUUID (r : Registry) (u : Uuid) : Option Service :=
  (r.services.get? u).filter Service.live

/-- `GetServiceByTenantAndName`. -/
def getServiceByTenantAndName (r : Registry) (tenantID : Int) (name : String) : Option Service :=
  r.services.rows.find? fun s ↦ s.tenantID == tenantID && s.name == name && s.live

/-- `ListSystemServices`.  Rows of one kind come in the order of the table. -/
def listSystemServices (r : Registry) : List Service :=
  (r.services.rows.filter fun s ↦ s.isSystem && s.live).insertionSort fun s s' ↦ s.kind ≤ s'.kind

theorem mem_listSystemServices {r : Registry} {s : Service} :
    s ∈ r.listSystemServices ↔ s ∈ r.services.rows ∧ s.isSystem = true ∧ s.live = true := by
  rw [listSystemServices, List.mem_insertionSort, List.mem_filter, Bool.and_eq_true]

/-! ## Writing -/

/-- An `UPDATE` of `tenants`. -/
def updateTenants (r : Registry) (hit : TenantRow → Bool) (f : Patch TenantRow) : Registry where
  tenants := r.tenants.updateWhere hit f
  services := r.services
  references := by
    intro s hs
    obtain ⟨t, ht, hid⟩ := r.references s hs
    refine ⟨_, List.mem_map_of_mem ht, ?_⟩
    split
    · exact (f.id_apply t).trans hid
    · exact hid

/-- An `UPDATE` of `services` that leaves the tenants alone. -/
def updateServices (r : Registry) (hit : Service → Bool) (f : Patch Service)
    (hf : ∀ s, (f s).tenantID = s.tenantID) : Registry where
  tenants := r.tenants
  services := r.services.updateWhere hit f
  references := by
    intro s hs
    obtain ⟨s₀, hs₀, rfl⟩ := List.mem_map.mp hs
    obtain ⟨t, ht, hid⟩ := r.references s₀ hs₀
    refine ⟨t, ht, hid.trans ?_⟩
    split
    · exact (hf s₀).symm
    · rfl

/-- The parameters of `CreateTenant`, with the uuid the column's default draws. -/
structure CreateTenantParams where
  tenantUuid : Uuid
  name : String
  displayName : String
  status : String
  isSystem : Bool
  authTenantUuid : Option Uuid
  metadata : JsonMap

/-- The row `CreateTenant` inserts. -/
def CreateTenantParams.row (p : CreateTenantParams) (now : Int) (id : Int) : TenantRow where
  tenantID := id
  tenantUuid := p.tenantUuid
  name := clip 63 p.name
  deletedAt := none
  name_le := length_clip_le 63 p.name
  displayName := clip 255 p.displayName
  status := clip 20 p.status
  isSystem := p.isSystem
  authTenantUuid := p.authTenantUuid
  metadata := p.metadata
  createdAt := now
  updatedAt := now

/-- The columns can hold what `CreateTenant` inserts. -/
def CreateTenantParams.storable (p : CreateTenantParams) : Bool :=
  varchar 63 p.name && varchar 255 p.displayName && varchar 20 p.status && jsonb p.metadata

/-- `CreateTenant`, with the indexes `uq_tenants_name` and `uq_tenants_single_system`. -/
def createTenant (r : Registry) (now : Int) (p : CreateTenantParams) :
    Except QueryError (Registry × TenantRow) :=
  if r.tenants.rows.any fun t ↦ t.live &&
      (t.name == clip 63 p.name || t.isSystem && p.isSystem) then
    .error .dataException
  else if p.storable then
    match h : r.tenants.insert? (p.row now) fun _ ↦ rfl with
    | none => .error .dataException
    | some (tenants, t) =>
      .ok (⟨tenants, r.services, fun s hs ↦ by
        obtain ⟨t', ht', hid⟩ := r.references s hs
        exact ⟨t', by rw [Table.rows_insert? h]; exact List.mem_cons_of_mem _ ht', hid⟩⟩, t)
  else .error .dataException

/-- What refuses the creation of a tenant: a live tenant of its name, or a second system tenant. -/
def tenantTaken (r : Registry) (p : CreateTenantParams) : Bool :=
  r.tenants.rows.any fun t ↦ t.live && (t.name == clip 63 p.name || t.isSystem && p.isSystem)

/-- A creation that goes through is an insertion that nothing refused. -/
theorem createTenant_eq_ok {r r' : Registry} {now : Int} {p : CreateTenantParams} {t : TenantRow}
    (h : r.createTenant now p = .ok (r', t)) :
    r'.services = r.services ∧ r.tenantTaken p = false ∧ p.storable = true ∧
      r.tenants.insert? (p.row now) (fun _ ↦ rfl) = some (r'.tenants, t) := by
  rw [createTenant] at h
  split_ifs at h with htaken hfits
  split at h
  · cases h
  · rename_i hinsert
    cases h
    exact ⟨rfl, Bool.eq_false_iff.mpr htaken, hfits, hinsert⟩

/-- A tenant that nothing refuses, and whose uuid is free, is created. -/
theorem createTenant_ne_error {r : Registry} {now : Int} {p : CreateTenantParams}
    {err : QueryError} (htaken : r.tenantTaken p = false) (hfits : p.storable = true)
    (hfree : r.tenants.get? p.tenantUuid = none) : r.createTenant now p ≠ .error err := by
  rw [tenantTaken, Bool.eq_false_iff] at htaken
  rw [createTenant, if_neg htaken, if_pos hfits]
  split
  · rename_i hnone
    exact absurd hnone (Table.insert?_ne_none hfree)
  · simp

/-- The parameters of `UpdateTenant`. -/
structure UpdateTenantParams where
  tenantUuid : Uuid
  displayName : String
  status : String
  authTenantUuid : Option Uuid
  metadata : JsonMap

/-- What `UpdateTenant` sets. -/
def UpdateTenantParams.patch (p : UpdateTenantParams) (now : Int) : Patch TenantRow where
  apply t := { t with
    displayName := clip 255 p.displayName, status := clip 20 p.status,
    authTenantUuid := p.authTenantUuid, metadata := p.metadata, updatedAt := now }

/-- `UpdateTenant`. -/
def updateTenant (r : Registry) (now : Int) (p : UpdateTenantParams) :
    Except QueryError (Registry × TenantRow) :=
  match r.getTenantByUUID p.tenantUuid with
  | none => .error .noRows
  | some t =>
    if varchar 255 p.displayName && varchar 20 p.status && jsonb p.metadata then
      .ok (r.updateTenants (fun t ↦ t.tenantUuid == p.tenantUuid && t.live) (p.patch now),
        p.patch now t)
    else .error .dataException

/-- What `SoftDeleteTenant` sets. -/
def softDeleteTenantPatch (now : Int) : Patch TenantRow where
  apply t := { t with deletedAt := some now, updatedAt := now }

/-- `SoftDeleteTenant`. -/
def softDeleteTenant (r : Registry) (now : Int) (u : Uuid) : Registry :=
  r.updateTenants (fun t ↦ t.tenantUuid == u && t.live) (softDeleteTenantPatch now)

/-- The parameters of `CreateService`, with the uuid the column's default draws. -/
structure CreateServiceParams where
  serviceUuid : Uuid
  tenantID : Int
  name : String
  kind : String
  status : String
  endpoint : String
  version : String
  metadata : JsonMap
  registeredAt : Option Int
  isSystem : Bool

/-- The row `CreateService` inserts. -/
def CreateServiceParams.row (p : CreateServiceParams) (now : Int) (id : Int) : Service where
  serviceID := id
  serviceUuid := p.serviceUuid
  tenantID := p.tenantID
  name := clip 100 p.name
  kind := clip 50 p.kind
  isSystem := p.isSystem
  status := clip 20 p.status
  endpoint := p.endpoint
  version := clip 50 p.version
  metadata := p.metadata
  registeredAt := p.registeredAt
  createdAt := now
  updatedAt := now
  deletedAt := none
  status_le := length_clip_le 20 p.status

/-- The columns can hold what `CreateService` inserts. -/
def CreateServiceParams.storable (p : CreateServiceParams) : Bool :=
  varchar 100 p.name && varchar 50 p.kind && varchar 20 p.status && text p.endpoint &&
    varchar 50 p.version && jsonb p.metadata

/-- `CreateService`, with the indexes `uq_services_tenant_name` and
`uq_services_single_system_kind`, and the foreign key. -/
def createService (r : Registry) (now : Int) (p : CreateServiceParams) :
    Except QueryError (Registry × Service) :=
  if r.services.rows.any fun s ↦ s.live &&
      (s.tenantID == p.tenantID && s.name == clip 100 p.name ||
        s.isSystem && p.isSystem && s.kind == clip 50 p.kind) then
    .error .dataException
  else if p.storable then
    if hkey : ∃ t ∈ r.tenants.rows, t.tenantID = p.tenantID then
      match h : r.services.insert? (p.row now) fun _ ↦ rfl with
      | none => .error .dataException
      | some (services, s) =>
        .ok (⟨r.tenants, services, fun s' hs' ↦ by
          rw [Table.rows_insert? h] at hs'
          rcases List.mem_cons.mp hs' with rfl | hs'
          · rw [Table.row_of_insert? h]
            exact hkey
          · exact r.references s' hs'⟩, s)
    else .error .dataException
  else .error .dataException

/-- A creation that goes through is an insertion. -/
theorem createService_eq_ok {r r' : Registry} {now : Int} {p : CreateServiceParams} {s : Service}
    (h : r.createService now p = .ok (r', s)) :
    r'.tenants = r.tenants ∧
      r.services.insert? (p.row now) (fun _ ↦ rfl) = some (r'.services, s) := by
  rw [createService] at h
  split_ifs at h
  split at h
  · cases h
  · rename_i hinsert
    cases h
    exact ⟨rfl, hinsert⟩

/-- What refuses a registration: a live one of its tenant and name, or a second system registration
of its kind. -/
def serviceTaken (r : Registry) (p : CreateServiceParams) : Bool :=
  r.services.rows.any fun s ↦ s.live &&
    (s.tenantID == p.tenantID && s.name == clip 100 p.name ||
      s.isSystem && p.isSystem && s.kind == clip 50 p.kind)

/-- A registration that nothing refuses, and whose uuid is free, is made. -/
theorem createService_ne_error {r : Registry} {now : Int} {p : CreateServiceParams}
    {err : QueryError} (htaken : r.serviceTaken p = false) (hfits : p.storable = true)
    (hkey : ∃ t ∈ r.tenants.rows, t.tenantID = p.tenantID)
    (hfree : r.services.get? p.serviceUuid = none) : r.createService now p ≠ .error err := by
  rw [serviceTaken, Bool.eq_false_iff] at htaken
  rw [createService, if_neg htaken, if_pos hfits, dif_pos hkey]
  split
  · rename_i hnone
    exact absurd hnone (Table.insert?_ne_none hfree)
  · simp

/-- The parameters of `UpdateServiceStatus`. -/
structure UpdateServiceStatusParams where
  serviceUuid : Uuid
  status : String
  endpoint : String
  registeredAt : Option Int

/-- What `UpdateServiceStatus` sets. -/
def UpdateServiceStatusParams.patch (p : UpdateServiceStatusParams) (now : Int) :
    Patch Service where
  apply s := { s with
    status := clip 20 p.status, endpoint := p.endpoint, registeredAt := p.registeredAt,
    updatedAt := now, status_le := length_clip_le 20 p.status }

theorem UpdateServiceStatusParams.tenantID_patch (p : UpdateServiceStatusParams) (now : Int)
    (s : Service) : (p.patch now s).tenantID = s.tenantID := rfl

/-- `UpdateServiceStatus`. -/
def updateServiceStatus (r : Registry) (now : Int) (p : UpdateServiceStatusParams) :
    Except QueryError (Registry × Service) :=
  match r.getServiceByUUID p.serviceUuid with
  | none => .error .noRows
  | some s =>
    if varchar 20 p.status && text p.endpoint then
      .ok (r.updateServices (fun s ↦ s.serviceUuid == p.serviceUuid && s.live) (p.patch now)
        (p.tenantID_patch now), p.patch now s)
    else .error .dataException

/-- An update that goes through sets the columns of one row. -/
theorem updateServiceStatus_eq_ok {r r' : Registry} {now : Int} {p : UpdateServiceStatusParams}
    {s : Service} (h : r.updateServiceStatus now p = .ok (r', s)) :
    r' = r.updateServices (fun s ↦ s.serviceUuid == p.serviceUuid && s.live) (p.patch now)
      (p.tenantID_patch now) := by
  rw [updateServiceStatus] at h
  split at h
  · cases h
  split_ifs at h
  cases h
  rfl

/-- What `SoftDeleteService` sets. -/
def softDeleteServicePatch (now : Int) : Patch Service where
  apply s := { s with deletedAt := some now, updatedAt := now }

theorem tenantID_softDeleteServicePatch (now : Int) (s : Service) :
    (softDeleteServicePatch now s).tenantID = s.tenantID := rfl

/-- `SoftDeleteService`. -/
def softDeleteService (r : Registry) (now : Int) (u : Uuid) : Registry :=
  r.updateServices (fun s ↦ s.serviceUuid == u && s.live) (softDeleteServicePatch now)
    (tenantID_softDeleteServicePatch now)

end Registry

end Maintainerd

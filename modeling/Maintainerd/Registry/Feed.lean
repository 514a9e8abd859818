import Maintainerd.Storage.Registry
import Maintainerd.Resource.Service
import Maintainerd.Supervisor.KeepAlive
import Maintainerd.Lib.Run

/-!
# The feed of keep-alive

`internal/tenant/service.go` and `internal/service/service.go`: the tenants, the registry of
services, and `ListSystem`, which the supervisor asks at every pass for the services it keeps alive.

`ListSystem` answers each registration with the uuid of its tenant and fails as a whole if one of
the tenants is not there.  A system registration cannot be deleted, and the system tenant cannot be
deleted either; but a system registration may be made under any tenant, and any other tenant can be
deleted.  Then the registration stays, its tenant does not come back, and from there on `ListSystem`
fails and keep-alive is skipped (`feed_cut_off`).

The invariant is `Fed`: the tenant of every live system registration is there.  `Changes` says what
an operation does to the two things it speaks about, the tenants that are needed and the tenants
that are there, and `fed_step_iff` is exact: an operation keeps `Fed` just in case it does not
remove a tenant that is needed, and it never brings `Fed` back.  So one condition on the deletions
of a run decides the state it ends in, which is `feed_complete_iff`.

A statement that fails at the database leaves the tables as they were, and no operation here makes
more than one, so an operation that failed is an operation that is not in the run.
-/

set_option autoImplicit false

namespace Maintainerd

open Machine

/-! ## The tenant service -/

namespace TenantService

/-- `CreateInput`. -/
structure CreateInput where
  name : String
  displayName : String
  status : String
  isSystem : Bool
  authTenantUUID : Option Uuid
  metadata : JsonMap

/-- `UpdateInput`. -/
structure UpdateInput where
  displayName : String
  status : String
  authTenantUUID : Option Uuid
  metadata : Option JsonMap

/-- `Create`, with the uuid the database draws. -/
def create (r : Registry) (now : Int) (uuid : Uuid) (input : CreateInput) :
    Registry × Except AppError TenantRow :=
  if input.name = "" then (r, .error (.validation "name is required"))
  else
    match r.createTenant now
        { tenantUuid := uuid
          name := input.name
          displayName := input.displayName
          status := if input.status = "" then "active" else input.status
          isSystem := input.isSystem
          authTenantUuid := input.authTenantUUID
          metadata := input.metadata } with
    | .error e => (r, .error (.query e))
    | .ok (r', t) => (r', .ok t)

/-- `Update`. -/
def update (r : Registry) (now : Int) (u : Uuid) (input : UpdateInput) :
    Registry × Except AppError TenantRow :=
  match r.getTenantByUUID u with
  | none => (r, .error (.notFound "tenant"))
  | some current =>
    match r.updateTenant now
        { tenantUuid := u
          displayName := if input.displayName = "" then current.displayName else input.displayName
          status := if input.status = "" then current.status else input.status
          authTenantUuid := input.authTenantUUID.orElse fun _ ↦ current.authTenantUuid
          metadata := input.metadata.getD current.metadata } with
    | .error .noRows => (r, .error (.notFound "tenant"))
    | .error e => (r, .error (.query e))
    | .ok (r', t) => (r', .ok t)

/-- `Delete`. -/
def delete (r : Registry) (now : Int) (u : Uuid) : Registry × Except AppError Unit :=
  match r.getTenantByUUID u with
  | none => (r, .error (.notFound "tenant"))
  | some current =>
    if current.isSystem then
      (r, .error (.forbidden
        "the system tenant is required by the platform and cannot be removed"))
    else (r.softDeleteTenant now u, .ok ⟨⟩)

end TenantService

/-! ## The service registry -/

namespace ServiceRegistry

/-- `Registration`: what a caller is told about a row of `services`. -/
structure Record extends Registration where
  tenantUuid : Uuid
  kind : String
  isSystem : Bool
  status : String
  endpoint : String
  version : String
  metadata : JsonMap
  registeredAt : Option Int
  createdAt : Int
  updatedAt : Int

/-- `regFrom`. -/
def regFrom (row : Service) (tenantUuid : Uuid) : Record where
  serviceUuid := row.serviceUuid
  name := row.name
  tenantUuid := tenantUuid
  kind := row.kind
  isSystem := row.isSystem
  status := row.status
  endpoint := row.endpoint
  version := row.version
  metadata := row.metadata
  registeredAt := row.registeredAt
  createdAt := row.createdAt
  updatedAt := row.updatedAt

/-- `resolveTenantUUID`. -/
def resolveTenantUUID (r : Registry) (tenantID : Int) : Except AppError Uuid :=
  match r.getTenantByID tenantID with
  | none => .error (.query .noRows)
  | some t => .ok t.tenantUuid

/-- `CreateInput`. -/
structure CreateInput where
  tenantUUID : Uuid
  name : String
  kind : String
  isSystem : Bool
  endpoint : String
  version : String
  metadata : JsonMap

/-- `UpdateStatusInput`. -/
structure UpdateStatusInput where
  status : String
  endpoint : String

/-- `Create`, with the uuid the database draws. -/
def create (r : Registry) (now : Int) (uuid : Uuid) (input : CreateInput) :
    Registry × Except AppError Record :=
  if input.name = "" ∨ input.kind = "" then
    (r, .error (.validation "name and kind are required"))
  else
    match r.getTenantByUUID input.tenantUUID with
    | none => (r, .error (.notFound "tenant"))
    | some t =>
      match r.createService now
          { serviceUuid := uuid
            tenantID := t.tenantID
            name := input.name
            kind := input.kind
            status := "pending"
            endpoint := input.endpoint
            version := input.version
            metadata := input.metadata
            registeredAt := none
            isSystem := input.isSystem } with
      | .error e => (r, .error (.query e))
      | .ok (r', row) => (r', .ok (regFrom row t.tenantUuid))

/-- `UpdateStatus`, with the time of core's clock. -/
def updateStatus (r : Registry) (now clock : Int) (u : Uuid) (input : UpdateStatusInput) :
    Registry × Except AppError Record :=
  match r.getServiceByUUID u with
  | none => (r, .error (.notFound "service"))
  | some current =>
    let status := if input.status = "" then current.status else input.status
    match r.updateServiceStatus now
        { serviceUuid := u
          status := status
          endpoint := if input.endpoint = "" then current.endpoint else input.endpoint
          registeredAt :=
            if status = "running" ∧ current.registeredAt = none then some clock
            else current.registeredAt } with
    | .error e => (r, .error (.query e))
    | .ok (r', row) => (r', (resolveTenantUUID r' row.tenantID).map (regFrom row))

/-- `Delete`. -/
def delete (r : Registry) (now : Int) (u : Uuid) : Registry × Except AppError Unit :=
  match r.getServiceByUUID u with
  | none => (r, .error (.notFound "service"))
  | some row =>
    if row.isSystem then
      (r, .error (.forbidden
        "system services are required by the platform and cannot be removed"))
    else (r.softDeleteService now u, .ok ⟨⟩)

/-- `EnsureRegistered`, with the uuid the database draws and the time of core's clock. -/
def ensureRegistered (r : Registry) (now clock : Int) (uuid : Uuid) (name kind : String)
    (isSystem : Bool) : Registry × Except AppError Unit :=
  if name = "" ∨ kind = "" then (r, .error (.validation "name and kind are required"))
  else
    match r.getSystemTenant with
    | none => (r, .error (.notFound "system tenant"))
    | some t =>
      match r.getServiceByTenantAndName t.tenantID name with
      | none =>
        match r.createService now
            { serviceUuid := uuid
              tenantID := t.tenantID
              name := name
              kind := kind
              status := "registered"
              endpoint := ""
              version := ""
              metadata := []
              registeredAt := some clock
              isSystem := isSystem } with
        | .error e => (r, .error (.query e))
        | .ok (r', _) => (r', .ok ⟨⟩)
      | some current =>
        if current.status ≠ "pending" ∧ current.registeredAt.isSome then (r, .ok ⟨⟩)
        else
          match r.updateServiceStatus now
              { serviceUuid := current.serviceUuid
                status := if current.status = "pending" then "registered" else current.status
                endpoint := current.endpoint
                registeredAt := current.registeredAt.orElse fun _ ↦ some clock } with
          | .error e => (r, .error (.query e))
          | .ok (r', _) => (r', .ok ⟨⟩)

/-- `ListSystem`. -/
def listSystem (r : Registry) : Except AppError (List Record) :=
  r.listSystemServices.mapM fun row ↦ (resolveTenantUUID r row.tenantID).map (regFrom row)

end ServiceRegistry

/-- What keep-alive walks through in a pass; `told` is what each round is told from outside.  When
`ListSystem` fails there is nothing to walk through. -/
def Registry.visits (r : Registry) (told : Registration → Int × Bool) : Option (List Visit) :=
  (ServiceRegistry.listSystem r).toOption.map fun regs ↦
    (regs.map ServiceRegistry.Record.toRegistration).map fun reg ↦ ⟨reg, (told reg).1, (told reg).2⟩

/-! ## The operations -/

/-- An operation of one of the two services. -/
inductive RegistryCall where
  | createTenant (uuid : Uuid) (input : TenantService.CreateInput)
  | updateTenant (u : Uuid) (input : TenantService.UpdateInput)
  | deleteTenant (u : Uuid)
  | createService (uuid : Uuid) (input : ServiceRegistry.CreateInput)
  | updateStatus (u : Uuid) (input : ServiceRegistry.UpdateStatusInput)
  | deleteService (u : Uuid)
  | ensureRegistered (uuid : Uuid) (name kind : String) (isSystem : Bool)

/-- An operation, the time of its statements, and the time of core's clock. -/
structure RegistryOp where
  now : Int
  clock : Int
  call : RegistryCall

/-- The tables after an operation. -/
def Registry.step (r : Registry) (o : RegistryOp) : Registry :=
  match o.call with
  | .createTenant uuid input => (TenantService.create r o.now uuid input).1
  | .updateTenant u input => (TenantService.update r o.now u input).1
  | .deleteTenant u => (TenantService.delete r o.now u).1
  | .createService uuid input => (ServiceRegistry.create r o.now uuid input).1
  | .updateStatus u input => (ServiceRegistry.updateStatus r o.now o.clock u input).1
  | .deleteService u => (ServiceRegistry.delete r o.now u).1
  | .ensureRegistered uuid name kind isSystem =>
    (ServiceRegistry.ensureRegistered r o.now o.clock uuid name kind isSystem).1

/-- The tenant an operation removes. -/
def Registry.removes (r : Registry) (o : RegistryOp) : Option Int :=
  match o.call with
  | .deleteTenant u =>
    ((r.getTenantByUUID u).filter fun t ↦ !t.isSystem).map fun t ↦ t.tenantID
  | _ => none

/-! ## Tenants that are needed and tenants that are there -/

/-- A live system registration belongs to the tenant. -/
def Registry.Needs (r : Registry) (id : Int) : Prop :=
  ∃ s ∈ r.services.rows, s.isSystem = true ∧ s.live = true ∧ s.tenantID = id

/-- The tenant is there. -/
def Registry.Lives (r : Registry) (id : Int) : Prop := (r.getTenantByID id).isSome = true

/-- **The invariant.**  The tenant of every live system registration is there. -/
def Registry.Fed (r : Registry) : Prop := ∀ id, r.Needs id → r.Lives id

instance (r : Registry) (id : Int) : Decidable (r.Needs id) :=
  inferInstanceAs (Decidable (∃ s ∈ r.services.rows, _))

/-- The operation does not remove a tenant that is needed. -/
def Registry.Spares (r : Registry) (o : RegistryOp) : Prop :=
  ∀ id, r.removes o = some id → ¬ r.Needs id

section

variable {r r' : Registry} {id : Int}

theorem lives_iff : r.Lives id ↔ ∃ t ∈ r.tenants.rows, t.live = true ∧ t.tenantID = id := by
  rw [Registry.Lives, Registry.getTenantByID, Option.isSome_filter, Option.any_eq_true]
  constructor
  · rintro ⟨t, ht, hlive⟩
    exact ⟨t, Table.mem_of_getByID? ht, hlive, Table.id_of_getByID? ht⟩
  · rintro ⟨t, ht, hlive, rfl⟩
    exact ⟨t, Table.getByID?_of_mem ht, hlive⟩

theorem lives_of_getTenantByUUID {u : Uuid} {t : TenantRow} (h : r.getTenantByUUID u = some t) :
    r.Lives t.tenantID := by
  rw [Registry.getTenantByUUID, Option.filter_eq_some_iff] at h
  exact lives_iff.mpr ⟨t, Table.mem_of_get? h.1, h.2, rfl⟩

theorem lives_of_getSystemTenant {t : TenantRow} (h : r.getSystemTenant = some t) :
    r.Lives t.tenantID := by
  have hlive := List.find?_some h
  rw [Bool.and_eq_true] at hlive
  exact lives_iff.mpr ⟨t, List.mem_of_find?_eq_some h, hlive.2, rfl⟩

/-- What an operation does: it may remove a tenant, and it may register a system service under a
tenant that is there. -/
structure Changes (r r' : Registry) (gone new : Option Int) : Prop where
  needs : ∀ id, r'.Needs id ↔ r.Needs id ∨ new = some id
  lives : ∀ id, r.Needs id ∨ new = some id → (r'.Lives id ↔ r.Lives id ∧ gone ≠ some id)
  new_lives : ∀ id, new = some id → r.Lives id ∧ gone = none

/-- An operation keeps the invariant just in case it does not remove a tenant that is needed, and it
does not bring the invariant back. -/
theorem Changes.fed_iff {gone new : Option Int} (h : Changes r r' gone new) :
    r'.Fed ↔ r.Fed ∧ ∀ id, gone = some id → ¬ r.Needs id := by
  constructor
  · intro hfed
    have hlives : ∀ id, r.Needs id → r.Lives id ∧ gone ≠ some id := fun id hid ↦
      (h.lives id (.inl hid)).mp (hfed id ((h.needs id).mpr (.inl hid)))
    exact ⟨fun id hid ↦ (hlives id hid).1, fun id hgone hid ↦ (hlives id hid).2 hgone⟩
  · rintro ⟨hfed, hspares⟩ id hid
    rw [h.needs] at hid
    rw [h.lives id hid]
    rcases hid with hid | hnew
    · exact ⟨hfed id hid, fun hgone ↦ hspares id hgone hid⟩
    · obtain ⟨hlives, hgone⟩ := h.new_lives id hnew
      exact ⟨hlives, by simp [hgone]⟩

theorem Changes.refl (r : Registry) : Changes r r none none :=
  ⟨by simp, by simp, by simp⟩

/-- A registration that is needed has its tenant in the table. -/
theorem Registry.Needs.referenced (h : r.Needs id) : ∃ t ∈ r.tenants.rows, t.tenantID = id := by
  obtain ⟨s, hs, -, -, rfl⟩ := h
  exact r.references s hs

/-! ## The statements -/

/-- An `UPDATE` of `tenants` acts on each tenant by itself. -/
theorem lives_updateTenants (r : Registry) (hit : TenantRow → Bool) (f : Patch TenantRow)
    (id : Int) :
    (r.updateTenants hit f).Lives id ↔
      ∃ t, r.tenants.getByID? id = some t ∧ (if hit t then f t else t).live = true := by
  rw [Registry.Lives, Registry.getTenantByID, Option.isSome_filter, Registry.updateTenants,
    Table.getByID?_updateWhere, Option.any_map, Option.any_eq_true]

/-- An `UPDATE` of `services` acts on each registration by itself. -/
theorem needs_updateServices (r : Registry) (hit : Service → Bool) (f : Patch Service)
    (hf : ∀ s, (f s).tenantID = s.tenantID) (id : Int) :
    (r.updateServices hit f hf).Needs id ↔
      ∃ s ∈ r.services.rows, (if hit s then f s else s).isSystem = true ∧
        (if hit s then f s else s).live = true ∧ s.tenantID = id := by
  simp only [Registry.Needs, Registry.updateServices, Table.mem_updateWhere,
    exists_exists_and_eq_and]
  refine exists_congr fun s ↦ and_congr_right fun _ ↦ and_congr_right fun _ ↦
    and_congr_right fun _ ↦ ?_
  split
  · rw [hf]
  · rfl

theorem changes_createTenant {now : Int} {p : Registry.CreateTenantParams} {t : TenantRow}
    (h : r.createTenant now p = .ok (r', t)) : Changes r r' none none := by
  rw [Registry.createTenant] at h
  split at h
  · cases h
  split at h
  · split at h
    · cases h
    · rename_i tenants t' hinsert
      cases h
      refine ⟨by simp [Registry.Needs], ?_, by simp⟩
      rintro id (hid | hid)
      · obtain ⟨x, hx, rfl⟩ := hid.referenced
        have hsame : tenants.getByID? x.tenantID = r.tenants.getByID? x.tenantID :=
          Table.getByID?_insert? hinsert hx
        simp [Registry.Lives, Registry.getTenantByID, hsame]
      · cases hid
  · cases h

theorem changes_updateTenant {now : Int} {p : Registry.UpdateTenantParams} {t : TenantRow}
    (h : r.updateTenant now p = .ok (r', t)) : Changes r r' none none := by
  rw [Registry.updateTenant] at h
  split at h
  · cases h
  split at h
  · cases h
    refine ⟨fun id ↦ by simp [Registry.Needs, Registry.updateTenants], fun id _ ↦ ?_, by simp⟩
    have hlive : ∀ x : TenantRow, ((p.patch now) x).live = x.live := fun _ ↦ rfl
    rw [lives_updateTenants, Registry.Lives, Registry.getTenantByID, Option.isSome_filter,
      Option.any_eq_true]
    simp [apply_ite TenantRow.live, hlive]
  · cases h

/-- What is left of the tenants after one is deleted. -/
theorem changes_softDeleteTenant {u : Uuid} {t : TenantRow} (now : Int)
    (h : r.getTenantByUUID u = some t) :
    Changes r (r.softDeleteTenant now u) (some t.tenantID) none := by
  rw [Registry.getTenantByUUID, Option.filter_eq_some_iff] at h
  obtain ⟨hget, hlive⟩ := h
  have ht := Table.mem_of_get? hget
  have hu : t.tenantUuid = u := Table.uuid_of_get? hget
  refine ⟨fun id ↦ by simp [Registry.Needs, Registry.softDeleteTenant, Registry.updateTenants],
    fun id _ ↦ ?_, by simp⟩
  rw [Registry.softDeleteTenant, lives_updateTenants, Registry.Lives, Registry.getTenantByID,
    Option.isSome_filter, Option.any_eq_true, ← exists_and_right]
  refine exists_congr fun x ↦ ?_
  rw [and_assoc]
  refine and_congr_right fun hx ↦ ?_
  have hid : x.tenantID = id := Table.id_of_getByID? hx
  by_cases hxu : x.tenantUuid = u
  · -- the tenant that is deleted
    have hxt : x = t := Table.eq_of_uuid_eq (Table.mem_of_getByID? hx) ht (hxu.trans hu.symm)
    subst hxt
    have hgone : (Registry.softDeleteTenantPatch now x).live = false := rfl
    simp [hxu, hlive, hid, hgone]
  · have hne : t.tenantID ≠ id := fun h ↦
      hxu ((Table.eq_of_id_eq (Table.mem_of_getByID? hx) ht (hid.trans h.symm)) ▸ hu)
    simp [hxu, hne]

/-- A registration is added under a tenant that is there. -/
theorem changes_createService {now : Int} {p : Registry.CreateServiceParams} {s : Service}
    (hlives : r.Lives p.tenantID) (h : r.createService now p = .ok (r', s)) :
    Changes r r' none (if p.isSystem then some p.tenantID else none) := by
  obtain ⟨htenants, hinsert⟩ := Registry.createService_eq_ok h
  have hrow := Table.row_of_insert? hinsert
  have hneeds : ∀ id, (s.isSystem = true ∧ s.live = true ∧ s.tenantID = id) ↔
      (if p.isSystem then some p.tenantID else none) = some id := by
    intro id
    rw [hrow]
    cases hsys : p.isSystem <;> simp [Registry.CreateServiceParams.row, Service.live, hsys]
  refine ⟨fun id ↦ ?_, fun id _ ↦ ?_, ?_⟩
  · rw [Registry.Needs, Registry.Needs, Table.rows_insert? hinsert, List.exists_mem_cons_iff,
      hneeds, or_comm]
  · simp [Registry.Lives, Registry.getTenantByID, htenants]
  · intro id hid
    rw [← hneeds, hrow] at hid
    exact ⟨hid.2.2 ▸ hlives, rfl⟩

theorem changes_updateServiceStatus {now : Int} {p : Registry.UpdateServiceStatusParams}
    {s : Service} (h : r.updateServiceStatus now p = .ok (r', s)) : Changes r r' none none := by
  obtain rfl := Registry.updateServiceStatus_eq_ok h
  have hlive : ∀ x : Service, ((p.patch now) x).live = x.live := fun _ ↦ rfl
  have hsystem : ∀ x : Service, ((p.patch now) x).isSystem = x.isSystem := fun _ ↦ rfl
  refine ⟨fun id ↦ ?_, fun id _ ↦ ?_, by simp⟩
  · rw [needs_updateServices]
    simp [Registry.Needs, apply_ite Service.live, apply_ite Service.isSystem, hlive, hsystem]
  · simp [Registry.Lives, Registry.getTenantByID, Registry.updateServices]

/-- A registration that is deleted was not a system one, so nothing that was needed is not. -/
theorem changes_softDeleteService {u : Uuid} {s : Service} (now : Int)
    (h : r.getServiceByUUID u = some s) (hsystem : s.isSystem = false) :
    Changes r (r.softDeleteService now u) none none := by
  rw [Registry.getServiceByUUID, Option.filter_eq_some_iff] at h
  obtain ⟨hget, -⟩ := h
  refine ⟨fun id ↦ ?_, fun id _ ↦ ?_, by simp⟩
  · rw [Registry.softDeleteService, needs_updateServices, Registry.Needs]
    simp only [reduceCtorEq, or_false]
    refine exists_congr fun x ↦ and_congr_right fun hx ↦ ?_
    by_cases hxu : x.serviceUuid = u
    · have hxs : x = s := Table.eq_of_uuid_eq hx (Table.mem_of_get? hget)
        (hxu.trans (Table.uuid_of_get? hget).symm)
      subst hxs
      have hpatch : (Registry.softDeleteServicePatch now x).isSystem = x.isSystem := rfl
      simp [apply_ite Service.isSystem, hpatch, hsystem]
    · simp [hxu]
  · simp [Registry.Lives, Registry.getTenantByID, Registry.softDeleteService,
      Registry.updateServices]

/-! ## The operations -/

theorem changes_tenantCreate (now : Int) (uuid : Uuid) (input : TenantService.CreateInput) :
    Changes r (TenantService.create r now uuid input).1 none none := by
  rw [TenantService.create]
  split
  · exact .refl r
  split
  · exact .refl r
  · rename_i h
    exact changes_createTenant h

theorem changes_tenantUpdate (now : Int) (u : Uuid) (input : TenantService.UpdateInput) :
    Changes r (TenantService.update r now u input).1 none none := by
  rw [TenantService.update]
  split
  · exact .refl r
  split
  · exact .refl r
  · exact .refl r
  · rename_i h
    exact changes_updateTenant h

/-- Deleting the system tenant is refused. -/
theorem changes_tenantDelete (now : Int) (u : Uuid) :
    Changes r (TenantService.delete r now u).1
      (((r.getTenantByUUID u).filter fun t ↦ !t.isSystem).map fun t ↦ t.tenantID) none := by
  rw [TenantService.delete]
  rcases ht : r.getTenantByUUID u with _ | t
  · exact .refl r
  rcases hsystem : t.isSystem with _ | _
  · simpa [hsystem, Option.filter_some] using changes_softDeleteTenant now ht
  · simpa [hsystem, Option.filter_some] using Changes.refl r

theorem changes_serviceCreate (now : Int) (uuid : Uuid) (input : ServiceRegistry.CreateInput) :
    ∃ new, Changes r (ServiceRegistry.create r now uuid input).1 none new := by
  rw [ServiceRegistry.create]
  split
  · exact ⟨none, .refl r⟩
  split
  · exact ⟨none, .refl r⟩
  rename_i t ht
  split
  · exact ⟨none, .refl r⟩
  · rename_i h
    exact ⟨_, changes_createService (lives_of_getTenantByUUID ht) h⟩

theorem changes_serviceUpdateStatus (now clock : Int) (u : Uuid)
    (input : ServiceRegistry.UpdateStatusInput) :
    Changes r (ServiceRegistry.updateStatus r now clock u input).1 none none := by
  simp only [ServiceRegistry.updateStatus]
  split
  · exact .refl r
  split
  · exact .refl r
  · rename_i h
    exact changes_updateServiceStatus h

/-- Deleting a system registration is refused. -/
theorem changes_serviceDelete (now : Int) (u : Uuid) :
    Changes r (ServiceRegistry.delete r now u).1 none none := by
  rw [ServiceRegistry.delete]
  rcases hs : r.getServiceByUUID u with _ | s
  · exact .refl r
  rcases hsystem : s.isSystem with _ | _
  · simpa [hsystem] using changes_softDeleteService now hs hsystem
  · simpa [hsystem] using Changes.refl r

theorem changes_ensureRegistered (now clock : Int) (uuid : Uuid) (name kind : String)
    (isSystem : Bool) : ∃ new,
      Changes r (ServiceRegistry.ensureRegistered r now clock uuid name kind isSystem).1 none
        new := by
  rw [ServiceRegistry.ensureRegistered]
  split
  · exact ⟨none, .refl r⟩
  split
  · exact ⟨none, .refl r⟩
  rename_i t ht
  split
  · split
    · exact ⟨none, .refl r⟩
    · rename_i h
      exact ⟨_, changes_createService (lives_of_getSystemTenant ht) h⟩
  · split
    · exact ⟨none, .refl r⟩
    split
    · exact ⟨none, .refl r⟩
    · rename_i h
      exact ⟨none, changes_updateServiceStatus h⟩

/-- **What an operation does.** -/
theorem changes_step (r : Registry) (o : RegistryOp) :
    ∃ new, Changes r (r.step o) (r.removes o) new := by
  obtain ⟨now, clock, call⟩ := o
  cases call with
  | createTenant uuid input => exact ⟨none, changes_tenantCreate now uuid input⟩
  | updateTenant u input => exact ⟨none, changes_tenantUpdate now u input⟩
  | deleteTenant u => exact ⟨none, changes_tenantDelete now u⟩
  | createService uuid input => exact changes_serviceCreate now uuid input
  | updateStatus u input => exact ⟨none, changes_serviceUpdateStatus now clock u input⟩
  | deleteService u => exact ⟨none, changes_serviceDelete now u⟩
  | ensureRegistered uuid name kind isSystem =>
    exact changes_ensureRegistered now clock uuid name kind isSystem

/-- **One operation.**  The feed is whole after it just in case it was whole before it and the
operation does not remove a tenant that is needed. -/
theorem fed_step_iff (r : Registry) (o : RegistryOp) : (r.step o).Fed ↔ r.Fed ∧ r.Spares o := by
  obtain ⟨new, h⟩ := changes_step r o
  exact h.fed_iff

/-- **A run.** -/
theorem fed_run_iff (r : Registry) (ops : List RegistryOp) :
    (run Registry.step r ops).Fed ↔ r.Fed ∧ Guarded Registry.step Registry.Spares r ops := by
  induction ops generalizing r with
  | nil => simp [Guarded]
  | cons o ops ih => rw [run_cons, ih, fed_step_iff, Guarded, and_assoc]

/-! ## The feed -/

/-- `ListSystem` succeeds, and what it returns has every live system registration. -/
def Registry.Listed (r : Registry) : Prop :=
  ∃ regs, ServiceRegistry.listSystem r = .ok regs ∧
    ∀ s ∈ r.services.rows, s.isSystem = true → s.live = true →
      ∃ tenantUuid, ServiceRegistry.regFrom s tenantUuid ∈ regs

/-- The loop of `ListSystem` fails at the first registration whose tenant is not there. -/
theorem lives_of_mapM {rows : List Service} {regs : List ServiceRegistry.Record}
    (h : (rows.mapM fun row ↦ (ServiceRegistry.resolveTenantUUID r row.tenantID).map
      (ServiceRegistry.regFrom row)) = .ok regs) : ∀ s ∈ rows, r.Lives s.tenantID := by
  induction rows generalizing regs with
  | nil => simp
  | cons row rows ih =>
    rw [List.mapM_cons, ServiceRegistry.resolveTenantUUID] at h
    rcases ht : r.getTenantByID row.tenantID with _ | t
    · rw [ht] at h
      cases h
    rw [ht] at h
    rcases hrest : rows.mapM fun row ↦ (ServiceRegistry.resolveTenantUUID r row.tenantID).map
        (ServiceRegistry.regFrom row) with e | rest
    · rw [hrest] at h
      cases h
    intro s hs
    rcases List.mem_cons.mp hs with rfl | hs
    · rw [Registry.Lives, ht]
      rfl
    · exact ih hrest s hs

/-- If all the tenants are there, the loop of `ListSystem` goes through. -/
theorem mapM_of_lives {rows : List Service} (h : ∀ s ∈ rows, r.Lives s.tenantID) :
    ∃ regs, (rows.mapM fun row ↦ (ServiceRegistry.resolveTenantUUID r row.tenantID).map
      (ServiceRegistry.regFrom row)) = .ok regs ∧
        ∀ s ∈ rows, ∃ tenantUuid, ServiceRegistry.regFrom s tenantUuid ∈ regs := by
  induction rows with
  | nil => exact ⟨[], rfl, by simp⟩
  | cons row rows ih =>
    obtain ⟨t, ht⟩ := Option.isSome_iff_exists.mp (h row List.mem_cons_self)
    obtain ⟨regs, hregs, hall⟩ := ih fun s hs ↦ h s (List.mem_cons_of_mem _ hs)
    refine ⟨ServiceRegistry.regFrom row t.tenantUuid :: regs, ?_, ?_⟩
    · rw [List.mapM_cons, hregs, ServiceRegistry.resolveTenantUUID, ht]
      rfl
    · intro s hs
      rcases List.mem_cons.mp hs with rfl | hs
      · exact ⟨t.tenantUuid, List.mem_cons_self⟩
      · obtain ⟨u, hu⟩ := hall s hs
        exact ⟨u, List.mem_cons_of_mem _ hu⟩

/-- The loop of `ListSystem` keeps the names. -/
theorem map_name_of_mapM {rows : List Service} {regs : List ServiceRegistry.Record}
    (h : (rows.mapM fun row ↦ (ServiceRegistry.resolveTenantUUID r row.tenantID).map
      (ServiceRegistry.regFrom row)) = .ok regs) :
    regs.map (fun reg ↦ reg.name) = rows.map Service.name := by
  induction rows generalizing regs with
  | nil =>
    cases h
    rfl
  | cons row rows ih =>
    rw [List.mapM_cons] at h
    rcases hu : ServiceRegistry.resolveTenantUUID r row.tenantID with err | u
    · rw [hu] at h
      cases h
    rw [hu] at h
    rcases hrest : rows.mapM fun row ↦ (ServiceRegistry.resolveTenantUUID r row.tenantID).map
        (ServiceRegistry.regFrom row) with err | rest
    · rw [hrest] at h
      cases h
    · rw [hrest] at h
      cases h
      rw [List.map_cons, List.map_cons, ih hrest]
      rfl

/-- What keep-alive walks through has the names of the live system registrations. -/
theorem mem_visits_name {told : Registration → Int × Bool} {vs : List Visit}
    (h : r.visits told = some vs) (name : String) :
    (∃ v ∈ vs, v.reg.name = name) ↔
      ∃ s ∈ r.services.rows, s.isSystem = true ∧ s.live = true ∧ s.name = name := by
  rw [Registry.visits, Option.map_eq_some_iff] at h
  obtain ⟨regs, hregs, rfl⟩ := h
  have hlist : ServiceRegistry.listSystem r = .ok regs := by
    rcases hl : ServiceRegistry.listSystem r with err | regs'
    · rw [hl] at hregs
      cases hregs
    · rw [hl] at hregs
      cases hregs
      rfl
  have hnames := congrArg (name ∈ ·) (map_name_of_mapM hlist)
  simp only [List.mem_map, eq_iff_iff] at hnames
  simp only [List.mem_map, exists_exists_and_eq_and]
  rw [hnames]
  simp only [Registry.mem_listSystemServices, and_assoc]

theorem fed_of_listSystem {regs : List ServiceRegistry.Record}
    (h : ServiceRegistry.listSystem r = .ok regs) : r.Fed := by
  rintro id ⟨s, hs, hsystem, hlive, rfl⟩
  exact lives_of_mapM h s (Registry.mem_listSystemServices.mpr ⟨hs, hsystem, hlive⟩)

/-- **`ListSystem` is all or nothing.** -/
theorem listed_iff_fed : r.Listed ↔ r.Fed := by
  constructor
  · rintro ⟨regs, hregs, -⟩
    exact fed_of_listSystem hregs
  · intro hfed
    have hlives : ∀ s ∈ r.listSystemServices, r.Lives s.tenantID := by
      intro s hs
      obtain ⟨hrow, hsystem, hlive⟩ := Registry.mem_listSystemServices.mp hs
      exact hfed _ ⟨s, hrow, hsystem, hlive, rfl⟩
    obtain ⟨regs, hregs, hall⟩ := mapM_of_lives hlives
    exact ⟨regs, hregs, fun s hs hsystem hlive ↦
      hall s (Registry.mem_listSystemServices.mpr ⟨hs, hsystem, hlive⟩)⟩

/-- Keep-alive is skipped just in case the feed is not whole. -/
theorem visits_eq_none_iff (told : Registration → Int × Bool) : r.visits told = none ↔ ¬ r.Fed := by
  rw [Registry.visits, Option.map_eq_none_iff]
  rcases h : ServiceRegistry.listSystem r with e | regs
  · refine iff_of_true rfl fun hfed ↦ ?_
    obtain ⟨regs, hregs, -⟩ := listed_iff_fed.mpr hfed
    rw [h] at hregs
    cases hregs
  · exact iff_of_false (by simp [Except.toOption]) (not_not.mpr (fed_of_listSystem h))

instance (o : RegistryOp) : Decidable (r.Spares o) :=
  decidable_of_iff ((r.removes o).all fun id ↦ !decide (r.Needs id))
    (by simp [Registry.Spares, Option.all_eq_true])

end

/-- **Keep-alive is fed exactly as long as no tenant is deleted that a system registration belongs
to.**  Take any registry in which `ListSystem` succeeds, and any sequence of operations of the
tenant service and of the service registry, under any tenants and with any flags.  In the end
`ListSystem` succeeds with every live system registration, and keep-alive is not skipped, just in
case none of the operations deleted a tenant while a live system registration belonged to it.  A
deletion that did is not made good by anything that comes later. -/
theorem feed_complete_iff (r : Registry) (hr : r.Listed) (ops : List RegistryOp)
    (told : Registration → Int × Bool) :
    ((run Registry.step r ops).Listed ↔ Guarded Registry.step Registry.Spares r ops) ∧
      ((run Registry.step r ops).visits told = none ↔
        ¬ Guarded Registry.step Registry.Spares r ops) := by
  have hfed := fed_run_iff r ops
  rw [and_iff_right (listed_iff_fed.mp hr)] at hfed
  exact ⟨listed_iff_fed.trans hfed, (visits_eq_none_iff told).trans (not_congr hfed)⟩

/-- The tenant of uuid 1 is created. -/
def createAcme : RegistryOp := ⟨0, 0, .createTenant 1 ⟨"acme", "", "", false, none, []⟩⟩

/-- The service of uuid 2 is registered under the tenant of uuid 1, as a system service. -/
def registerAuth : RegistryOp :=
  ⟨1, 1, .createService 2 ⟨1, "auth", "auth", true, "", "", []⟩⟩

/-- The tenant of uuid 1 is deleted. -/
def deleteAcme : RegistryOp := ⟨2, 2, .deleteTenant 1⟩

/-- The tenant of uuid 3 has a service of its own, which is no system service, and is deleted. -/
def globexComesAndGoes : List RegistryOp :=
  [⟨2, 2, .createTenant 3 ⟨"globex", "", "", false, none, []⟩⟩,
    ⟨3, 3, .createService 4 ⟨3, "shop", "app", false, "", "", []⟩⟩, ⟨4, 4, .deleteTenant 3⟩]

/-- A tenant that has no system service can go, and the system service of another one stays
listed. -/
theorem feed_complete_iff_app :
    let r := run Registry.step .empty (createAcme :: registerAuth :: globexComesAndGoes)
    Registry.empty.Listed ∧ r.Listed ∧
      (r.services.rows.filter fun s ↦ s.isSystem && s.live).map Service.name = ["auth"] := by
  have hempty : Registry.empty.Listed := ⟨[], rfl, by simp [Registry.empty, Table.empty]⟩
  exact ⟨hempty, (feed_complete_iff .empty hempty _ fun _ ↦ (0, true)).1.mpr (by decide),
    by decide⟩

/-- **Deleting a tenant switches keep-alive off.**  The instance of the service has failed, and
keep-alive re-dispatches it.  Its tenant is deleted; then it is not looked after any more, and the
registration cannot be removed. -/
theorem feed_cut_off :
    let r := run Registry.step .empty [createAcme, registerAuth]
    let r' := r.step deleteAcme
    let s : Supervisor := ⟨RawOptions.withDefaults ⟨0, 0, 0, 0, ""⟩, fun _ ↦ none, Char.toLower⟩
    let failed : SystemInstance :=
      ⟨9, "system-auth", "Container", "failed", "", 1, false, 0, 1, 1, 0, []⟩
    (keepAlive s [failed] [] .fresh (r.visits fun _ ↦ (0, true))).2 =
        [.redispatched "service:auth" 9] ∧
      (r'.visits fun _ ↦ (0, true)).isNone = true ∧
      (keepAlive s [failed] [] .fresh (r'.visits fun _ ↦ (0, true))).2 = [] ∧
      (ServiceRegistry.delete r' 3 2).2 = .error (.forbidden
        "system services are required by the platform and cannot be removed") := by
  decide

end Maintainerd

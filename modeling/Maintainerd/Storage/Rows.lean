import Maintainerd.Lib.Table
import Maintainerd.Lib.Json

/-!
# The rows of core's database

The tables the control plane reads and writes, as `migrations/` creates them and
`internal/storage/models.go` reads them back.  A nullable column is an `Option`; a `timestamptz` is
an `Int`, its number of microseconds, which is the resolution PostgreSQL keeps; a `jsonb` column
that only ever holds an object is a `JsonMap`.  A Go `time.Duration` is an `Int` as well, its number
of nanoseconds.

Only the columns some modelled function reads or writes are here.  The length of a `VARCHAR` stands
in the row, as a field of its own, where something rests on it.
-/

set_option autoImplicit false

namespace Maintainerd

/-- A row of `tenants`. -/
structure Tenant where
  tenantID : Int
  tenantUuid : Uuid
  name : String
  deletedAt : Option Int
  name_le : name.length ≤ 63

/-- A row of `projects`. -/
structure Project where
  projectID : Int
  projectUuid : Uuid
  tenantID : Int
  name : String
  deletedAt : Option Int
  name_le : name.length ≤ 63

/-- A row of `providers`. -/
structure Provider where
  providerID : Int
  providerUuid : Uuid
  deletedAt : Option Int

/-- A row of `agents`. -/
structure Agent where
  agentID : Int
  agentUuid : Uuid
  tenantID : Int
  name : String
  status : String
  endpoint : String
  version : String
  capabilities : List String
  /-- The verified token subject the agent is pinned to; empty until the first `Register`. -/
  boundSubject : String
  lastSeenAt : Option Int
  updatedAt : Int
  deletedAt : Option Int
  boundSubject_le : boundSubject.length ≤ 255

/-- The row of an agent that is not bound yet. -/
theorem unbound_le : "".length ≤ 255 := Nat.zero_le 255

/-- A row of `resources`: a desired `spec` that the reconciler drives an observed `status`
towards. -/
structure Resource where
  resourceID : Int
  resourceUuid : Uuid
  tenantID : Int
  projectID : Int
  providerID : Option Int
  agentID : Option Int
  mrnService : String
  mrnTenant : String
  mrnProject : String
  mrnResourceType : String
  mrnResourcePath : String
  kind : String
  name : String
  state : String
  health : String
  spec : JsonMap
  status : JsonMap
  /-- The desired revision. -/
  generation : Int
  /-- The revision the reconciler last acted on. -/
  observedGeneration : Int
  /-- The dispatch lease. -/
  leasedUntil : Option Int
  attempts : Int
  /-- The retry backoff. -/
  nextAttemptAt : Option Int
  metadata : JsonMap
  createdAt : Int
  updatedAt : Int
  deletedAt : Option Int
  kind_le : kind.length ≤ 50

instance : Keyed Tenant := ⟨Tenant.tenantID, Tenant.tenantUuid⟩
instance : Keyed Project := ⟨Project.projectID, Project.projectUuid⟩
instance : Keyed Provider := ⟨Provider.providerID, Provider.providerUuid⟩
instance : Keyed Agent := ⟨Agent.agentID, Agent.agentUuid⟩
instance : Keyed Resource := ⟨Resource.resourceID, Resource.resourceUuid⟩

@[simp] theorem keyed_uuid_agent (a : Agent) : Keyed.uuid a = a.agentUuid := rfl
@[simp] theorem keyed_uuid_resource (r : Resource) : Keyed.uuid r = r.resourceUuid := rfl

/-- The database. -/
structure Db where
  tenants : Table Tenant
  projects : Table Project
  providers : Table Provider
  agents : Table Agent
  resources : Table Resource

/-- `deleted_at IS NULL`. -/
def Resource.live (r : Resource) : Bool := r.deletedAt.isNone

/-- Why a statement did not do its work. -/
inductive QueryError where
  /-- `pgx.ErrNoRows`. -/
  | noRows
  /-- The server refused a value: a text longer than its column or with U+0000 in it, a `bigint` out
  of range, a text that is not valid UTF-8, or a row that breaks a unique index. -/
  | dataException
deriving DecidableEq, Repr

end Maintainerd

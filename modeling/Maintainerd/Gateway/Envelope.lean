import Maintainerd.Resource.Service

/-!
# What a pull ships

`buildEnvelope` and the loop of `PullWork`, from `internal/grpcserver/server.go`.  The envelope is
the structure the gateway marshals into `spec_json`, before it is turned into text: a workload that
was read from the database always marshals, so no item is skipped.
-/

set_option autoImplicit false

namespace Maintainerd

/-- `envelope`. -/
structure Envelope where
  workload : JsonMap
  tier : String
  teardown : Bool

/-- `buildEnvelope`. -/
def buildEnvelope (it : WorkItem) : Envelope where
  workload :=
    match JsonMap.object? it.spec "workload" with
    | some w => if w.isEmpty then it.spec else w
    | none => it.spec
  tier := if JsonMap.string? it.metadata "tier" = some "system" then "system" else ""
  teardown := it.state == "deleting"

theorem buildEnvelope_workload_of_object {it : WorkItem} {w : JsonMap}
    (h : it.spec.lookup "workload" = some (.obj w)) (hne : w ≠ []) :
    (buildEnvelope it).workload = w := by
  have hempty : w.isEmpty = false := by simpa using hne
  simp [buildEnvelope, JsonMap.object?, h, hempty]

theorem buildEnvelope_workload_of_not_object {it : WorkItem}
    (h : ∀ w, it.spec.lookup "workload" = some (.obj w) → w = []) :
    (buildEnvelope it).workload = it.spec := by
  simp only [buildEnvelope]
  split
  · rename_i w hw
    rw [JsonMap.object?] at hw
    split at hw
    · rename_i fields hfields
      cases hw
      rw [h w hfields]
      rfl
    · cases hw
  · rfl

/-- `corev1.WorkItem`: one item of a `PullWork` response. -/
structure ShippedItem where
  resourceUuid : Uuid
  kind : String
  name : String
  envelope : Envelope
  generation : Int

/-- One round of the loop of `PullWork`. -/
def ship (it : WorkItem) : ShippedItem :=
  ⟨it.uuid, it.kind, it.name, buildEnvelope it, it.generation⟩

@[simp] theorem ship_toWorkItem_teardown (r : Resource) :
    (ship (toWorkItem r)).envelope.teardown = (r.state == "deleting") := rfl

end Maintainerd

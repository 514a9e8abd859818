import Maintainerd.Resource.Step
import Mathlib.Data.List.Induction

/-!
# Is what is validated what is shipped?

`validateSpec` of `internal/resource/service.go`.  The spec of a container is a workload, or an
envelope with the workload in it, and two functions in two packages tell which.  `validateSpec`
decodes the document into a structure with a field `workload`: `encoding/json` takes a key for that
field in any letter case, a later key overwrites an earlier one, and `null` counts as no workload.
`buildEnvelope` looks the key `workload` up in the map, as it is spelled, and passes over anything
but an object that is not empty.

`shipped_eq_validated_iff` says for which of the accepted specs the two find the same.  They are not
all: under the key `Workload` one document is validated and another one, wrapped once more, is
shipped.

An object is the list of its fields in the order of the document.  `marshalMap` writes them sorted
by their keys; what follows is for any order.
-/

set_option autoImplicit false

namespace Maintainerd

open Machine Postgres

/-! ## Decoding -/

/-- What `validateSpec` takes from outside: Go's tables of letters, `encoding/json`, and the runtime
kit with its type `ω` of workload specifications. -/
structure WorkloadKit (ω : Type) where
  /-- `unicode.ToLower`. -/
  lower : Char → Char
  /-- `foldRune`: the letter that stands for all that differ from it in case. -/
  fold : Char → Char
  /-- The text of the error for a value that does not decode into a field. -/
  typeError : String → Json → String
  /-- `json.Unmarshal` into a `WorkloadSpec`. -/
  unmarshal : Json → Except String ω
  /-- Only an object, or `null`, decodes into a structure. -/
  object_of_unmarshal : ∀ v w, unmarshal v = .ok w → v ≠ .null → ∃ fields, v = .obj fields
  /-- `WorkloadSpec.Validate`. -/
  validate : ω → Option String

/-- The fields of the structure `validateSpec` decodes into. -/
inductive SpecField where
  | workload
  | teardown
deriving DecidableEq, Repr

/-- The structure; the workload is `none` when no key has set it. -/
structure SpecEnvelope where
  workload : Option Json
  teardown : Bool

variable {ω : Type}

/-- `foldName`. -/
def WorkloadKit.foldName (k : WorkloadKit ω) (name : String) : String :=
  String.ofList (name.toList.map k.fold)

/-- The field a key is taken for: the one of that name, or else the one of that name in another
letter case. -/
def WorkloadKit.fieldOf (k : WorkloadKit ω) (key : String) : Option SpecField :=
  if key = "workload" then some .workload
  else if key = "teardown" then some .teardown
  else if k.foldName key = k.foldName "workload" then some .workload
  else if k.foldName key = k.foldName "teardown" then some .teardown
  else none

/-- One field of the document: what it sets, and the error if its value does not fit.  The decoder
goes on after an error and reports the first one. -/
def WorkloadKit.decodeField (k : WorkloadKit ω) (s : SpecEnvelope × Option String)
    (f : String × Json) : SpecEnvelope × Option String :=
  match k.fieldOf f.1, f.2 with
  | some .workload, v => ({ s.1 with workload := some v }, s.2)
  | some .teardown, .bool b => ({ s.1 with teardown := b }, s.2)
  | some .teardown, .null => s
  | some .teardown, v => (s.1, s.2.or (some (k.typeError "teardown" v)))
  | none, _ => s

/-- `json.Unmarshal` into the structure. -/
def WorkloadKit.decode (k : WorkloadKit ω) (spec : JsonMap) : SpecEnvelope × Option String :=
  spec.foldl k.decodeField (⟨none, false⟩, none)

/-- The value that is parsed as a workload. -/
def WorkloadKit.rawWorkload (k : WorkloadKit ω) (spec : JsonMap) : Json :=
  match (k.decode spec).1.workload with
  | none => .obj spec
  | some .null => .obj spec
  | some v => v

/-- The kinds whose specs are workloads. -/
def WorkloadKit.isWorkload (k : WorkloadKit ω) (kind : String) : Bool :=
  let normalised := Text.toLower k.lower (Text.trimSpace kind)
  normalised == "container" || normalised == "workload"

/-- `validateSpec`: the error, if there is one. -/
def validateSpec (k : WorkloadKit ω) (kind : String) (spec : JsonMap) : Option String :=
  if k.isWorkload kind then
    match k.decode spec with
    | (_, some e) => some ("spec is not valid JSON: " ++ e)
    | (envelope, none) =>
      if envelope.teardown then
        some "teardown is a system-generated state and cannot be set in resource spec"
      else
        match k.unmarshal (k.rawWorkload spec) with
        | .error e => some ("workload does not parse as a WorkloadSpec: " ++ e)
        | .ok w => k.validate w
  else none

/-! ## What the decoder finds -/

/-- The fields of the document that are taken for the workload. -/
def WorkloadKit.workloads (k : WorkloadKit ω) (spec : JsonMap) : JsonMap :=
  spec.filter fun f ↦ k.fieldOf f.1 == some .workload

theorem WorkloadKit.decodeField_workload (k : WorkloadKit ω) (s : SpecEnvelope × Option String)
    (f : String × Json) :
    (k.decodeField s f).1.workload =
      if k.fieldOf f.1 = some .workload then some f.2 else s.1.workload := by
  obtain ⟨key, v⟩ := f
  rcases hf : k.fieldOf key with _ | field
  · simp [decodeField, hf]
  rcases field with _ | _
  · simp [decodeField, hf]
  · rcases v <;> simp [decodeField, hf]

/-- The last of them counts. -/
theorem WorkloadKit.decode_workload (k : WorkloadKit ω) (spec : JsonMap) :
    (k.decode spec).1.workload = (k.workloads spec).getLast?.map Prod.snd := by
  induction spec using List.reverseRecOn with
  | nil => rfl
  | append_singleton spec f ih =>
    rw [decode, List.foldl_append, List.foldl_cons, List.foldl_nil, decodeField_workload, workloads,
      List.filter_append]
    by_cases hf : k.fieldOf f.1 = some .workload
    · simp [hf]
    · simpa [hf, decode, workloads] using ih

/-- What the decoder finds is in the document. -/
theorem WorkloadKit.mem_of_decode {k : WorkloadKit ω} {spec : JsonMap} {v : Json}
    (h : (k.decode spec).1.workload = some v) : ∃ key, (key, v) ∈ spec := by
  rw [decode_workload] at h
  obtain ⟨f, hf, rfl⟩ := Option.map_eq_some_iff.mp h
  exact ⟨f.1, (List.mem_filter.mp (List.mem_of_getLast? hf)).1⟩

/-- A value inside an object is not that object. -/
theorem Json.ne_obj_of_mem {fields : JsonMap} {key : String} {v : Json} (h : (key, v) ∈ fields) :
    Json.obj fields ≠ v := by
  rintro rfl
  have hsize := List.sizeOf_lt_of_mem h
  simp at hsize
  omega

/-! ## What is accepted -/

/-- What is accepted was parsed, from `null` or an object. -/
theorem unmarshal_of_validateSpec {k : WorkloadKit ω} {kind : String} {spec : JsonMap}
    (hkind : k.isWorkload kind = true) (h : validateSpec k kind spec = none) :
    ∃ w, k.unmarshal (k.rawWorkload spec) = .ok w := by
  rw [validateSpec, if_pos hkind] at h
  split at h
  · cases h
  split at h
  · cases h
  split at h
  · cases h
  · rename_i w hw
    exact ⟨w, hw⟩

theorem rawWorkload_of_null {k : WorkloadKit ω} {spec : JsonMap}
    (h : (k.decode spec).1.workload = none ∨ (k.decode spec).1.workload = some .null) :
    k.rawWorkload spec = .obj spec := by
  rcases h with h | h <;> rw [WorkloadKit.rawWorkload, h]

theorem rawWorkload_of_ne {k : WorkloadKit ω} {spec : JsonMap} {v : Json}
    (h : (k.decode spec).1.workload = some v) (hne : v ≠ .null) : k.rawWorkload spec = v := by
  rw [WorkloadKit.rawWorkload, h]
  rcases v <;> first | exact absurd rfl hne | rfl

/-! ## What is shipped -/

theorem JsonMap.mem_of_lookup {m : JsonMap} {key : String} {v : Json}
    (h : m.lookup key = some v) : (key, v) ∈ m := by
  obtain ⟨l, l', rfl, -⟩ := List.lookup_eq_some_iff.mp h
  simp

/-- The whole spec is shipped when there is no object under the key, or an empty one. -/
theorem obj_workload_eq_spec_iff {it : WorkItem} :
    Json.obj (buildEnvelope it).workload = .obj it.spec ↔
      ∀ w, it.spec.lookup "workload" = some (.obj w) → w = [] := by
  constructor
  · intro heq w hw
    by_contra hne
    rw [buildEnvelope_workload_of_object hw hne] at heq
    exact Json.ne_obj_of_mem (JsonMap.mem_of_lookup hw) heq.symm
  · intro hkey
    rw [buildEnvelope_workload_of_not_object hkey]

/-- An object that is not the whole spec is shipped when it is under the key and not empty. -/
theorem obj_workload_eq_iff {it : WorkItem} {fields : JsonMap}
    (h : Json.obj it.spec ≠ .obj fields) : Json.obj (buildEnvelope it).workload = .obj fields ↔
      fields ≠ [] ∧ it.spec.lookup "workload" = some (.obj fields) := by
  constructor
  · intro heq
    by_cases hkey : ∀ w, it.spec.lookup "workload" = some (.obj w) → w = []
    · rw [buildEnvelope_workload_of_not_object hkey] at heq
      exact absurd heq h
    · simp only [not_forall] at hkey
      obtain ⟨w, hw, hne⟩ := hkey
      rw [buildEnvelope_workload_of_object hw hne] at heq
      cases heq
      exact ⟨hne, hw⟩
  · rintro ⟨hne, hkey⟩
    rw [buildEnvelope_workload_of_object hkey hne]

/-- What the decoder takes for the workload, and what is looked up under the key `workload`, come to
the same: the decoder found nothing or `null`, and there is no object under the key or an empty one;
or what it found is what is under the key, and is not the empty object. -/
def WorkloadKit.SameWorkload (k : WorkloadKit ω) (spec : JsonMap) : Prop :=
  ((k.decode spec).1.workload = none ∨ (k.decode spec).1.workload = some .null) ∧
      (∀ w, spec.lookup "workload" = some (.obj w) → w = []) ∨
    ∃ v, (k.decode spec).1.workload = some v ∧ v ≠ .null ∧ v ≠ .obj [] ∧
      spec.lookup "workload" = some v

theorem WorkItem.workload_eq_raw_iff {k : WorkloadKit ω} {it : WorkItem}
    (hkind : k.isWorkload it.kind = true) (h : validateSpec k it.kind it.spec = none) :
    Json.obj (buildEnvelope it).workload = k.rawWorkload it.spec ↔ k.SameWorkload it.spec := by
  obtain ⟨w, hw⟩ := unmarshal_of_validateSpec hkind h
  by_cases hnull : (k.decode it.spec).1.workload = none ∨ (k.decode it.spec).1.workload = some .null
  · rw [rawWorkload_of_null hnull, obj_workload_eq_spec_iff]
    constructor
    · exact fun hkey ↦ Or.inl ⟨hnull, hkey⟩
    · rintro (⟨-, hkey⟩ | ⟨v, hv, hne, -⟩)
      · exact hkey
      · rcases hnull with hnone | hnull
        · simp [hnone] at hv
        · exact absurd (Option.some.inj (hv.symm.trans hnull)) hne
  · obtain ⟨v, hv, hne⟩ : ∃ v, (k.decode it.spec).1.workload = some v ∧ v ≠ .null := by
      rcases hv : (k.decode it.spec).1.workload with _ | v
      · exact absurd (Or.inl hv) hnull
      · exact ⟨v, rfl, fun e ↦ hnull (Or.inr (by rw [hv, e]))⟩
    rw [rawWorkload_of_ne hv hne] at hw ⊢
    obtain ⟨fields, rfl⟩ := k.object_of_unmarshal v w hw hne
    obtain ⟨key, hmem⟩ := WorkloadKit.mem_of_decode hv
    rw [obj_workload_eq_iff (Json.ne_obj_of_mem hmem)]
    constructor
    · exact fun hkey ↦ Or.inr ⟨_, hv, hne, by simpa using hkey.1, hkey.2⟩
    · rintro (⟨hnull', -⟩ | ⟨v, hv', -, hempty, hkey⟩)
      · exact absurd hnull' hnull
      · cases hv.symm.trans hv'
        exact ⟨by simpa using hempty, hkey⟩

/-! ## What is stored -/

/-- Every resource has a spec that was accepted for its kind. -/
def Db.Accepted (env : Env) (db : Db) : Prop :=
  ∀ u r, db.resources.get? u = some r → env.validateSpec r.kind r.spec = none

theorem updateSpecParams_accepted {env : Env} {db : Db} {r : Resource} {input : UpdateSpecInput}
    {p : UpdateResourceSpecParams} (hr : env.validateSpec r.kind r.spec = none)
    (h : updateSpecParams env db r input = .ok p) : env.validateSpec r.kind p.spec = none := by
  rw [(updateSpecParams_spec h).2.1]
  simp only [updateSpecParams] at h
  split at h
  · cases h
  rename_i hnone
  rcases hspec : input.spec with _ | spec
  · exact hr
  · rw [hspec] at hnone
    exact hnone

/-- The blanks that the column cuts off a kind do not show in `validateSpec`. -/
theorem validateSpec_clip (k : WorkloadKit ω) {kind : String} (h : varchar 50 kind = true)
    (spec : JsonMap) : validateSpec k (clip 50 kind) spec = validateSpec k kind spec := by
  have hkind : k.isWorkload (clip 50 kind) = k.isWorkload kind := by
    rw [WorkloadKit.isWorkload, WorkloadKit.isWorkload, trimSpace_clip h]
  rw [validateSpec, validateSpec, hkind]

section Stored

variable {k : WorkloadKit ω} {env : Env}
  (henv : ∀ kind spec, env.validateSpec kind spec = validateSpec k kind spec)

include henv

/-- **One step** stores nothing that was not accepted. -/
theorem Db.Accepted.step {db : Db} (hdb : db.Accepted env) (q : Request) :
    (step env db q).Accepted env := by
  obtain ⟨now, o⟩ := q
  intro u r' hr'
  rcases hr : db.resources.get? u with _ | r
  · obtain ⟨input, project, tenant, p, id, -, -, hprep, hstore, rfl⟩ := created_of_none hr hr'
    have haccepted := hprep.accepted
    rw [henv, ← validateSpec_clip k (CreateResourceParams.varchar_kind hstore), ← henv] at haccepted
    exact haccepted
  · obtain ⟨r'', hr'', hstep⟩ := step_get? env ⟨now, o⟩ hr
    obtain rfl : r'' = r' := Option.some.inj (hr''.symm.trans hr')
    have hr := hdb u r hr
    cases hstep with
    | spec _ hp =>
      have hp := updateSpecParams_accepted hr hp
      exact hp
    | _ => exact hr

theorem Db.Accepted.run {db : Db} (hdb : db.Accepted env) (qs : List Request) :
    (Machine.run (Maintainerd.step env) db qs).Accepted env :=
  invariant_run (I := Db.Accepted env) qs hdb fun _ q h ↦ h.step henv q

end Stored

/-! ## The theorem -/

/-- **What is validated is what is shipped, when it is spelled as it is looked up.**  For every kind
that comes to a container or a workload, and every spec that `validateSpec` accepts: the workload in
the envelope that `buildEnvelope` makes of it is the value that was parsed and validated, exactly if
the decoder and the lookup find the same.  And that covers everything a pull ships: in a state that
the service reaches, every item is made of a resource whose spec was accepted. -/
theorem shipped_eq_validated_iff (k : WorkloadKit ω) (env : Env)
    (henv : ∀ kind spec, env.validateSpec kind spec = validateSpec k kind spec) :
    (∀ it : WorkItem, k.isWorkload it.kind = true → validateSpec k it.kind it.spec = none →
      (Json.obj (buildEnvelope it).workload = k.rawWorkload it.spec ↔ k.SameWorkload it.spec)) ∧
    ∀ (db : Db) (qs : List Request) (q : Request), db.Accepted env →
      ∀ i ∈ shipped (run (step env) db qs) q, k.isWorkload i.kind = true →
        ∃ r, (run (step env) db qs).resources.get? i.resourceUuid = some r ∧
          validateSpec k r.kind r.spec = none ∧
          (Json.obj i.envelope.workload = k.rawWorkload r.spec ↔ k.SameWorkload r.spec) := by
  refine ⟨fun it ↦ it.workload_eq_raw_iff, fun db qs q hdb i hi hkind ↦ ?_⟩
  obtain ⟨a, limit, ttl, locked, r, -, hr, -, rfl, -⟩ := mem_shipped env hi
  have haccepted : validateSpec k r.kind r.spec = none := by
    rw [← henv]
    exact hdb.run henv qs _ r hr
  exact ⟨r, hr, haccepted,
    (toWorkItem (claimPatch a (effectiveTTL ttl) q.now r)).workload_eq_raw_iff hkind haccepted⟩

/-! ## Two spellings -/

/-- A kit that asks of a workload that it has an image. -/
def imageKit : WorkloadKit JsonMap where
  lower := Char.toLower
  fold := Char.toUpper
  typeError _ _ := "json: cannot unmarshal value into Go struct field .teardown of type bool"
  unmarshal
    | .obj fields => .ok fields
    | .null => .ok []
    | _ => .error "json: cannot unmarshal value into Go value of type runtime.WorkloadSpec"
  object_of_unmarshal v w h hne := by
    rcases v with _ | _ | _ | _ | _ | fields
    · exact absurd rfl hne
    all_goals first | exact ⟨_, rfl⟩ | cases h
  validate fields := if (fields.lookup "image").isSome then none else some "image is required"

/-- The environment of a service that goes by this kit. -/
def imageEnv : Env := ⟨Char.toLower, fun _ ↦ "", validateSpec imageKit⟩

/-- A container whose envelope has the workload under the given key. -/
def envelopedUnder (key : String) : WorkItem where
  uuid := 7
  kind := "Container"
  name := "web"
  state := "pending"
  spec := [(key, .obj [("image", .str "nginx:1")])]
  metadata := []
  generation := 1

theorem shipped_eq_validated_iff_workload :
    imageKit.rawWorkload (envelopedUnder "workload").spec = .obj [("image", .str "nginx:1")] ∧
      Json.obj (buildEnvelope (envelopedUnder "workload")).workload =
        imageKit.rawWorkload (envelopedUnder "workload").spec := by
  have hall := (shipped_eq_validated_iff imageKit imageEnv (by simp [imageEnv])).1
  have hsame : imageKit.SameWorkload (envelopedUnder "workload").spec :=
    Or.inr ⟨_, rfl, by simp, by simp, rfl⟩
  exact ⟨rfl, (hall (envelopedUnder "workload") (by decide) (by decide)).mpr hsame⟩

/-- Under the key `Workload` the inner document is validated and the whole one is shipped. -/
theorem shipped_unvalidated :
    imageKit.isWorkload (envelopedUnder "Workload").kind = true ∧
      validateSpec imageKit "Container" (envelopedUnder "Workload").spec = none ∧
      imageKit.rawWorkload (envelopedUnder "Workload").spec = .obj [("image", .str "nginx:1")] ∧
      (buildEnvelope (envelopedUnder "Workload")).workload =
        [("Workload", .obj [("image", .str "nginx:1")])] :=
  ⟨by decide, by decide, rfl, rfl⟩

end Maintainerd

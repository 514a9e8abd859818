import Maintainerd.Steward.World

/-!
# The catalogue, and one pass over it

`Reconcile` of `internal/steward/reconcile.go`: the objects of the catalogue are checked and applied
in their order, and the pass ends at the first error.  How an object is applied is the `Applier`'s
business, of which there are two; an applier has a state of its own, which lives as long as the
pass.  Both callers hand `Reconcile` a key sink, so there is no branch for a pass without one.

`reconcile_keeps` is the rule for whole passes: what each of the four ways of applying an object
keeps, a pass keeps.
-/

set_option autoImplicit false

namespace Maintainerd.Steward

open Dialogue

/-! ## The catalogue -/

/-- `APIVersion`. -/
def apiVersion : String := "control.maintainerd/v1"

/-- `ServiceSpec`, as far as an applier reads it. -/
structure ServiceSpec where
  registryKind : String
  tier : String
deriving DecidableEq, Repr

/-- `ResourceAPISpec`, with the names of its permissions. -/
structure ResourceAPISpec where
  service : String
  permissions : List String
deriving DecidableEq, Repr

/-- `ServiceClientSpec`. -/
structure ServiceClientSpec where
  service : String
  audience : String
  allowedScopes : List String
deriving DecidableEq, Repr

/-- `ServicePolicySpec`. -/
structure ServicePolicySpec where
  service : String
  policyName : String
  allowedActions : List String
deriving DecidableEq, Repr

/-- `Spec`. -/
inductive Spec where
  | service (spec : ServiceSpec)
  | resourceAPI (spec : ResourceAPISpec)
  | serviceClient (spec : ServiceClientSpec)
  | servicePolicy (spec : ServicePolicySpec)
deriving DecidableEq, Repr

/-- `Spec.Kind`. -/
def Spec.kind : Spec → String
  | .service _ => "Service"
  | .resourceAPI _ => "ResourceAPI"
  | .serviceClient _ => "ServiceClient"
  | .servicePolicy _ => "ServicePolicy"

/-- The service an object refers to. -/
def Spec.refersTo : Spec → Option String
  | .service _ => none
  | .resourceAPI spec => some spec.service
  | .serviceClient spec => some spec.service
  | .servicePolicy spec => some spec.service

/-- `Object`. -/
structure Object where
  apiVersion : String
  kind : String
  name : String
  spec : Option Spec
deriving DecidableEq, Repr

/-- `Report`. -/
structure Report where
  services : ℕ := 0
  apis : ℕ := 0
  clients : ℕ := 0
  policies : ℕ := 0
  newKeys : ℕ := 0
deriving DecidableEq, Repr

/-- `GeneratedClient`, as far as `Reconcile` and its tests read it. -/
structure GeneratedClient where
  clientID : ℕ
  privateKeyPEM : String
  alreadyExisted : Bool
deriving DecidableEq, Repr

/-- `Applier`, on states of its own. -/
structure Applier (α : Type) : Type 1 where
  ensureService : α → String → ServiceSpec → Script (α × Except String PUnit)
  ensureResourceAPI : α → String → ResourceAPISpec → Script (α × Except String PUnit)
  ensureServiceClient :
    α → String → ServiceClientSpec → Script (α × Except String (Option GeneratedClient))
  ensureServicePolicy : α → String → ServicePolicySpec → Script (α × Except String PUnit)

/-! ## The pass -/

/-- `validatePolicyActions`. -/
def validatePolicyActions : List String → Option String
  | [] => none
  | action :: actions =>
    if Text.trimSpace action = "" then some "allowedActions contains an empty action"
    else if Text.trimSpace action = "*" then
      some "allowedActions must enumerate grants, not bare *"
    else validatePolicyActions actions

/-- The checks of an object: its spec, or why the pass ends here. -/
def Object.check (env : Env) (i : ℕ) (obj : Object) : Except String Spec :=
  if obj.apiVersion ≠ Steward.apiVersion then
    .error ("steward: object " ++ toString i ++ " (" ++ obj.kind ++ "/" ++ obj.name ++
      ") has unsupported apiVersion " ++ env.quote obj.apiVersion)
  else if obj.name = "" then
    .error ("steward: object " ++ toString i ++ " has empty metadata.name")
  else
    match obj.spec with
    | none =>
      .error ("steward: object " ++ toString i ++ " " ++ env.quote obj.name ++ " has nil spec")
    | some spec =>
      if obj.kind ≠ spec.kind then
        .error ("steward: object " ++ toString i ++ " " ++ env.quote obj.name ++ " kind " ++
          env.quote obj.kind ++ " does not match spec kind " ++ env.quote spec.kind)
      else .ok spec

/-- The object passes the checks of a pass. -/
structure Object.InOrder (obj : Object) (spec : Spec) : Prop where
  version : obj.apiVersion = Steward.apiVersion
  named : obj.name ≠ ""
  specified : obj.spec = some spec
  kind : obj.kind = spec.kind
  actions : ∀ policy, spec = .servicePolicy policy →
    validatePolicyActions policy.allowedActions = none

theorem Object.InOrder.check {obj : Object} {spec : Spec} (h : obj.InOrder spec) (env : Env)
    (i : ℕ) : obj.check env i = .ok spec := by
  rw [Object.check, if_neg (not_not.mpr h.version), if_neg h.named, h.specified]
  exact if_neg (not_not.mpr h.kind)

/-- What comes after `EnsureServiceClient`: the key is recorded, if a new one was generated. -/
def recordGenerated (env : Env) (spec : ServiceClientSpec) (rep : Report)
    (gc : Option GeneratedClient) : Script (Report × Option String) :=
  match gc with
  | none => pure (rep, none)
  | some gc =>
    if gc.privateKeyPEM = "" then pure (rep, none)
    else do
      match ← record env spec.service gc.privateKeyPEM with
      | .error e =>
        pure (rep, some ("steward: record key for " ++ env.quote spec.service ++ ": " ++ e))
      | .ok _ => pure ({ rep with newKeys := rep.newKeys + 1 }, none)

/-- The text of a failed application. -/
def ensureFailed (env : Env) (kind name e : String) : Option String :=
  some ("steward: ensure " ++ kind ++ " " ++ env.quote name ++ ": " ++ e)

/-- One round of the loop of `Reconcile`, after the checks: the applier and the report, and why the
pass ends, if it does. -/
def applyObject {α : Type} (env : Env) (ap : Applier α) (a : α) (rep : Report) (name : String) :
    Spec → Script (α × Report × Option String)
  | .service spec => do
    let (a, done) ← ap.ensureService a name spec
    pure (match done with
      | .error e => (a, rep, ensureFailed env "Service" name e)
      | .ok _ => (a, { rep with services := rep.services + 1 }, none))
  | .resourceAPI spec => do
    let (a, done) ← ap.ensureResourceAPI a name spec
    pure (match done with
      | .error e => (a, rep, ensureFailed env "ResourceAPI" name e)
      | .ok _ => (a, { rep with apis := rep.apis + 1 }, none))
  | .serviceClient spec => do
    let (a, done) ← ap.ensureServiceClient a name spec
    match done with
    | .error e => pure (a, rep, ensureFailed env "ServiceClient" name e)
    | .ok gc => do
      let (rep, failed) ← recordGenerated env spec { rep with clients := rep.clients + 1 } gc
      pure (a, rep, failed)
  | .servicePolicy spec =>
    match validatePolicyActions spec.allowedActions with
    | some e => pure (a, rep, some ("steward: ServicePolicy " ++ env.quote name ++ ": " ++ e))
    | none => do
      let (a, done) ← ap.ensureServicePolicy a name spec
      pure (match done with
        | .error e => (a, rep, ensureFailed env "ServicePolicy" name e)
        | .ok _ => (a, { rep with policies := rep.policies + 1 }, none))

/-- The loop of `Reconcile`, from the object with a given index on. -/
def reconcileFrom {α : Type} (env : Env) (ap : Applier α) :
    ℕ → List Object → α → Report → Script (α × Report × Option String)
  | _, [], a, rep => pure (a, rep, none)
  | i, obj :: objs, a, rep =>
    match obj.check env i with
    | .error e => pure (a, rep, some e)
    | .ok spec => do
      let (a, rep, failed) ← applyObject env ap a rep obj.name spec
      match failed with
      | some e => pure (a, rep, some e)
      | none => reconcileFrom env ap (i + 1) objs a rep

/-- `Reconcile`. -/
def reconcile {α : Type} (env : Env) (ap : Applier α) (a : α) (catalog : List Object) :
    Script (α × Report × Option String) :=
  reconcileFrom env ap 0 catalog a {}

/-! ## What a pass keeps -/

/-- A key is on record for the service. -/
def OnRecord (env : Env) (service : String) (w : World) : Prop :=
  ∃ path pem, keyPath env service = .ok path ∧ w.files path = some pem

/-- The four ways of applying an object keep the invariant, and a client that comes with a new key
has the key on record. -/
structure Applier.Keeps {α : Type} (env : Env) (ap : Applier α) (I : World → Prop) : Prop where
  service : ∀ a name spec w, I w → (ap.ensureService a name spec).wp (fun _ ↦ I) w
  resourceAPI : ∀ a name spec w, I w → (ap.ensureResourceAPI a name spec).wp (fun _ ↦ I) w
  serviceClient : ∀ a name spec w, I w → (ap.ensureServiceClient a name spec).wp
    (fun r w' ↦ I w' ∧ ∀ gc, r.2 = .ok (some gc) → gc.privateKeyPEM ≠ "" →
      OnRecord env spec.service w') w
  servicePolicy : ∀ a name spec w, I w → (ap.ensureServicePolicy a name spec).wp (fun _ ↦ I) w

section Keeps

variable {α : Type} {env : Env} {ap : Applier α} {I : World → Prop}

/-- Recording a key that is on record changes nothing. -/
theorem wp_record_of_onRecord (hsent : ∀ w service o, I w → I (w.sent (.recordKey service) o))
    {service pem : String} {w : World} (hw : I w) (h : OnRecord env service w) :
    (record env service pem).wp (fun _ ↦ I) w := by
  obtain ⟨path, old, hpath, hfile⟩ := h
  rw [record, hpath]
  refine wp_once.mpr fun t ↦ ?_
  have hold : (w.sent (.recordKey service) t.outcome).files path = some old := hfile
  rcases ht : t.outcome with _ | _ | _ <;> rw [ht] at hold <;>
  · simp only [hold]
    exact hsent w service _ hw

theorem wp_recordGenerated (hsent : ∀ w service o, I w → I (w.sent (.recordKey service) o))
    {spec : ServiceClientSpec} {rep : Report} {gc : Option GeneratedClient} {w : World} (hw : I w)
    (h : ∀ x, gc = some x → x.privateKeyPEM ≠ "" → OnRecord env spec.service w) :
    (recordGenerated env spec rep gc).wp (fun _ ↦ I) w := by
  rcases gc with _ | gc
  · exact wp_pure.mpr hw
  rw [recordGenerated]
  split
  · exact wp_pure.mpr hw
  · rename_i hpem
    refine (wp_record_of_onRecord hsent hw (h gc rfl hpem)).bind ?_
    rintro (e | _) w hw
    · exact wp_pure.mpr hw
    · exact wp_pure.mpr hw

theorem wp_applyObject (h : ap.Keeps env I)
    (hsent : ∀ w service o, I w → I (w.sent (.recordKey service) o)) (a : α) (rep : Report)
    (name : String) (spec : Spec) {w : World} (hw : I w) :
    (applyObject env ap a rep name spec).wp (fun _ ↦ I) w := by
  cases spec with
  | service spec =>
    exact (h.service a name spec w hw).bind fun _ _ hw ↦ wp_pure.mpr hw
  | resourceAPI spec =>
    exact (h.resourceAPI a name spec w hw).bind fun _ _ hw ↦ wp_pure.mpr hw
  | serviceClient spec =>
    refine (h.serviceClient a name spec w hw).bind ?_
    rintro ⟨a, e | gc⟩ w ⟨hw, hrecord⟩
    · exact wp_pure.mpr hw
    · have hgc : ∀ x, gc = some x → x.privateKeyPEM ≠ "" → OnRecord env spec.service w :=
        fun x hx ↦ hrecord x (congrArg Except.ok hx)
      exact (wp_recordGenerated hsent hw hgc).bind fun _ _ hw ↦ wp_pure.mpr hw
  | servicePolicy spec =>
    rw [applyObject]
    split
    · exact wp_pure.mpr hw
    · exact (h.servicePolicy a name spec w hw).bind fun _ _ hw ↦ wp_pure.mpr hw

theorem wp_reconcileFrom (h : ap.Keeps env I)
    (hsent : ∀ w service o, I w → I (w.sent (.recordKey service) o)) (i : ℕ) (objs : List Object)
    (a : α) (rep : Report) {w : World} (hw : I w) :
    (reconcileFrom env ap i objs a rep).wp (fun _ ↦ I) w := by
  induction objs generalizing i a rep w with
  | nil => exact wp_pure.mpr hw
  | cons obj objs ih =>
    rw [reconcileFrom]
    split
    · exact wp_pure.mpr hw
    · refine (wp_applyObject h hsent a rep obj.name _ hw).bind ?_
      rintro ⟨a, rep, _ | e⟩ w hw
      · exact ih (i + 1) a rep hw
      · exact wp_pure.mpr hw

/-- **What a pass keeps.** -/
theorem reconcile_keeps (h : ap.Keeps env I)
    (hsent : ∀ w service o, I w → I (w.sent (.recordKey service) o)) (a : α)
    (catalog : List Object) {w : World} (hw : I w) :
    (reconcile env ap a catalog).wp (fun _ ↦ I) w :=
  wp_reconcileFrom h hsent 0 catalog a {} hw

end Keeps

end Maintainerd.Steward

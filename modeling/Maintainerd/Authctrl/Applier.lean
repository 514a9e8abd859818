import Maintainerd.Steward.Reconcile

/-!
# The applier for the time after setup

`internal/authctrl/applier.go`: it applies the objects of the catalogue through the regular RPCs of
Auth.  Every method looks an object up by its name and creates it if it is not there, and a method
that fails puts that down in the outcomes and lets the pass go on, so none of them returns an error.

The texts of the request that Auth only stores, such as display names and descriptions, are not
here.
-/

set_option autoImplicit false

namespace Maintainerd.Authctrl

open Steward Dialogue

/-! ## Outcomes -/

/-- `Status`. -/
inductive Status where
  | created
  | ensured
  | failed
deriving DecidableEq, Repr

/-- `Outcome`. -/
structure Outcome where
  kind : String
  name : String
  status : Status
  error : String
deriving DecidableEq, Repr

/-- The state of an `Applier`: the services resolved so far, and the outcomes. -/
structure Applier where
  serviceIDs : List (String × ℕ) := []
  outcomes : List Outcome := []
deriving DecidableEq, Repr

/-- `record`. -/
def Applier.record (a : Applier) (kind name : String) (status : Status) (error : String) :
    Applier :=
  { a with outcomes := a.outcomes ++ [⟨kind, name, status, error⟩] }

/-- `fail`. -/
def Applier.fail (a : Applier) (kind name error : String) : Applier :=
  a.record kind name .failed error

/-- The failure of an object whose service is not resolved. -/
def Applier.failUnresolved (env : Steward.Env) (a : Applier) (kind name service : String) :
    Applier :=
  a.fail kind name ("service " ++ env.quote service ++
    " has not been applied — it must precede its " ++ kind ++ " in the catalog")

/-! ## Services -/

/-- `findService`. -/
def findService (name : String) : Script (Except String (Option AuthService)) :=
  inquire (.listServices name) fun w ↦ findNamed AuthService.name name w.auth.services

/-- `CreateService`. -/
def createService (name : String) : Script (Except String AuthService) :=
  perform (.createService name) fun t w ↦
    let service : AuthService := ⟨w.auth.nextID, name⟩
    ({ w with auth := { w.auth with
        services := insertAt t.place service w.auth.services, nextID := w.auth.nextID + 1 } },
      service)

/-- `converge`. -/
def converge (env : Steward.Env) (name : String) (spec : ServiceSpec) :
    Script (Except String PUnit) :=
  if !env.hasRegistry || Text.trimSpace spec.registryKind = "" then pure (.ok ⟨⟩)
  else
    inquire (.ensureRegistered name spec.registryKind (spec.tier == "system")) fun _ ↦ ⟨⟩

/-- The end of `EnsureService`, once the service is there. -/
def serviceApplied (env : Steward.Env) (a : Applier) (name : String) (spec : ServiceSpec)
    (service : AuthService) (status : Status) : Script Applier := do
  let a := { a with serviceIDs := (name, service.serviceID) :: a.serviceIDs }
  match ← converge env name spec with
  | .error e => pure (a.fail "Service" name e)
  | .ok _ => pure (a.record "Service" name status "")

/-- `EnsureService`. -/
def ensureService (env : Steward.Env) (a : Applier) (name : String) (spec : ServiceSpec) :
    Script Applier := do
  match ← findService name with
  | .error e => pure (a.fail "Service" name e)
  | .ok (some service) => serviceApplied env a name spec service .ensured
  | .ok none =>
    match ← createService name with
    | .error e => pure (a.fail "Service" name e)
    | .ok service => serviceApplied env a name spec service .created

/-! ## Resource APIs -/

/-- `findAPI`. -/
def findAPI (name : String) : Script (Except String (Option AuthAPI)) :=
  inquire (.listAPIs name) fun w ↦ findNamed AuthAPI.name name w.auth.apis

/-- `CreateAPI`. -/
def createAPI (name : String) (serviceID : ℕ) : Script (Except String AuthAPI) :=
  perform (.createAPI name serviceID) fun t w ↦
    let api : AuthAPI := ⟨w.auth.nextID, name, serviceID⟩
    ({ w with auth := { w.auth with
        apis := insertAt t.place api w.auth.apis, nextID := w.auth.nextID + 1 } }, api)

/-- `CreatePermission`. -/
def createPermission (apiID : ℕ) (name : String) : Script (Except String PUnit) :=
  perform (.createPermission apiID name) fun t w ↦
    ({ w with auth := { w.auth with
        permissions := insertAt t.place ⟨apiID, name⟩ w.auth.permissions } }, ⟨⟩)

/-- The loop of `ensurePermissions`, with the permissions the API had before it. -/
def createMissing (env : Steward.Env) (apiID : ℕ) (present : List String) :
    List String → ℕ → Script (Except String ℕ)
  | [], created => pure (.ok created)
  | name :: want, created =>
    if present.contains name then createMissing env apiID present want created
    else do
      match ← createPermission apiID name with
      | .error e => pure (.error ("create permission " ++ env.quote name ++ ": " ++ e))
      | .ok _ => createMissing env apiID present want (created + 1)

/-- `ensurePermissions`: how many were created. -/
def ensurePermissions (env : Steward.Env) (apiID : ℕ) (want : List String) :
    Script (Except String ℕ) :=
  if want.isEmpty then pure (.ok 0)
  else do
    match ← inquire (.listPermissions apiID) fun w ↦
      ((w.auth.permissions.filter fun p ↦ p.apiID == apiID).take listPageSize).map
        AuthPermission.name with
    | .error e => pure (.error e)
    | .ok present => createMissing env apiID present want 0

/-- The end of `EnsureResourceAPI`, once the API is there. -/
def apiApplied (env : Steward.Env) (a : Applier) (name : String) (spec : ResourceAPISpec)
    (api : AuthAPI) (status : Status) : Script Applier := do
  match ← ensurePermissions env api.apiID spec.permissions with
  | .error e => pure (a.fail "ResourceAPI" name e)
  | .ok created =>
    pure (a.record "ResourceAPI" name (if 0 < created then .created else status) "")

/-- `EnsureResourceAPI`. -/
def ensureResourceAPI (env : Steward.Env) (a : Applier) (name : String) (spec : ResourceAPISpec) :
    Script Applier :=
  match a.serviceIDs.lookup spec.service with
  | none => pure (a.failUnresolved env "ResourceAPI" name spec.service)
  | some serviceID => do
    match ← findAPI name with
    | .error e => pure (a.fail "ResourceAPI" name e)
    | .ok (some api) => apiApplied env a name spec api .ensured
    | .ok none =>
      match ← createAPI name serviceID with
      | .error e => pure (a.fail "ResourceAPI" name e)
      | .ok api => apiApplied env a name spec api .created

/-! ## Service clients -/

/-- `findClient`. -/
def findClient (name : String) : Script (Except String (Option AuthClient)) :=
  inquire (.listClients name) fun w ↦ findNamed AuthClient.name name w.auth.clients

/-- What `clientConfig` puts into the request, as far as it is not fixed. -/
structure ClientConfig where
  allowedScopes : List String
  jwks : String
deriving DecidableEq, Repr

/-- `clientConfig`. -/
def clientConfig (env : Steward.Env) (jwks : String) (spec : ServiceClientSpec) :
    Except String ClientConfig :=
  match env.unmarshalError jwks with
  | some e => .error ("decode generated jwks: " ++ e)
  | none =>
    let scopes := if spec.allowedScopes.isEmpty then [spec.audience] else spec.allowedScopes
    match env.structError scopes with
    | some e => .error e
    | none => .ok ⟨scopes, jwks⟩

/-- `CreateClient`. -/
def createClient (name service : String) (cfg : ClientConfig) : Script (Except String AuthClient) :=
  perform (.createClient name service cfg.jwks) fun t w ↦ w.addClient t.place name service cfg.jwks

/-- The request for a client that is registered with a key. -/
def clientRequest (env : Steward.Env) (spec : ServiceClientSpec) (privatePEM : String) :
    Except String ClientConfig :=
  match env.keys.jwksFromPrivatePEM privatePEM with
  | none => .error (env.keyError privatePEM)
  | some jwks => clientConfig env jwks spec

/-- `EnsureServiceClient` after a `CreateClient` that failed: a key that was generated for the
client is discarded. -/
def rollBack (env : Steward.Env) (a : Applier) (name service : String) (generated : Bool)
    (error : String) : Script (Applier × Option GeneratedClient) :=
  if generated then do
    let _ ← Steward.discard env service
    pure (a.fail "ServiceClient" name error, none)
  else pure (a.fail "ServiceClient" name error, none)

/-- The end of `EnsureServiceClient`, for a client that is not there. -/
def registerClient (env : Steward.Env) (a : Applier) (name : String) (spec : ServiceClientSpec)
    (privatePEM : String) (generated : Bool) : Script (Applier × Option GeneratedClient) :=
  match clientRequest env spec privatePEM with
  | .error e => pure (a.fail "ServiceClient" name e, none)
  | .ok cfg => do
    match ← createClient name spec.service cfg with
    | .error e => rollBack env a name spec.service generated e
    | .ok client =>
      pure (a.record "ServiceClient" name .created "",
        some ⟨client.clientID, if generated then privatePEM else "", false⟩)

/-- `EnsureServiceClient`. -/
def ensureServiceClient (env : Steward.Env) (a : Applier) (name : String)
    (spec : ServiceClientSpec) : Script (Applier × Option GeneratedClient) :=
  match a.serviceIDs.lookup spec.service with
  | none => pure (a.failUnresolved env "ServiceClient" name spec.service, none)
  | some _ => do
    match ← findClient name with
    | .error e => pure (a.fail "ServiceClient" name e, none)
    | .ok existing =>
      match ← privateKey env spec.service with
      | .error e => pure (a.fail "ServiceClient" name e, none)
      | .ok (pem, hadKey) =>
        match existing with
        | some client =>
          if !hadKey then
            pure (a.fail "ServiceClient" name ("auth client " ++ env.quote name ++
              " already exists but no local private key was found for service " ++
              env.quote spec.service), none)
          else pure (a.record "ServiceClient" name .ensured "", some ⟨client.clientID, "", true⟩)
        | none =>
          match ← clientKey env spec.service pem with
          | .error e => pure (a.fail "ServiceClient" name e, none)
          | .ok (pem, generated) => registerClient env a name spec pem generated

/-! ## Service policies -/

/-- `findPolicy`. -/
def findPolicy (name : String) : Script (Except String (Option AuthPolicy)) :=
  inquire (.listPolicies name) fun w ↦ findNamed AuthPolicy.name name w.auth.policies

/-- `CreatePolicy`. -/
def createPolicy (name : String) (actions : List String) : Script (Except String AuthPolicy) :=
  perform (.createPolicy name) fun t w ↦
    let policy : AuthPolicy := ⟨w.auth.nextID, name, actions⟩
    ({ w with auth := { w.auth with
        policies := insertAt t.place policy w.auth.policies, nextID := w.auth.nextID + 1 } },
      policy)

/-- `AssignServicePolicy`, which is idempotent. -/
def assignServicePolicy (serviceID policyID : ℕ) : Script (Except String PUnit) :=
  perform (.assignServicePolicy serviceID policyID) fun _ w ↦
    ({ w with auth := { w.auth with
        assigned := if w.auth.assigned.contains (serviceID, policyID) then w.auth.assigned
          else w.auth.assigned ++ [(serviceID, policyID)] } }, ⟨⟩)

/-- The end of `EnsureServicePolicy`, once the policy is there. -/
def policyApplied (a : Applier) (name : String) (serviceID : ℕ) (policy : AuthPolicy)
    (status : Status) : Script Applier := do
  match ← assignServicePolicy serviceID policy.policyID with
  | .error e => pure (a.fail "ServicePolicy" name e)
  | .ok _ => pure (a.record "ServicePolicy" name status "")

/-- `EnsureServicePolicy`. -/
def ensureServicePolicy (env : Steward.Env) (a : Applier) (name : String)
    (spec : ServicePolicySpec) : Script Applier :=
  if spec.allowedActions.isEmpty then pure (a.record "ServicePolicy" name .ensured "")
  else
    match a.serviceIDs.lookup spec.service with
    | none => pure (a.failUnresolved env "ServicePolicy" name spec.service)
    | some serviceID => do
      let policyName := firstNonBlank [spec.policyName, name]
      match ← findPolicy policyName with
      | .error e => pure (a.fail "ServicePolicy" name e)
      | .ok (some policy) => policyApplied a name serviceID policy .ensured
      | .ok none =>
        -- the document is built before the policy is created
        match env.structError spec.allowedActions with
        | some e => pure (a.fail "ServicePolicy" name e)
        | none =>
          match ← createPolicy policyName spec.allowedActions with
          | .error e => pure (a.fail "ServicePolicy" name e)
          | .ok policy => policyApplied a name serviceID policy .created

/-! ## The pass -/

/-- The `steward.Applier` it implements. -/
def applier (env : Steward.Env) : Steward.Applier Applier where
  ensureService a name spec := do
    let a ← ensureService env a name spec
    pure (a, .ok ⟨⟩)
  ensureResourceAPI a name spec := do
    let a ← ensureResourceAPI env a name spec
    pure (a, .ok ⟨⟩)
  ensureServiceClient a name spec := do
    let (a, gc) ← ensureServiceClient env a name spec
    pure (a, .ok gc)
  ensureServicePolicy a name spec := do
    let a ← ensureServicePolicy env a name spec
    pure (a, .ok ⟨⟩)

/-- A pass with a new `Applier`, as the runner makes one. -/
def pass (env : Steward.Env) (catalog : List Object) : Script (Applier × Report × Option String) :=
  reconcile env (applier env) {} catalog

end Maintainerd.Authctrl

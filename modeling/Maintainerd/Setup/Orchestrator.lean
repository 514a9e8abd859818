import Maintainerd.Lib.Fallible
import Maintainerd.Lib.Table
import Maintainerd.Lib.Text

/-!
# Setup

`RunWith` of `internal/setup/orchestrator.go`, with the statements of `control_plane.sql` and
`LoadIdentity` of `internal/authctrl/identity.go`.  An attempt at setup is a program that fails
half-way: it talks to Auth nine times and to the database twice, every one of these calls may fail,
and nothing it has done by then is undone.

What Auth remembers of the setup protocol is `AuthState`: its three status bits follow the calls it
has committed, and the control client keeps the key set of the first request.  An `Attempt` is what
comes from outside: how each call ends, and what Auth answers.  A call ends `lost` when it was
committed and its answer did not come back.  Of the catalogue that the steward reconciles only
whether it succeeds is here, because it provisions other clients than core's; and the mirror, whose
failure is ignored, writes other tables.

Two ghosts make statements about attempts possible: the number of keys minted so far, and the calls
the latest attempt has committed.
-/

set_option autoImplicit false

namespace Maintainerd

open Fallible

/-! ## What comes from outside -/

/-- How a call ends. -/
inductive Outcome where
  /-- It is committed, and the answer comes back. -/
  | answered
  /-- It is committed, and the answer is lost. -/
  | lost
  /-- It is not committed. -/
  | refused
deriving DecidableEq, Repr

/-- Keys: the private half and the public key set of the n-th key ever minted, and the key set
derived from a private half, if it parses. -/
structure KeyGen where
  pem : ℕ → String
  jwks : ℕ → String
  jwksFromPrivatePEM : String → Option String
  /-- A minted key is text. -/
  pem_nonblank : ∀ n, Text.trimSpace (pem n) ≠ ""
  /-- Deriving the key set of a minted key gives the key set it was minted with. -/
  jwks_pem : ∀ n, jwksFromPrivatePEM (pem n) = some (jwks n)
  /-- There is no key in an empty text. -/
  jwks_empty : jwksFromPrivatePEM "" = none
  /-- No two keys have one key set. -/
  jwks_injective : Function.Injective jwks

theorem KeyGen.pem_ne_empty (keys : KeyGen) (n : ℕ) : keys.pem n ≠ "" := by
  intro h
  exact keys.pem_nonblank n (by rw [h]; rfl)

/-- `uuid.Parse` and `UUID.String`. -/
structure UuidCodec where
  parse : String → Option Uuid
  format : Uuid → String
  parse_empty : parse "" = none
  format_nonblank : ∀ u, Text.trimSpace (format u) ≠ ""

/-- What Auth answers to the calls of one attempt, if they come to be answered. -/
structure AuthAnswers where
  tenantID : String
  defaultClientID : String
  defaultProviderID : String
  serviceID : String
  policyID : String
  policyName : String
  controlClientID : String
  controlOAuthClientID : String
  tokenEndpointAuthMethod : String
  apiID : String
  apiIdentifier : String
  roleID : String
  consoleClientID : String
  consoleOAuthClientID : String
  userID : String
  /-- Auth names the tenant it creates. -/
  tenantID_nonblank : Text.trimSpace tenantID ≠ ""
  /-- Auth gives the client it creates an OAuth identifier. -/
  controlOAuthClientID_nonblank : Text.trimSpace controlOAuthClientID ≠ ""

/-- What one attempt meets outside. -/
structure Attempt where
  now : Int
  dials : Bool
  getSetupStatus : Bool
  createTenant : Outcome
  registerControlService : Outcome
  /-- The read of the `control_plane` row, of which each branch makes one. -/
  getControlPlane : Bool
  generateControlKey : Bool
  ensureControlClient : Outcome
  ensureResourceAPI : Outcome
  ensureRole : Outcome
  ensureConsoleClient : Outcome
  reconcileSteward : Bool
  createAdmin : Outcome
  completeSetup : Outcome
  upsertControlPlane : Outcome
  answers : AuthAnswers

/-! ## What is remembered -/

/-- The control client, as Auth holds it. -/
structure ControlClient where
  clientID : String
  oauthClientID : String
  tokenEndpointAuthMethod : String
  jwks : String
deriving DecidableEq, Repr

/-- What Auth remembers. -/
structure AuthState where
  isTenantSetup : Bool
  isAdminSetup : Bool
  isSetupComplete : Bool
  controlClient : Option ControlClient
deriving DecidableEq, Repr

/-- `Result`, which is stored as `control_plane.data`.  A zero time is `none`. -/
structure SetupResult where
  authTenantID : String := ""
  authAdminUserID : String := ""
  authDefaultClientID : String := ""
  authDefaultProviderID : String := ""
  controlServiceID : String := ""
  controlPolicyID : String := ""
  controlPolicyName : String := ""
  controlClientID : String := ""
  controlOAuthClientID : String := ""
  tokenAuthMethod : String := ""
  resourceAPIID : String := ""
  resourceAPIIdentifier : String := ""
  adminRoleID : String := ""
  consoleClientID : String := ""
  consoleOAuthClientID : String := ""
  jwks : String := ""
  completedAt : Option Int := none
  alreadyComplete : Bool := false
  deploymentMode : String := ""
deriving DecidableEq, Repr

/-- The row of `control_plane`. -/
structure ControlPlane where
  authTenantUuid : Option Uuid
  data : SetupResult
  controlPrivateKeyPem : String
  deploymentMode : String
  setupCompletedAt : Option Int
deriving DecidableEq, Repr

/-- The calls that leave something behind. -/
inductive Commit where
  | createTenant
  | registerControlService
  /-- `EnsureControlClient`, when there was no client yet. -/
  | createControlClient
  | createAdmin
  | completeSetup
  | upsertControlPlane
deriving DecidableEq, Repr

/-- Auth, the database row, and the ghosts. -/
structure World where
  auth : AuthState
  row : Option ControlPlane
  minted : ℕ
  commits : List Commit
deriving DecidableEq, Repr

/-- A fresh Auth and an empty `control_plane`. -/
def World.fresh : World := ⟨⟨false, false, false, none⟩, none, 0, []⟩

/-- The part of the configuration an attempt reads. -/
structure SetupConfig where
  authAddr : String
  adminPassword : String
  deploymentMode : String

/-- Why an attempt fails: a missing setting, or the call it failed at. -/
inductive SetupError where
  | authAddrMissing
  | adminPasswordRequired
  | dial
  | storedKeyUnusable
  | call (what : String)
deriving DecidableEq, Repr

/-- What setup runs with. -/
structure SetupEnv where
  cfg : SetupConfig
  keys : KeyGen
  uuids : UuidCodec

/-! ## The statements -/

/-- The parameters of `UpsertControlPlane`. -/
structure UpsertControlPlaneParams where
  authTenantUuid : Option Uuid
  data : SetupResult
  controlPrivateKeyPem : String
  deploymentMode : String
  setupCompletedAt : Option Int

/-- `UpsertControlPlane`: an empty key leaves the stored one alone, everything else is
overwritten. -/
def upsertControlPlane (row : Option ControlPlane) (p : UpsertControlPlaneParams) :
    ControlPlane where
  authTenantUuid := p.authTenantUuid
  data := p.data
  controlPrivateKeyPem :=
    if p.controlPrivateKeyPem = "" then (row.map ControlPlane.controlPrivateKeyPem).getD ""
    else p.controlPrivateKeyPem
  deploymentMode := p.deploymentMode
  setupCompletedAt := p.setupCompletedAt

/-! ## The steps of an attempt -/

/-- A program of an attempt. -/
abbrev Setup (α : Type) : Type := Prog World SetupError α

/-- A call: `effect` is what it does when it is committed, and the program goes on only when the
answer comes back. -/
def call (what : String) (o : Outcome) (effect : World → World) : Setup PUnit :=
  match o with
  | .answered => modify effect
  | .lost => do
    modify effect
    fail (.call what)
  | .refused => fail (.call what)

/-- The call is committed. -/
def World.commit (w : World) (c : Commit) (auth : AuthState) : World :=
  { w with auth := auth, commits := w.commits ++ [c] }

/-- `CreateTenant`, unless a previous attempt has. -/
def createTenant (a : Attempt) (status : AuthState) : Setup SetupResult :=
  if status.isTenantSetup then pure {}
  else do
    call "auth CreateTenant" a.createTenant fun w ↦
      w.commit .createTenant { w.auth with isTenantSetup := true }
    pure { authTenantID := a.answers.tenantID
           authDefaultClientID := a.answers.defaultClientID
           authDefaultProviderID := a.answers.defaultProviderID }

/-- `RegisterControlService`. -/
def registerControlService (a : Attempt) (res : SetupResult) : Setup SetupResult := do
  call "auth RegisterControlService" a.registerControlService fun w ↦
    w.commit .registerControlService w.auth
  pure { res with
    controlServiceID := a.answers.serviceID
    controlPolicyID := a.answers.policyID
    controlPolicyName := a.answers.policyName }

/-- `generateControlKey`. -/
def generateControlKey (env : SetupEnv) (a : Attempt) : Setup (String × String) :=
  if a.generateControlKey then do
    let w ← get
    modify fun w ↦ { w with minted := w.minted + 1 }
    pure (env.keys.pem w.minted, env.keys.jwks w.minted)
  else fail (.call "generate control key")

/-- `controlKey`: the stored key when it can be read, and otherwise a new one. -/
def controlKey (env : SetupEnv) (a : Attempt) : Setup (String × String) := do
  let w ← get
  match if a.getControlPlane then w.row else none with
  | none => generateControlKey env a
  | some row =>
    if row.controlPrivateKeyPem = "" then generateControlKey env a
    else
      match env.keys.jwksFromPrivatePEM row.controlPrivateKeyPem with
      | none => fail .storedKeyUnusable
      | some jwks => pure (row.controlPrivateKeyPem, jwks)

/-- `EnsureControlClient`: Auth gets or creates, and keeps the key set of the first request. -/
def ensureControlClient (a : Attempt) (jwks : String) : Setup ControlClient := do
  let w ← get
  let created : ControlClient :=
    ⟨a.answers.controlClientID, a.answers.controlOAuthClientID,
      a.answers.tokenEndpointAuthMethod, jwks⟩
  call "auth EnsureControlClient" a.ensureControlClient fun w ↦
    if w.auth.controlClient.isSome then w
    else w.commit .createControlClient { w.auth with controlClient := some created }
  pure (w.auth.controlClient.getD created)

/-- The three best-effort calls: what they answer is recorded, and a failure is passed over. -/
def bestEffort (a : Attempt) (res : SetupResult) : SetupResult :=
  let res := if a.ensureResourceAPI = .answered then
    { res with resourceAPIID := a.answers.apiID, resourceAPIIdentifier := a.answers.apiIdentifier }
    else res
  let res := if a.ensureRole = .answered then { res with adminRoleID := a.answers.roleID } else res
  if a.ensureConsoleClient = .answered then
    { res with
      consoleClientID := a.answers.consoleClientID
      consoleOAuthClientID := a.answers.consoleOAuthClientID }
  else res

/-- `CreateAdmin`, unless a previous attempt has.  It locks setup. -/
def createAdmin (a : Attempt) (status : AuthState) (res : SetupResult) : Setup SetupResult :=
  if status.isAdminSetup then pure res
  else do
    call "auth CreateAdmin" a.createAdmin fun w ↦
      w.commit .createAdmin { w.auth with isAdminSetup := true, isSetupComplete := true }
    pure { res with authAdminUserID := a.answers.userID }

/-- `CompleteSetup`. -/
def completeSetup (a : Attempt) : Setup PUnit :=
  call "auth CompleteSetup" a.completeSetup fun w ↦
    w.commit .completeSetup { w.auth with isSetupComplete := true }

/-- `persist`. -/
def persist (env : SetupEnv) (a : Attempt) (res : SetupResult) (privPEM : String) : Setup PUnit :=
  call "persist control plane" a.upsertControlPlane fun w ↦
    { w with
      row := some (upsertControlPlane w.row
        { authTenantUuid := env.uuids.parse res.authTenantID
          data := res
          controlPrivateKeyPem := privPEM
          deploymentMode := env.cfg.deploymentMode
          setupCompletedAt := res.completedAt })
      commits := w.commits ++ [.upsertControlPlane] }

/-- `loadPersisted`, from the row as it was read. -/
def loadPersisted : Option ControlPlane → SetupResult
  | none => {}
  | some row =>
    { row.data with
      completedAt := row.setupCompletedAt.or row.data.completedAt
      deploymentMode := row.deploymentMode }

/-! ## An attempt -/

/-- The branch of `RunWith` for an Auth that is already provisioned.  It records completion, when
core has not, and does not fail when that write does. -/
def alreadyComplete (env : SetupEnv) (a : Attempt) : Setup SetupResult := do
  let w ← get
  let res := { loadPersisted (if a.getControlPlane then w.row else none) with
    alreadyComplete := true }
  if res.completedAt.isSome then pure res
  else do
    let res := { res with completedAt := some a.now }
    let _ ← attempt (persist env a res "")
    pure res

/-- The branch of `RunWith` that provisions Auth. -/
def provision (env : SetupEnv) (a : Attempt) (status : AuthState) : Setup SetupResult := do
  let res ← createTenant a status
  let res ← registerControlService a res
  let key ← controlKey env a
  let client ← ensureControlClient a key.2
  let res := bestEffort a { res with
    controlClientID := client.clientID
    controlOAuthClientID := client.oauthClientID
    tokenAuthMethod := client.tokenEndpointAuthMethod
    jwks := key.2 }
  require a.reconcileSteward (.call "auth steward reconcile")
  let res ← createAdmin a status res
  completeSetup a
  let res := { res with completedAt := some a.now }
  persist env a res key.1
  pure res

/-- `firstNonEmpty`. -/
def firstNonEmpty (vals : List String) : String := (vals.find? (· ≠ "")).getD ""

/-- `RunWith`, with the password the wizard collects. -/
def runWith (env : SetupEnv) (adminPassword : String) (a : Attempt) : Setup SetupResult := do
  require (env.cfg.authAddr != "") .authAddrMissing
  require (firstNonEmpty [adminPassword, env.cfg.adminPassword] != "") .adminPasswordRequired
  require a.dials .dial
  require a.getSetupStatus (.call "auth GetSetupStatus")
  let w ← get
  if w.auth.isSetupComplete then alreadyComplete env a else provision env a w.auth

/-- One attempt, with the commits of the one before it forgotten. -/
def attemptSetup (env : SetupEnv) (w : World) (x : String × Attempt) :
    World × Except SetupError SetupResult :=
  runWith env x.1 x.2 { w with commits := [] }

/-! ## What the rest of core makes of the row -/

/-- `Status`: core has recorded a completed setup. -/
def setupCompleted (row : Option ControlPlane) : Bool := (loadPersisted row).completedAt.isSome

/-- `Identity`, with the key set of its private key. -/
structure Identity where
  clientID : String
  tenantID : String
  jwks : String
deriving DecidableEq, Repr

/-- Why `LoadIdentity` fails. -/
inductive IdentityError where
  /-- `ErrNoControlIdentity`. -/
  | noControlIdentity
  | storedKeyUnusable
deriving DecidableEq, Repr

/-- `firstNonEmpty` of the package `authctrl`, which passes blank values over as well. -/
def firstNonBlank (vals : List String) : String :=
  (vals.find? fun v ↦ Text.trimSpace v ≠ "").getD ""

/-- `LoadIdentity`. -/
def loadIdentity (env : SetupEnv) (row : Option ControlPlane) : Except IdentityError Identity :=
  match row with
  | none => .error .noControlIdentity
  | some row =>
    let pem := Text.trimSpace row.controlPrivateKeyPem
    let clientID := Text.trimSpace row.data.controlOAuthClientID
    let tenantID := Text.trimSpace
      (firstNonBlank [row.data.authTenantID, (row.authTenantUuid.map env.uuids.format).getD ""])
    if pem = "" then .error .noControlIdentity
    else if clientID = "" ∨ tenantID = "" then .error .noControlIdentity
    else
      match env.keys.jwksFromPrivatePEM pem with
      | none => .error .storedKeyUnusable
      | some jwks => .ok ⟨clientID, tenantID, jwks⟩

end Maintainerd

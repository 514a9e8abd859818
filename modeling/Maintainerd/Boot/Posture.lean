import Maintainerd.Gateway.Rpc
import Maintainerd.Http.Router

/-!
# The posture of a process

What a process of core makes of its configuration before it serves anything: the last check of
`config.Init`, from `internal/platform/config/dependencies.go`, and the part of
`cmd/server/bootstrap.go` that decides how the two surfaces are guarded.

There is one switch that opens them, `APP_ENV=development`, spelled exactly so; an unset `APP_ENV`
is read as `production`.  Outside development a configuration that cannot verify tokens is refused,
and a verifier that cannot be made leaves the HTTP API answering 503 and the gateway not registered
(`boot_closed`).
-/

set_option autoImplicit false

namespace Maintainerd

open Http (Claims Mode Guard)

/-- The settings these functions read, as `Init` leaves them. -/
structure BootConfig where
  appEnv : String
  authJWKSURL : String
  authIssuer : String
  authAudience : String
  authTokenURL : String
  secretBaseURL : String
  grpcClientCAFile : String
  gatewayLeaseTTL : Int
  gatewayAttemptBudget : Int

/-- What the process takes from outside: `url.Parse`, the scheme and the host or the text of the
error, the verb `%q`, and what the gateway takes. -/
structure BootEnv where
  parseURL : String → Except String (String × String)
  quote : String → String
  parseUuid : String → Option Uuid
  unmarshal : String → Option JsonMap
  queryText : QueryError → String

namespace BootConfig

/-- `IsDevelopment`. -/
def isDevelopment (c : BootConfig) : Bool := c.appEnv == "development"

/-- The names of the settings that are empty. -/
def missing (vars : List (String × String)) : List String :=
  (vars.filter fun v ↦ v.2 = "").map Prod.fst

/-- `missingAuthVars`. -/
def missingAuthVars (c : BootConfig) : List String :=
  missing [("AUTH_JWKS_URL", c.authJWKSURL), ("AUTH_ISSUER", c.authIssuer),
    ("AUTH_AUDIENCE", c.authAudience)]

/-- `dependencyMissing`. -/
def dependencyMissing (c : BootConfig) : List String :=
  missing [("AUTH_JWKS_URL", c.authJWKSURL), ("AUTH_ISSUER", c.authIssuer),
    ("AUTH_AUDIENCE", c.authAudience), ("AUTH_TOKEN_URL", c.authTokenURL),
    ("SECRET_BASE_URL", c.secretBaseURL)]

/-- `validateSecretTransport`.  A scheme that `url.Parse` returns is ASCII, so folding its case is
lowering it. -/
def validateSecretTransport (out : BootEnv) (c : BootConfig) : Option String :=
  match out.parseURL c.secretBaseURL with
  | .error e => some ("SECRET_BASE_URL is not a valid URL: " ++ e)
  | .ok (scheme, host) =>
    if host = "" then
      some ("SECRET_BASE_URL must be an absolute URL with a scheme and host (got " ++
        out.quote c.secretBaseURL ++ ")")
    else if !c.isDevelopment && scheme.toList.map Char.toLower != "https".toList then
      some ("SECRET_BASE_URL must use https outside development (got scheme " ++
        out.quote scheme ++ ") — every request core sends there carries a bearer token for the " ++
        "vault")
    else none

/-- `validateDependencies`. -/
def validateDependencies (out : BootEnv) (c : BootConfig) : Option String :=
  if c.isDevelopment then none
  else if c.dependencyMissing ≠ [] then
    some ("config: maintainerd-auth and maintainerd-secret are hard dependencies of " ++
      "maintainerd-core and this install is missing " ++ ", ".intercalate c.dependencyMissing ++
      ". Auth issues the tokens core verifies and mints the ones it presents outbound; secret " ++
      "holds the credentials core generates when it provisions a service. Set " ++
      "APP_ENV=development to run without them")
  else validateSecretTransport out c

end BootConfig

/-! ## The guards -/

/-- `GuardMode` of the gateway. -/
inductive GuardMode where
  | enforced
  | devOpen
  | healthOnly
deriving DecidableEq, Repr

/-- `Guard` of the gateway; `SDKVerify` is the same there. -/
structure GrpcGuard where
  mode : GuardMode
  verify : String → Option Claims
  reason : String
  dev : Bool

/-- A verifier that accepts nothing, where there is none. -/
def noVerifier : String → Option Claims := fun _ ↦ none

/-- `buildVerifier`, by what `NewVerifier` comes to. -/
def buildVerifier (c : BootConfig) (newVerifier : Option (String → Option Claims)) :
    Option (String → Option Claims) :=
  if c.missingAuthVars ≠ [] then none else newVerifier

/-- Why there is no verifier. -/
def noVerifierReason (c : BootConfig) : String :=
  if c.missingAuthVars = [] then "token verifier failed to initialize"
  else "missing/unusable " ++ ", ".intercalate c.missingAuthVars

/-- `resolveHTTPGuard`. -/
def resolveHTTPGuard (c : BootConfig) : Option (String → Option Claims) → Guard
  | none =>
    if c.isDevelopment then ⟨.devOpen, noVerifier, noVerifierReason c⟩
    else ⟨.unavailable, noVerifier, noVerifierReason c⟩
  | some verify => ⟨.enforced, verify, ""⟩

/-- `resolveGRPCGuard`. -/
def resolveGRPCGuard (c : BootConfig) : Option (String → Option Claims) → GrpcGuard
  | none =>
    if c.isDevelopment then ⟨.devOpen, noVerifier, noVerifierReason c, true⟩
    else ⟨.healthOnly, noVerifier, noVerifierReason c, false⟩
  | some verify => ⟨.enforced, verify, "", c.isDevelopment⟩

/-- What a process serves with. -/
structure Process where
  httpGuard : Guard
  grpcGuard : GrpcGuard
  requireClientCert : Bool
  gateway : AgentGateway

/-- `run`, from the last check of `Init` to the two servers: the error it ends with, or the
process. -/
def boot (out : BootEnv) (c : BootConfig) (newVerifier : Option (String → Option Claims)) :
    Except String Process :=
  match c.validateDependencies out with
  | some e => .error ("load configuration: " ++ e)
  | none =>
    let verifier := buildVerifier c newVerifier
    let grpcGuard := resolveGRPCGuard c verifier
    .ok
      { httpGuard := resolveHTTPGuard c verifier
        grpcGuard := grpcGuard
        requireClientCert := c.grpcClientCAFile != "" && grpcGuard.mode == .enforced
        gateway := newAgentGateway
          ⟨grpcGuard.mode == .enforced, c.gatewayLeaseTTL, c.gatewayAttemptBudget⟩
          out.parseUuid out.unmarshal out.queryText }

/-- **Outside development no surface is open.**  Either both surfaces verify with the same verifier,
and the gateway enforces identity binding and asks for a client certificate where there is a CA for
them; or both are closed. -/
theorem boot_closed {out : BootEnv} {c : BootConfig}
    {newVerifier : Option (String → Option Claims)} {p : Process}
    (h : boot out c newVerifier = .ok p) (hprod : c.appEnv ≠ "development") :
    (∃ verify, newVerifier = some verify ∧ p.httpGuard = ⟨.enforced, verify, ""⟩ ∧
        p.grpcGuard = ⟨.enforced, verify, "", false⟩ ∧
        p.requireClientCert = (c.grpcClientCAFile != "") ∧
        p.gateway.opts.enforceBinding = true) ∨
      p.httpGuard.mode = .unavailable ∧ p.grpcGuard.mode = .healthOnly := by
  have hdev : c.isDevelopment = false := beq_false_of_ne hprod
  rw [boot] at h
  split at h
  · cases h
  rcases hverifier : buildVerifier c newVerifier with _ | verify
  · rw [hverifier] at h
    cases h
    exact Or.inr ⟨by simp [resolveHTTPGuard, hdev], by simp [resolveGRPCGuard, hdev]⟩
  · rw [hverifier] at h
    cases h
    refine Or.inl ⟨verify, ?_, rfl, by simp [resolveGRPCGuard, hdev], ?_, rfl⟩
    · rw [buildVerifier] at hverifier
      split at hverifier
      · cases hverifier
      · exact hverifier
    · simp [resolveGRPCGuard]

end Maintainerd

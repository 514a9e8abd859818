import Maintainerd.Http.Guard
import Maintainerd.Setup.Attempt

/-!
# The gate of the setup surface

`internal/setup/handler.go`.  The two routes of setup are exempt from the guard of the API, because
they provision the very Auth that mints its tokens; what stands in front of them is a `Gate` of
their own, a secret shared with the operator.  A caller with neither the secret nor an
administrator's token is told one bit, and may not run setup at all unless the gate is left open in
development.
-/

set_option autoImplicit false

namespace Maintainerd

open Http (Claims adminPermission)

/-- `Gate`.  `digest` is `sha256.Sum256`, and a verifier that is not there accepts nothing. -/
structure Gate where
  token : String
  digest : String → List UInt8
  dev : Bool
  verify : String → Option Claims

/-- `tokenMatches`. -/
def Gate.tokenMatches (g : Gate) (presented : String) : Bool :=
  if g.token = "" ∨ presented = "" then false else g.digest g.token == g.digest presented

/-- The token that the gate takes out of an `Authorization` header.  Unlike `bearer`, it knows two
spellings only, and does not trim. -/
def gateBearer (header : String) : Option String :=
  let scheme := header.toList.take 7
  let token := header.toList.drop 7
  if token = [] ∨ scheme ≠ "Bearer ".toList ∧ scheme ≠ "bearer ".toList then none
  else some (String.ofList token)

/-- `authorized`, with the two headers it reads. -/
def Gate.authorized (g : Gate) (setupToken authorization : String) : Bool :=
  g.tokenMatches setupToken ||
    ((gateBearer authorization).bind g.verify).any (Claims.hasPermission · adminPermission)

/-! ## The handlers -/

/-- `codes.Code`, as far as `trigger` tells them apart. -/
inductive SetupCode where
  | invalidArgument
  | alreadyExists
  | failedPrecondition
  | other
deriving DecidableEq, Repr

/-- The handler, with what it takes from outside: the password in a body, which is `none` for one
that does not parse; the status of an error, if it is one of gRPC; and the text of an error. -/
structure SetupHandler where
  env : SetupEnv
  enabled : Bool
  gate : Gate
  parseBody : String → Option String
  grpcStatus : SetupError → Option (SetupCode × String)
  errorText : SetupError → String

/-- What the handlers answer. -/
inductive SetupAnswer where
  | error (status : ℕ) (message : String) (details : Option String)
  /-- `slimStatus`. -/
  | slim (completed : Bool)
  /-- `statusResponse`. -/
  | full (enabled completed : Bool) (deploymentMode : String) (result : SetupResult)
  /-- `setup complete`. -/
  | done (result : SetupResult)
deriving DecidableEq, Repr

/-- `status`, given what is read of the row. -/
def SetupHandler.status (h : SetupHandler) (row : Option ControlPlane)
    (setupToken authorization : String) : SetupAnswer :=
  let res := loadPersisted row
  if !h.gate.authorized setupToken authorization then .slim (setupCompleted row)
  else .full h.enabled (setupCompleted row) res.deploymentMode res

/-- How an attempt that failed is answered. -/
def SetupHandler.failed (h : SetupHandler) (e : SetupError) : SetupAnswer :=
  match h.grpcStatus e with
  | none => .error 502 (h.errorText e) none
  | some (code, message) => .error (if code = .other then 502 else 400) message none

/-- `trigger`; `busy` says that another attempt is under way. -/
def SetupHandler.trigger (h : SetupHandler) (w : World) (setupToken authorization body : String)
    (busy : Bool) (a : Attempt) : World × SetupAnswer :=
  if h.gate.token = "" ∧ h.gate.dev = false then
    (w, .error 403
      "setup is disabled: CORE_SETUP_TOKEN is not set (required outside development)" none)
  else if h.gate.token ≠ "" ∧ h.gate.authorized setupToken authorization = false then
    (w, .error 401 "missing or invalid setup token" none)
  else
    match if body = "" then some "" else h.parseBody body with
    | none => (w, .error 400 "Invalid request body" none)
    | some password =>
      if password = "" ∧ h.env.cfg.adminPassword = "" then
        (w, .error 400 "Validation failed" (some "admin_password is required"))
      else if busy then (w, .error 409 "setup is already running" none)
      else
        let out := attemptSetup h.env w (password, a)
        (out.1, match out.2 with
          | .ok res => .done res
          | .error e => h.failed e)

/-- A caller that is not authorized is told one bit. -/
theorem SetupHandler.status_of_not_authorized {h : SetupHandler} {setupToken authorization : String}
    (hauth : h.gate.authorized setupToken authorization = false) (row : Option ControlPlane) :
    h.status row setupToken authorization = .slim (setupCompleted row) := by
  rw [status, hauth, Bool.not_false, if_pos rfl]

/-- Outside development it is turned away before anything of the request is read. -/
theorem SetupHandler.trigger_of_not_authorized {h : SetupHandler}
    {setupToken authorization : String} (hdev : h.gate.dev = false)
    (hauth : h.gate.authorized setupToken authorization = false) (body : String) (busy : Bool)
    (a : Attempt) :
    ∃ answer, ∀ w, h.trigger w setupToken authorization body busy a = (w, answer) := by
  by_cases htoken : h.gate.token = ""
  · exact ⟨_, fun w ↦ if_pos ⟨htoken, hdev⟩⟩
  · exact ⟨_, fun w ↦ (if_neg fun e ↦ htoken e.1).trans (if_pos ⟨htoken, hauth⟩)⟩

end Maintainerd

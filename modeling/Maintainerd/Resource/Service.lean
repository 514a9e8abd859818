import Maintainerd.Resource.Mrn
import Maintainerd.Storage.Queries

/-!
# The resource service

`internal/resource/service.go`.  Five of its writers are a read of the row, a computation in Go and
an `UPDATE` of what was computed, with nothing held in between.  They are modelled in those two
steps: `Call.read` reads the row and computes the `Statement` to run, and `Statement.write` runs
it and makes the reply.  `Call.run` is one after the other without anything in between, which is
what a call does when it is alone.

`Env` is what the service takes from outside this model: Go's table of lower-case letters, how
`fmt.Sprint` prints a number, an array or an object, and the verdict of `validateSpec`, which rests
on the runtime kit's own validation.
-/

set_option autoImplicit false

namespace Maintainerd

/-- What the service takes from outside. -/
structure Env where
  /-- `unicode.ToLower`. -/
  lower : Char → Char
  /-- `fmt.Sprint` of a number, an array or an object. -/
  sprint : Json → String
  /-- `validateSpec`: the error for a kind and a spec, if there is one. -/
  validateSpec : String → JsonMap → Option String

/-- The errors of `apperror` the service returns, and the errors of the database it passes on. -/
inductive AppError where
  | notFound (entity : String)
  | validation (reason : String)
  | forbidden (reason : String)
  | query (e : QueryError)
deriving DecidableEq, Repr

/-! ## What goes in -/

/-- `CreateInput`. -/
structure CreateInput where
  projectUUID : Uuid
  providerUUID : Option Uuid
  kind : String
  name : String
  spec : Option JsonMap
  metadata : Option JsonMap

/-- `UpdateSpecInput`; a nil map is `none`. -/
structure UpdateSpecInput where
  spec : Option JsonMap
  metadata : Option JsonMap

/-- `UpdateStatusInput`; a nil map is `none`. -/
structure UpdateStatusInput where
  status : Option JsonMap
  state : String
  observedGeneration : Int

/-- `AgentReportInput`; a nil map is `none`. -/
structure AgentReportInput where
  state : String
  status : Option JsonMap
  observedGeneration : Int

/-! ## What comes out -/

/-- `WorkItem`. -/
structure WorkItem where
  uuid : Uuid
  kind : String
  name : String
  state : String
  spec : JsonMap
  metadata : JsonMap
  generation : Int

/-- One item of `toWorkItems`. -/
def toWorkItem (r : Resource) : WorkItem :=
  ⟨r.resourceUuid, r.kind, r.name, r.state, r.spec, r.metadata, r.generation⟩

/-- `SystemInstance`.  `agentID` is 0 for an unassigned instance. -/
structure SystemInstance where
  uuid : Uuid
  name : String
  kind : String
  state : String
  health : String
  agentID : Int
  leased : Bool
  attempts : Int
  generation : Int
  observedGeneration : Int
  updatedAt : Int
  metadata : JsonMap

/-- `toSystemInstance`. -/
def toSystemInstance (r : Resource) : SystemInstance where
  uuid := r.resourceUuid
  name := r.name
  kind := r.kind
  state := r.state
  health := r.health
  agentID := r.agentID.getD 0
  leased := r.leasedUntil.isSome
  attempts := r.attempts
  generation := r.generation
  observedGeneration := r.observedGeneration
  updatedAt := r.updatedAt
  metadata := r.metadata

/-- `SystemInstance.Converged`. -/
def SystemInstance.converged (s : SystemInstance) : Bool :=
  decide (s.generation ≤ s.observedGeneration)

/-- `SystemInstance.Terminating`. -/
def SystemInstance.terminating (s : SystemInstance) : Bool := s.state == "deleting"

/-- What a call of the service answers.  A resource is answered as its row and the uuid of its
project. -/
inductive Reply where
  | resource (row : Resource) (projectUUID : Uuid)
  | systemInstance (i : SystemInstance)
  | work (items : List WorkItem)
  | flagged (b : Bool)
  | deleted

/-! ## The backoff -/

/-- `retryBase`. -/
def retryBase : Int := 5 * 10 ^ 9

/-- `retryCap`. -/
def retryCap : Int := 300 * 10 ^ 9

/-- The loop of `nextBackoff`, with the number of rounds left and the delay so far. -/
def nextBackoffLoop : ℕ → Int → Int
  | 0, d => if retryCap < d then retryCap else d
  | k + 1, d =>
    if retryCap ≤ Text.int64 (d * 2) then retryCap else nextBackoffLoop k (Text.int64 (d * 2))

/-- `nextBackoff`. -/
def nextBackoff (attempts : Int) : Int :=
  nextBackoffLoop ((if attempts < 1 then 1 else attempts) - 1).toNat retryBase

theorem nextBackoffLoop_eq (k : ℕ) {d : Int} (hd : 0 < d) (hcap : d ≤ retryCap) :
    nextBackoffLoop k d = min retryCap (d * 2 ^ k) := by
  induction k generalizing d with
  | zero =>
    rw [nextBackoffLoop, if_neg (Int.not_lt.mpr hcap), pow_zero, mul_one, min_eq_right hcap]
  | succ k ih =>
    have hno_wrap : Text.int64 (d * 2) = d * 2 := by
      refine Text.int64_of_lt (by omega) ?_
      rw [retryCap] at hcap
      omega
    rw [nextBackoffLoop, hno_wrap, pow_succ', ← mul_assoc]
    split
    · rename_i hle
      have hone : (1 : Int) ≤ 2 ^ k := Int.add_one_le_of_lt (Int.pow_pos (by decide))
      rw [min_eq_left (hle.trans (le_mul_of_one_le_right (by omega) hone))]
    · rename_i hlt
      exact ih (by omega) (by omega)

/-- **The backoff, in closed form.** -/
theorem nextBackoff_eq (attempts : Int) :
    nextBackoff attempts = min retryCap (retryBase * 2 ^ (max attempts 1 - 1).toNat) := by
  have hfloor : (if attempts < 1 then 1 else attempts) = max attempts 1 := by
    split <;> omega
  rw [nextBackoff, hfloor, nextBackoffLoop_eq _ (by decide) (by decide)]

theorem nextBackoff_succ (k : ℕ) :
    nextBackoff (k + 1) = min (300 * 10 ^ 9) (5 * 10 ^ 9 * 2 ^ k) := by
  rw [nextBackoff_eq, show (max ((k : Int) + 1) 1 - 1).toNat = k by omega]
  rfl

theorem nextBackoff_mono {attempts later : Int} (h : attempts ≤ later) :
    nextBackoff attempts ≤ nextBackoff later := by
  have hpow : (2 : Int) ^ (max attempts 1 - 1).toNat ≤ 2 ^ (max later 1 - 1).toNat :=
    pow_le_pow_right₀ (by decide) (by omega)
  rw [nextBackoff_eq, nextBackoff_eq]
  exact min_le_min_left retryCap (mul_le_mul_of_nonneg_left hpow (by decide))

/-! ## The health a report writes -/

/-- `maxHealthLen`. -/
def maxHealthLen : ℕ := 20

/-- `fmt.Sprint`. -/
def Env.sprintAny (env : Env) : Json → String
  | .str s => s
  | .bool b => if b then "true" else "false"
  | v => env.sprint v

/-- `resolveHealth`.  `none` when the truncation cuts a character in two. -/
def resolveHealth (env : Env) (current state : String) (status : JsonMap) : Option String :=
  let fallback := if state = "running" then some current else some ""
  match status.lookup "health" with
  | none => fallback
  | some .null => fallback
  | some raw =>
    let h := Text.toLower env.lower (Text.trimSpace (env.sprintAny raw))
    if maxHealthLen < h.utf8ByteSize then Text.sliceTo h maxHealthLen else some h

/-- The health a report writes is short enough for its column, when the one it may keep is. -/
theorem length_resolveHealth {env : Env} {current state : String} {status : JsonMap} {h : String}
    (hc : state = "running" → current.length ≤ maxHealthLen)
    (hh : resolveHealth env current state status = some h) : h.length ≤ maxHealthLen := by
  have hfallback : ∀ o : Option String, o = (if state = "running" then some current else some "") →
      o = some h → h.length ≤ maxHealthLen := by
    intro o ho hoh
    split at ho
    · rename_i hrun
      cases ho.symm.trans hoh
      exact hc hrun
    · cases ho.symm.trans hoh
      exact Nat.zero_le _
  simp only [resolveHealth] at hh
  split at hh
  · exact hfallback _ rfl hh
  · exact hfallback _ rfl hh
  · split at hh
    · exact Text.length_sliceTo hh
    · rename_i hshort
      rw [← Option.some.inj hh]
      exact (Text.length_le_utf8ByteSize _).trans (Nat.le_of_not_lt hshort)

/-! ## What each writer computes from the row it read -/

/-- The parameters `UpdateSpec` computes. -/
def updateSpecParams (env : Env) (db : Db) (current : Resource) (input : UpdateSpecInput) :
    Except AppError UpdateResourceSpecParams :=
  match input.spec.bind (env.validateSpec current.kind) with
  | some e => .error (.validation e)
  | none =>
    let metadata := input.metadata.getD current.metadata
    match getProjectByID db current.projectID with
    | none => .error (.query .noRows)
    | some project =>
      match getTenantByID db current.tenantID with
      | none => .error (.query .noRows)
      | some tenant =>
        match buildMRN env.lower tenant.name project.name current.kind current.name metadata with
        | .error e => .error (.validation e)
        | .ok mrn => .ok
          { resourceUuid := current.resourceUuid
            spec := input.spec.getD current.spec
            metadata := metadata
            mrnService := mrn.service
            mrnTenant := mrn.tenant
            mrnProject := mrn.project
            mrnResourceType := mrn.resourceType
            mrnResourcePath := mrn.resourcePath }

/-- What `UpdateSpec` writes back: its own input, what it read where the input is silent, and a name
made of the two. -/
theorem updateSpecParams_spec {env : Env} {db : Db} {r : Resource} {input : UpdateSpecInput}
    {p : UpdateResourceSpecParams} (h : updateSpecParams env db r input = .ok p) :
    p.resourceUuid = r.resourceUuid ∧ p.spec = input.spec.getD r.spec ∧
      p.metadata = input.metadata.getD r.metadata := by
  simp only [updateSpecParams] at h
  split at h
  · cases h
  split at h
  · cases h
  split at h
  · cases h
  split at h
  · cases h
  · cases h
    exact ⟨rfl, rfl, rfl⟩

/-- The parameters `UpdateStatus` computes. -/
def updateStatusParams (current : Resource) (input : UpdateStatusInput) :
    UpdateResourceStatusParams where
  resourceUuid := current.resourceUuid
  status := input.status.getD current.status
  state := if input.state = "" then current.state else input.state
  observedGeneration :=
    if 0 < input.observedGeneration then input.observedGeneration else current.observedGeneration

/-- The budget `ApplyAgentReport` goes by. -/
def effectiveBudget (attemptBudget : Int) : Int := if attemptBudget < 1 then 10 else attemptBudget

/-- The parameters `ApplyAgentReport` computes, once the caller is known to own the row. -/
def agentReportParams (env : Env) (now : Int) (current : Resource) (input : AgentReportInput)
    (attemptBudget : Int) : ApplyAgentReportParams :=
  let params : ApplyAgentReportParams :=
    { resourceUuid := current.resourceUuid
      status := input.status.getD current.status
      state := ""
      observedGeneration := input.observedGeneration
      attempts := current.attempts
      nextAttemptAt := current.nextAttemptAt
      health := resolveHealth env current.health input.state (input.status.getD [])
      finalize := false }
  if input.state = "running" then
    { params with state := "running", attempts := 0, nextAttemptAt := none }
  else if input.state = "failed" then
    let attempts := Text.int32 (current.attempts + 1)
    -- the failure paths pass 0, which GREATEST turns into "leave it alone"
    let params := { params with attempts := attempts, observedGeneration := 0 }
    if effectiveBudget attemptBudget ≤ attempts then
      { params with state := "failed", nextAttemptAt := none }
    else
      { params with
        nextAttemptAt := some (now + nextBackoff attempts / 1000)
        state := if current.state = "deleting" then "deleting" else "error" }
  else if input.state = "removed" then
    if current.state = "deleting" then
      { params with
        state := "removed", finalize := true, observedGeneration := current.generation }
    else { params with state := input.state }
  else if input.state = "" then { params with state := current.state }
  else { params with state := input.state }

@[simp] theorem agentReportParams_uuid (env : Env) (now : Int) (r : Resource)
    (input : AgentReportInput) (b : Int) :
    (agentReportParams env now r input b).resourceUuid = r.resourceUuid := by
  simp only [agentReportParams]
  split_ifs <;> rfl

/-- What a report leaves of the attempts. -/
theorem agentReportParams_attempts (env : Env) (now : Int) (r : Resource)
    (input : AgentReportInput) (b : Int) :
    (agentReportParams env now r input b).attempts =
      if input.state = "running" then 0
      else if input.state = "failed" then Text.int32 (r.attempts + 1) else r.attempts := by
  simp only [agentReportParams]
  split_ifs <;> rfl

/-- What a report leaves of the backoff. -/
theorem agentReportParams_nextAttemptAt (env : Env) (now : Int) (r : Resource)
    (input : AgentReportInput) (b : Int) :
    (agentReportParams env now r input b).nextAttemptAt =
      if input.state = "running" then none
      else if input.state = "failed" then
        if effectiveBudget b ≤ Text.int32 (r.attempts + 1) then none
        else some (now + nextBackoff (Text.int32 (r.attempts + 1)) / 1000)
      else r.nextAttemptAt := by
  simp only [agentReportParams]
  split_ifs <;> rfl

/-- The status and the health a report writes do not depend on its branch. -/
theorem agentReportParams_status (env : Env) (now : Int) (r : Resource)
    (input : AgentReportInput) (b : Int) :
    (agentReportParams env now r input b).status = input.status.getD r.status ∧
      (agentReportParams env now r input b).health =
        resolveHealth env r.health input.state (input.status.getD []) := by
  simp only [agentReportParams]
  split_ifs <;> exact ⟨rfl, rfl⟩

/-- The branches of the report handler, and what each leaves in the columns that decide whether and
how a row is dispatched again. -/
inductive ReportCase (r : Resource) (input : AgentReportInput) (b : Int)
    (p : ApplyAgentReportParams) : Prop
  /-- `running`: the row has converged. -/
  | converged (hs : input.state = "running") (hstate : p.state = "running")
    (hobs : p.observedGeneration = input.observedGeneration) (hfin : p.finalize = false)
  /-- `failed`, with the budget used up: the row is parked. -/
  | parked (hs : input.state = "failed")
    (hb : effectiveBudget b ≤ Text.int32 (r.attempts + 1)) (hstate : p.state = "failed")
    (hobs : p.observedGeneration = 0) (hfin : p.finalize = false)
  /-- `failed`, under the budget: the row is to be tried again. -/
  | retried (hs : input.state = "failed")
    (hb : Text.int32 (r.attempts + 1) < effectiveBudget b)
    (hstate : p.state = if r.state = "deleting" then "deleting" else "error")
    (hobs : p.observedGeneration = 0) (hfin : p.finalize = false)
  /-- `removed`, on a row that is being torn down. -/
  | finalized (hs : input.state = "removed") (hdel : r.state = "deleting")
    (hstate : p.state = "removed") (hobs : p.observedGeneration = r.generation)
    (hfin : p.finalize = true)
  /-- No state at all. -/
  | silent (hs : input.state = "") (hstate : p.state = r.state)
    (hobs : p.observedGeneration = input.observedGeneration) (hfin : p.finalize = false)
  /-- Anything else is recorded as it is. -/
  | observed (hrun : input.state ≠ "running") (hfail : input.state ≠ "failed")
    (hsilent : input.state ≠ "") (hrem : input.state = "removed" → r.state ≠ "deleting")
    (hstate : p.state = input.state)
    (hobs : p.observedGeneration = input.observedGeneration) (hfin : p.finalize = false)

/-- **What a report computes**, branch by branch. -/
theorem agentReportParams_case (env : Env) (now : Int) (r : Resource) (input : AgentReportInput)
    (b : Int) : ReportCase r input b (agentReportParams env now r input b) := by
  simp only [agentReportParams]
  split_ifs with hrun hfail hb hdel hrem hdel hs
  · exact .converged hrun rfl rfl rfl
  · exact .parked hfail hb rfl rfl rfl
  · exact .retried hfail (by omega) (by rw [if_pos hdel]) rfl rfl
  · exact .retried hfail (by omega) (by rw [if_neg hdel]) rfl rfl
  · exact .finalized hrem hdel rfl rfl rfl
  · exact .observed hrun hfail (by rw [hrem]; decide) (fun _ ↦ hdel) rfl rfl rfl
  · exact .silent hs rfl rfl rfl
  · exact .observed hrun hfail hs (fun e ↦ absurd e hrem) rfl rfl rfl

/-- The state a failed report leaves, and that it never finalises. -/
theorem agentReportParams_of_failed (env : Env) (now : Int) (r : Resource)
    {input : AgentReportInput} (b : Int) (hs : input.state = "failed") :
    (agentReportParams env now r input b).state =
        (if effectiveBudget b ≤ Text.int32 (r.attempts + 1) then "failed"
        else if r.state = "deleting" then "deleting" else "error") ∧
      (agentReportParams env now r input b).finalize = false ∧
      (agentReportParams env now r input b).observedGeneration = 0 := by
  cases agentReportParams_case env now r input b with
  | parked _ hb hstate hobs hfin => exact ⟨by rw [hstate, if_pos hb], hfin, hobs⟩
  | retried _ hb hstate hobs hfin =>
    have hnot : ¬effectiveBudget b ≤ Text.int32 (r.attempts + 1) := Int.not_le.mpr hb
    exact ⟨by rw [hstate, if_neg hnot], hfin, hobs⟩
  | converged hs' => simp [hs] at hs'
  | finalized hs' => simp [hs] at hs'
  | silent hs' => simp [hs] at hs'
  | observed _ hfail => exact absurd hs hfail

/-! ## The two steps of a writer -/

/-- A call of one of the five writers. -/
inductive Call where
  | updateSpec (id : Uuid) (input : UpdateSpecInput)
  | updateStatus (id : Uuid) (input : UpdateStatusInput)
  | delete (id : Uuid)
  | applyAgentReport (agentID : Int) (id : Uuid) (input : AgentReportInput) (attemptBudget : Int)
  | redispatchSystem (id : Uuid)

/-- The resource a call is about. -/
def Call.id : Call → Uuid
  | .updateSpec id _ => id
  | .updateStatus id _ => id
  | .delete id => id
  | .applyAgentReport _ id _ _ => id
  | .redispatchSystem id => id

/-- The statement a writer has computed and not yet run. -/
inductive Statement where
  | updateResourceSpec (p : UpdateResourceSpecParams)
  | updateResourceStatus (p : UpdateResourceStatusParams)
  | markResourceDeleting (id : Uuid)
  | applyAgentReport (p : ApplyAgentReportParams)
  | redispatchSystemResource (id : Uuid)

/-- What a writer computes from the row it has read. -/
def Call.plan (env : Env) (db : Db) (now : Int) (current : Resource) :
    Call → Except AppError Statement
  | .updateSpec _ input => (updateSpecParams env db current input).map .updateResourceSpec
  | .updateStatus _ input => .ok (.updateResourceStatus (updateStatusParams current input))
  | .delete id => .ok (.markResourceDeleting id)
  | .applyAgentReport agentID _ input attemptBudget =>
    if current.agentID = some agentID then
      .ok (.applyAgentReport (agentReportParams env now current input attemptBudget))
    else .error (.forbidden "resource is not assigned to this agent")
  | .redispatchSystem id =>
    if current.state = "deleting" then
      .error (.forbidden "a resource being torn down is never re-dispatched")
    else .ok (.redispatchSystemResource id)

/-- The first step of a writer: the read of the row, and the computation on it.  `Delete` reads
nothing. -/
def Call.read (env : Env) (db : Db) (now : Int) (c : Call) : Except AppError Statement :=
  match c with
  | .delete id => .ok (.markResourceDeleting id)
  | c =>
    match getResourceByUUID db c.id with
    | none => .error (.notFound "resource")
    | some current => c.plan env db now current

/-- The statement on the database. -/
def Statement.exec (db : Db) (now : Int) : Statement → Except QueryError (Db × Resource)
  | .updateResourceSpec p => Maintainerd.updateResourceSpec db now p
  | .updateResourceStatus p => Maintainerd.updateResourceStatus db now p
  | .markResourceDeleting id => Maintainerd.markResourceDeleting db now id
  | .applyAgentReport p => Maintainerd.applyAgentReport db now p
  | .redispatchSystemResource id => Maintainerd.redispatchSystemResource db now id

/-- What the writer answers when its statement failed.  `Delete` runs its statement without asking
for the row, so a row that is not there is no error; two of the others turn it into their own. -/
def Statement.failure : Statement → QueryError → Except AppError Reply
  | .markResourceDeleting _, .noRows => .ok .deleted
  | .applyAgentReport _, .noRows => .error (.notFound "resource")
  | .redispatchSystemResource _, .noRows => .error (.notFound "resource")
  | _, e => .error (.query e)

/-- What the writer answers when its statement went through: three of them still look the project
up, and answer with an error when it is gone, after the row was written. -/
def Statement.success (db : Db) (row : Resource) : Statement → Except AppError Reply
  | .markResourceDeleting _ => .ok .deleted
  | .redispatchSystemResource _ => .ok (.systemInstance (toSystemInstance row))
  | _ =>
    match getProjectByID db row.projectID with
    | none => .error (.query .noRows)
    | some p => .ok (.resource row p.projectUuid)

/-- The second step of a writer: the `UPDATE`, and the reply. -/
def Statement.write (db : Db) (now : Int) (st : Statement) : Db × Except AppError Reply :=
  match st.exec db now with
  | .error e => (db, st.failure e)
  | .ok (db', row) => (db', st.success db' row)

/-- A writer that is alone: `UpdateSpec`, `UpdateStatus`, `Delete`, `ApplyAgentReport` and
`RedispatchSystem`. -/
def Call.run (env : Env) (db : Db) (now : Int) (c : Call) : Db × Except AppError Reply :=
  match c.read env db now with
  | .error e => (db, .error e)
  | .ok st => st.write db now

/-! ## The other operations -/

/-- `Create`, with the uuid the database draws. -/
def create (env : Env) (db : Db) (now : Int) (uuid : Uuid) (input : CreateInput) :
    Db × Except AppError Reply :=
  if input.kind = "" ∨ input.name = "" then
    (db, .error (.validation "kind and name are required"))
  else
    match getProjectByUUID db input.projectUUID with
    | none => (db, .error (.notFound "project"))
    | some project =>
      match getTenantByID db project.tenantID with
      | none => (db, .error (.query .noRows))
      | some tenant =>
        match input.providerUUID.map (getProviderByUUID db) with
        | some none => (db, .error (.notFound "provider"))
        | provider =>
          match env.validateSpec input.kind (input.spec.getD []) with
          | some e => (db, .error (.validation e))
          | none =>
            match buildMRN env.lower tenant.name project.name input.kind input.name
                (input.metadata.getD []) with
            | .error e => (db, .error (.validation e))
            | .ok mrn =>
              match createResource db now
                  { resourceUuid := uuid
                    tenantID := project.tenantID
                    projectID := project.projectID
                    providerID := provider.join.map Provider.providerID
                    mrnService := mrn.service
                    mrnTenant := mrn.tenant
                    mrnProject := mrn.project
                    mrnResourceType := mrn.resourceType
                    mrnResourcePath := mrn.resourcePath
                    kind := input.kind
                    name := input.name
                    spec := input.spec.getD []
                    metadata := input.metadata.getD [] } with
              | .error e => (db, .error (.query e))
              | .ok (db', row) => (db', .ok (.resource row project.projectUuid))

/-- `normalizeFeedLimit`. -/
def normalizeFeedLimit (limit : Int) : ℕ := if limit < 1 ∨ 100 < limit then 20 else limit.toNat

/-- The lease `ClaimForAgent` gives: a minute when none is asked for. -/
def effectiveTTL (leaseTTL : Int) : Int := if leaseTTL ≤ 0 then 60 * 10 ^ 9 else leaseTTL

/-- `ClaimForAgent`: the database after it, and the rows behind the items it returns. -/
def claimForAgent (db : Db) (now : Int) (agentID limit leaseTTL : Int) (locked : List Int) :
    Db × List Resource :=
  claimAgentWork db now agentID (effectiveTTL leaseTTL) (normalizeFeedLimit limit) locked

/-- `FlagHostUnreachable`. -/
def flagHostUnreachable (db : Db) (now : Int) (id : Uuid) : Db × Except AppError Reply :=
  match flagResourceHostUnreachable db now id with
  | .error .noRows => (db, .ok (.flagged false))
  | .error e => (db, .error (.query e))
  | .ok (db', _) => (db', .ok (.flagged true))

end Maintainerd

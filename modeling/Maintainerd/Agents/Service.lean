import Maintainerd.Lib.Interleave
import Maintainerd.Resource.Service
import Maintainerd.Storage.Agents

/-!
# The agent service

`BindSubject`, `RequireSubject`, `Get`, `Update` and `Heartbeat` of `internal/agent/service.go`.
Each is several statements, and other calls run between them, so each is a task that makes one
action a statement and hands its result to what comes after it.  An agent is answered as its row;
the uuid of its tenant, which is looked up only to be answered with, decides nothing but whether the
call fails.
-/

set_option autoImplicit false

namespace Maintainerd

open Interleave

/-- What a statement takes from outside: the time, and the rows that other transactions have
locked. -/
structure Moment where
  now : Int
  locked : List Int

/-- A task on the database that says things of type `ε`. -/
abbrev Work (ε : Type) : Type 1 := Task Moment Db ε

variable {ε : Type}

/-- A statement that reads. -/
def query {α : Type} (q : Db → α) (k : α → Work ε) : Work ε := .act (fun _ db ↦ (db, q db)) k

/-- What a statement that writes one row does to the database, and what it answers. -/
def outcome {α : Type} (db : Db) (x : Except QueryError (Db × α)) : Db × Except QueryError α :=
  match x with
  | .ok (db', a) => (db', .ok a)
  | .error e => (db, .error e)

/-- A statement that writes. -/
def statement {α : Type} (q : Db → Int → Except QueryError (Db × α))
    (k : Except QueryError α → Work ε) : Work ε :=
  .act (fun m db ↦ outcome db (q db m.now)) k

theorem alone_query {α : Type} (q : Db → α) (k : α → Work ε) (m : Moment) (db : Db) :
    (query q k).alone m db = (k (q db)).alone m db := rfl

theorem alone_statement {α : Type} (q : Db → Int → Except QueryError (Db × α))
    (k : Except QueryError α → Work ε) (m : Moment) (db : Db) :
    (statement q k).alone m db =
      (k (outcome db (q db m.now)).2).alone m (outcome db (q db m.now)).1 := rfl

/-- `resolveTenantUUID`, and the end of every call that uses it: the row, or the error. -/
def resolveTenantUUID (row : Agent) (k : Except AppError Agent → Work ε) : Work ε :=
  query (getTenantByID · row.tenantID) fun
    | none => k (.error (.query .noRows))
    | some _ => k (.ok row)

/-- `Get`. -/
def getAgent (id : Uuid) (k : Except AppError Agent → Work ε) : Work ε :=
  query (getAgentByUUID · id) fun
    | none => k (.error (.notFound "agent"))
    | some row => resolveTenantUUID row k

/-- `UpdateInput`; no capabilities are a nil slice. -/
structure AgentUpdateInput where
  status : String
  endpoint : String
  version : String
  capabilities : List String

/-- The parameters `Update` computes. -/
def updateAgentParams (id : Uuid) (current : Agent) (input : AgentUpdateInput) :
    UpdateAgentStatusParams where
  agentUuid := id
  status := if input.status = "" then current.status else input.status
  endpoint := if input.endpoint = "" then current.endpoint else input.endpoint
  version := if input.version = "" then current.version else input.version
  capabilities := if input.capabilities = [] then current.capabilities else input.capabilities

/-- `Update`. -/
def updateAgentRow (id : Uuid) (input : AgentUpdateInput) (k : Except AppError Agent → Work ε) :
    Work ε :=
  query (getAgentByUUID · id) fun
    | none => k (.error (.notFound "agent"))
    | some current =>
      statement (fun db now ↦ updateAgentStatus db now (updateAgentParams id current input)) fun
        | .error .noRows => k (.error (.notFound "agent"))
        | .error e => k (.error (.query e))
        | .ok row => resolveTenantUUID row k

/-- `BindSubject`.  When no row matched it looks again, to tell an agent that is not there from one
that is bound to another subject. -/
def bindSubject (id : Uuid) (subject : String) (k : Except AppError Agent → Work ε) : Work ε :=
  if subject = "" then k (.error (.validation "subject is required"))
  else
    statement (fun db now ↦ bindAgentSubject db now ⟨id, subject⟩) fun
      | .error .noRows =>
        query (getAgentByUUID · id) fun
          | none => k (.error (.notFound "agent"))
          | some _ => k (.error (.forbidden "agent is bound to a different subject"))
      | .error e => k (.error (.query e))
      | .ok row => resolveTenantUUID row k

/-- `RequireSubject`. -/
def requireSubject (id : Uuid) (subject : String) (k : Except AppError Agent → Work ε) : Work ε :=
  query (getAgentByUUID · id) fun
    | none => k (.error (.notFound "agent"))
    | some row =>
      if row.boundSubject = "" then
        k (.error (.forbidden "agent is not bound to a subject yet — Register first"))
      else if subject = "" ∨ row.boundSubject ≠ subject then
        k (.error (.forbidden "agent is bound to a different subject"))
      else resolveTenantUUID row k

/-- `Heartbeat`. -/
def heartbeatAgent (id : Uuid) (k : Except AppError Agent → Work ε) : Work ε :=
  statement (fun db now ↦ agentHeartbeat db now id) fun
    | .error .noRows => k (.error (.notFound "agent"))
    | .error e => k (.error (.query e))
    | .ok row => resolveTenantUUID row k

end Maintainerd

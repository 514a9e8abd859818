import Maintainerd.Gateway.Envelope
import Maintainerd.Lib.Run

/-!
# The service as a machine

The writers of the `resources` table, each taken as one atomic step, as one machine on the
database: `Op` is an operation, a `Request` is an operation and the time it runs at, and `step` is
what it does.  Everything said later about runs of these operations rests on two theorems, which
say what a step can do to the row with one uuid.

* `step_get?`: a row that is there stays there, and `RowStep` says what it becomes.  There is one
  constructor for each way a row is written, and one for a row left alone.
* `step_get?_none`: a row that is not there is still not there, or `Create` has just made it.
-/

set_option autoImplicit false

namespace Maintainerd

/-! ## Operations and steps -/

/-- An operation of the service.  A claim takes the rows other transactions have locked. -/
inductive Op where
  | create (uuid : Uuid) (input : CreateInput)
  | call (c : Call)
  | claimForAgent (agentID limit leaseTTL : Int) (locked : List Int)
  | flagHostUnreachable (id : Uuid)

/-- An operation, and the time it runs at. -/
structure Request where
  now : Int
  op : Op

/-- What a request does: the database after it, and the reply. -/
def apply (env : Env) (db : Db) (q : Request) : Db × Except AppError Reply :=
  match q.op with
  | .create uuid input => create env db q.now uuid input
  | .call c => c.run env db q.now
  | .claimForAgent agentID limit leaseTTL locked =>
    let claimed := claimForAgent db q.now agentID limit leaseTTL locked
    (claimed.1, .ok (.work (claimed.2.map toWorkItem)))
  | .flagHostUnreachable id => flagHostUnreachable db q.now id

/-- The database after a request. -/
def step (env : Env) (db : Db) (q : Request) : Db := (apply env db q).1

/-- What a pull ships when its claim is this request; a request that is no claim ships nothing. -/
def shipped (db : Db) (q : Request) : List ShippedItem :=
  match q.op with
  | .claimForAgent agentID limit leaseTTL locked =>
    (claimForAgent db q.now agentID limit leaseTTL locked).2.map fun r ↦ ship (toWorkItem r)
  | _ => []

/-! ## The statements -/

/-- The row a statement is about. -/
def Statement.id : Statement → Uuid
  | .updateResourceSpec p => p.resourceUuid
  | .updateResourceStatus p => p.resourceUuid
  | .markResourceDeleting id => id
  | .applyAgentReport p => p.resourceUuid
  | .redispatchSystemResource id => id

/-- What a statement sets. -/
def Statement.patch (now : Int) : Statement → Patch Resource
  | .updateResourceSpec p => p.patch now
  | .updateResourceStatus p => p.patch now
  | .markResourceDeleting _ => deletingPatch now
  | .applyAgentReport p => p.patch now
  | .redispatchSystemResource _ => redispatchPatch now

/-- What a statement asks of its row beside being live. -/
def Statement.guard : Statement → Resource → Bool
  | .redispatchSystemResource _, r => r.state != "deleting"
  | _, _ => true

/-- **What a statement does.**  It found its row, live and past the guard, put the patched row in
its place, and touched nothing else. -/
theorem Statement.exec_spec {db db' : Db} {now : Int} {st : Statement} {r' : Resource}
    (h : st.exec db now = .ok (db', r')) :
    ∃ r, db.resources.get? st.id = some r ∧ r.live = true ∧ st.guard r = true ∧
      r' = st.patch now r ∧ db' = { db with resources := db'.resources } ∧
      ∀ v, db'.resources.get? v = if v = st.id then some (st.patch now r)
        else db.resources.get? v := by
  cases st <;>
  · obtain ⟨r, hr, hlive, hguard, -, rest⟩ := updateResource_spec h
    exact ⟨r, hr, hlive, hguard, rest⟩

/-- What the second half of a writer does to one row: nothing, or what its statement sets. -/
theorem Statement.write_get? {db : Db} (now : Int) (st : Statement) {u : Uuid} {r : Resource}
    (h : db.resources.get? u = some r) :
    (st.write db now).1.resources.get? u = some r ∨
      st.id = u ∧ r.live = true ∧ st.guard r = true ∧
      (st.write db now).1.resources.get? u = some (st.patch now r) := by
  rw [Statement.write]
  split
  · exact Or.inl h
  · rename_i db' row hex
    obtain ⟨x, hx, hlive, hguard, -, -, hget⟩ := Statement.exec_spec hex
    by_cases hu : u = st.id
    · subst hu
      obtain rfl : x = r := by rw [hx] at h; exact Option.some.inj h
      exact Or.inr ⟨rfl, hlive, hguard, by rw [hget, if_pos rfl]⟩
    · exact Or.inl (by rw [hget, if_neg hu, h])

theorem Statement.write_get?_none {db : Db} {now : Int} {st : Statement} {u : Uuid}
    (h : db.resources.get? u = none) : (st.write db now).1.resources.get? u = none := by
  rw [Statement.write]
  split
  · exact h
  · rename_i db' row hex
    obtain ⟨x, hx, -, -, -, -, hget⟩ := Statement.exec_spec hex
    by_cases hu : u = st.id
    · rw [hu, hx] at h
      cases h
    · rw [hget, if_neg hu, h]

/-- What a writer reads: nothing, when it is `Delete`, or the live row it is about. -/
theorem Call.read_eq_ok {env : Env} {db : Db} {now : Int} {c : Call} {st : Statement}
    (h : c.read env db now = .ok st) :
    c = .delete c.id ∧ st = .markResourceDeleting c.id ∨
      ∃ r, db.resources.get? c.id = some r ∧ r.live = true ∧ c.plan env db now r = .ok st := by
  cases c with
  | delete id =>
    cases h
    exact Or.inl ⟨rfl, rfl⟩
  | _ =>
    simp only [Call.read] at h
    split at h
    · cases h
    · rename_i r hr
      obtain ⟨hget, hlive⟩ := getResourceByUUID_eq_some.mp hr
      exact Or.inr ⟨r, hget, hlive, h⟩

theorem Call.read_of_some {env : Env} {db : Db} {now : Int} {c : Call} {r : Resource}
    (hc : ¬∃ id, c = .delete id) (h : getResourceByUUID db c.id = some r) :
    c.read env db now = c.plan env db now r := by
  cases c with
  | delete id => exact absurd ⟨id, rfl⟩ hc
  | _ => simp only [Call.read, h]

theorem Call.read_of_none {env : Env} {db : Db} {now : Int} {c : Call}
    (hc : ¬∃ id, c = .delete id) (h : getResourceByUUID db c.id = none) :
    c.read env db now = .error (.notFound "resource") := by
  cases c with
  | delete id => exact absurd ⟨id, rfl⟩ hc
  | _ => simp only [Call.read, h]

theorem Call.plan_updateSpec {env : Env} {db : Db} {now : Int} {r : Resource} {id : Uuid}
    {input : UpdateSpecInput} {st : Statement}
    (h : (Call.updateSpec id input).plan env db now r = .ok st) :
    ∃ p, updateSpecParams env db r input = .ok p ∧ st = .updateResourceSpec p := by
  rw [Call.plan] at h
  rcases hp : updateSpecParams env db r input with e | p
  · rw [hp] at h
    cases h
  · rw [hp] at h
    cases h
    exact ⟨p, rfl, rfl⟩

theorem Call.plan_report {env : Env} {db : Db} {now : Int} {r : Resource} {a : Int} {id : Uuid}
    {input : AgentReportInput} {b : Int} {st : Statement}
    (h : (Call.applyAgentReport a id input b).plan env db now r = .ok st) :
    r.agentID = some a ∧ st = .applyAgentReport (agentReportParams env now r input b) := by
  rw [Call.plan] at h
  split at h
  · rename_i hown
    cases h
    exact ⟨hown, rfl⟩
  · cases h

theorem Call.plan_redispatch {env : Env} {db : Db} {now : Int} {r : Resource} {id : Uuid}
    {st : Statement} (h : (Call.redispatchSystem id).plan env db now r = .ok st) :
    r.state ≠ "deleting" ∧ st = .redispatchSystemResource id := by
  rw [Call.plan] at h
  split at h
  · cases h
  · rename_i hstate
    cases h
    exact ⟨hstate, rfl⟩

/-- What a writer computes is about the row it read. -/
theorem Call.plan_id {env : Env} {db : Db} {now : Int} {c : Call} {r : Resource} {st : Statement}
    (hr : r.resourceUuid = c.id) (h : c.plan env db now r = .ok st) : st.id = c.id := by
  cases c with
  | updateSpec id input =>
    obtain ⟨p, hp, rfl⟩ := Call.plan_updateSpec h
    exact (updateSpecParams_spec hp).1.trans hr
  | updateStatus id input =>
    cases h
    exact hr
  | delete id =>
    cases h
    rfl
  | applyAgentReport a id input b =>
    obtain ⟨-, rfl⟩ := Call.plan_report h
    exact (agentReportParams_uuid env now r input b).trans hr
  | redispatchSystem id =>
    obtain ⟨-, rfl⟩ := Call.plan_redispatch h
    rfl

/-! ## What a step does to one row -/

/-- What an operation at time `now` can make of the row `r` of uuid `u`. -/
inductive RowStep (env : Env) (db : Db) (now : Int) (u : Uuid) (r : Resource) :
    Op → Resource → Prop
  /-- The row is left alone. -/
  | same (o : Op) : RowStep env db now u r o r
  /-- `UpdateSpec`. -/
  | spec {input : UpdateSpecInput} {p : UpdateResourceSpecParams} (hlive : r.live = true)
    (hp : updateSpecParams env db r input = .ok p) :
    RowStep env db now u r (.call (.updateSpec u input)) (p.patch now r)
  /-- `UpdateStatus`. -/
  | status {input : UpdateStatusInput} (hlive : r.live = true) :
    RowStep env db now u r (.call (.updateStatus u input))
      ((updateStatusParams r input).patch now r)
  /-- `Delete`. -/
  | delete (hlive : r.live = true) :
    RowStep env db now u r (.call (.delete u)) (deletingPatch now r)
  /-- `ApplyAgentReport`, by the agent the row is assigned to. -/
  | report {a : Int} {input : AgentReportInput} {b : Int} (hlive : r.live = true)
    (hown : r.agentID = some a) :
    RowStep env db now u r (.call (.applyAgentReport a u input b))
      ((agentReportParams env now r input b).patch now r)
  /-- `RedispatchSystem`. -/
  | redispatch (hlive : r.live = true) (hstate : r.state ≠ "deleting") :
    RowStep env db now u r (.call (.redispatchSystem u)) (redispatchPatch now r)
  /-- `ClaimForAgent`. -/
  | claim {a limit ttl : Int} {locked : List Int} (hclaim : r.claimable a now = true) :
    RowStep env db now u r (.claimForAgent a limit ttl locked)
      (claimPatch a (effectiveTTL ttl) now r)
  /-- `FlagHostUnreachable`. -/
  | flag (hlive : r.live = true) :
    RowStep env db now u r (.flagHostUnreachable u) (flagPatch now r)

theorem live_of_claimable {r : Resource} {a now : Int} (h : r.claimable a now = true) :
    r.live = true := by
  simp only [Resource.claimable, Resource.outOfSync, Bool.and_eq_true] at h
  exact h.1.1.1.2

/-- A row that has been stamped is left alone. -/
theorem RowStep.eq_of_not_live {env : Env} {db : Db} {now : Int} {u : Uuid} {r r' : Resource}
    {o : Op} (h : RowStep env db now u r o r') (hdead : r.live = false) : r' = r := by
  cases h with
  | same => rfl
  | claim hclaim => simp [live_of_claimable hclaim] at hdead
  | spec hlive => simp [hlive] at hdead
  | report hlive => simp [hlive] at hdead
  | redispatch hlive => simp [hlive] at hdead
  | status hlive => simp [hlive] at hdead
  | delete hlive => simp [hlive] at hdead
  | flag hlive => simp [hlive] at hdead

/-- What a lone writer does to one row. -/
theorem Call.run_get? {env : Env} {db : Db} {now : Int} {c : Call} {u : Uuid} {r : Resource}
    (h : db.resources.get? u = some r) :
    ∃ r', (c.run env db now).1.resources.get? u = some r' ∧
      RowStep env db now u r (.call c) r' := by
  have hu : r.resourceUuid = u := Table.uuid_of_get? h
  rw [Call.run]
  split
  · exact ⟨r, h, .same _⟩
  rename_i st hread
  rcases Statement.write_get? now st h with hsame | ⟨hid, hlive, hguard, hget⟩
  · exact ⟨r, hsame, .same _⟩
  refine ⟨_, hget, ?_⟩
  rcases Call.read_eq_ok hread with ⟨hc, rfl⟩ | ⟨x, hx, -, hplan⟩
  · obtain rfl : c.id = u := hid
    rw [hc]
    exact .delete hlive
  have hcu : c.id = u := (Call.plan_id (Table.uuid_of_get? hx) hplan).symm.trans hid
  obtain rfl : x = r := by rw [hcu, h] at hx; exact (Option.some.inj hx).symm
  cases c with
  | updateSpec id input =>
    obtain ⟨p, hp, rfl⟩ := Call.plan_updateSpec hplan
    obtain rfl : id = u := hcu
    exact .spec hlive hp
  | updateStatus id input =>
    cases hplan
    obtain rfl : id = u := hcu
    exact .status hlive
  | delete id =>
    cases hplan
    obtain rfl : id = u := hcu
    exact .delete hlive
  | applyAgentReport a id input b =>
    obtain rfl : id = u := hcu
    obtain ⟨hown, rfl⟩ := Call.plan_report hplan
    exact .report hlive hown
  | redispatchSystem id =>
    obtain rfl : id = u := hcu
    obtain ⟨hstate, rfl⟩ := Call.plan_redispatch hplan
    exact .redispatch hlive hstate

/-- Only `Delete` answers without an error when its statement failed. -/
theorem Statement.failure_eq_ok {st : Statement} {e : QueryError} {reply : Reply}
    (h : st.failure e = .ok reply) : ∃ id, st = .markResourceDeleting id := by
  cases st with
  | markResourceDeleting id => exact ⟨id, rfl⟩
  | _ => cases e <;> cases h

theorem Call.plan_ne_delete {env : Env} {db : Db} {now : Int} {c : Call} {r : Resource}
    {id : Uuid} (h : c.plan env db now r = .ok (.markResourceDeleting id)) : c = .delete id := by
  cases c with
  | updateSpec id' input =>
    obtain ⟨p, -, e⟩ := Call.plan_updateSpec h
    cases e
  | updateStatus id' input => cases h
  | delete id' =>
    cases h
    rfl
  | applyAgentReport a id' input b =>
    obtain ⟨-, e⟩ := Call.plan_report h
    cases e
  | redispatchSystem id' =>
    obtain ⟨-, e⟩ := Call.plan_redispatch h
    cases e

/-- The statement of the writer went through. -/
def Call.written (env : Env) (db : Db) (now : Int) (c : Call) : Bool :=
  match c.read env db now with
  | .error _ => false
  | .ok st => (st.exec db now).isOk

/-- **A writer that has written** read the live row it is about, and left it patched. -/
theorem Call.written_spec {env : Env} {db : Db} {now : Int} {c : Call}
    (h : c.written env db now = true) :
    ∃ r st, db.resources.get? c.id = some r ∧ r.live = true ∧ c.plan env db now r = .ok st ∧
      (c.run env db now).1.resources.get? c.id = some (st.patch now r) := by
  rw [Call.written] at h
  rw [Call.run]
  rcases hread : c.read env db now with e | st
  · rw [hread] at h
    cases h
  simp only [hread, Statement.write] at h ⊢
  rcases hex : st.exec db now with e | ⟨db', row⟩
  · rw [hex] at h
    cases h
  obtain ⟨r, hr, hlive, -, -, -, hget⟩ := Statement.exec_spec hex
  have hplan : st.id = c.id ∧ c.plan env db now r = .ok st := by
    rcases Call.read_eq_ok hread with ⟨hc, rfl⟩ | ⟨x, hx, -, hplan⟩
    · refine ⟨rfl, ?_⟩
      rw [hc]
      rfl
    · have hid : st.id = c.id := Call.plan_id (Table.uuid_of_get? hx) hplan
      obtain rfl : x = r := by rw [hid, hx] at hr; exact Option.some.inj hr
      exact ⟨hid, hplan⟩
  rw [hplan.1] at hr
  exact ⟨r, st, hr, hlive, hplan.2, (hget c.id).trans (if_pos hplan.1.symm)⟩

/-- The row after a report that was applied. -/
theorem Call.get?_of_written_report {env : Env} {db : Db} {now : Int} {a : Int} {u : Uuid}
    {input : AgentReportInput} {b : Int} {r : Resource} (hr : db.resources.get? u = some r)
    (h : (Call.applyAgentReport a u input b).written env db now = true) :
    ((Call.applyAgentReport a u input b).run env db now).1.resources.get? u =
      some ((agentReportParams env now r input b).patch now r) := by
  obtain ⟨x, st, hx, -, hplan, hget⟩ := Call.written_spec h
  obtain rfl : r = x := Option.some.inj (hr.symm.trans hx)
  obtain ⟨-, rfl⟩ := Call.plan_report hplan
  exact hget

/-- **When a report of the owner is applied**: when the columns of its row can hold it. -/
theorem Call.written_report {env : Env} {db : Db} {now : Int} {a : Int} {u : Uuid}
    {input : AgentReportInput} {b : Int} {r : Resource} (hr : db.resources.get? u = some r)
    (hlive : r.live = true) (hown : r.agentID = some a) :
    (Call.applyAgentReport a u input b).written env db now =
      (agentReportParams env now r input b).storable := by
  have hread : (Call.applyAgentReport a u input b).read env db now =
      .ok (.applyAgentReport (agentReportParams env now r input b)) := by
    have hget : getResourceByUUID db u = some r := getResourceByUUID_eq_some.mpr ⟨hr, hlive⟩
    rw [Call.read_of_some (by simp) hget, Call.plan, if_pos hown]
  have hid : (agentReportParams env now r input b).resourceUuid = u :=
    (agentReportParams_uuid env now r input b).trans (Table.uuid_of_get? hr)
  have hexec : ((Statement.applyAgentReport (agentReportParams env now r input b)).exec db
      now).isOk = (agentReportParams env now r input b).storable := by
    rw [← hid] at hr
    exact isOk_updateResource _ _ hr hlive rfl
  simp only [Call.written, hread, hexec]

/-- A writer that has not written changed nothing. -/
theorem Call.run_of_not_written {env : Env} {db : Db} {now : Int} {c : Call}
    (h : c.written env db now = false) : (c.run env db now).1 = db := by
  rw [Call.written] at h
  rw [Call.run]
  rcases hread : c.read env db now with e | st
  · rfl
  simp only [hread, Statement.write] at h ⊢
  rcases hex : st.exec db now with e | x
  · rfl
  · rw [hex] at h
    cases h

theorem Call.written_of_run_eq_ok {env : Env} {db : Db} {now : Int} {c : Call} {reply : Reply}
    (hc : ∀ id, c ≠ .delete id) (h : (c.run env db now).2 = .ok reply) :
    c.written env db now = true := by
  rw [Call.run] at h
  rw [Call.written]
  rcases hread : c.read env db now with e | st
  · rw [hread] at h
    cases h
  simp only [hread, Statement.write] at h ⊢
  rcases hex : st.exec db now with e | x
  · rw [hex] at h
    obtain ⟨id, rfl⟩ := Statement.failure_eq_ok h
    obtain ⟨r, -, -, hplan⟩ := (Call.read_eq_ok hread).resolve_left fun e ↦ hc _ e.1
    exact absurd (Call.plan_ne_delete hplan) (hc id)
  · rfl

/-- **A writer that answers without an error has written its row**, `Delete` apart. -/
theorem Call.run_eq_ok {env : Env} {db : Db} {now : Int} {c : Call} {reply : Reply}
    (hc : ∀ id, c ≠ .delete id) (h : (c.run env db now).2 = .ok reply) :
    ∃ r st, db.resources.get? c.id = some r ∧ r.live = true ∧ c.plan env db now r = .ok st ∧
      (c.run env db now).1.resources.get? c.id = some (st.patch now r) :=
  Call.written_spec (Call.written_of_run_eq_ok hc h)

theorem step_of_not_written {env : Env} {db : Db} {q : Request} {c : Call} (ho : q.op = .call c)
    (h : c.written env db q.now = false) : step env db q = db := by
  rw [step, apply, ho]
  exact Call.run_of_not_written h

theorem Call.run_get?_none {env : Env} {db : Db} {now : Int} {c : Call} {u : Uuid}
    (h : db.resources.get? u = none) : (c.run env db now).1.resources.get? u = none := by
  rw [Call.run]
  split
  · exact h
  · exact Statement.write_get?_none h

/-- What `FlagHostUnreachable` does to one row. -/
theorem flagHostUnreachable_get? {env : Env} {db : Db} {now : Int} {id u : Uuid} {r : Resource}
    (h : db.resources.get? u = some r) :
    ∃ r', (flagHostUnreachable db now id).1.resources.get? u = some r' ∧
      RowStep env db now u r (.flagHostUnreachable id) r' := by
  rw [flagHostUnreachable]
  split
  · exact ⟨r, h, .same _⟩
  · exact ⟨r, h, .same _⟩
  · rename_i db' row hex
    obtain ⟨x, hx, hlive, -, -, -, -, hget⟩ := updateResource_spec hex
    by_cases hu : u = id
    · subst hu
      obtain rfl : x = r := by rw [hx] at h; exact Option.some.inj h
      exact ⟨_, by rw [hget, if_pos rfl], .flag hlive⟩
    · exact ⟨r, by rw [hget, if_neg hu, h], .same _⟩

/-- A row that carries the flag already is not flagged again. -/
theorem flagHostUnreachable_of_flagged {db : Db} {now : Int} {u : Uuid}
    (h : (getResourceByUUID db u).all
      (fun r ↦ JsonMap.textIs r.status "host_unreachable" "true") = true) :
    flagHostUnreachable db now u = (db, .ok (.flagged false)) := by
  have hnone : (getResourceByUUID db u).filter
      (fun r ↦ !JsonMap.textIs r.status "host_unreachable" "true") = none := by
    rcases hr : getResourceByUUID db u with _ | r
    · rfl
    · rw [hr, Option.all_some] at h
      simp [h]
  rw [flagHostUnreachable, flagResourceHostUnreachable, updateResource_of_none _ _ hnone]

/-- A live row that does not carry the flag is flagged. -/
theorem flagHostUnreachable_of_unflagged {db : Db} (now : Int) {u : Uuid} {r : Resource}
    (hget : db.resources.get? u = some r) (hlive : r.live = true)
    (h : JsonMap.textIs r.status "host_unreachable" "true" = false) :
    ∃ db', flagHostUnreachable db now u = (db', .ok (.flagged true)) ∧
      db'.resources.get? u = some (flagPatch now r) := by
  have hupd : ∃ db', updateResource db u
      (fun r ↦ !JsonMap.textIs r.status "host_unreachable" "true") (fun _ ↦ true) (flagPatch now)
        = .ok (db', flagPatch now r) :=
    updateResource_of_get? (flagPatch now) hget hlive (by rw [h]; rfl) rfl
  obtain ⟨db', hdb'⟩ := hupd
  obtain ⟨x, hx, -, -, -, -, -, hget'⟩ := updateResource_spec hdb'
  obtain rfl : r = x := Option.some.inj (hget.symm.trans hx)
  refine ⟨db', ?_, (hget' u).trans (if_pos rfl)⟩
  rw [flagHostUnreachable, flagResourceHostUnreachable, hdb']

theorem flagHostUnreachable_get?_none {db : Db} {now : Int} {id u : Uuid}
    (h : db.resources.get? u = none) :
    (flagHostUnreachable db now id).1.resources.get? u = none := by
  rw [flagHostUnreachable]
  split
  · exact h
  · exact h
  · rename_i db' row hex
    obtain ⟨x, hx, -, -, -, -, -, hget⟩ := updateResource_spec hex
    by_cases hu : u = id
    · rw [hu, hx] at h
      cases h
    · rw [hget, if_neg hu, h]

/-- The parameters `Create` inserts a resource with, in the project it has looked up. -/
structure Prepared (env : Env) (db : Db) (uuid : Uuid) (input : CreateInput) (project : Project)
    (tenant : Tenant) (p : CreateResourceParams) : Prop where
  found : getProjectByUUID db input.projectUUID = some project
  housed : getTenantByID db project.tenantID = some tenant
  resourceUuid : p.resourceUuid = uuid
  projectID : p.projectID = project.projectID
  tenantID : p.tenantID = project.tenantID
  kind : p.kind = input.kind
  name : p.name = input.name
  spec : p.spec = input.spec.getD []
  accepted : env.validateSpec p.kind p.spec = none
  metadata : p.metadata = input.metadata.getD []
  mrn : buildMRN env.lower tenant.name project.name input.kind input.name p.metadata =
    .ok ⟨p.mrnService, p.mrnTenant, p.mrnProject, p.mrnResourceType, p.mrnResourcePath⟩

/-- **What `Create` does.**  It fails and changes nothing, or it inserts the resource. -/
theorem create_prepared (env : Env) (db : Db) (now : Int) (uuid : Uuid)
    (input : CreateInput) :
    (∃ e, create env db now uuid input = (db, .error e)) ∨
      ∃ project tenant p db' row, Prepared env db uuid input project tenant p ∧
        createResource db now p = .ok (db', row) ∧
        create env db now uuid input = (db', .ok (.resource row project.projectUuid)) := by
  generalize hx : create env db now uuid input = x
  simp only [create] at hx
  split at hx
  · exact Or.inl ⟨_, hx.symm⟩
  split at hx
  · exact Or.inl ⟨_, hx.symm⟩
  rename_i project hproject
  split at hx
  · exact Or.inl ⟨_, hx.symm⟩
  rename_i tenant htenant
  split at hx
  · exact Or.inl ⟨_, hx.symm⟩
  split at hx
  · exact Or.inl ⟨_, hx.symm⟩
  rename_i haccepted
  split at hx
  · exact Or.inl ⟨_, hx.symm⟩
  rename_i parts hparts
  split at hx
  · exact Or.inl ⟨_, hx.symm⟩
  rename_i db' row hins
  refine Or.inr ⟨project, tenant, _, db', row, ?_, hins, hx.symm⟩
  exact ⟨hproject, htenant, rfl, rfl, rfl, rfl, rfl, rfl, haccepted, rfl, hparts⟩

/-- What `Create` does to the database: nothing, or the one insertion. -/
theorem create_db (env : Env) (db : Db) (now : Int) (uuid : Uuid) (input : CreateInput) :
    (create env db now uuid input).1 = db ∨
      ∃ p row, p.resourceUuid = uuid ∧
        createResource db now p = .ok ((create env db now uuid input).1, row) := by
  rcases create_prepared env db now uuid input with ⟨e, he⟩ | ⟨project, tenant, p, db', row, hprep,
    hins, he⟩
  · exact Or.inl (by rw [he])
  · exact Or.inr ⟨p, row, hprep.resourceUuid, by rw [he]; exact hins⟩

/-- **What a step does to a row that is there.** -/
theorem step_get? (env : Env) {db : Db} (q : Request) {u : Uuid} {r : Resource}
    (h : db.resources.get? u = some r) :
    ∃ r', (step env db q).resources.get? u = some r' ∧ RowStep env db q.now u r q.op r' := by
  obtain ⟨now, o⟩ := q
  cases o with
  | create uuid input =>
    refine ⟨r, ?_, .same _⟩
    show (create env db now uuid input).1.resources.get? u = some r
    rcases create_db env db now uuid input with hdb | ⟨p, row, rfl, hins⟩
    · rw [hdb, h]
    · obtain ⟨-, hfree, -, hget⟩ := createResource_spec hins
      have hne : p.resourceUuid ≠ u := fun e ↦ by rw [e, h] at hfree; cases hfree
      rw [hget, if_neg hne, h]
  | call c => exact Call.run_get? h
  | claimForAgent a limit ttl locked =>
    rcases claimAgentWork_get? now a (effectiveTTL ttl) (normalizeFeedLimit limit) locked h with
      hsame | ⟨hclaim, hget⟩
    · exact ⟨r, hsame, .same _⟩
    · exact ⟨_, hget, .claim hclaim⟩
  | flagHostUnreachable id => exact flagHostUnreachable_get? h

/-- **What a step does to a row that is not there.**  Only `Create` makes one. -/
theorem step_get?_none (env : Env) {db : Db} (q : Request) {u : Uuid}
    (h : db.resources.get? u = none) :
    (step env db q).resources.get? u = none ∨
      ∃ input, ∃ p : CreateResourceParams, ∃ id, q.op = .create u input ∧ p.resourceUuid = u ∧
        (step env db q).resources.get? u = some (p.row q.now id) := by
  obtain ⟨now, o⟩ := q
  cases o with
  | create uuid input =>
    rcases create_db env db now uuid input with hdb | ⟨p, row, rfl, hins⟩
    · exact Or.inl (by rw [← hdb] at h; exact h)
    · obtain ⟨⟨id, hrow⟩, -, -, hget⟩ := createResource_spec hins
      by_cases hu : p.resourceUuid = u
      · refine Or.inr ⟨input, p, id, by rw [hu], hu, ?_⟩
        exact (hget u).trans (by rw [if_pos hu, hrow])
      · exact Or.inl ((hget u).trans (by rw [if_neg hu, h]))
  | call c => exact Or.inl (Call.run_get?_none h)
  | claimForAgent a limit ttl locked => exact Or.inl (claimAgentWork_get?_eq_none h)
  | flagHostUnreachable id => exact Or.inl (flagHostUnreachable_get?_none h)

/-- A row that is new after a step was created by it, under the parameters `Create` prepares. -/
theorem created_of_none {env : Env} {db : Db} {q : Request} {u : Uuid} {r : Resource}
    (hnone : db.resources.get? u = none) (hr : (step env db q).resources.get? u = some r) :
    ∃ input project tenant p id, q.op = .create u input ∧
      (create env db q.now u input).2.isOk = true ∧
      Prepared env db u input project tenant p ∧ p.storable = true ∧ r = p.row q.now id := by
  obtain ⟨now, o⟩ := q
  rcases step_get?_none env ⟨now, o⟩ hnone with h | ⟨input, -, -, rfl, -, -⟩
  · rw [h] at hr
    cases hr
  change (create env db now u input).1.resources.get? u = some r at hr
  rcases create_prepared env db now u input with ⟨e, he⟩ | ⟨project, tenant, p, db', row,
    hprep, hins, he⟩
  · rw [he, hnone] at hr
    cases hr
  · obtain ⟨⟨id, rfl⟩, -, -, hget⟩ := createResource_spec hins
    rw [he, hget, if_pos hprep.resourceUuid] at hr
    cases hr
    exact ⟨input, project, tenant, p, id, rfl, by rw [he]; rfl, hprep, createResource_storable hins,
      rfl⟩

/-! ## What nothing changes -/

/-- What no write of a row changes: what it is, whose it is, and the agent it is assigned to once
it is assigned. -/
structure Resource.Keeps (r r' : Resource) : Prop where
  tenantID : r'.tenantID = r.tenantID
  projectID : r'.projectID = r.projectID
  kind : r'.kind = r.kind
  name : r'.name = r.name
  agentID : ∀ a, r.agentID = some a → r'.agentID = some a

theorem Resource.Keeps.refl (r : Resource) : r.Keeps r := ⟨rfl, rfl, rfl, rfl, fun _ h ↦ h⟩

theorem Resource.Keeps.trans {a b c : Resource} (h : a.Keeps b) (h' : b.Keeps c) : a.Keeps c where
  tenantID := h'.tenantID.trans h.tenantID
  projectID := h'.projectID.trans h.projectID
  kind := h'.kind.trans h.kind
  name := h'.name.trans h.name
  agentID a ha := h'.agentID a (h.agentID a ha)

theorem Statement.patch_keeps (st : Statement) (now : Int) (r : Resource) :
    r.Keeps (st.patch now r) := by
  cases st <;> exact ⟨rfl, rfl, rfl, rfl, fun _ h ↦ h⟩

theorem RowStep.keeps {env : Env} {db : Db} {now : Int} {u : Uuid} {r r' : Resource} {o : Op}
    (h : RowStep env db now u r o r') : r.Keeps r' := by
  cases h with
  | claim hclaim =>
    refine ⟨rfl, rfl, rfl, rfl, fun a' ha' ↦ ?_⟩
    simp only [Resource.claimable, ha', Option.all_some, Bool.and_eq_true, beq_iff_eq] at hclaim
    exact congrArg some hclaim.1.1.2.symm
  | _ => exact ⟨rfl, rfl, rfl, rfl, fun _ h ↦ h⟩

/-- The database has moved on: the tables the service only reads are as they were, and every row
that was there still is, and is still about the same thing. -/
structure Db.Evolves (db db' : Db) : Prop where
  tenants : db'.tenants = db.tenants
  projects : db'.projects = db.projects
  agents : db'.agents = db.agents
  rows : ∀ u r, db.resources.get? u = some r →
    ∃ r', db'.resources.get? u = some r' ∧ r.Keeps r'

theorem Db.Evolves.refl (db : Db) : db.Evolves db :=
  ⟨rfl, rfl, rfl, fun _ r h ↦ ⟨r, h, .refl r⟩⟩

theorem Db.Evolves.trans {a b c : Db} (h : a.Evolves b) (h' : b.Evolves c) : a.Evolves c where
  tenants := h'.tenants.trans h.tenants
  projects := h'.projects.trans h.projects
  agents := h'.agents.trans h.agents
  rows u r hr := by
    obtain ⟨r', hr', hk⟩ := h.rows u r hr
    obtain ⟨r'', hr'', hk'⟩ := h'.rows u r' hr'
    exact ⟨r'', hr'', hk.trans hk'⟩

/-- The database differs from what it was in the rows of `resources` only. -/
def Db.OnlyResources (db db' : Db) : Prop := db' = { db with resources := db'.resources }

theorem Db.OnlyResources.evolves {db db' : Db} (h : db.OnlyResources db')
    (hrows : ∀ u r, db.resources.get? u = some r →
      ∃ r', db'.resources.get? u = some r' ∧ r.Keeps r') : db.Evolves db' := by
  rw [Db.OnlyResources] at h
  exact ⟨by rw [h], by rw [h], by rw [h], hrows⟩

theorem Statement.write_onlyResources (db : Db) (now : Int) (st : Statement) :
    db.OnlyResources (st.write db now).1 := by
  rw [Statement.write]
  split
  · rfl
  · rename_i db' row hex
    obtain ⟨-, -, -, -, -, hdb, -⟩ := Statement.exec_spec hex
    exact hdb

theorem Statement.write_evolves (db : Db) (now : Int) (st : Statement) :
    db.Evolves (st.write db now).1 := by
  refine (Statement.write_onlyResources db now st).evolves fun u r hr ↦ ?_
  rcases Statement.write_get? now st hr with hsame | ⟨-, -, -, hget⟩
  · exact ⟨r, hsame, .refl r⟩
  · exact ⟨_, hget, Statement.patch_keeps st now r⟩

theorem step_onlyResources (env : Env) (db : Db) (q : Request) :
    db.OnlyResources (step env db q) := by
  obtain ⟨now, o⟩ := q
  cases o with
  | create uuid input =>
    show db.OnlyResources (create env db now uuid input).1
    rcases create_db env db now uuid input with hdb | ⟨p, row, -, hins⟩
    · rw [hdb]
      rfl
    · obtain ⟨-, -, hdb, -⟩ := createResource_spec hins
      exact hdb
  | call c =>
    show db.OnlyResources (c.run env db now).1
    rw [Call.run]
    split
    · rfl
    · exact Statement.write_onlyResources db now _
  | claimForAgent a limit ttl locked => rfl
  | flagHostUnreachable id =>
    show db.OnlyResources (flagHostUnreachable db now id).1
    rw [flagHostUnreachable]
    split
    · rfl
    · rfl
    · rename_i db' row hex
      obtain ⟨-, -, -, -, -, -, hdb, -⟩ := updateResource_spec hex
      exact hdb

theorem step_evolves (env : Env) (db : Db) (q : Request) : db.Evolves (step env db q) := by
  refine (step_onlyResources env db q).evolves fun u r hr ↦ ?_
  obtain ⟨r', hr', hstep⟩ := step_get? env q hr
  exact ⟨r', hr', hstep.keeps⟩

/-! ## What a claim hands out -/

/-- **What a claim ships.**  Every shipped item is a row that was claimable, in the state it had,
and the row is leased now. -/
theorem mem_shipped (env : Env) {db : Db} {q : Request} {i : ShippedItem}
    (h : i ∈ shipped db q) :
    ∃ a limit ttl locked r, q.op = .claimForAgent a limit ttl locked ∧
      db.resources.get? i.resourceUuid = some r ∧ r.claimable a q.now = true ∧
      i = ship (toWorkItem (claimPatch a (effectiveTTL ttl) q.now r)) ∧
      (step env db q).resources.get? i.resourceUuid
        = some (claimPatch a (effectiveTTL ttl) q.now r) := by
  obtain ⟨now, o⟩ := q
  cases o with
  | claimForAgent a limit ttl locked =>
    obtain ⟨r', hr', rfl⟩ := List.mem_map.mp h
    obtain ⟨r, hget, hclaim, rfl, hget'⟩ := mem_claimAgentWork hr'
    exact ⟨a, limit, ttl, locked, r, rfl, hget, hclaim, rfl, hget'⟩
  | _ => cases h

/-! ## A small installation

One tenant and one project, and the requests that bring one resource to an agent: what the runs
that are worked out by evaluation start from. -/

/-- An environment that accepts every spec. -/
def plainEnv : Env := ⟨Char.toLower, fun _ ↦ "", fun _ _ ↦ none⟩

theorem acme_le : "acme".length ≤ 63 := by decide

theorem shop_le : "shop".length ≤ 63 := by decide

/-- One tenant, one project, nothing in it. -/
def emptyProject : Db where
  tenants := ⟨[⟨1, 1, "acme", none, acme_le⟩], 2, by decide, by decide, by decide⟩
  projects := ⟨[⟨1, 2, 1, "shop", none, shop_le⟩], 2, by decide, by decide, by decide⟩
  providers := .empty
  agents := .empty
  resources := .empty

/-- A resource with the uuid 7 is created, and agent 1 pulls it. -/
def createAndPull : List Request :=
  [⟨0, .create 7 ⟨2, none, "Container", "web", none, none⟩⟩, ⟨10, .claimForAgent 1 20 0 []⟩]

/-- Agent 1 reports on the resource 7. -/
def reportOn7 (now : Int) (state : String) (observedGeneration attemptBudget : Int) : Request :=
  ⟨now, .call (.applyAgentReport 1 7 ⟨state, none, observedGeneration⟩ attemptBudget)⟩

/-- A column of the row 7 after a run. -/
def columnOf7 {α : Type} (f : Resource → α) (qs : List Request) : Option α :=
  ((Machine.run (step plainEnv) emptyProject qs).resources.get? 7).map f

end Maintainerd

import Maintainerd.Gateway.Rpc
import Maintainerd.Resource.Step

/-!
# What an error of a writer says about its row

`UpdateSpec`, `UpdateStatus` and `ApplyAgentReport` answer with the resource and the uuid of its
project, and look the project up after they have written.  A project that was deleted is not found
then, so the caller is told of an error although the row was written.  `UpdateSpec` has looked the
project up before as well and fails there; the other two have not.

`ReportStatus` counts a report as accepted when `ApplyAgentReport` returned without an error.  So
the number it answers with is the number of reports that were written, exactly if the projects of
the resources that were written are there.
-/

set_option autoImplicit false

namespace Maintainerd

open Interleave Machine

/-! ## The writers that answer with the resource -/

/-- The writers that answer with the resource. -/
def Call.answersResource : Call → Bool
  | .updateSpec _ _ => true
  | .updateStatus _ _ => true
  | .applyAgentReport _ _ _ _ => true
  | _ => false

/-- The project of the resource the call is about is there. -/
def Call.projectLive (db : Db) (c : Call) : Bool :=
  (db.resources.get? c.id).any fun r ↦ (getProjectByID db r.projectID).isSome

theorem Call.ne_delete_of_answersResource {c : Call} (hc : c.answersResource = true) (id : Uuid) :
    c ≠ .delete id := by
  rintro rfl
  cases hc

/-- Once the statement went through, whether they answer depends on the project. -/
theorem Call.isOk_success {env : Env} {db db' : Db} {now : Int} {c : Call} {r row : Resource}
    {st : Statement} (hc : c.answersResource = true) (hplan : c.plan env db now r = .ok st) :
    (st.success db' row).isOk = (getProjectByID db' row.projectID).isSome := by
  have hanswer : ∀ st : Statement, (∀ id, st ≠ .markResourceDeleting id) →
      (∀ id, st ≠ .redispatchSystemResource id) →
      (st.success db' row).isOk = (getProjectByID db' row.projectID).isSome := by
    intro st hdel hredis
    cases st with
    | markResourceDeleting id => exact absurd rfl (hdel id)
    | redispatchSystemResource id => exact absurd rfl (hredis id)
    | _ =>
      simp only [Statement.success]
      rcases getProjectByID db' row.projectID <;> rfl
  cases c with
  | updateSpec id input =>
    obtain ⟨p, -, rfl⟩ := Call.plan_updateSpec hplan
    exact hanswer _ (fun _ h ↦ by cases h) fun _ h ↦ by cases h
  | updateStatus id input =>
    cases hplan
    exact hanswer _ (fun _ h ↦ by cases h) fun _ h ↦ by cases h
  | applyAgentReport a id input b =>
    obtain ⟨-, rfl⟩ := Call.plan_report hplan
    exact hanswer _ (fun _ h ↦ by cases h) fun _ h ↦ by cases h
  | _ => cases hc

/-- **When they answer**: when the statement went through and the project is there. -/
theorem Call.isOk_run (env : Env) (db : Db) (now : Int) {c : Call}
    (hc : c.answersResource = true) :
    (c.run env db now).2.isOk = (c.written env db now && c.projectLive db) := by
  rcases hwritten : c.written env db now with _ | _
  · rw [Bool.false_and]
    rcases hrun : (c.run env db now).2 with e | reply
    · rfl
    · rw [Call.written_of_run_eq_ok (Call.ne_delete_of_answersResource hc) hrun] at hwritten
      cases hwritten
  · rw [Bool.true_and]
    rw [Call.written] at hwritten
    rw [Call.run]
    rcases hread : c.read env db now with e | st
    · rw [hread] at hwritten
      cases hwritten
    simp only [hread, Statement.write] at hwritten ⊢
    rcases hex : st.exec db now with e | ⟨db', row⟩
    · rw [hex] at hwritten
      cases hwritten
    obtain ⟨x, hx, -, hplan⟩ := (Call.read_eq_ok hread).resolve_left fun e ↦
      Call.ne_delete_of_answersResource hc _ e.1
    obtain ⟨r, hr, -, -, rfl, hdb', -⟩ := Statement.exec_spec hex
    rw [Call.plan_id (Table.uuid_of_get? hx) hplan, hx] at hr
    obtain rfl : x = r := Option.some.inj hr
    simp only [Call.isOk_success hc hplan, (Statement.patch_keeps st now x).projectID]
    rw [Call.projectLive, hx, hdb', Option.any_some]
    rfl

/-! ## A batch of reports -/

/-- What a call leaves of the database. -/
def callStep (env : Env) (now : Int) (db : Db) (c : Call) : Db := (c.run env db now).1

/-- The calls a batch of reports comes to: a report on something that is no uuid is passed over. -/
def AgentGateway.reportCalls (g : AgentGateway) (agentID : Int) (reports : List StatusReport) :
    List Call :=
  reports.filterMap fun rep ↦ (g.parseUuid rep.resourceUuid).map fun id ↦
    .applyAgentReport agentID id (g.reportInput rep) g.opts.attemptBudget

theorem answersResource_of_mem {g : AgentGateway} {agentID : Int} {reports : List StatusReport}
    {c : Call} (h : c ∈ g.reportCalls agentID reports) : c.answersResource = true := by
  obtain ⟨rep, -, hrep⟩ := List.mem_filterMap.mp h
  obtain ⟨id, -, rfl⟩ := Option.map_eq_some_iff.mp hrep
  rfl

/-- One report of the batch. -/
theorem alone_reportLoop_cons (g : AgentGateway) (env : Env) (a : Agent) (p : Principal)
    (m : Moment) (rep : StatusReport) (reports : List StatusReport) (n : ℕ) (db : Db) {id : Uuid}
    (hid : g.parseUuid rep.resourceUuid = some id) :
    let c := Call.applyAgentReport a.agentID id (g.reportInput rep) g.opts.attemptBudget
    let rest := (g.reportLoop env a p reports (n + (c.run env db m.now).2.isOk.toNat)).alone m
      (callStep env m.now db c)
    ((g.reportLoop env a p (rep :: reports) n).alone m db).1 = rest.1 ∧
      ∀ k, .reported k ∈ ((g.reportLoop env a p (rep :: reports) n).alone m db).2 ↔
        .reported k ∈ rest.2 := by
  intro c
  rw [AgentGateway.reportLoop, hid]
  dsimp only [Task.alone]
  rw [callStep, Call.run]
  rcases c.read env db m.now with e | st
  · exact ⟨rfl, fun _ ↦ Iff.rfl⟩
  dsimp only [Task.alone]
  rcases hw : st.write db m.now with ⟨db', e | reply⟩
  · exact ⟨rfl, fun _ ↦ Iff.rfl⟩
  · exact ⟨rfl, fun k ↦ by simp [Task.alone, Except.isOk, Except.toBool]⟩

/-- **What a batch does.**  The calls are made one after the other, and the number answered is that
of the calls that returned without an error. -/
theorem alone_reportLoop (g : AgentGateway) (env : Env) (a : Agent) (p : Principal) (m : Moment)
    (reports : List StatusReport) (n : ℕ) (db : Db) :
    let calls := g.reportCalls a.agentID reports
    ((g.reportLoop env a p reports n).alone m db).1 = run (callStep env m.now) db calls ∧
      ∀ k, .reported k ∈ ((g.reportLoop env a p reports n).alone m db).2 ↔
        k = n + tally (callStep env m.now) (fun db c ↦ (c.run env db m.now).2.isOk) db calls := by
  induction reports generalizing n db with
  | nil =>
    refine ⟨rfl, fun k ↦ ?_⟩
    simp [AgentGateway.reportLoop, AgentGateway.reportCalls, Task.alone, tally]
  | cons rep reports ih =>
    rcases hid : g.parseUuid rep.resourceUuid with _ | id
    · simpa only [AgentGateway.reportLoop, AgentGateway.reportCalls, List.filterMap_cons, hid,
        Option.map_none] using ih n db
    · obtain ⟨hdb, hevents⟩ := alone_reportLoop_cons g env a p m rep reports n db hid
      obtain ⟨ihdb, ihevents⟩ := ih _ _
      simp only [AgentGateway.reportCalls, List.filterMap_cons, hid, Option.map_some]
      refine ⟨hdb.trans ihdb, fun k ↦ ?_⟩
      rw [hevents, ihevents, tally, Nat.add_assoc]
      rfl

/-! ## A resource whose project may be gone -/

/-- The project is marked as deleted, or is not. -/
def markDeleted (deletedAt : Option Int) : Patch Project where
  apply p := { p with deletedAt := deletedAt }

/-- The small installation with an agent and a resource that it has pulled; the project may have
been deleted since. -/
def pulledIn (projectDeletedAt : Option Int) : Db where
  tenants := emptyProject.tenants
  projects := emptyProject.projects.updateWhere (fun _ ↦ true) (markDeleted projectDeletedAt)
  providers := .empty
  agents := ⟨[⟨1, 3, 1, "host", "online", "", "", [], "", some 0, 0, none, unbound_le⟩], 2,
    by decide, by decide, by decide⟩
  resources := (run (step plainEnv) emptyProject createAndPull).resources

/-- A gateway that knows the agent and the resource by name, and does not enforce binding. -/
def openGateway : AgentGateway :=
  newAgentGateway ⟨false, 0, 0⟩
    (fun text ↦ if text = "host" then some 3 else if text = "web" then some 7 else none)
    (fun _ ↦ none) fun _ ↦ ""

/-- The numbers `ReportStatus` answers with. -/
def Event.reportedCount : Event → Option ℕ
  | .reported n => some n
  | _ => none

/-! ## The theorem -/

/-- **An error means that nothing was written, as long as the project is there.**  For every
database, whatever the state of its projects and tenants, and every call of `UpdateSpec`,
`UpdateStatus` or `ApplyAgentReport`: if the project of the resource is there, a call that returns
an error has left the database alone; and if it is not, a call whose statement went through returns
an error, with the row written.  So for every batch that `ReportStatus` answers, the number it
answers with is that of the reports that were written, exactly if every report that was written was
on a resource whose project is there. -/
theorem error_unwritten_iff_project (env : Env) (g : AgentGateway) (db : Db) (m : Moment) :
    (∀ c : Call, c.answersResource = true →
      (c.projectLive db = true → ∀ e, (c.run env db m.now).2 = .error e →
        (c.run env db m.now).1 = db) ∧
      (c.projectLive db = false → c.written env db m.now = true →
        (∃ e, (c.run env db m.now).2 = .error e) ∧
        ∃ r st, db.resources.get? c.id = some r ∧ c.plan env db m.now r = .ok st ∧
          (c.run env db m.now).1.resources.get? c.id = some (st.patch m.now r))) ∧
    ∀ claims agentUuid reports accepted,
      .reported accepted ∈ ((g.reportStatus env claims agentUuid reports).alone m db).2 →
      ∃ id a, g.parseUuid agentUuid = some id ∧ getAgentByUUID db id = some a ∧
        (accepted = tally (callStep env m.now) (fun db c ↦ c.written env db m.now) db
            (g.reportCalls a.agentID reports) ↔
          Guarded (callStep env m.now)
            (fun db c ↦ c.written env db m.now = true → c.projectLive db = true) db
            (g.reportCalls a.agentID reports)) := by
  refine ⟨fun c hc ↦ ⟨fun hlive e he ↦ ?_, fun hgone hwritten ↦ ⟨?_, ?_⟩⟩, ?_⟩
  · have hok := Call.isOk_run env db m.now hc
    rw [he, hlive, Bool.and_true] at hok
    exact Call.run_of_not_written hok.symm
  · have hok := Call.isOk_run env db m.now hc
    rw [hgone, Bool.and_false] at hok
    rcases hrun : (c.run env db m.now).2 with e | reply
    · exact ⟨e, rfl⟩
    · rw [hrun] at hok
      cases hok
  · obtain ⟨r, st, hr, -, hplan, hget⟩ := Call.written_spec hwritten
    exact ⟨r, st, hr, hplan, hget⟩
  · intro claims agentUuid reports accepted hreported
    rcases g.alone_requireAgent claims agentUuid _ m db with
      ⟨status, hrefused⟩ | ⟨id, a, p, hid, ha, -, -, halone⟩
    · rw [AgentGateway.reportStatus, hrefused] at hreported
      simp at hreported
    · rw [AgentGateway.reportStatus, halone, (alone_reportLoop g env a p m reports 0 db).2,
        Nat.zero_add] at hreported
      refine ⟨id, a, hid, ha, ?_⟩
      rw [hreported, ← tally_and_eq_iff]
      rw [tally_congr fun db c hmem ↦ Call.isOk_run env db m.now (answersResource_of_mem hmem)]

/-- Two reports on a resource whose project is there are both accepted, and a state that does not
fit its column is refused and leaves the database alone. -/
theorem error_unwritten_iff_project_there :
    let db := pulledIn none
    let reports : List StatusReport := [⟨"web", "starting", "", 1⟩, ⟨"web", "running", "", 1⟩]
    let calls := openGateway.reportCalls 1 reports
    let tooLong := Call.updateStatus 7 ⟨none, "waiting for the registry", 1⟩
    (tooLong.run plainEnv db 20).1 = db ∧
      2 = tally (callStep plainEnv 20) (fun db c ↦ c.written plainEnv db 20) db calls := by
  intro db reports calls tooLong
  have hcall := (error_unwritten_iff_project plainEnv openGateway db ⟨20, []⟩).1 tooLong rfl
  have herror : (tooLong.run plainEnv db 20).2 = .error (.query .dataException) := rfl
  obtain ⟨id, a, hid, ha, hcount⟩ :=
    (error_unwritten_iff_project plainEnv openGateway db ⟨20, []⟩).2 none "host" reports 2
      (List.mem_of_getLast? rfl)
  obtain rfl : 3 = id := Option.some.inj hid
  have hagent : a.agentID = 1 := congrArg (Option.elim · 0 Agent.agentID) ha.symm
  rw [hagent] at hcount
  exact ⟨hcall.1 (by decide) _ herror, hcount.mpr (by decide)⟩

/-- The project of the resource was deleted, and its agent reports that the workload runs: the call
fails and the report is not counted, but the row says `running`. -/
theorem written_unaccepted :
    let db := pulledIn (some 15)
    let report := Call.applyAgentReport 1 7 ⟨"running", none, 1⟩ 10
    (report.run plainEnv db 20).2.isOk = false ∧
      (db.resources.get? 7).map Resource.state = some "pending" ∧
      ((report.run plainEnv db 20).1.resources.get? 7).map Resource.state = some "running" ∧
      ((openGateway.reportStatus plainEnv none "host" [⟨"web", "running", "", 1⟩]).alone ⟨20, []⟩
        db).2.filterMap Event.reportedCount = [0] := by
  decide

end Maintainerd

import Maintainerd.Lib.Overlap
import Maintainerd.Resource.Step

/-!
# Writers that overlap

`UpdateSpec`, `UpdateStatus`, `ApplyAgentReport` and `RedispatchSystem` read their row, compute in
Go, and then write what they computed; nothing is locked in between and no transaction is opened.
`writers` makes them, together with `Delete`, which only writes, an instance of the operations in
two halves of `Overlap`; creations, claims and flags are single statements and atomic.

Overlapping does make a difference: two failed reports that overlap count as one attempt, and a
status update that overlaps a `Delete` undoes it (`overlap_loses_writes`).  What does hold is
proved for any number of writers: as long as every `UPDATE` finds its row as its writer read it, in
the columns the writer computed from, the database ends up as if the writers had run one after the
other, in the order of their `UPDATE`s.  `Call.sees` lists those columns.
-/

set_option autoImplicit false

namespace Maintainerd

open Machine

/-- The writers of the `resources` table, as operations in two halves. -/
def writers (env : Env) : Overlap.Halves Db Call Statement Int Request where
  read db now c := (c.read env db now).toOption
  write db now st := (st.write db now).1
  act := step env

/-- A writer that takes its turn is a call that runs alone. -/
theorem turn_writers (env : Env) (db : Db) (now : Int) (c : Call) :
    Overlap.turn (writers env) db (.op c now now) = step env db ⟨now, .call c⟩ := by
  show _ = (c.run env db now).1
  rw [Overlap.turn, Call.run]
  simp only [writers]
  rcases c.read env db now with e | st <;> rfl

theorem writers_frame (env : Env) : Overlap.Frame (writers env) Db.Evolves where
  refl := .refl
  trans := .trans
  write db now st := Statement.write_evolves db now st
  act db q := step_evolves env db q

/-! ## The columns a writer computes from -/

/-- The status of a report says something about health. -/
def carriesHealth (status : JsonMap) : Bool :=
  match status.lookup "health" with
  | none => false
  | some .null => false
  | some _ => true

/-- The rows agree in the columns the call computes from.  `UpdateSpec` and `UpdateStatus` write
back what their input leaves out; what a report takes of the row depends on its state; `Delete` and
`RedispatchSystem` take nothing. -/
def Call.sees : Call → Resource → Resource → Prop
  | .updateSpec _ input, r, r' =>
    (input.spec = none → r'.spec = r.spec) ∧ (input.metadata = none → r'.metadata = r.metadata)
  | .updateStatus _ input, r, r' =>
    (input.status = none → r'.status = r.status) ∧ (input.state = "" → r'.state = r.state) ∧
      (input.observedGeneration ≤ 0 → r'.observedGeneration = r.observedGeneration)
  | .applyAgentReport _ _ input _, r, r' =>
    (input.status = none → r'.status = r.status) ∧
      (input.state = "running" → carriesHealth (input.status.getD []) = false →
        r'.health = r.health) ∧
      (input.state ≠ "running" → r'.attempts = r.attempts) ∧
      (input.state ≠ "running" → input.state ≠ "failed" → r'.nextAttemptAt = r.nextAttemptAt) ∧
      (input.state = "failed" ∨ input.state = "removed" →
        (r'.state = "deleting" ↔ r.state = "deleting")) ∧
      (input.state = "removed" → r.state = "deleting" → r'.generation = r.generation) ∧
      (input.state = "" → r'.state = r.state)
  | .delete _, _, _ => True
  | .redispatchSystem _, _, _ => True

theorem getD_congr {α : Type} {o : Option α} {a a' : α} (h : o = none → a' = a) :
    o.getD a' = o.getD a := by
  cases o with
  | none => exact h rfl
  | some x => rfl

theorem resolveHealth_congr (env : Env) {h h' state : String} {status : JsonMap}
    (hh : state = "running" → carriesHealth status = false → h' = h) :
    resolveHealth env h' state status = resolveHealth env h state status := by
  rw [carriesHealth] at hh
  rw [resolveHealth, resolveHealth]
  by_cases hs : state = "running"
  · split <;> rename_i hl <;> rw [hl] at hh <;> simp_all
  · simp only [if_neg hs]

theorem updateSpecParams_congr {env : Env} {db db' : Db} {r r' : Resource}
    {input : UpdateSpecInput} {id : Uuid} (hdb : db.Evolves db') (hk : r.Keeps r')
    (hu : r'.resourceUuid = r.resourceUuid) (h : (Call.updateSpec id input).sees r r') :
    updateSpecParams env db' r' input = updateSpecParams env db r input := by
  have hspec := getD_congr h.1
  have hmeta := getD_congr h.2
  simp only [updateSpecParams, getProjectByID, getTenantByID, hdb.tenants, hdb.projects, hk.kind,
    hk.name, hk.projectID, hk.tenantID, hu, hspec, hmeta]

theorem updateStatusParams_congr {r r' : Resource} {input : UpdateStatusInput} {id : Uuid}
    (hu : r'.resourceUuid = r.resourceUuid) (h : (Call.updateStatus id input).sees r r') :
    updateStatusParams r' input = updateStatusParams r input := by
  obtain ⟨hstatus, hstate, hobs⟩ := h
  have hstatus := getD_congr hstatus
  have hstate : (if input.state = "" then r'.state else input.state) =
      if input.state = "" then r.state else input.state := by
    split
    · rename_i hs
      exact hstate hs
    · rfl
  have hobs : (if 0 < input.observedGeneration then input.observedGeneration
      else r'.observedGeneration) = if 0 < input.observedGeneration then input.observedGeneration
      else r.observedGeneration := by
    split
    · rfl
    · exact hobs (by omega)
  simp only [updateStatusParams, hu, hstatus, hstate, hobs]

theorem agentReportParams_congr {env : Env} {now : Int} {r r' : Resource}
    {input : AgentReportInput} {a b : Int} {id : Uuid} (hu : r'.resourceUuid = r.resourceUuid)
    (h : (Call.applyAgentReport a id input b).sees r r') :
    agentReportParams env now r' input b = agentReportParams env now r input b := by
  obtain ⟨hstatus, hhealth, hatt, hnext, hdel, hgen, hstate⟩ := h
  have hstatus := getD_congr hstatus
  have hhealth := resolveHealth_congr env hhealth
  simp only [agentReportParams, hu, hstatus, hhealth]
  by_cases hrun : input.state = "running"
  · simp only [if_pos hrun]
  simp only [if_neg hrun, hatt hrun]
  by_cases hfail : input.state = "failed"
  · simp only [if_pos hfail, hdel (Or.inl hfail)]
  simp only [if_neg hfail, hnext hrun hfail]
  by_cases hremoved : input.state = "removed"
  · simp only [if_pos hremoved, hdel (Or.inr hremoved)]
    split
    · rename_i hdeleting
      rw [hgen hremoved hdeleting]
    · rfl
  simp only [if_neg hremoved]
  split
  · rename_i hsilent
    rw [hstate hsilent]
  · rfl

/-- A writer computes the same statement from a row that agrees with the one it read. -/
theorem Call.plan_congr {env : Env} {db db' : Db} {now : Int} {c : Call} {r r' : Resource}
    {st : Statement} (hdb : db.Evolves db') (hk : r.Keeps r')
    (hu : r'.resourceUuid = r.resourceUuid) (h : c.sees r r')
    (hre : ∀ id, c = .redispatchSystem id → r'.state ≠ "deleting")
    (hplan : c.plan env db now r = .ok st) : c.plan env db' now r' = .ok st := by
  cases c with
  | updateSpec id input => rw [← hplan, Call.plan, Call.plan, updateSpecParams_congr hdb hk hu h]
  | updateStatus id input => rw [← hplan, Call.plan, Call.plan, updateStatusParams_congr hu h]
  | delete id => exact hplan
  | applyAgentReport a id input b =>
    obtain ⟨hown, rfl⟩ := Call.plan_report hplan
    rw [Call.plan, if_pos (hk.agentID a hown), agentReportParams_congr hu h]
  | redispatchSystem id =>
    obtain ⟨-, rfl⟩ := Call.plan_redispatch hplan
    rw [Call.plan, if_neg (hre id rfl)]

/-- A statement that finds no row past its guard leaves the database alone. -/
theorem Statement.write_of_none {db : Db} {now : Int} {st : Statement}
    (h : (getResourceByUUID db st.id).filter st.guard = none) : (st.write db now).1 = db := by
  have hex : st.exec db now = .error .noRows := by
    cases st <;> exact updateResource_of_none _ _ h
  rw [Statement.write, hex]

/-- The row of the call in the two states, if it is live in both, agrees in the columns the call
computes from. -/
def Call.Sees (c : Call) (db db' : Db) : Prop :=
  ∀ r r', getResourceByUUID db c.id = some r → getResourceByUUID db' c.id = some r' → c.sees r r'

/-- A statement computed from a state that agrees with the present one does what the whole call
would do now. -/
theorem writers_write_eq {env : Env} {c : Call} {db db' : Db} {t t' : Int} {st : Statement}
    (hdb : db.Evolves db') (hsees : c.Sees db db')
    (hread : (writers env).read db t c = some st) :
    (writers env).write db' t' st = Overlap.turn (writers env) db' (.op c t t') := by
  have hread : c.read env db t = .ok st := by
    simp only [writers] at hread
    rcases hc : c.read env db t with e | st'
    · rw [hc] at hread
      cases hread
    · rw [hc] at hread
      exact congrArg _ (Option.some.inj hread)
  -- it is enough that the call computes the statement again, or that neither does anything
  suffices h : c.read env db' t = .ok st ∨
      (st.write db' t').1 = db' ∧ ∃ e, c.read env db' t = .error e by
    show (st.write db' t').1 = _
    rw [Overlap.turn]
    simp only [writers]
    rcases h with h | ⟨hw, e, h⟩
    · rw [h]
      rfl
    · rw [h, hw]
      rfl
  rcases Call.read_eq_ok hread with ⟨hc, rfl⟩ | ⟨r, hr, hlive, hplan⟩
  · exact Or.inl (by rw [hc]; rfl)
  have hu : r.resourceUuid = c.id := Table.uuid_of_get? hr
  have hid : st.id = c.id := Call.plan_id hu hplan
  by_cases hdel : ∃ id, c = .delete id
  · obtain ⟨id, rfl⟩ := hdel
    exact Or.inl hread
  rcases hr' : getResourceByUUID db' c.id with _ | r'
  · -- the row is gone
    refine Or.inr ⟨Statement.write_of_none (by rw [hid, hr']; rfl), .notFound "resource", ?_⟩
    exact Call.read_of_none hdel hr'
  have hread' : c.read env db' t = c.plan env db' t r' := Call.read_of_some hdel hr'
  obtain ⟨hget', hlive'⟩ := getResourceByUUID_eq_some.mp hr'
  obtain ⟨x, hx, hk⟩ := hdb.rows _ r hr
  obtain rfl : x = r' := by rw [hget'] at hx; exact (Option.some.inj hx).symm
  have hu' : x.resourceUuid = r.resourceUuid := (Table.uuid_of_get? hget').trans hu.symm
  have hs : c.sees r x := hsees r x (getResourceByUUID_eq_some.mpr ⟨hr, hlive⟩) hr'
  by_cases hre : ∃ id, c = .redispatchSystem id ∧ x.state = "deleting"
  · -- a teardown came in between: the statement passes the row over, and the call would refuse
    obtain ⟨id, rfl, hstate⟩ := hre
    obtain ⟨-, rfl⟩ := Call.plan_redispatch hplan
    refine Or.inr ⟨Statement.write_of_none ?_, _, hread'.trans (if_pos hstate)⟩
    rw [hid, hr']
    simp [Option.filter, Statement.guard, hstate]
  · refine Or.inl (hread'.trans (Call.plan_congr hdb hk hu' hs ?_ hplan))
    exact fun id hc hstate ↦ hre ⟨id, hc, hstate⟩

/-- **Serialisability of overlapping writers.**  Any number of writers overlap in any way, with any
creations, claims and flags between their halves.  As long as every `UPDATE` finds its row, in the
columns its writer computed from, as the writer read it, the database ends up exactly as if the
writers had run one after the other, in the order of their `UPDATE`s. -/
theorem overlapping_writers_serialise (env : Env) (db : Db)
    (acts : List (Overlap.Act Call Int Request))
    (h : Guarded (Overlap.step (writers env)) (Overlap.Agrees Call.Sees) ⟨db, []⟩ acts) :
    (run (Overlap.step (writers env)) ⟨db, []⟩ acts).store =
      run (Overlap.turn (writers env)) db (Overlap.history (writers env) ⟨db, []⟩ acts) :=
  Overlap.run_store_eq (writers_frame env) writers_write_eq (Overlap.sound_of_none _ _ db) h

/-- A new spec that is computed before a report is written and written after it. -/
theorem overlapping_writers_serialise_spec_and_report :
    let db := run (step plainEnv) emptyProject createAndPull
    let spec : Call := .updateSpec 7 ⟨some [], some []⟩
    let report : Call := .applyAgentReport 1 7 ⟨"running", some [("health", .str "healthy")], 1⟩ 10
    let acts := [.start 20 spec, .start 21 report, .finish 22 1, .finish 23 0]
    Guarded (Overlap.step (writers plainEnv)) (Overlap.Agrees Call.Sees) ⟨db, []⟩ acts ∧
      (run (Overlap.step (writers plainEnv)) ⟨db, []⟩ acts).store =
        run (Overlap.turn (writers plainEnv)) db [.op report 21 22, .op spec 20 23] := by
  intro db spec report acts
  have hspec : ∀ db db', spec.Sees db db' := by
    simp [spec, Call.Sees, Call.sees]
  have hreport : ∀ db db', report.Sees db db' := by
    simp [report, Call.Sees, Call.sees, carriesHealth]
  have hguard :
      Guarded (Overlap.step (writers plainEnv)) (Overlap.Agrees Call.Sees) ⟨db, []⟩ acts := by
    refine ⟨trivial, trivial, fun o ho ↦ ?_, fun o ho ↦ ?_, trivial⟩
    · have hop : some report = some o.op := congrArg (Option.map Overlap.InFlight.op) ho
      rw [← Option.some.inj hop]
      exact hreport _ _
    · have hop : some spec = some o.op := congrArg (Option.map Overlap.InFlight.op) ho
      rw [← Option.some.inj hop]
      exact hspec _ _
  exact ⟨hguard, overlapping_writers_serialise plainEnv db acts hguard⟩

/-- What the writer answers that an action finishes. -/
def answer (s : Overlap.State Db Call Statement Int) :
    Overlap.Act Call Int Request → Option (Except AppError Reply)
  | .finish now i => s.inFlight[i]?.map fun o ↦ (o.plan.write s.store now).2
  | _ => none

/-- Every writer that a run finishes answers without an error. -/
def allSucceed (env : Env) :
    Overlap.State Db Call Statement Int → List (Overlap.Act Call Int Request) → Bool
  | _, [] => true
  | s, a :: as => (answer s a).all Except.isOk && allSucceed env (Overlap.step (writers env) s a) as

/-- **Overlapping writers lose writes.**  Two failed reports that overlap count as one attempt, and
a status update that leaves the state out, read before a `Delete` and written after it, takes the
row out of its teardown.  Neither is what any order of the two calls does. -/
theorem overlap_loses_writes :
    let db := run (step plainEnv) emptyProject createAndPull
    let column {α : Type} (f : Resource → α) (db : Db) := (db.resources.get? 7).map f
    let overlapped := fun acts ↦ (run (Overlap.step (writers plainEnv)) ⟨db, []⟩ acts).store
    let failed : Call := .applyAgentReport 1 7 ⟨"failed", none, 0⟩ 10
    let status : Call := .updateStatus 7 ⟨some [], "", 0⟩
    let reports := [.start 20 failed, .start 21 failed, .finish 22 0, .finish 23 0]
    let undone := [.start 20 status, .start 21 (.delete 7), .finish 22 1, .finish 23 0]
    let inTurn := run (Overlap.turn (writers plainEnv)) db
    allSucceed plainEnv ⟨db, []⟩ reports = true ∧
      column Resource.attempts (overlapped reports) = some 1 ∧
      column Resource.attempts (inTurn [.op failed 20 22, .op failed 21 23]) = some 2 ∧
      column Resource.attempts (inTurn [.op failed 21 23, .op failed 20 22]) = some 2 ∧
      allSucceed plainEnv ⟨db, []⟩ undone = true ∧
      column Resource.state (overlapped undone) = some "pending" ∧
      column Resource.state (inTurn [.op status 20 23, .op (.delete 7) 21 22]) = some "deleting" ∧
      column Resource.state (inTurn [.op (.delete 7) 21 22, .op status 20 23])
        = some "deleting" := by
  decide

end Maintainerd

import Maintainerd.Resource.Step

/-!
# What a report can make of its columns

A report of an agent writes two columns of twenty characters, `state` and `health`, and the `jsonb`
column `status`.  The health is cut to twenty bytes before it is written; the other two are written
as they came.  That is not enough.  A state of more than twenty characters is refused by the
database, unless all that is too much are blanks; a cut after twenty bytes may fall inside a
character, and then what is left is refused as invalid UTF-8; and U+0000 is refused anywhere, be it
in the state, in the health, or in a string or a key of the status.

`report_fits_iff` has both conditions: when what a report passes to its statement keeps to the
limits of the columns, and when the statement goes through.  A report without a state, a health or a
status writes back what the row holds, so both rest on an invariant of the table: `Db.Fits`, that
what the rows hold does fit.
-/

set_option autoImplicit false

namespace Maintainerd

open Machine Postgres

/-- What the row holds in `state`, `health` and `status` is what the columns can hold. -/
structure Resource.Fits (r : Resource) : Prop where
  state_le : r.state.length ≤ 20
  state : text r.state = true
  health_le : r.health.length ≤ 20
  health : text r.health = true
  status : jsonb r.status = true

/-- All rows do. -/
def Db.Fits (db : Db) : Prop := ∀ u r, db.resources.get? u = some r → r.Fits

/-- The parameters keep to the limits of `state` and `health`: twenty characters each, and the
health is valid UTF-8. -/
def ApplyAgentReportParams.fits (p : ApplyAgentReportParams) : Bool :=
  decide (p.state.length ≤ 20) && p.health.any fun h ↦ decide (h.length ≤ 20)

/-! ## The invariant -/

/-- A row that is given a state, a health and a status that its columns took. -/
theorem Resource.fits_of_varchar {r : Resource} {state health : String}
    (hstate : varchar 20 state = true) (hhealth : varchar 20 health = true)
    (hstatus : jsonb r.status = true) (hs : r.state = clip 20 state)
    (hh : r.health = clip 20 health) : r.Fits where
  state_le := hs ▸ length_clip_le 20 state
  state := hs ▸ text_clip (Bool.and_eq_true _ _ ▸ hstate).1
  health_le := hh ▸ length_clip_le 20 health
  health := hh ▸ text_clip (Bool.and_eq_true _ _ ▸ hhealth).1
  status := hstatus

/-- A row that keeps its health and its status, under another state. -/
theorem Resource.Fits.restated {r r' : Resource} (h : r.Fits) (word : String)
    (hword : word.length ≤ 20) (htext : text word = true) (hs : r'.state = word)
    (hh : r'.health = r.health) (hstatus : r'.status = r.status) : r'.Fits where
  state_le := hs ▸ hword
  state := hs ▸ htext
  health_le := hh ▸ h.health_le
  health := hh ▸ h.health
  status := hstatus ▸ h.status

/-- What a statement leaves of a row fits, for the database has checked it. -/
theorem Statement.fits_of_exec {db db' : Db} {now : Int} {st : Statement} {r' : Resource}
    (hdb : db.Fits) (h : st.exec db now = .ok (db', r')) : r'.Fits := by
  cases st with
  | updateResourceSpec p =>
    obtain ⟨r, hr, -, -, -, rfl, -⟩ := updateResource_spec h
    exact (hdb _ r hr).restated "pending" (by decide) (by decide) rfl rfl rfl
  | updateResourceStatus p =>
    obtain ⟨r, hr, -, -, hholds, rfl, -⟩ := updateResource_spec h
    obtain ⟨hstate, hstatus⟩ := (Bool.and_eq_true _ _).mp hholds
    have hfits := hdb _ r hr
    have hhealth : varchar 20 r.health = true :=
      (varchar_of_length_le hfits.health_le).trans hfits.health
    exact Resource.fits_of_varchar hstate hhealth hstatus rfl
      (clip_of_length_le hfits.health_le).symm
  | markResourceDeleting id =>
    obtain ⟨r, hr, -, -, -, rfl, -⟩ := updateResource_spec h
    exact (hdb _ r hr).restated "deleting" (by decide) (by decide) rfl rfl rfl
  | applyAgentReport p =>
    obtain ⟨r, hr, -, -, hholds, rfl, -⟩ := updateResource_spec h
    simp only [ApplyAgentReportParams.storable, Bool.and_eq_true] at hholds
    obtain ⟨⟨hstate, hany⟩, hstatus⟩ := hholds
    obtain ⟨x, hx, hhealth⟩ := Option.any_eq_true _ _ |>.mp hany
    refine Resource.fits_of_varchar hstate hhealth hstatus rfl ?_
    show (p.health.map (clip 20)).getD r.health = clip 20 x
    rw [hx]
    rfl
  | redispatchSystemResource id =>
    obtain ⟨r, hr, -, -, -, rfl, -⟩ := updateResource_spec h
    exact (hdb _ r hr).restated "pending" (by decide) (by decide) rfl rfl rfl

theorem Db.Fits.write {db : Db} (hdb : db.Fits) (now : Int) (st : Statement) :
    (st.write db now).1.Fits := by
  rw [Statement.write]
  split
  · exact hdb
  · rename_i db' row hex
    intro u r hr
    obtain ⟨x, -, -, -, hrow, -, hget⟩ := Statement.exec_spec hex
    rw [hget] at hr
    split at hr
    · cases hr
      rw [← hrow]
      exact Statement.fits_of_exec hdb hex
    · exact hdb u r hr

/-- What a flag adds to the status. -/
theorem jsonb_flag (now : Int) :
    jsonb [("host_unreachable", .bool true), ("host_unreachable_at", .str (toString now))] =
      true := by
  have hdigits : text (toString now) = true := text_toString now
  simp only [jsonb, Json.allTextsFields, Json.allTexts, hdigits, Bool.and_true]
  decide

/-- **One step** leaves rows that fit. -/
theorem Db.Fits.step {env : Env} {db : Db} (hdb : db.Fits) (q : Request) :
    (step env db q).Fits := by
  obtain ⟨now, o⟩ := q
  have hother : (∀ c, o ≠ .call c) → (Maintainerd.step env db ⟨now, o⟩).Fits := by
    intro ho u r' hr'
    rcases hr : db.resources.get? u with _ | r
    · rcases step_get?_none env ⟨now, o⟩ hr with hnone | ⟨input, p, id, -, -, hnew⟩
      · rw [hnone] at hr'
        cases hr'
      · cases hr'.symm.trans hnew
        exact ⟨(by decide : "pending".length ≤ 20), (by decide : text "pending" = true),
          (by decide : "".length ≤ 20), (by decide : text "" = true), rfl⟩
    · obtain ⟨r'', hr'', hstep⟩ := step_get? env ⟨now, o⟩ hr
      obtain rfl : r'' = r' := Option.some.inj (hr''.symm.trans hr')
      have hfits := hdb u r hr
      cases hstep with
      | same => exact hfits
      | claim => exact hfits.restated r.state hfits.state_le hfits.state rfl rfl rfl
      | flag =>
        exact ⟨hfits.state_le, hfits.state, (by decide : "unknown".length ≤ 20),
          (by decide : text "unknown" = true), jsonb_concat hfits.status (jsonb_flag now)⟩
      | _ => exact absurd rfl (ho _)
  cases o with
  | call c =>
    show (c.run env db now).1.Fits
    rw [Call.run]
    split
    · exact hdb
    · exact hdb.write now _
  | _ => exact hother fun c hc ↦ by cases hc

theorem Db.Fits.run {env : Env} {db : Db} (hdb : db.Fits) (qs : List Request) :
    (Machine.run (Maintainerd.step env) db qs).Fits :=
  invariant_run (I := Db.Fits) qs hdb fun _ q h ↦ h.step q

/-! ## What a report writes -/

/-- The health a report carries, as it is before it is cut. -/
def Env.reportedHealth (env : Env) (raw : Json) : String :=
  Text.toLower env.lower (Text.trimSpace (env.sprintAny raw))

/-- The health a report carries, if it carries one, can be cut to its column. -/
def AgentReportInput.HealthCuts (env : Env) (input : AgentReportInput) : Prop :=
  ∀ raw, (input.status.getD []).lookup "health" = some raw → raw ≠ .null →
    Text.CutsBetween maxHealthLen (env.reportedHealth raw).toList

/-- There is no U+0000 in the status a report carries, nor in what is left of the health in it. -/
def AgentReportInput.clean (env : Env) (input : AgentReportInput) : Bool :=
  input.status.all jsonb && (resolveHealth env "" input.state (input.status.getD [])).all text

/-- The health a report writes is one it carries, or the one of the row, or none. -/
theorem resolveHealth_cases (env : Env) (state : String) (status : JsonMap) :
    (∀ current, resolveHealth env current state status = resolveHealth env "" state status) ∨
      ∀ current, resolveHealth env current state status =
        some (if state = "running" then current else "") := by
  have hfallback : ∀ current : String, (if state = "running" then some current else some "") =
      some (if state = "running" then current else "") := fun current ↦ by split <;> rfl
  simp only [resolveHealth]
  rcases hraw : status.lookup "health" with _ | raw
  · exact Or.inr hfallback
  · by_cases hnull : raw = .null
    · subst hnull
      exact Or.inr hfallback
    · refine Or.inl fun current ↦ ?_
      split
      · rename_i e
        cases e
      · rename_i e
        exact absurd (Option.some.inj e) hnull
      · rfl

theorem isSome_resolveHealth_iff (env : Env) (current : String) (input : AgentReportInput) :
    (resolveHealth env current input.state (input.status.getD [])).isSome = true ↔
      input.HealthCuts env := by
  have hfallback : (if input.state = "running" then some current else some "").isSome = true := by
    split <;> rfl
  rw [AgentReportInput.HealthCuts]
  simp only [resolveHealth]
  split
  · rename_i hnone
    simp [hnone, hfallback]
  · rename_i hnull
    simp [hnull, hfallback]
  · rename_i raw hnotnull hraw
    have hne : raw ≠ .null := fun h ↦ hnotnull h
    simp only [hraw, Option.some.injEq, forall_eq', ne_eq, hne, not_false_iff, true_imp_iff]
    rw [Env.reportedHealth]
    split
    · exact Text.isSome_sliceTo_iff _ _
    · rename_i hshort
      simp only [Option.isSome_some, true_iff]
      exact Or.inl (by rw [String.ofList_toList]; exact Nat.le_of_not_lt hshort)

/-- The state a report writes is one of the program's words, or the one it carries, or the one of
the row. -/
theorem agentReportParams_state (env : Env) (now : Int) (r : Resource) (input : AgentReportInput)
    (b : Int) :
    let state := (agentReportParams env now r input b).state
    state = input.state ∨ input.state = "" ∧ state = r.state ∨
      input.state = "failed" ∧ (state = "deleting" ∨ state = "error") := by
  intro state
  cases agentReportParams_case env now r input b with
  | converged hs hstate => exact Or.inl (hstate.trans hs.symm)
  | parked hs _ hstate => exact Or.inl (hstate.trans hs.symm)
  | retried hs _ hstate =>
    refine Or.inr (Or.inr ⟨hs, ?_⟩)
    split at hstate
    · exact Or.inl hstate
    · exact Or.inr hstate
  | finalized hs _ hstate => exact Or.inl (hstate.trans hs.symm)
  | silent hs hstate => exact Or.inr (Or.inl ⟨hs, hstate⟩)
  | observed _ _ _ _ hstate => exact Or.inl hstate

/-- A test that the program's words and the row pass is passed by the state that is written exactly
if it is by the one the report carries. -/
theorem agentReportParams_state_test (env : Env) (now : Int) (r : Resource)
    (input : AgentReportInput) (b : Int) (p : String → Bool) (hrow : p r.state = true)
    (hwords : p "" = true ∧ p "failed" = true ∧ p "deleting" = true ∧ p "error" = true) :
    p (agentReportParams env now r input b).state = p input.state := by
  obtain ⟨hsilent, hfailed, hdeleting, herror⟩ := hwords
  rcases agentReportParams_state env now r input b with h | ⟨hs, h⟩ | ⟨hs, h | h⟩
  · rw [h]
  · rw [h, hs, hrow, hsilent]
  · rw [h, hs, hdeleting, hfailed]
  · rw [h, hs, herror, hfailed]

/-- The parameters of a report keep to the limits. -/
theorem agentReportParams_fits_iff (env : Env) (now : Int) {r : Resource} (hr : r.Fits)
    (input : AgentReportInput) (b : Int) :
    (agentReportParams env now r input b).fits = true ↔
      input.state.length ≤ 20 ∧ input.HealthCuts env := by
  have hstate := agentReportParams_state_test env now r input b (fun s ↦ decide (s.length ≤ 20))
    (decide_eq_true hr.state_le) (by decide)
  rw [ApplyAgentReportParams.fits, Bool.and_eq_true, hstate, decide_eq_true_eq,
    (agentReportParams_status env now r input b).2, ← isSome_resolveHealth_iff env r.health]
  refine and_congr_right fun _ ↦ ?_
  rcases hh : resolveHealth env r.health input.state (input.status.getD []) with _ | h
  · simp
  · have hle : h.length ≤ 20 := length_resolveHealth (fun _ ↦ hr.health_le) hh
    simp [hle]

/-- The columns can hold the health a report writes. -/
theorem any_varchar_resolveHealth_iff (env : Env) {r : Resource} (hr : r.Fits)
    (input : AgentReportInput) :
    (resolveHealth env r.health input.state (input.status.getD [])).any (varchar 20) = true ↔
      input.HealthCuts env ∧
        (resolveHealth env "" input.state (input.status.getD [])).all text = true := by
  rw [← isSome_resolveHealth_iff env r.health]
  have hvarchar : ∀ h, resolveHealth env r.health input.state (input.status.getD []) = some h →
      varchar 20 h = text h :=
    fun h hh ↦ varchar_of_length_le (length_resolveHealth (fun _ ↦ hr.health_le) hh)
  rcases resolveHealth_cases env input.state (input.status.getD []) with hsame | hkept
  · rw [hsame] at hvarchar ⊢
    rcases hh : resolveHealth env "" input.state (input.status.getD []) with _ | h
    · simp
    · simp [hvarchar h hh]
  · have htext : text (if input.state = "running" then r.health else "") = true := by
      split
      · exact hr.health
      · decide
    have hempty : text (if input.state = "running" then "" else "") = true := by
      split <;> decide
    rw [hkept] at hvarchar
    rw [hkept, hkept, Option.any_some, Option.all_some, hvarchar _ rfl, htext, hempty]
    simp

/-- The columns can hold what a report writes. -/
theorem agentReportParams_storable_iff (env : Env) (now : Int) {r : Resource} (hr : r.Fits)
    (input : AgentReportInput) (b : Int) :
    (agentReportParams env now r input b).storable = true ↔
      varchar 20 input.state = true ∧ input.HealthCuts env ∧ input.clean env = true := by
  have hstate := agentReportParams_state_test env now r input b (varchar 20)
    ((varchar_of_length_le hr.state_le).trans hr.state) (by decide)
  have hstatus : jsonb (input.status.getD r.status) = input.status.all jsonb := by
    rcases input.status with _ | m
    · exact hr.status
    · rfl
  obtain ⟨hwrites, hcuts⟩ := agentReportParams_status env now r input b
  rw [ApplyAgentReportParams.storable, Bool.and_eq_true, Bool.and_eq_true, hstate, hwrites, hcuts,
    hstatus, any_varchar_resolveHealth_iff env hr, AgentReportInput.clean, Bool.and_eq_true]
  tauto

/-- **When a report fits its columns, and when it is written.**  In every state that the service
reaches, from a database whose rows fit, take any live resource, the agent it is assigned to, and
any report of that agent.  The parameters of its statement keep to the limits of the columns exactly
if the state it carries has at most twenty characters, and the health it carries, in lower case and
without the blanks around it, has at most twenty bytes or its first twenty are whole characters.
The statement goes through exactly if that is so of the health, what the state has over twenty
characters are blanks, and there is no U+0000 in the state, in the status or in the health. -/
theorem report_fits_iff (env : Env) (db : Db) (hdb : db.Fits) (qs : List Request) (now : Int)
    (u : Uuid) (r : Resource) (hr : (run (step env) db qs).resources.get? u = some r)
    (hlive : r.live = true) (agentID : Int) (hown : r.agentID = some agentID)
    (input : AgentReportInput) (attemptBudget : Int) :
    ((agentReportParams env now r input attemptBudget).fits = true ↔
        input.state.length ≤ 20 ∧ input.HealthCuts env) ∧
      ((Call.applyAgentReport agentID u input attemptBudget).written env (run (step env) db qs) now
        = true ↔
        varchar 20 input.state = true ∧ input.HealthCuts env ∧ input.clean env = true) := by
  have hfits : r.Fits := hdb.run qs u r hr
  refine ⟨agentReportParams_fits_iff env now hfits input attemptBudget, ?_⟩
  rw [Call.written_report hr hlive hown]
  exact agentReportParams_storable_iff env now hfits input attemptBudget

/-- The state in which agent 1 has pulled the resource 7. -/
def pulled7 : Db := run (step plainEnv) emptyProject createAndPull

theorem fits_emptyProject : emptyProject.Fits :=
  fun u r hr ↦ absurd hr (by simp [emptyProject, Table.empty, Table.get?])

/-- An ordinary report is written, and so is one whose state is too long by a blank. -/
theorem report_fits_iff_healthy :
    (Call.applyAgentReport 1 7 ⟨"running", some [("health", .str " Healthy ")], 1⟩ 10).written
        plainEnv pulled7 20 = true ∧
      (Call.applyAgentReport 1 7 ⟨"waiting for registry ", none, 1⟩ 10).written
        plainEnv pulled7 20 = true := by
  obtain ⟨r, hr, hcols⟩ : ∃ r, pulled7.resources.get? 7 = some r ∧
      (r.live, r.agentID) = (true, some 1) :=
    Option.map_eq_some_iff.mp (by decide)
  obtain ⟨hlive, hown⟩ := Prod.mk.inj hcols
  have hwritten := fun input ↦ (report_fits_iff plainEnv emptyProject fits_emptyProject
    createAndPull 20 7 r hr hlive 1 hown input 10).2
  refine ⟨(hwritten _).mpr ⟨by decide, ?_, by decide⟩, (hwritten _).mpr ⟨by decide, ?_, by decide⟩⟩
  · rintro raw hraw -
    cases hraw
    exact Or.inl (by decide)
  · rintro raw hraw -
    cases hraw

/-- The agent the resource is assigned to reports a state of twenty-four characters, a health of
eleven characters whose twentieth byte is the first of two, and then a state, a status and a health
with U+0000 in it: the first two do not keep to the limits, and none is written. -/
theorem report_unfit :
    let long : AgentReportInput := ⟨"waiting for the registry", none, 1⟩
    let accented : AgentReportInput := ⟨"running", some [("health", .str "aéééééééééé")], 1⟩
    let nulls : List AgentReportInput := [⟨"run\x00ning", none, 1⟩,
      ⟨"running", some [("message", .arr [.str "\x00"])], 1⟩,
      ⟨"running", some [("health", .str "\x00")], 1⟩]
    (pulled7.resources.get? 7).map (fun r ↦ (r.agentID,
        (agentReportParams plainEnv 20 r long 10).fits,
        (agentReportParams plainEnv 20 r accented 10).fits)) = some (some 1, false, false) ∧
      (long :: accented :: nulls).map (fun input ↦
        ((Call.applyAgentReport 1 7 input 10).run plainEnv pulled7 20).2.isOk) =
          [false, false, false, false, false] := by
  decide

end Maintainerd

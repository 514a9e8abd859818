import Maintainerd.Resource.Step

/-!
# The retry budget

A `failed` report counts an attempt, and the report that brings the attempts of a row to the budget
parks it.  So a row that is armed again should get its whole budget: between an operation that arms
it and the report that parks it, the budget's worth of failures.

The argument is about one number.  `Charged u n` says that one more failure would leave the attempts
of the row at `n + 1` at most, and every step of the service keeps it, as `n` counts the failures
(`charged_step`).  It says *one more failure* and not *the attempts* because the counter is an
`int32` and wraps round; wrapping can only make the row last longer.

An arming operation starts the count from nothing when it sets the attempts back, and `Delete` is
the one that does not.  `full_budget_iff_afresh` says that this is the whole of it: a row gets its
full budget exactly when it was armed afresh.  A row that had used a part of its budget is parked as
`failed` before its teardown was tried that often (`teardown_parked_early`).

The counters are charged by the state of a report alone, and not by the revision it is about.
`report_spares_budget_iff` says which reports leave the budget alone: not one that failed, and not
one that converged either, unless there was nothing to reset.  So a late report on an old revision
can park the new one (`stale_report_parks`).
-/

set_option autoImplicit false

namespace Maintainerd

open Machine Postgres

/-! ## Arming, failing, parking -/

/-- The calls that arm a row: it is to be tried, or it has converged. -/
def Call.arming : Call → Bool
  | .updateSpec _ _ => true
  | .updateStatus _ _ => false
  | .delete _ => true
  | .applyAgentReport _ _ input _ => input.state == "running"
  | .redispatchSystem _ => true

/-- The request arms the row, and goes through. -/
def arms (env : Env) (u : Uuid) (db : Db) (q : Request) : Bool :=
  match q.op with
  | .create uuid _ =>
    uuid == u && (db.resources.get? u).isNone && ((step env db q).resources.get? u).isSome
  | .call c => c.id == u && c.arming && c.written env db q.now
  | _ => false

/-- The request is a report of the owner that the row failed, and it is applied. -/
def failure (env : Env) (u : Uuid) (db : Db) (q : Request) : Bool :=
  match q.op with
  | .call (.applyAgentReport a id input b) =>
    id == u && input.state == "failed" &&
      (Call.applyAgentReport a id input b).written env db q.now
  | _ => false

/-- The request is a report on the row that takes it into the state `failed`. -/
def parks (env : Env) (u : Uuid) (db : Db) (q : Request) : Bool :=
  match q.op with
  | .call (.applyAgentReport _ id _ _) =>
    id == u && (db.resources.get? u).any (·.state != "failed") &&
      ((step env db q).resources.get? u).any (·.state == "failed")
  | _ => false

/-- If the request reports on the row, it does so with the budget `B`. -/
def Request.budgeted (u : Uuid) (B : Int) (q : Request) : Bool :=
  match q.op with
  | .call (.applyAgentReport _ id _ b) => id != u || b == B
  | _ => true

/-- From here on the row gets its full budget, whatever the budget is: whichever report parks it,
the failures up to that report are as many. -/
def FullBudget (env : Env) (u : Uuid) (db : Db) : Prop :=
  ∀ B : Int, 1 ≤ B → ∀ (qs : List Request) (park : Request),
    (∀ q ∈ qs ++ [park], q.budgeted u B = true) →
    parks env u (run (step env) db qs) park = true →
    B ≤ tally (step env) (failure env u) db (qs ++ [park])

/-- The request arms the row with its attempts set back.  That is what every arming request does but
`Delete`, which leaves the attempts as they are. -/
def armsAfresh (u : Uuid) (db : Db) (q : Request) : Bool :=
  match q.op with
  | .call (.delete _) =>
    (db.resources.get? u).all fun r ↦ decide (Text.int32 (r.attempts + 1) ≤ 1)
  | _ => true

/-! ## The count behind the budget -/

/-- One more failure leaves the attempts of the row at `n + 1` at most. -/
def Charged (u : Uuid) (n : ℕ) (db : Db) : Prop :=
  ∃ r, db.resources.get? u = some r ∧ Text.int32 (r.attempts + 1) ≤ n + 1

theorem int32_attempts_zero (n : ℕ) : Text.int32 (0 + 1) ≤ (n : Int) + 1 := by
  have : Text.int32 (0 + 1) = 1 := by decide
  omega

/-- A failure that is counted charges one more. -/
theorem int32_attempts_succ {x : Int} {n : ℕ} (h : Text.int32 x ≤ n + 1) :
    Text.int32 (Text.int32 x + 1) ≤ (n + 1 : ℕ) + 1 := by
  have hlow := Text.neg_le_int32 x
  have hle := Text.int32_le (x := Text.int32 x + 1) (by omega)
  push_cast
  omega

/-- **One step charges what it counts.** -/
theorem charged_step (env : Env) (u : Uuid) (n : ℕ) (db : Db) (q : Request)
    (h : Charged u n db) : Charged u (n + (failure env u db q).toNat) (step env db q) := by
  obtain ⟨r, hr, hn⟩ := h
  have hkeep : ∀ r', (step env db q).resources.get? u = some r' → r'.attempts = r.attempts →
      Charged u (n + (failure env u db q).toNat) (step env db q) := fun r' hr' he ↦
    ⟨r', hr', by rw [he]; push_cast; omega⟩
  obtain ⟨r', hr', hstep⟩ := step_get? env q hr
  generalize ho : q.op = o at hstep
  cases hstep with
  | spec _ _ => exact ⟨_, hr', int32_attempts_zero _⟩
  | redispatch _ _ => exact ⟨_, hr', int32_attempts_zero _⟩
  | @report a input b _ _ =>
    rcases hw : (Call.applyAgentReport a u input b).written env db q.now with _ | _
    · -- the database refused the report, so the row is what it was
      exact hkeep r (by rw [step_of_not_written ho hw, hr]) rfl
    · refine ⟨_, hr', ?_⟩
      show Text.int32 ((agentReportParams env q.now r input b).attempts + 1) ≤ _
      rw [agentReportParams_attempts]
      split_ifs with hrun hfail
      · exact int32_attempts_zero _
      · have hcount : failure env u db q = true := by simp [failure, ho, hfail, hw]
        rw [hcount]
        exact int32_attempts_succ hn
      · push_cast
        omega
  | _ => exact hkeep _ hr' rfl

/-- A report that parks a row is a failure, and the last one of its budget. -/
theorem budget_le_of_parks {env : Env} {u : Uuid} {n : ℕ} {B : Int} {db : Db} {q : Request}
    (h : Charged u n db) (hB : 1 ≤ B) (hq : q.budgeted u B = true)
    (hpark : parks env u db q = true) : failure env u db q = true ∧ B ≤ n + 1 := by
  obtain ⟨r, hr, hn⟩ := h
  obtain ⟨r', hr', hstep⟩ := step_get? env q hr
  rw [parks, hr, hr'] at hpark
  rw [Request.budgeted] at hq
  generalize ho : q.op = o at hstep hpark hq
  cases hstep with
  | same =>
    split at hpark
    · simp only [Option.any_some, Bool.and_eq_true, bne_iff_ne, beq_iff_eq] at hpark
      exact absurd hpark.2 hpark.1.2
    · cases hpark
  | @report a input b _ _ =>
    simp only [bne_self_eq_false, Bool.false_or, beq_iff_eq] at hq
    simp only [beq_self_eq_true, Bool.true_and, Option.any_some, Bool.and_eq_true,
      bne_iff_ne, ne_eq, beq_iff_eq] at hpark
    obtain ⟨hbefore, hafter⟩ := hpark
    have hwrites : (agentReportParams env q.now r input b).state = "failed" :=
      (ApplyAgentReportParams.patch_state_iff _ q.now r (by decide)).mp hafter
    cases agentReportParams_case env q.now r input b with
    | parked hs hb _ _ _ =>
      refine ⟨?_, ?_⟩
      · rcases hw : (Call.applyAgentReport a u input b).written env db q.now with _ | _
        · -- a report that was refused would have left the row where it was
          rw [step_of_not_written ho hw, hr] at hr'
          exact absurd (congrArg Resource.state (Option.some.inj hr') ▸ hafter) hbefore
        · simp [failure, ho, hs, hw]
      · rw [hq, effectiveBudget, if_neg (by omega)] at hb
        omega
    | silent _ hstate _ _ => exact absurd (hstate.symm.trans hwrites) hbefore
    | observed _ hfail _ _ hstate _ _ => exact absurd (hstate.symm.trans hwrites) hfail
    | converged _ hstate _ _ => simp [hstate] at hwrites
    | retried _ _ hstate _ _ => split at hstate <;> simp [hstate] at hwrites
    | finalized _ _ hstate _ _ => simp [hstate] at hwrites
  | _ => simp at hpark

/-- Whatever is charged with nothing gets its full budget. -/
theorem fullBudget_of_charged {env : Env} {u : Uuid} {db : Db} (h : Charged u 0 db) :
    FullBudget env u db := by
  intro B hB qs park hbudget hpark
  have hrun := invariant_tally (p := failure env u) qs h (charged_step env u)
  obtain ⟨hfail, hle⟩ := budget_le_of_parks hrun hB (hbudget park (by simp)) hpark
  rw [tally_append, tally_singleton, hfail]
  push_cast at hle ⊢
  simpa using hle

/-! ## The budget an arming grants -/

/-- What an arming call leaves of the attempts. -/
theorem attempts_of_arming {env : Env} {db : Db} {now : Int} {c : Call} {r : Resource}
    {st : Statement} (harm : c.arming = true) (h : c.plan env db now r = .ok st) :
    (st.patch now r).attempts = 0 ∨
      c = .delete c.id ∧ (st.patch now r).attempts = r.attempts := by
  cases c with
  | updateSpec id input =>
    obtain ⟨p, -, rfl⟩ := Call.plan_updateSpec h
    exact Or.inl rfl
  | updateStatus id input => cases harm
  | delete id =>
    cases h
    exact Or.inr ⟨rfl, rfl⟩
  | applyAgentReport a id input b =>
    obtain ⟨-, rfl⟩ := Call.plan_report h
    simp only [Call.arming, beq_iff_eq] at harm
    refine Or.inl ?_
    show (agentReportParams env now r input b).attempts = 0
    rw [agentReportParams_attempts, if_pos harm]
  | redispatchSystem id =>
    obtain ⟨-, rfl⟩ := Call.plan_redispatch h
    exact Or.inl rfl

/-- The row that a `Create` leaves. -/
theorem row_of_arms_create {env : Env} {u uuid : Uuid} {db : Db} {now : Int} {input : CreateInput}
    (h : arms env u db ⟨now, .create uuid input⟩ = true) :
    ∃ p : CreateResourceParams, ∃ id,
      (step env db ⟨now, .create uuid input⟩).resources.get? u = some (p.row now id) := by
  simp only [arms, Bool.and_eq_true, Option.isNone_iff_eq_none] at h
  obtain ⟨⟨-, hnone⟩, hsome⟩ := h
  rcases step_get?_none env ⟨now, .create uuid input⟩ hnone with hget | ⟨_, p, id, -, -, hget⟩
  · rw [hget] at hsome
    cases hsome
  · exact ⟨p, id, hget⟩

/-- A row that is armed afresh is charged with nothing. -/
theorem charged_of_armsAfresh {env : Env} {u : Uuid} {db : Db} {q : Request}
    (harm : arms env u db q = true) (hfresh : armsAfresh u db q = true) :
    Charged u 0 (step env db q) := by
  obtain ⟨now, o⟩ := q
  cases o with
  | create uuid input =>
    obtain ⟨p, id, hget⟩ := row_of_arms_create harm
    exact ⟨_, hget, int32_attempts_zero 0⟩
  | call c =>
    simp only [arms, Bool.and_eq_true, beq_iff_eq] at harm
    obtain ⟨⟨rfl, harming⟩, hw⟩ := harm
    obtain ⟨r, st, hr, -, hplan, hget⟩ := Call.written_spec hw
    refine ⟨_, hget, ?_⟩
    rcases attempts_of_arming harming hplan with hzero | ⟨hc, hkept⟩
    · rw [hzero]
      exact int32_attempts_zero 0
    · rw [armsAfresh, hc] at hfresh
      replace hr : db.resources.get? (Call.delete c.id).id = some r := hr
      rw [hr, Option.all_some, decide_eq_true_eq] at hfresh
      rw [hkept]
      exact_mod_cast hfresh
  | claimForAgent a limit ttl locked => cases harm
  | flagHostUnreachable id => cases harm

/-- **A failed report of the owner is written**, unless its health is cut inside a character, or it
or the status holds U+0000. -/
theorem written_failed {env : Env} {db : Db} {now : Int} {u : Uuid} {r : Resource} {a : Int}
    {input : AgentReportInput} {b : Int} (hr : db.resources.get? u = some r)
    (hlive : r.live = true) (hown : r.agentID = some a) (hs : input.state = "failed")
    (hhealth : (resolveHealth env r.health input.state (input.status.getD [])).any text = true)
    (hstatus : jsonb (input.status.getD r.status) = true) :
    (Call.applyAgentReport a u input b).written env db now = true := by
  obtain ⟨h, hh, htext⟩ := (Option.any_eq_true _ _).mp hhealth
  have hstate : varchar 20 (agentReportParams env now r input b).state = true := by
    rw [(agentReportParams_of_failed env now r b hs).1]
    split_ifs <;> decide
  have hfits : varchar 20 h = true :=
    (varchar_of_length_le (length_resolveHealth (by simp [hs]) hh)).trans htext
  obtain ⟨hwrites, hcuts⟩ := agentReportParams_status env now r input b
  rw [Call.written_report hr hlive hown, ApplyAgentReportParams.storable, hstate, hcuts, hh,
    Option.any_some, hfits, hwrites, hstatus]
  rfl

/-- A row with an owner that is being torn down with a part of its budget used can be parked by a
single failure, whatever number that failure makes of the attempts. -/
theorem not_fullBudget_of_used {env : Env} {u : Uuid} {db : Db} {r : Resource} {a : Int}
    (hr : db.resources.get? u = some r) (hlive : r.live = true) (hown : r.agentID = some a)
    (hstate : r.state = "deleting") (hused : 1 < Text.int32 (r.attempts + 1)) :
    ¬FullBudget env u db := by
  intro hfull
  -- the budget is the very number the next failure brings the attempts to
  set B := Text.int32 (r.attempts + 1) with hB
  let report : Call := .applyAgentReport a u ⟨"failed", some [], 0⟩ B
  have hw : report.written env db 0 = true := written_failed hr hlive hown rfl rfl rfl
  have hparked : (agentReportParams env 0 r ⟨"failed", some [], 0⟩ B).state = "failed" := by
    rw [(agentReportParams_of_failed env 0 r B rfl).1, if_pos]
    rw [effectiveBudget, if_neg (by omega)]
  have hparks : parks env u db ⟨0, .call report⟩ = true := by
    have hafter : (step env db ⟨0, .call report⟩).resources.get? u
        = some ((agentReportParams env 0 r ⟨"failed", some [], 0⟩ B).patch 0 r) :=
      Call.get?_of_written_report hr hw
    simp only [parks, report, hr, Option.any_some, hstate, beq_self_eq_true, Bool.true_and,
      Bool.and_eq_true]
    refine ⟨by decide, ?_⟩
    rw [hafter, Option.any_some, beq_iff_eq]
    exact (ApplyAgentReportParams.patch_state_iff _ 0 r (by decide)).mpr hparked
  have hle := hfull B (by omega) [] ⟨0, .call report⟩ (by simp [Request.budgeted, report]) hparks
  rw [List.nil_append, tally_singleton] at hle
  have := Bool.toNat_le (failure env u db ⟨0, .call report⟩)
  omega

/-- **A row gets its full budget when it was armed afresh**, and a row with an owner only then.  The
row is armed by any request that arms it, in any database; after it any requests follow.  Whatever
the budget, and whichever report parks the row, that report is not earlier than the last failure of
the budget. -/
theorem full_budget_iff_afresh (env : Env) (u : Uuid) (db : Db) (q : Request)
    (harm : arms env u db q = true) :
    (armsAfresh u db q = true → FullBudget env u (step env db q)) ∧
      ((∀ r ∈ db.resources.get? u, r.agentID.isSome) → FullBudget env u (step env db q) →
        armsAfresh u db q = true) := by
  refine ⟨fun hfresh ↦ fullBudget_of_charged (charged_of_armsAfresh harm hfresh), ?_⟩
  intro howned hfull
  obtain ⟨now, o⟩ := q
  cases o with
  | call c =>
    cases c with
    | delete id =>
      simp only [arms, Bool.and_eq_true, beq_iff_eq] at harm
      obtain ⟨⟨rfl, -⟩, hw⟩ := harm
      obtain ⟨r, st, hr, hlive, hplan, hget⟩ := Call.written_spec hw
      cases hplan
      replace hr : db.resources.get? id = some r := hr
      obtain ⟨a, ha⟩ := Option.isSome_iff_exists.mp (howned r hr)
      show (db.resources.get? id).all _ = true
      rw [hr, Option.all_some, decide_eq_true_eq]
      by_contra hused
      exact not_fullBudget_of_used hget hlive ha rfl (by exact Int.not_le.mp hused) hfull
    | _ => rfl
  | _ => rfl

/-- A row is created, fails once of two attempts, and is deleted: the teardown is given one. -/
theorem teardown_parked_early :
    let db := run (step plainEnv) emptyProject (createAndPull ++ [reportOn7 30 "failed" 0 2])
    let arm : Request := ⟨40, .call (.delete 7)⟩
    let qs : List Request := [⟨10 ^ 8, .claimForAgent 1 20 0 []⟩]
    let park := reportOn7 (10 ^ 8 + 10) "failed" 0 2
    arms plainEnv 7 db arm = true ∧ (∀ q ∈ qs ++ [park], q.budgeted 7 2 = true) ∧
      (shipped (step plainEnv db arm) ⟨10 ^ 8, .claimForAgent 1 20 0 []⟩).map
        (fun i ↦ (i.resourceUuid, i.envelope.teardown)) = [(7, true)] ∧
      parks plainEnv 7 (run (step plainEnv) (step plainEnv db arm) qs) park = true ∧
      tally (step plainEnv) (failure plainEnv 7) (step plainEnv db arm) (qs ++ [park]) = 1 := by
  decide

/-- A row that is created and deleted at once is armed afresh. -/
theorem full_budget_iff_afresh_deleted :
    let db := run (step plainEnv) emptyProject createAndPull
    let arm : Request := ⟨40, .call (.delete 7)⟩
    arms plainEnv 7 db arm = true ∧ FullBudget plainEnv 7 (step plainEnv db arm) := by
  intro db arm
  have harm : arms plainEnv 7 db arm = true := by decide
  exact ⟨harm, (full_budget_iff_afresh plainEnv 7 db arm harm).1 (by decide)⟩

/-! ## Reports on an old revision -/

/-- **Which reports spare the retry budget.**  A report of the owner is applied.  It leaves the
attempts and the backoff alone and does not park the row, exactly when it is not a failure, and is
no convergence that has anything to reset.  The revision the report is about does not come into it:
a report on an old revision is charged to the new one. -/
theorem report_spares_budget_iff (env : Env) (db : Db) (now : Int) (a : Int) (u : Uuid)
    (r : Resource) (input : AgentReportInput) (b : Int) (hr : db.resources.get? u = some r)
    (happlied : (Call.applyAgentReport a u input b).written env db now = true) :
    ∃ r', ((Call.applyAgentReport a u input b).run env db now).1.resources.get? u = some r' ∧
      ((r'.attempts = r.attempts ∧ r'.nextAttemptAt = r.nextAttemptAt ∧
          (r'.state = "failed" → r.state = "failed")) ↔
        input.state ≠ "failed" ∧
          (input.state = "running" → r.attempts = 0 ∧ r.nextAttemptAt = none)) := by
  refine ⟨_, Call.get?_of_written_report hr happlied, ?_⟩
  rw [ApplyAgentReportParams.patch_state_iff _ now r (by decide)]
  show ((agentReportParams env now r input b).attempts = r.attempts ∧
    (agentReportParams env now r input b).nextAttemptAt = r.nextAttemptAt ∧
    ((agentReportParams env now r input b).state = "failed" → r.state = "failed")) ↔ _
  rw [agentReportParams_attempts, agentReportParams_nextAttemptAt]
  by_cases hfail : input.state = "failed"
  · have hne := Text.int32_succ_ne r.attempts
    simp [hfail, hne]
  by_cases hrun : input.state = "running"
  · have hstate : (agentReportParams env now r input b).state = "running" := by
      simp [agentReportParams, hrun]
    simp [hrun, hstate, eq_comm]
  · have hstate : (agentReportParams env now r input b).state = "failed" → r.state = "failed" := by
      intro hp
      cases agentReportParams_case env now r input b with
      | silent _ h => rw [← h, hp]
      | observed _ _ _ _ h => exact absurd (h.symm.trans hp) hfail
      | finalized _ _ h => simp [h] at hp
      | converged hs => exact absurd hs hrun
      | parked hs => exact absurd hs hfail
      | retried hs => exact absurd hs hfail
    simpa [hfail, hrun] using hstate

/-- The row 7 after its spec was changed while its agent was at work on the first revision. -/
def respecifiedAtWork : Db :=
  run (step plainEnv) emptyProject
    (createAndPull ++ [⟨20, .call (.updateSpec 7 ⟨some [("image", .str "web:2")], none⟩)⟩])

/-- The agent reports that the first revision exited, and the budget of the second is untouched. -/
theorem report_spares_budget_iff_exited :
    ∃ r r', respecifiedAtWork.resources.get? 7 = some r ∧ 1 < r.generation ∧
      ((Call.applyAgentReport 1 7 ⟨"exited", none, 1⟩ 1).run plainEnv respecifiedAtWork
        30).1.resources.get? 7 = some r' ∧
      r'.attempts = r.attempts ∧ r'.nextAttemptAt = r.nextAttemptAt ∧
      (r'.state = "failed" → r.state = "failed") := by
  have hgen : (respecifiedAtWork.resources.get? 7).map Resource.generation = some 2 := by decide
  obtain ⟨r, hr, hg⟩ := Option.map_eq_some_iff.mp hgen
  obtain ⟨r', hr', hiff⟩ := report_spares_budget_iff plainEnv respecifiedAtWork 30 1 7 r
    ⟨"exited", none, 1⟩ 1 hr (by decide)
  exact ⟨r, r', hr, by omega, hr', hiff.mpr ⟨by decide, fun h ↦ absurd h (by decide)⟩⟩

/-- **A late failure of the old revision parks the new one.**  The agent reports that the first
revision failed, of which it was the only attempt, and the second is parked untried. -/
theorem stale_report_parks :
    let db := step plainEnv respecifiedAtWork (reportOn7 30 "failed" 1 1)
    (respecifiedAtWork.resources.get? 7).map
        (fun r ↦ (r.generation, r.observedGeneration, r.attempts, r.state))
      = some (2, 0, 0, "pending") ∧
    (Call.applyAgentReport 1 7 ⟨"failed", none, 1⟩ 1).written plainEnv respecifiedAtWork 30 = true ∧
    (db.resources.get? 7).map (fun r ↦ (r.generation, r.attempts, r.state))
      = some (2, 1, "failed") := by
  decide

end Maintainerd

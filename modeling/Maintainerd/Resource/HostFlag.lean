import Maintainerd.Resource.Step

/-!
# The flag of an unreachable host

`FlagHostUnreachable` writes `host_unreachable` into the status of a row and `unknown` into its
health, and answers whether it did: a row that carries the flag already is left alone, so that one
outage is escalated once.  Nothing takes the flag back.  It is meant to go away with the next report
of the agent, which replaces the status.

A report has two ways of not replacing what it finds, and each of them keeps a half of the flag.  A
report without a status keeps the status, and a `running` report without a health keeps the health.
`report_unflags_iff` says that there is nothing else to it, whatever state the row is in.  The
second outage of a host is flagged exactly when the status was replaced in between
(`flagged_again_iff_replaced`): a flag that was kept makes the next outage go unnoticed
(`outage_unnoticed`).
-/

set_option autoImplicit false

namespace Maintainerd

open Machine

/-! ## The flag, and the reports that clear it -/

/-- Neither half of the flag is there. -/
def Resource.unflagged (r : Resource) : Bool :=
  (r.status.lookup "host_unreachable").isNone && r.health != "unknown"

/-- A status that does not mention the flag. -/
def unmentioned (status : Option JsonMap) : Bool :=
  status.all fun m ↦ (m.lookup "host_unreachable").isNone

/-- A report that says nothing about the flag, in either of its halves. -/
def AgentReportInput.plain (input : AgentReportInput) : Bool :=
  unmentioned input.status && input.status.all fun m ↦ (m.lookup "health").isNone

/-- What a report has to be to clear the flag: with a status, unless there is no flag in the status
of the row; and not `running`, unless the health of the row is known. -/
def AgentReportInput.unflags (r : Resource) (input : AgentReportInput) : Bool :=
  (input.status.isSome || (r.status.lookup "host_unreachable").isNone) &&
    (input.state != "running" || r.health != "unknown")

/-- A report without a health writes the old one or none. -/
theorem resolveHealth_of_plain {env : Env} {current : String} {input : AgentReportInput}
    (h : input.plain = true) :
    resolveHealth env current input.state (input.status.getD []) =
      some (if input.state = "running" then current else "") := by
  have hnone : (input.status.getD []).lookup "health" = none := by
    rcases hs : input.status with _ | m
    · rfl
    · simp only [AgentReportInput.plain, hs, Option.all_some, Bool.and_eq_true] at h
      exact Option.isNone_iff_eq_none.mp h.2
  simp only [resolveHealth, hnone]
  split <;> rfl

/-- **Which reports clear the flag.**  Any report of the owner that says nothing about the flag
itself, on any row. -/
theorem report_unflags_iff {env : Env} {db : Db} {now : Int} {a : Int} {u : Uuid} {r : Resource}
    {input : AgentReportInput} {b : Int} (hr : db.resources.get? u = some r)
    (hplain : input.plain = true)
    (hw : (Call.applyAgentReport a u input b).written env db now = true) :
    ∃ r', ((Call.applyAgentReport a u input b).run env db now).1.resources.get? u = some r' ∧
      (r'.unflagged = true ↔ input.unflags r = true) := by
  refine ⟨_, Call.get?_of_written_report hr hw, ?_⟩
  obtain ⟨hstatus, hhealth⟩ := agentReportParams_status env now r input b
  rw [resolveHealth_of_plain hplain] at hhealth
  have hunflagged : ((agentReportParams env now r input b).patch now r).unflagged =
      (((input.status.getD r.status).lookup "host_unreachable").isNone &&
        (if input.state = "running" then r.health else "") != "unknown") := by
    rw [Resource.unflagged]
    show (((agentReportParams env now r input b).status.lookup "host_unreachable").isNone &&
      ((agentReportParams env now r input b).health.map (Postgres.clip 20)).getD r.health !=
        "unknown") = _
    rw [hstatus, hhealth, Option.map_some, Option.getD_some, Postgres.bne_clip (by decide)]
  rw [hunflagged, AgentReportInput.unflags]
  rcases hs : input.status with _ | m
  · by_cases hrun : input.state = "running" <;> simp [hrun]
  · simp only [AgentReportInput.plain, unmentioned, hs, Option.all_some, Bool.and_eq_true] at hplain
    by_cases hrun : input.state = "running" <;> simp [hrun, hplain.1]

/-! ## One outage and the next -/

/-- The request replaces the status of the row, and goes through. -/
def replacesStatus (env : Env) (u : Uuid) (db : Db) (q : Request) : Bool :=
  match q.op with
  | .call (.applyAgentReport a id input b) =>
    id == u && input.status.isSome && (Call.applyAgentReport a id input b).written env db q.now
  | .call (.updateStatus id input) =>
    id == u && input.status.isSome && (Call.updateStatus id input).written env db q.now
  | _ => false

/-- The request does not flag the row itself, nor does it carry a status that mentions the flag. -/
def Request.quiet (u : Uuid) (q : Request) : Bool :=
  match q.op with
  | .call (.applyAgentReport _ id input _) => id != u || unmentioned input.status
  | .call (.updateStatus id input) => id != u || unmentioned input.status
  | .flagHostUnreachable id => id != u
  | _ => true

/-- The flag of the row is there as long as no status was replaced, and gone after that. -/
def FlagKept (u : Uuid) (n : ℕ) (db : Db) : Prop :=
  ∃ r, db.resources.get? u = some r ∧
    (n = 0 → JsonMap.textIs r.status "host_unreachable" "true" = true) ∧
    (0 < n → r.status.lookup "host_unreachable" = none)

theorem unmentioned_some {m : JsonMap} (h : unmentioned (some m) = true) :
    m.lookup "host_unreachable" = none := by
  rw [unmentioned, Option.all_some] at h
  exact Option.isNone_iff_eq_none.mp h

/-- A quiet request that replaces the status clears the flag. -/
theorem lookup_of_replacesStatus {env : Env} {u : Uuid} {db : Db} {q : Request}
    (hq : q.quiet u = true) (h : replacesStatus env u db q = true) :
    ∃ r, (step env db q).resources.get? u = some r ∧ r.status.lookup "host_unreachable" = none := by
  obtain ⟨now, o⟩ := q
  rw [replacesStatus] at h
  rw [Request.quiet] at hq
  split at h
  · rename_i a id input b ho
    simp only at ho
    subst ho
    simp only [Bool.and_eq_true, beq_iff_eq] at h
    obtain ⟨⟨rfl, hs⟩, hw⟩ := h
    obtain ⟨m, hm⟩ := Option.isSome_iff_exists.mp hs
    obtain ⟨r, st, hr, -, hplan, hget⟩ := Call.written_spec hw
    obtain ⟨-, rfl⟩ := Call.plan_report hplan
    refine ⟨_, hget, ?_⟩
    show (agentReportParams env now r input b).status.lookup "host_unreachable" = none
    rw [(agentReportParams_status env now r input b).1, hm, Option.getD_some]
    simp only [bne_self_eq_false, Bool.false_or, hm] at hq
    exact unmentioned_some hq
  · rename_i id input ho
    simp only at ho
    subst ho
    simp only [Bool.and_eq_true, beq_iff_eq] at h
    obtain ⟨⟨rfl, hs⟩, hw⟩ := h
    obtain ⟨m, hm⟩ := Option.isSome_iff_exists.mp hs
    obtain ⟨r, st, hr, -, hplan, hget⟩ := Call.written_spec hw
    cases hplan
    refine ⟨_, hget, ?_⟩
    show (input.status.getD r.status).lookup "host_unreachable" = none
    rw [hm, Option.getD_some]
    simp only [bne_self_eq_false, Bool.false_or, hm] at hq
    exact unmentioned_some hq
  · cases h

/-- A quiet request that does not replace the status leaves it. -/
theorem status_of_not_replacesStatus {env : Env} {u : Uuid} {db : Db} {q : Request} {r : Resource}
    (hr : db.resources.get? u = some r) (hq : q.quiet u = true)
    (h : replacesStatus env u db q = false) :
    ∃ r', (step env db q).resources.get? u = some r' ∧ r'.status = r.status := by
  obtain ⟨r', hr', hstep⟩ := step_get? env q hr
  refine ⟨r', hr', ?_⟩
  have hrefused : ∀ c, q.op = .call c → c.written env db q.now = false → r' = r := by
    intro c ho hw
    rw [step_of_not_written ho hw, hr] at hr'
    exact (Option.some.inj hr').symm
  generalize ho : q.op = o at hstep hrefused
  cases hstep with
  | @report a input b _ _ =>
    rcases hs : input.status with _ | m
    · show (agentReportParams env q.now r input b).status = r.status
      rw [(agentReportParams_status env q.now r input b).1, hs]
      rfl
    · rw [hrefused _ rfl (by simpa [replacesStatus, ho, hs] using h)]
  | @status input _ =>
    rcases hs : input.status with _ | m
    · show input.status.getD r.status = r.status
      rw [hs]
      rfl
    · rw [hrefused _ rfl (by simpa [replacesStatus, ho, hs] using h)]
  | flag _ => simp [Request.quiet, ho] at hq
  | _ => rfl

theorem flagKept_step {env : Env} {u : Uuid} {n : ℕ} {db : Db} {q : Request}
    (h : FlagKept u n db) (hq : q.quiet u = true) :
    FlagKept u (n + (replacesStatus env u db q).toNat) (step env db q) := by
  obtain ⟨r, hr, hkept, hgone⟩ := h
  rcases hrep : replacesStatus env u db q with _ | _
  · obtain ⟨r', hr', hstatus⟩ := status_of_not_replacesStatus hr hq hrep
    exact ⟨r', hr', by rw [hstatus]; exact hkept, by rw [hstatus]; exact hgone⟩
  · obtain ⟨r', hr', hnone⟩ := lookup_of_replacesStatus hq hrep
    exact ⟨r', hr', fun h0 ↦ absurd h0 (by simp), fun _ ↦ hnone⟩

/-- Whatever a call of `FlagHostUnreachable` found on a live row, the flag is there after it. -/
theorem flagKept_of_flag {env : Env} {u : Uuid} {db : Db} {now : Int}
    (hlive : (getResourceByUUID db u).isSome = true) :
    FlagKept u 0 (step env db ⟨now, .flagHostUnreachable u⟩) := by
  obtain ⟨r, hr⟩ := Option.isSome_iff_exists.mp hlive
  obtain ⟨hget, hlive'⟩ := getResourceByUUID_eq_some.mp hr
  show FlagKept u 0 (flagHostUnreachable db now u).1
  rcases hflag : JsonMap.textIs r.status "host_unreachable" "true" with _ | _
  · obtain ⟨db', hflagged, hget'⟩ := flagHostUnreachable_of_unflagged now hget hlive' hflag
    rw [hflagged]
    refine ⟨_, hget', fun _ ↦ ?_, fun h ↦ absurd h (by decide)⟩
    show ((JsonMap.concat r.status _).lookup "host_unreachable").any _ = true
    rw [JsonMap.lookup_concat_of_some rfl]
    rfl
  · rw [flagHostUnreachable_of_flagged (by rw [hr]; exact hflag)]
    exact ⟨r, hget, fun _ ↦ hflag, fun h ↦ absurd h (by decide)⟩

/-- What the next call of `FlagHostUnreachable` answers. -/
theorem flagHostUnreachable_of_flagKept {u : Uuid} {n : ℕ} {db : Db} {now : Int}
    (h : FlagKept u n db) (hlive : (getResourceByUUID db u).isSome = true) :
    (flagHostUnreachable db now u).2 = .ok (.flagged (decide (0 < n))) := by
  obtain ⟨r, hget, hkept, hgone⟩ := h
  obtain ⟨x, hr⟩ := Option.isSome_iff_exists.mp hlive
  obtain ⟨hx, hlive'⟩ := getResourceByUUID_eq_some.mp hr
  obtain rfl : r = x := Option.some.inj (hget.symm.trans hx)
  rcases Nat.eq_zero_or_pos n with rfl | hpos
  · rw [flagHostUnreachable_of_flagged (by rw [hr]; exact hkept rfl)]
    rfl
  · have hunflagged : JsonMap.textIs r.status "host_unreachable" "true" = false := by
      simp [JsonMap.textIs, hgone hpos]
    obtain ⟨db', hflagged, -⟩ := flagHostUnreachable_of_unflagged now hget hlive' hunflagged
    rw [hflagged, decide_eq_true hpos]

/-- **The next outage is flagged exactly when the status was replaced since the last one.**  A live
row is flagged, requests that say nothing about the flag follow, and the row is still live: the next
call of `FlagHostUnreachable` answers whether one of them replaced its status. -/
theorem flagged_again_iff_replaced {env : Env} {u : Uuid} {db : Db} {now now' : Int}
    {qs : List Request} (hlive : (getResourceByUUID db u).isSome = true)
    (hqs : ∀ q ∈ qs, q.quiet u = true)
    (hlive' : (getResourceByUUID
      (run (step env) (step env db ⟨now, .flagHostUnreachable u⟩) qs) u).isSome = true) :
    (flagHostUnreachable (run (step env) (step env db ⟨now, .flagHostUnreachable u⟩) qs) now' u).2
      = .ok (.flagged (decide (0 < tally (step env) (replacesStatus env u)
          (step env db ⟨now, .flagHostUnreachable u⟩) qs))) := by
  have hguard : Guarded (step env) (fun _ q ↦ q.quiet u = true)
      (step env db ⟨now, .flagHostUnreachable u⟩) qs := guarded_of_forall fun _ q hq ↦ hqs q hq
  have hkept := hguard.tallied (flagKept_of_flag hlive) fun n s q hs hq ↦ flagKept_step hs hq
  rw [Nat.zero_add] at hkept
  exact flagHostUnreachable_of_flagKept hkept hlive'

/-- **The flag of an unreachable host clears exactly when both its halves are written over.**  The
first part is about one report of the owner that says nothing about the flag itself, on any row; the
second is about a whole run from one outage to the next. -/
theorem host_flag_clears_iff (env : Env) (u : Uuid) :
    (∀ (db : Db) (now a : Int) (r : Resource) (input : AgentReportInput) (b : Int),
      db.resources.get? u = some r → input.plain = true →
      (Call.applyAgentReport a u input b).written env db now = true →
      ∃ r', ((Call.applyAgentReport a u input b).run env db now).1.resources.get? u = some r' ∧
        (r'.unflagged = true ↔ input.unflags r = true)) ∧
    ∀ (db : Db) (now now' : Int) (qs : List Request), (getResourceByUUID db u).isSome = true →
      (∀ q ∈ qs, q.quiet u = true) →
      let db₁ := step env db ⟨now, .flagHostUnreachable u⟩
      (getResourceByUUID (run (step env) db₁ qs) u).isSome = true →
      (flagHostUnreachable (run (step env) db₁ qs) now' u).2
        = .ok (.flagged (decide (0 < tally (step env) (replacesStatus env u) db₁ qs))) :=
  ⟨fun _ _ _ _ _ _ hr hplain hw ↦ report_unflags_iff hr hplain hw,
    fun _ _ _ _ hlive hqs hlive' ↦ flagged_again_iff_replaced hlive hqs hlive'⟩

/-- The row 7 at work, when its host is first flagged. -/
def flagged7 : Db :=
  run (step plainEnv) emptyProject (createAndPull ++ [⟨20, .flagHostUnreachable 7⟩])

/-- The agent comes back and reports that the workload exited, with a status; the next outage is
flagged. -/
theorem host_flag_clears_iff_exited :
    let report : Call := .applyAgentReport 1 7 ⟨"exited", some [("code", .num 1 0)], 1⟩ 10
    (∃ r', (report.run plainEnv flagged7 30).1.resources.get? 7 = some r' ∧ r'.unflagged = true) ∧
      (flagHostUnreachable (step plainEnv flagged7 ⟨30, .call report⟩) 40 7).2
        = .ok (.flagged true) := by
  intro report
  obtain ⟨hone, hrun⟩ := host_flag_clears_iff plainEnv 7
  have hrow : (flagged7.resources.get? 7).isSome = true := by decide
  obtain ⟨r, hr⟩ := Option.isSome_iff_exists.mp hrow
  obtain ⟨r', hr', hiff⟩ := hone flagged7 30 1 r ⟨"exited", some [("code", .num 1 0)], 1⟩ 10 hr
    rfl (by decide)
  have hagain := hrun (run (step plainEnv) emptyProject createAndPull) 20 40
    [⟨30, .call report⟩] (by decide) (by decide) (by decide)
  have hcount : tally (step plainEnv) (replacesStatus plainEnv 7) (step plainEnv
      (run (step plainEnv) emptyProject createAndPull) ⟨20, .flagHostUnreachable 7⟩)
      [⟨30, .call report⟩] = 1 := by decide
  rw [hcount] at hagain
  exact ⟨⟨r', hr', hiff.mpr rfl⟩, hagain⟩

/-- **The second outage of a host goes unnoticed.**  The host is flagged; the agent comes back and
reports without a status that its workload runs, or that it exited; the flag and the health are as
they were, and the next call of `FlagHostUnreachable` says that there is nothing to flag.  With a
status and no health in it, a running workload keeps the health `unknown`. -/
theorem outage_unnoticed :
    let seen := fun db : Db ↦ (db.resources.get? 7).map fun r ↦
      (JsonMap.textIs r.status "host_unreachable" "true", r.health)
    let answer := fun db : Db ↦
      match (flagHostUnreachable db 40 7).2 with
      | .ok (.flagged b) => some b
      | _ => none
    let running := step plainEnv flagged7 (reportOn7 30 "running" 1 10)
    let exited := step plainEnv flagged7 (reportOn7 30 "exited" 1 10)
    let replaced := step plainEnv flagged7
      ⟨30, .call (.applyAgentReport 1 7 ⟨"running", some [("pid", .num 1 0)], 1⟩ 10)⟩
    seen running = some (true, "unknown") ∧ seen exited = some (true, "") ∧
      seen replaced = some (false, "unknown") ∧
      answer running = some false ∧ answer exited = some false := by
  decide

end Maintainerd

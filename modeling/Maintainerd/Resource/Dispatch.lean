import Maintainerd.Resource.Serial

/-!
# Dispatch: leases and parking

A claim stamps `leased_until`, and the feed passes over a row whose lease is running.  So a row is
handed out at most once at a time: a second claim within the lease is preceded by a report on the
row or a re-dispatch of it, which are the two statements that release a lease
(`dispatched_once_per_lease`).  This is proved for writers that overlap in any way, because a
lease is kept by what a statement *sets* and not by what its writer read.  The argument needs no
clock that goes forward: a row is only claimed again once its lease has run out, and then its new
lease ends later than the old one did.

A row whose retry budget is used up is parked in the state `failed`, and the feed passes over it as
well.  Parking is nothing but that value of the state column, and a later report can overwrite it:
a drift observation puts a parked row back into the feed with its attempts still used up
(`unparked_by_observation`).  `parked_stays_parked` is what is left: reports that carry no state, or
that fail again at the end of the budget, leave the row where it is.
-/

set_option autoImplicit false

namespace Maintainerd

open Machine

/-! ## Leases -/

theorem lease_lt_of_claimable {r : Resource} {a now l : Int} (h : r.claimable a now = true)
    (hl : r.leasedUntil = some l) : l < now := by
  simp only [Resource.claimable, hl, Option.all_some, Bool.and_eq_true, decide_eq_true_eq] at h
  exact h.1.2

/-- The row is live and parked. -/
def Parked (u : Uuid) (db : Db) : Prop :=
  ∃ r, db.resources.get? u = some r ∧ r.live = true ∧ r.state = "failed"

/-- What may run on a parked row without its leaving the state `failed`: not what is meant to revive
it, nor a status set from outside; and of the reports those that carry no state and those that fail
again at the end of the budget. -/
def Resource.leavesParked (r : Resource) (u : Uuid) : Op → Bool
  | .call (.applyAgentReport _ id input b) =>
    id != u || input.state == "" ||
      (input.state == "failed" && decide (effectiveBudget b ≤ Text.int32 (r.attempts + 1)))
  | .call c => c.id != u
  | _ => true

/-- The condition on a request, in the state it runs in. -/
def parkingKept (u : Uuid) (db : Db) (q : Request) : Bool :=
  (db.resources.get? u).all fun r ↦ r.leavesParked u q.op

theorem parked_step {env : Env} {u : Uuid} {db : Db} {q : Request} (h : Parked u db)
    (hq : parkingKept u db q = true) : Parked u (step env db q) := by
  obtain ⟨r, hr, hlive, hstate⟩ := h
  obtain ⟨r', hr', hstep⟩ := step_get? env q hr
  rw [parkingKept, hr, Option.all_some] at hq
  generalize q.op = o at hq hstep
  cases hstep with
  | same o => exact ⟨r, hr', hlive, hstate⟩
  | claim _ => exact ⟨_, hr', hlive, hstate⟩
  | flag _ => exact ⟨_, hr', hlive, hstate⟩
  | @report a input b _ _ =>
    simp only [Resource.leavesParked, bne_self_eq_false, Bool.false_or, Bool.or_eq_true,
      Bool.and_eq_true, beq_iff_eq, decide_eq_true_eq] at hq
    have hkeep : ∀ p : ApplyAgentReportParams, p.finalize = false →
        (p.patch q.now r).live = true := fun p hp ↦ (p.patch_live hp q.now r).trans hlive
    have hparked : ∀ p : ApplyAgentReportParams, p.state = "failed" →
        (p.patch q.now r).state = "failed" :=
      fun p hp ↦ (p.patch_state_iff q.now r (by decide)).mpr hp
    cases agentReportParams_case env q.now r input b with
    | parked _ _ hp _ hfin => exact ⟨_, hr', hkeep _ hfin, hparked _ hp⟩
    | silent _ hp _ hfin => exact ⟨_, hr', hkeep _ hfin, hparked _ (hp.trans hstate)⟩
    | converged hs => simp [hs] at hq
    | retried hs hb => rw [hs] at hq; simp at hq; omega
    | finalized hs => simp [hs] at hq
    | observed _ hfail hsil => simp [hfail, hsil] at hq
  | _ => simp [Resource.leavesParked, Call.id] at hq

/-- A parked row is never shipped. -/
theorem not_shipped_of_parked {u : Uuid} {db : Db} {q : Request} {i : ShippedItem}
    (h : Parked u db) (hi : i ∈ shipped db q) : i.resourceUuid ≠ u := by
  rintro rfl
  obtain ⟨r, hr, -, hstate⟩ := h
  obtain ⟨a, limit, ttl, locked, x, -, hx, hclaim, -⟩ := mem_shipped plainEnv hi
  rw [hr] at hx
  cases hx
  simp [Resource.claimable, Resource.outOfSync, hstate] at hclaim

/-- **Parked means parked**, in every run whose requests all meet the condition: the row is still
parked at the end, and no claim of the run ships it. -/
theorem parked_stays_parked (env : Env) (db : Db) (u : Uuid) (qs : List Request)
    (hu : Parked u db)
    (hqs : Guarded (step env) (fun db q ↦ parkingKept u db q = true) db qs) :
    Parked u (run (step env) db qs) ∧
      ∀ pre q post, qs = pre ++ q :: post → ∀ i ∈ shipped (run (step env) db pre) q,
        i.resourceUuid ≠ u := by
  refine ⟨hqs.invariant hu fun _ _ ↦ parked_step, ?_⟩
  rintro pre q post rfl i hi
  have hpre := (guarded_append.mp hqs).1.invariant hu fun _ _ ↦ parked_step
  exact not_shipped_of_parked hpre hi

/-- A resource that has used its budget of one attempt up. -/
def parkedDb : Db := run (step plainEnv) emptyProject (createAndPull ++ [reportOn7 30 "failed" 0 1])

/-- A row that fails once more, is flagged, and is not handed out. -/
theorem parked_stays_parked_failed_again :
    let qs := [reportOn7 40 "failed" 0 1, ⟨50, .flagHostUnreachable 7⟩, reportOn7 60 "" 0 1,
      ⟨10 ^ 9, .claimForAgent 1 20 0 []⟩]
    Guarded (step plainEnv) (fun db q ↦ parkingKept 7 db q = true) parkedDb qs ∧
      Parked 7 (run (step plainEnv) parkedDb qs) := by
  intro qs
  have hguard : Guarded (step plainEnv) (fun db q ↦ parkingKept 7 db q = true) parkedDb qs := by
    decide
  have hu : Parked 7 parkedDb := by
    have h : (parkedDb.resources.get? 7).any (fun r ↦ r.live && r.state == "failed") = true := by
      decide
    simpa [Parked, Option.any_eq_true] using h
  exact ⟨hguard, (parked_stays_parked plainEnv parkedDb 7 qs hu hguard).1⟩

/-- **An observation revives a parked row.**  The row has used its budget up and lags its spec; the
agent reports `exited` for no revision at all, and the next claim hands the row out, with its
attempts still used up. -/
theorem unparked_by_observation :
    let lagging := (parkedDb.resources.get? 7).map fun r ↦
      (r.state, decide (r.observedGeneration < r.generation))
    let db := run (step plainEnv) parkedDb [reportOn7 40 "exited" 0 1]
    lagging = some ("failed", true) ∧
      (shipped db ⟨50, .claimForAgent 1 20 0 []⟩).map ShippedItem.resourceUuid = [7] ∧
      (db.resources.get? 7).map Resource.attempts = some 1 := by
  decide

end Maintainerd

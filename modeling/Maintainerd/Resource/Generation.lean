import Maintainerd.Resource.Step

/-!
# Generation bookkeeping

`generation` is the desired revision of a resource and `observed_generation` the revision its agent
last answered for; a row is in the work feed while the second lags the first.  So one would like
`0 ≤ observed_generation ≤ generation` to hold throughout, and neither to go back.

The two counters are written from several places, and one of them trusts its caller.  A report
writes `GREATEST(observed_generation, $4)` with the number the agent sent, and `UpdateStatus`
overwrites the column with the number it was given.  An agent that answers for a revision that does
not exist yet therefore takes its row out of the feed for every revision up to that one
(`observed_beyond_generation`).

`countersKept` is what has to be asked of a request, in the state it runs in, and
`counters_of_guarded` is the bookkeeping for every run that meets it.
-/

set_option autoImplicit false

namespace Maintainerd

open Machine

/-- The two counters of a row are in order. -/
def Resource.counted (r : Resource) : Prop :=
  0 ≤ r.observedGeneration ∧ r.observedGeneration ≤ r.generation

/-- Neither counter went back. -/
def Resource.advances (r r' : Resource) : Prop :=
  r.generation ≤ r'.generation ∧ r.observedGeneration ≤ r'.observedGeneration

/-- What has to be asked of an operation on the row `r` of uuid `u`.  A report that is not a failure
nor the end of a teardown answers for a revision there is; a status set from outside that names a
revision names one between the two counters. -/
def Resource.acceptsCounters (r : Resource) (u : Uuid) : Op → Bool
  | .call (.applyAgentReport _ id input _) =>
    id != u || input.state == "failed" || (input.state == "removed" && r.state == "deleting") ||
      decide (input.observedGeneration ≤ r.generation)
  | .call (.updateStatus id input) =>
    id != u || decide (input.observedGeneration ≤ 0) ||
      (decide (r.observedGeneration ≤ input.observedGeneration) &&
        decide (input.observedGeneration ≤ r.generation))
  | _ => true

/-- The condition on a request, in the state it runs in. -/
def countersKept (u : Uuid) (db : Db) (q : Request) : Bool :=
  (db.resources.get? u).all fun r ↦ r.acceptsCounters u q.op

theorem Resource.counted.of_le {r r' : Resource} (h : r.counted)
    (hgen : r.generation ≤ r'.generation) (hobs : r.observedGeneration ≤ r'.observedGeneration)
    (hle : r'.observedGeneration ≤ r'.generation) : r'.counted ∧ r.advances r' :=
  ⟨⟨h.1.trans hobs, hle⟩, hgen, hobs⟩

/-- What a report answers for is no revision beyond the row's, when the condition is met. -/
theorem reported_le_generation {env : Env} {now : Int} {r : Resource} {input : AgentReportInput}
    {a b : Int} {u : Uuid} (hr : r.counted)
    (hq : r.acceptsCounters u (.call (.applyAgentReport a u input b)) = true) :
    (agentReportParams env now r input b).observedGeneration ≤ r.generation := by
  have hzero : 0 ≤ r.generation := hr.1.trans hr.2
  simp only [Resource.acceptsCounters, bne_self_eq_false, Bool.false_or, Bool.or_eq_true,
    Bool.and_eq_true, beq_iff_eq, decide_eq_true_eq, or_assoc] at hq
  cases agentReportParams_case env now r input b with
  | parked _ _ _ hobs => exact hobs ▸ hzero
  | retried _ _ _ hobs => exact hobs ▸ hzero
  | finalized _ _ _ hobs => exact hobs.le
  | converged hs _ hobs => rw [hobs]; simpa [hs] using hq
  | silent hs _ hobs => rw [hobs]; simpa [hs] using hq
  | observed _ hfail _ hrem _ hobs =>
    rw [hobs]
    rcases hq with hq | ⟨hs, hdel⟩ | hq
    · exact absurd hq hfail
    · exact absurd hdel (hrem hs)
    · exact hq

/-- One write of a row that meets the condition keeps the counters in order and moves neither of
them back. -/
theorem RowStep.counted {env : Env} {db : Db} {q : Request} {u : Uuid} {r r' : Resource}
    (h : RowStep env db q.now u r q.op r') (hget : db.resources.get? u = some r)
    (hr : r.counted) (hq : countersKept u db q = true) : r'.counted ∧ r.advances r' := by
  rw [countersKept, hget, Option.all_some] at hq
  have hsucc : r.generation ≤ r.generation + 1 := by omega
  generalize q.op = o at h hq
  cases h with
  | same o => exact hr.of_le le_rfl le_rfl hr.2
  | delete _ => exact hr.of_le le_rfl le_rfl hr.2
  | claim _ => exact hr.of_le le_rfl le_rfl hr.2
  | flag _ => exact hr.of_le le_rfl le_rfl hr.2
  | spec _ _ => exact hr.of_le hsucc le_rfl (hr.2.trans hsucc)
  | redispatch _ _ => exact hr.of_le hsucc le_rfl (hr.2.trans hsucc)
  | @status input _ =>
    have hobs : ((updateStatusParams r input).patch q.now r).observedGeneration =
        if 0 < input.observedGeneration then input.observedGeneration
        else r.observedGeneration := rfl
    split_ifs at hobs with hpos
    · simp only [Resource.acceptsCounters, bne_self_eq_false, Bool.false_or, Bool.or_eq_true,
        Bool.and_eq_true, decide_eq_true_eq] at hq
      obtain ⟨hfrom, hto⟩ := hq.resolve_left (by omega)
      exact hr.of_le le_rfl (hobs ▸ hfrom) (hobs ▸ hto)
    · exact hr.of_le le_rfl hobs.ge (hobs ▸ hr.2)
  | @report a input b _ _ =>
    exact hr.of_le le_rfl (le_max_left _ _) (max_le hr.2 (reported_le_generation hr hq))

/-! ## Runs -/

/-- The row of uuid `u`, if it is there, has its counters in order. -/
def Counted (u : Uuid) (db : Db) : Prop := ∀ r, db.resources.get? u = some r → r.counted

/-- Between two states, neither counter of the row went back, and the row did not go away. -/
def Advances (u : Uuid) (db db' : Db) : Prop :=
  ∀ r, db.resources.get? u = some r → ∃ r', db'.resources.get? u = some r' ∧ r.advances r'

theorem counted_step {env : Env} {u : Uuid} {db : Db} {q : Request} (h : Counted u db)
    (hq : countersKept u db q = true) : Counted u (step env db q) := by
  intro r' hr'
  rcases hget : db.resources.get? u with _ | r
  · rcases step_get?_none env q hget with hnone | ⟨input, p, id, -, -, hrow⟩
    · rw [hnone] at hr'
      cases hr'
    · obtain rfl : p.row q.now id = r' := by rw [hrow] at hr'; exact Option.some.inj hr'
      exact ⟨le_rfl, zero_le_one⟩
  · obtain ⟨x, hx, hstep⟩ := step_get? env q hget
    obtain rfl : x = r' := by rw [hr'] at hx; exact (Option.some.inj hx).symm
    exact (hstep.counted hget (h r hget) hq).1

theorem advances_step {env : Env} {u : Uuid} {db : Db} {q : Request} (h : Counted u db)
    (hq : countersKept u db q = true) : Advances u db (step env db q) := by
  intro r hget
  obtain ⟨x, hx, hstep⟩ := step_get? env q hget
  exact ⟨x, hx, (hstep.counted hget (h r hget) hq).2⟩

theorem Advances.refl (u : Uuid) (db : Db) : Advances u db db :=
  fun r hr ↦ ⟨r, hr, le_rfl, le_rfl⟩

theorem Advances.trans {u : Uuid} {a b c : Db} (h : Advances u a b) (h' : Advances u b c) :
    Advances u a c := by
  intro r hr
  obtain ⟨r', hr', hgen, hobs⟩ := h r hr
  obtain ⟨r'', hr'', hgen', hobs'⟩ := h' r' hr'
  exact ⟨r'', hr'', hgen.trans hgen', hobs.trans hobs'⟩

/-- The request is a new spec for the row or a re-dispatch of it, and it was answered without an
error. -/
def Rearms (env : Env) (u : Uuid) (db : Db) (q : Request) : Prop :=
  ((∃ input, q.op = .call (.updateSpec u input)) ∨ q.op = .call (.redispatchSystem u)) ∧
    ∃ reply, (apply env db q).2 = .ok reply

/-- A row that has just been given a spec or re-dispatched lags, and is in the feed. -/
theorem rearmed {env : Env} {u : Uuid} {db : Db} {q : Request} (h : Counted u db)
    (hq : Rearms env u db q) :
    ∃ r, (step env db q).resources.get? u = some r ∧ r.observedGeneration < r.generation ∧
      r.outOfSync = true := by
  obtain ⟨now, o⟩ := q
  obtain ⟨hop, reply, hreply⟩ := hq
  have hfeed : ∀ r : Resource, r.live = true → r.state = "pending" →
      r.observedGeneration < r.generation → r.outOfSync = true := by
    intro r hlive hstate hlt
    simp [Resource.outOfSync, hlive, hstate, hlt]
  rcases hop with ⟨input, rfl⟩ | rfl
  · obtain ⟨r, st, hr, hlive, hplan, hget⟩ := Call.run_eq_ok (by intro id e; cases e) hreply
    obtain ⟨p, -, rfl⟩ := Call.plan_updateSpec hplan
    have hlt : r.observedGeneration < r.generation + 1 := Int.lt_add_one_of_le (h r hr).2
    exact ⟨_, hget, hlt, hfeed _ hlive rfl hlt⟩
  · obtain ⟨r, st, hr, hlive, hplan, hget⟩ := Call.run_eq_ok (by intro id e; cases e) hreply
    obtain ⟨-, rfl⟩ := Call.plan_redispatch hplan
    have hlt : r.observedGeneration < r.generation + 1 := Int.lt_add_one_of_le (h r hr).2
    exact ⟨_, hget, hlt, hfeed _ hlive rfl hlt⟩

/-- **Generation bookkeeping.**  In every run whose requests all meet the condition in the state
they run in, the counters of the row are in order at the end, neither of them goes back between
two states of the run, and every new spec and every re-dispatch leaves the row lagging and in the
feed. -/
theorem counters_of_guarded (env : Env) (db : Db) (u : Uuid) (qs : List Request)
    (hu : Counted u db)
    (hqs : Guarded (step env) (fun db q ↦ countersKept u db q = true) db qs) :
    Counted u (run (step env) db qs) ∧
      (∀ pre post, qs = pre ++ post →
        Advances u (run (step env) db pre) (run (step env) db qs)) ∧
      ∀ pre q post, qs = pre ++ q :: post → Rearms env u (run (step env) db pre) q →
        ∃ r, (run (step env) db (pre ++ [q])).resources.get? u = some r ∧
          r.observedGeneration < r.generation ∧ r.outOfSync = true := by
  have hcounted : ∀ pre post, qs = pre ++ post → Counted u (run (step env) db pre) := by
    rintro pre post rfl
    exact (guarded_append.mp hqs).1.invariant hu fun _ _ ↦ counted_step
  refine ⟨hqs.invariant hu fun _ _ ↦ counted_step, ?_, ?_⟩
  · rintro pre post rfl
    rw [run_append]
    exact (guarded_append.mp hqs).2.relates (hcounted pre post rfl) (Advances.refl u)
      (fun _ _ _ ↦ Advances.trans) (fun _ _ ↦ counted_step) fun _ _ ↦ advances_step
  · intro pre q post hsplit hq
    rw [run_append]
    exact rearmed (hcounted pre _ hsplit) hq

/-- A life of a row: it converges, gets a new spec, fails, and converges again. -/
theorem counters_of_guarded_lifecycle :
    let qs := createAndPull ++ [reportOn7 30 "running" 1 10,
      ⟨40, .call (.updateSpec 7 ⟨some [], none⟩)⟩, reportOn7 50 "failed" 9 10,
      reportOn7 60 "running" 2 10]
    Guarded (step plainEnv) (fun db q ↦ countersKept 7 db q = true) emptyProject qs ∧
      Counted 7 (run (step plainEnv) emptyProject qs) := by
  intro qs
  have hqs : Guarded (step plainEnv) (fun db q ↦ countersKept 7 db q = true) emptyProject qs := by
    decide
  have hu : Counted 7 emptyProject := fun r hr ↦ by cases hr
  exact ⟨hqs, (counters_of_guarded plainEnv emptyProject 7 qs hu hqs).1⟩

/-- **An agent can answer for a revision there is not.**  The row has one generation, the agent
reports its ninth, and the new spec that follows leaves the row out of the feed; and a status set
from outside takes the counter back. -/
theorem observed_beyond_generation :
    let ahead := createAndPull ++ [reportOn7 30 "running" 9 10]
    let respecced : List Request := [⟨40, .call (.updateSpec 7 ⟨some [], none⟩)⟩]
    let back : List Request := [⟨50, .call (.updateStatus 7 ⟨none, "", 1⟩)⟩]
    columnOf7 Resource.generation ahead = some 1 ∧
      columnOf7 Resource.observedGeneration ahead = some 9 ∧
      columnOf7 Resource.generation (ahead ++ respecced) = some 2 ∧
      columnOf7 Resource.outOfSync (ahead ++ respecced) = some false ∧
      columnOf7 Resource.observedGeneration (ahead ++ respecced ++ back) = some 1 := by
  decide

end Maintainerd

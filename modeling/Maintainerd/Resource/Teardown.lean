import Maintainerd.Resource.Step

/-!
# Teardown

`Delete` does not erase a row.  It flips it to the state `deleting`, the feed ships it to its agent
with `teardown` set, and only the agent's `removed` report stamps `deleted_at`.  Two things are
worth knowing about that protocol, and both are about runs: that the intent to tear a row down is
not lost on the way, and that nothing is torn down that nobody asked for.

Neither holds without conditions.  The report handler writes whatever state the agent sends into
the very column the protocol lives in, so

* a `running` report, or any drift observation, takes a row out of `deleting`
  (`teardown_lost`), and so does the `failed` report that uses up the attempt budget, by design;
* an agent that reports `deleting` and then `removed` has deleted the row by itself
  (`deleted_by_its_agent`).

What is left is proved: `tearingDown_until` says how a teardown ends when the agent keeps to the
states of the protocol, and `deletedAt_none_of_unrequested` that nothing else stamps a row.
-/

set_option autoImplicit false

namespace Maintainerd

open Machine

/-! ## A teardown, and how it can end -/

/-- The row is live and its desired state is teardown. -/
def TearingDown (u : Uuid) (db : Db) : Prop :=
  ∃ r, db.resources.get? u = some r ∧ r.live = true ∧ r.state = "deleting"

/-- The row has been stamped. -/
def Stamped (u : Uuid) (db : Db) : Prop :=
  ∃ r, db.resources.get? u = some r ∧ r.live = false

/-- The request is a report on `u` in the given state by the agent the row is assigned to, and it
takes the row from `r` to `r'`. -/
def OwnerReport (env : Env) (u : Uuid) (state : String) (db : Db) (q : Request) (budget : Int)
    (r r' : Resource) : Prop :=
  ∃ a input, q.op = .call (.applyAgentReport a u input budget) ∧ input.state = state ∧
    db.resources.get? u = some r ∧ r.agentID = some a ∧
    (step env db q).resources.get? u = some r'

/-- The `removed` report of the owner that stamps the row. -/
def Finalizes (env : Env) (u : Uuid) (db : Db) (q : Request) : Prop :=
  ∃ b r r', OwnerReport env u "removed" db q b r r' ∧ r'.deletedAt = some q.now

/-- The `failed` report of the owner that uses the budget up. -/
def Parks (env : Env) (u : Uuid) (db : Db) (q : Request) : Prop :=
  ∃ b r r', OwnerReport env u "failed" db q b r r' ∧
    effectiveBudget b ≤ Text.int32 (r.attempts + 1) ∧ r'.state = "failed"

/-- What may run on a row without its teardown being called off: everything but a new spec, a
status set from outside, and a report outside the states of the protocol. -/
def respectsTeardown (u : Uuid) : Op → Bool
  | .call (.updateSpec id _) => id != u
  | .call (.updateStatus id _) => id != u
  | .call (.applyAgentReport _ id input _) =>
    id != u || ["", "failed", "removed", "deleting"].contains input.state
  | _ => true

/-- One step of a teardown: it goes on, or the request is one of the two that end it. -/
theorem tearingDown_step {env : Env} {u : Uuid} {db : Db} {q : Request} (h : TearingDown u db)
    (hq : respectsTeardown u q.op = true) :
    TearingDown u (step env db q) ∨ Finalizes env u db q ∨ Parks env u db q := by
  obtain ⟨r, hr, hlive, hstate⟩ := h
  obtain ⟨r', hr', hstep⟩ := step_get? env q hr
  generalize ho : q.op = o at hq hstep
  cases hstep with
  | same o => exact Or.inl ⟨r, hr', hlive, hstate⟩
  | spec _ hp => simp [respectsTeardown] at hq
  | status _ => simp [respectsTeardown] at hq
  | delete _ => exact Or.inl ⟨_, hr', hlive, rfl⟩
  | redispatch _ hne => exact absurd hstate hne
  | claim hclaim => exact Or.inl ⟨_, hr', hlive, hstate⟩
  | flag _ => exact Or.inl ⟨_, hr', hlive, hstate⟩
  | @report a input b _ hown =>
    have hrep : ∀ s, input.state = s → OwnerReport env u s db q b r _ :=
      fun s hs ↦ ⟨a, input, ho, hs, hr, hown, hr'⟩
    have hkeep : ∀ p : ApplyAgentReportParams, p.finalize = false →
        (p.patch q.now r).live = true := fun p hp ↦ (p.patch_live hp q.now r).trans hlive
    have hword : ∀ (p : ApplyAgentReportParams) (word : String), word.length < 20 →
        p.state = word → (p.patch q.now r).state = word :=
      fun p word hlen hp ↦ (p.patch_state_iff q.now r hlen).mpr hp
    -- each branch of the handler either writes `deleting` again or is an end of the teardown
    cases agentReportParams_case env q.now r input b with
    | converged hs => simp [respectsTeardown, hs] at hq
    | parked hs hb hp hobs hfin =>
      exact Or.inr (Or.inr ⟨b, r, _, hrep _ hs, hb, hword _ _ (by decide) hp⟩)
    | retried hs hb hp hobs hfin =>
      exact Or.inl ⟨_, hr', hkeep _ hfin, hword _ _ (by decide) (hp.trans (if_pos hstate))⟩
    | finalized hs hdel hp hobs hfin =>
      refine Or.inr (Or.inl ⟨b, r, _, hrep _ hs, ?_⟩)
      simp [ApplyAgentReportParams.patch, hfin]
    | silent hs hp hobs hfin =>
      exact Or.inl ⟨_, hr', hkeep _ hfin, hword _ _ (by decide) (hp.trans hstate)⟩
    | observed hrun hfail hsil hrem hp hobs hfin =>
      have hs : input.state = "deleting" := by
        simp only [respectsTeardown, bne_self_eq_false, Bool.false_or, List.contains_cons,
          Bool.or_eq_true, beq_iff_eq] at hq
        rcases hq with hq | hq | hq | hq | hq
        · exact absurd hq hsil
        · exact absurd hq hfail
        · exact absurd hstate (hrem hq)
        · exact hq
        · cases hq
      exact Or.inl ⟨_, hr', hkeep _ hfin, hword _ _ (by decide) (hp.trans hs)⟩

/-- A stamped row stays stamped: nothing writes it any more. -/
theorem stamped_step {env : Env} {u : Uuid} {db : Db} {q : Request} (h : Stamped u db) :
    Stamped u (step env db q) := by
  obtain ⟨r, hr, hdead⟩ := h
  obtain ⟨r', hr', hstep⟩ := step_get? env q hr
  rw [hstep.eq_of_not_live hdead] at hr'
  exact ⟨r, hr', hdead⟩

theorem stamped_of_finalizes {env : Env} {u : Uuid} {db : Db} {q : Request}
    (h : Finalizes env u db q) : Stamped u (step env db q) := by
  obtain ⟨b, r, r', ⟨a, input, -, -, -, -, hr'⟩, hdel⟩ := h
  exact ⟨r', hr', by rw [Resource.live, hdel]; rfl⟩

/-- Up to the report that parks it, a row that was to be torn down is, or is stamped. -/
theorem tearingDown_or_stamped_step {env : Env} {u : Uuid} {db : Db} {q : Request}
    (h : TearingDown u db ∨ Stamped u db) (hq : respectsTeardown u q.op = true) :
    (TearingDown u (step env db q) ∨ Stamped u (step env db q)) ∨ Parks env u db q := by
  rcases h with htear | hstamp
  · rcases tearingDown_step htear hq with hkeep | hfin | hpark
    · exact Or.inl (Or.inl hkeep)
    · exact Or.inl (Or.inr (stamped_of_finalizes hfin))
    · exact Or.inr hpark
  · exact Or.inl (Or.inr (stamped_step hstamp))

/-- A stamped row is never shipped. -/
theorem not_shipped_of_stamped {u : Uuid} {db : Db} {q : Request} {i : ShippedItem}
    (h : Stamped u db) (hi : i ∈ shipped db q) : i.resourceUuid ≠ u := by
  rintro rfl
  obtain ⟨r, hr, hdead⟩ := h
  obtain ⟨a, limit, ttl, locked, x, -, hx, hclaim, -⟩ := mem_shipped plainEnv hi
  obtain rfl : x = r := by rw [hr] at hx; exact (Option.some.inj hx).symm
  rw [live_of_claimable hclaim] at hdead
  cases hdead

/-- A row that is being torn down is shipped as that. -/
theorem teardown_of_tearingDown {u : Uuid} {db : Db} {q : Request} {i : ShippedItem}
    (h : TearingDown u db) (hi : i ∈ shipped db q) (hu : i.resourceUuid = u) :
    i.envelope.teardown = true := by
  obtain ⟨r, hr, -, hstate⟩ := h
  obtain ⟨a, limit, ttl, locked, x, -, hx, -, hship, -⟩ := mem_shipped plainEnv hi
  obtain rfl : x = r := by rw [hu, hr] at hx; exact (Option.some.inj hx).symm
  rw [hship, ship_toWorkItem_teardown]
  exact beq_iff_eq.mpr hstate

/-- `Delete` starts the teardown of a live row. -/
theorem tearingDown_delete {env : Env} {u : Uuid} {db : Db} (now : Int)
    (hu : (getResourceByUUID db u).isSome = true) :
    TearingDown u (step env db ⟨now, .call (.delete u)⟩) := by
  obtain ⟨r, hr⟩ := Option.isSome_iff_exists.mp hu
  obtain ⟨hget, hlive⟩ := getResourceByUUID_eq_some.mp hr
  obtain ⟨db', hex⟩ : ∃ db', markResourceDeleting db now u = .ok (db', deletingPatch now r) :=
    updateResource_of_get? _ hget hlive rfl rfl
  have hstep : step env db ⟨now, .call (.delete u)⟩ = db' := by
    show ((Statement.markResourceDeleting u).write db now).1 = db'
    rw [Statement.write, show (Statement.markResourceDeleting u).exec db now = _ from hex]
  obtain ⟨x, hx, -, -, -, -, -, hget'⟩ := updateResource_spec hex
  obtain rfl : x = r := by rw [hget] at hx; exact (Option.some.inj hx).symm
  exact ⟨deletingPatch now x, by rw [hstep, hget', if_pos rfl], hlive, rfl⟩

/-- **How a teardown ends.**  `Delete` has put a row in the state `deleting`, and then any requests
run that do not give the row a new spec, set its status from outside, or report it in a state
outside the protocol.  The row is still in the state `deleting`, or it was until the `removed`
report of its owner stamped it, or until the `failed` report of its owner that used the budget up.
And a pull ships the row with `teardown` set, unless such a failed report came before it. -/
theorem tearingDown_until (env : Env) (db : Db) (u : Uuid) (now : Int) (qs : List Request)
    (hu : (getResourceByUUID db u).isSome = true)
    (hqs : ∀ q ∈ qs, respectsTeardown u q.op = true) :
    let db₁ := step env db ⟨now, .call (.delete u)⟩
    (TearingDown u (run (step env) db₁ qs) ∨
      ∃ pre q post, qs = pre ++ q :: post ∧ TearingDown u (run (step env) db₁ pre) ∧
        (Finalizes env u (run (step env) db₁ pre) q ∨ Parks env u (run (step env) db₁ pre) q)) ∧
    ∀ pre q post, qs = pre ++ q :: post → ∀ i ∈ shipped (run (step env) db₁ pre) q,
      i.resourceUuid = u → i.envelope.teardown = true ∨
        ∃ pre' q' post', pre = pre' ++ q' :: post' ∧ Parks env u (run (step env) db₁ pre') q' := by
  intro db₁
  have hdel : TearingDown u db₁ := tearingDown_delete now hu
  have hguard : Guarded (step env) (fun _ q ↦ respectsTeardown u q.op = true) db₁ qs :=
    guarded_of_forall fun _ q hq ↦ hqs q hq
  refine ⟨hguard.until hdel fun s q ↦ tearingDown_step, ?_⟩
  rintro pre q post rfl i hi hu
  -- up to the report that parks it, the row is being torn down or is stamped
  have huntil := (guarded_append.mp hguard).1.until (I := fun s ↦ TearingDown u s ∨ Stamped u s)
    (E := Parks env u) (Or.inl hdel) fun s q hs hq ↦ tearingDown_or_stamped_step hs hq
  rcases huntil with (htear | hstamp) | ⟨pre', q', post', hpre, -, hpark⟩
  · exact Or.inl (teardown_of_tearingDown htear hi hu)
  · exact absurd hu (not_shipped_of_stamped hstamp hi)
  · exact Or.inr ⟨pre', q', post', hpre, hpark⟩

/-- A teardown that fails once, is shipped again and is then answered. -/
theorem tearingDown_until_retried :
    let db := run (step plainEnv) emptyProject createAndPull
    let db₁ := step plainEnv db ⟨20, .call (.delete 7)⟩
    let qs := [reportOn7 30 "failed" 0 10, ⟨10 ^ 9, .claimForAgent 1 20 0 []⟩,
      reportOn7 (10 ^ 9 + 1) "removed" 0 10]
    (getResourceByUUID db 7).isSome = true ∧ (∀ q ∈ qs, respectsTeardown 7 q.op = true) ∧
      (TearingDown 7 (run (step plainEnv) db₁ qs) ∨
        ∃ pre q post, qs = pre ++ q :: post ∧ TearingDown 7 (run (step plainEnv) db₁ pre) ∧
          (Finalizes plainEnv 7 (run (step plainEnv) db₁ pre) q ∨
            Parks plainEnv 7 (run (step plainEnv) db₁ pre) q)) :=
  ⟨by decide, by decide, (tearingDown_until plainEnv _ 7 20 _ (by decide) (by decide)).1⟩

/-- What the pulls of agent 1 at a given time ship after a run: whether it is a teardown. -/
def teardownsAt (now : Int) (qs : List Request) : List Bool :=
  (shipped (run (step plainEnv) emptyProject qs) ⟨now, .claimForAgent 1 20 0 []⟩).map
    fun i ↦ i.envelope.teardown

/-- **A teardown can be lost.**  The failed report that uses the budget up takes the row out of
`deleting`, and so does a plain `running` report; neither row is stamped, and once the supervisor
has re-dispatched it the next pull ships it as work. -/
theorem teardown_lost :
    let parked := createAndPull ++ [⟨20, .call (.delete 7)⟩, reportOn7 30 "failed" 0 1]
    let answered := createAndPull ++ [⟨20, .call (.delete 7)⟩, reportOn7 30 "running" 1 10]
    let again : List Request := [⟨40, .call (.redispatchSystem 7)⟩]
    columnOf7 Resource.state (createAndPull ++ [⟨20, .call (.delete 7)⟩]) = some "deleting" ∧
      columnOf7 Resource.state parked = some "failed" ∧
      columnOf7 Resource.deletedAt parked = some none ∧
      teardownsAt 50 (parked ++ again) = [false] ∧
      columnOf7 Resource.state answered = some "running" ∧
      columnOf7 Resource.deletedAt answered = some none ∧
      teardownsAt 50 (answered ++ again) = [false] := by
  decide

/-! ## Deletes nobody asked for -/

/-- What may run on a row without anyone asking for its deletion: everything but `Delete`, a status
set from outside, and a report in the state `deleting`. -/
def asksNoDelete (u : Uuid) : Op → Bool
  | .call (.delete id) => id != u
  | .call (.updateStatus id _) => id != u
  | .call (.applyAgentReport _ id input _) => id != u || input.state != "deleting"
  | _ => true

/-- The row, if it is there, is live and not being torn down. -/
def Unasked (u : Uuid) (db : Db) : Prop :=
  ∀ r, db.resources.get? u = some r → r.deletedAt = none ∧ r.state ≠ "deleting"

theorem unasked_step {env : Env} {u : Uuid} {db : Db} {q : Request} (h : Unasked u db)
    (hq : asksNoDelete u q.op = true) : Unasked u (step env db q) := by
  intro r' hr'
  rcases hget : db.resources.get? u with _ | r
  · -- the row has just been made
    rcases step_get?_none env q hget with hnone | ⟨input, p, id, -, -, hrow⟩
    · rw [hnone] at hr'
      cases hr'
    · obtain rfl : p.row q.now id = r' := by rw [hrow] at hr'; exact Option.some.inj hr'
      exact ⟨rfl, by simp [CreateResourceParams.row]⟩
  · obtain ⟨hdel, hstate⟩ := h r hget
    obtain ⟨x, hx, hstep⟩ := step_get? env q hget
    obtain rfl : x = r' := by rw [hr'] at hx; exact (Option.some.inj hx).symm
    generalize q.op = o at hq hstep
    cases hstep with
    | same o => exact ⟨hdel, hstate⟩
    | spec _ hp => exact ⟨hdel, by simp [UpdateResourceSpecParams.patch]⟩
    | status _ => simp [asksNoDelete] at hq
    | delete _ => simp [asksNoDelete] at hq
    | redispatch _ _ => exact ⟨hdel, by simp [redispatchPatch]⟩
    | claim _ => exact ⟨hdel, hstate⟩
    | flag _ => exact ⟨hdel, hstate⟩
    | @report a input b hlive hown =>
      have hs : input.state ≠ "deleting" := by simpa [asksNoDelete] using hq
      have hkeep : ∀ p : ApplyAgentReportParams, p.finalize = false →
          (p.patch q.now r).deletedAt = none :=
        fun p hp ↦ (p.patch_deletedAt hp q.now r).trans hdel
      have hother : ∀ p : ApplyAgentReportParams, p.state ≠ "deleting" →
          (p.patch q.now r).state ≠ "deleting" :=
        fun p hp e ↦ hp ((p.patch_state_iff q.now r (by decide)).mp e)
      cases agentReportParams_case env q.now r input b with
      | converged _ hp _ hfin => exact ⟨hkeep _ hfin, hother _ (ne_of_eq_of_ne hp (by decide))⟩
      | parked _ _ hp _ hfin => exact ⟨hkeep _ hfin, hother _ (ne_of_eq_of_ne hp (by decide))⟩
      | retried _ _ hp _ hfin =>
        rw [if_neg hstate] at hp
        exact ⟨hkeep _ hfin, hother _ (ne_of_eq_of_ne hp (by decide))⟩
      | finalized _ hd => exact absurd hd hstate
      | silent _ hp _ hfin => exact ⟨hkeep _ hfin, hother _ (ne_of_eq_of_ne hp hstate)⟩
      | observed _ _ _ _ hp _ hfin => exact ⟨hkeep _ hfin, hother _ (ne_of_eq_of_ne hp hs)⟩

/-- **No delete nobody requested.**  A row that comes into being in a run is never stamped in it,
as long as no request of the run deletes it, sets its status from outside, or reports it in the
state `deleting`. -/
theorem deletedAt_none_of_unrequested (env : Env) (db : Db) (u : Uuid) (qs : List Request)
    (hu : db.resources.get? u = none) (hqs : ∀ q ∈ qs, asksNoDelete u q.op = true) (r : Resource)
    (hr : (run (step env) db qs).resources.get? u = some r) : r.deletedAt = none := by
  have hguard : Guarded (step env) (fun _ q ↦ asksNoDelete u q.op = true) db qs :=
    guarded_of_forall fun _ q hq ↦ hqs q hq
  have hinv : Unasked u db := fun r hr ↦ by rw [hu] at hr; cases hr
  exact (hguard.invariant hinv (fun _ _ ↦ unasked_step) r hr).1

/-- A row whose agent says it is gone, without having been asked: it is not stamped. -/
theorem deletedAt_none_of_unrequested_removed :
    let qs := createAndPull ++ [reportOn7 30 "running" 1 10, reportOn7 40 "removed" 1 10]
    (∀ q ∈ qs, asksNoDelete 7 q.op = true) ∧
      ∃ r, (run (step plainEnv) emptyProject qs).resources.get? 7 = some r ∧
        r.deletedAt = none := by
  intro qs
  have hsome : ((run (step plainEnv) emptyProject qs).resources.get? 7).isSome = true := by decide
  obtain ⟨r, hr⟩ := Option.isSome_iff_exists.mp hsome
  have hqs : ∀ q ∈ qs, asksNoDelete 7 q.op = true := by decide
  exact ⟨hqs, r, hr, deletedAt_none_of_unrequested plainEnv _ 7 qs rfl hqs r hr⟩

/-- **An agent can delete its row.**  Nobody calls `Delete` nor sets the status from outside; the
agent reports `deleting`, then `removed`, and the row is stamped. -/
theorem deleted_by_its_agent :
    columnOf7 Resource.deletedAt
      (createAndPull ++ [reportOn7 30 "deleting" 0 10, reportOn7 40 "removed" 0 10])
      = some (some 40) := by
  decide

end Maintainerd

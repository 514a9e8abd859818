import Maintainerd.Resource.Columns
import Maintainerd.Resource.Dispatch
import Maintainerd.Resource.Retry

/-!
# Poison pills

A resource whose agent fails every time is to be left alone after a while.  It is handed out as
often as its budget says and no more, and each time a little later than the time before.

This is about one resource and about time, so a run is watched here together with what happened to
that resource: `Trial` is the database, the time, the dispatches and the reports of the resource so
far, and until when the dispatch that is out is to be answered.  `Trial.fair` is the behaviour the
bound is for: the clock does not go back, the owner answers every dispatch with one failed report
while its lease runs, and nobody touches the resource in another way; anything may happen to other
resources, any agent may pull, and hosts may be flagged.

`Trial.Sound` ties the row to the trial, and is kept by each of the three things that can happen: a
dispatch, a report, and anything else.  `poison_pill_bound` is what follows from it.  It holds for
the budgets an `int32` can count to, and as long as the database takes the reports.  It takes a
failed report unless there is U+0000 in its status, or the health in it is longer than 20 bytes and
its twentieth byte is inside a character: then the report changes nothing, and the resource is
handed out again and again as its leases run out (`poison_pill_dispatched_forever`).
-/

set_option autoImplicit false

namespace Maintainerd

open Machine

/-! ## Watching one resource -/

/-- The request hands the resource out. -/
def dispatches (u : Uuid) (db : Db) (q : Request) : Bool :=
  (shipped db q).any fun i ↦ i.resourceUuid == u

/-- The request is a report on the resource by the agent it is assigned to. -/
def ownReport (u : Uuid) (db : Db) (q : Request) : Bool :=
  match q.op with
  | .call (.applyAgentReport a id _ _) =>
    id == u && (db.resources.get? u).any fun r ↦ r.agentID == some a
  | _ => false

theorem ownReport_eq_true {u : Uuid} {db : Db} {q : Request} (h : ownReport u db q = true) :
    ∃ a input b r, q.op = .call (.applyAgentReport a u input b) ∧
      db.resources.get? u = some r ∧ r.agentID = some a := by
  rw [ownReport] at h
  split at h
  · rename_i a id input b ho
    rw [Bool.and_eq_true, beq_iff_eq, Option.any_eq_true] at h
    obtain ⟨rfl, r, hr, ha⟩ := h
    exact ⟨a, input, b, r, ho, hr, beq_iff_eq.mp ha⟩
  · cases h

/-- The database, and what has happened to the resource. -/
structure Trial where
  db : Db
  /-- The time of the last request. -/
  clock : Int
  /-- Until when the dispatch that is out is to be answered. -/
  due : Option Int
  /-- When the resource was handed out. -/
  dispatched : List Int
  /-- When its owner reported on it. -/
  reported : List Int

/-- What a request adds to the trial of the resource `u`. -/
def Trial.step (env : Env) (u : Uuid) (t : Trial) (q : Request) : Trial where
  db := Maintainerd.step env t.db q
  clock := q.now
  due :=
    if dispatches u t.db q then
      ((Maintainerd.step env t.db q).resources.get? u).bind Resource.leasedUntil
    else if ownReport u t.db q then none else t.due
  dispatched := if dispatches u t.db q then t.dispatched ++ [q.now] else t.dispatched
  reported := if ownReport u t.db q then t.reported ++ [q.now] else t.reported

/-- The request creates the resource or changes its spec, and goes through. -/
def specifies (env : Env) (u : Uuid) (db : Db) (q : Request) : Bool :=
  match q.op with
  | .create _ _ => arms env u db q
  | .call (.updateSpec _ _) => arms env u db q
  | _ => false

/-- A trial starts when the resource is specified.  A dispatch of an earlier spec may still be out,
and then it may be `owed` an answer. -/
def Trial.start (env : Env) (u : Uuid) (db : Db) (q : Request) (owed : Bool) : Trial where
  db := Maintainerd.step env db q
  clock := q.now
  due :=
    if owed then ((Maintainerd.step env db q).resources.get? u).bind Resource.leasedUntil else none
  dispatched := []
  reported := []

/-- What the owner of a poison pill does, and what nobody does. -/
def Trial.fair (u : Uuid) (B : Int) (t : Trial) (q : Request) : Bool :=
  decide (t.clock ≤ q.now) && t.due.all (q.now ≤ ·) &&
    match q.op with
    | .call (.applyAgentReport _ _ input b) =>
      !ownReport u t.db q || (t.due.isSome && input.state == "failed" && b == B)
    | .call c => c.id != u
    | _ => true

/-- If the request is a report of the owner, its health is not cut inside a character, and there is
no U+0000 in its status or in its health. -/
def Trial.legible (env : Env) (u : Uuid) (t : Trial) (q : Request) : Bool :=
  match q.op with
  | .call (.applyAgentReport _ _ input _) =>
    !ownReport u t.db q ||
      ((resolveHealth env "" input.state (input.status.getD [])).isSome && input.clean env)
  | _ => true

/-- How long the resource is left alone after its failure number `k`, counted from 0: five seconds,
and twice as long each time, up to five minutes. -/
def pause (k : ℕ) : Int := min (300 * 10 ^ 6) (5 * 10 ^ 6 * 2 ^ k)

theorem nextBackoff_pause (k : ℕ) : nextBackoff (k + 1) / 1000 = pause k := by
  rw [nextBackoff_succ, pause]
  omega

theorem pause_mono {i j : ℕ} (h : i ≤ j) : pause i ≤ pause j := by
  rw [← nextBackoff_pause, ← nextBackoff_pause]
  exact Int.ediv_le_ediv (by decide) (nextBackoff_mono (by omega))

/-! ## The invariant -/

/-- What the row of a poison pill and its trial have to do with each other. -/
structure Trial.Sound (B : Int) (t : Trial) (r : Resource) : Prop where
  live : r.live = true
  attempts : r.attempts = t.reported.length
  within : (t.reported.length : Int) ≤ B
  /-- Under its budget the row waits its time since each of its failures. -/
  waiting : (t.reported.length : Int) < B → (r.state = "pending" ∨ r.state = "error") ∧
    ∀ k s, t.reported[k]? = some s → ∃ w, r.nextAttemptAt = some w ∧ s + pause k ≤ w
  /-- At its budget it is parked, with no answer outstanding. -/
  parked : (t.reported.length : Int) = B → r.state = "failed" ∧ t.due = none
  leased : ∀ l, t.due = some l → r.leasedUntil = some l
  answered : t.dispatched.length ≤ t.reported.length + t.due.isSome.toNat
  past : ∀ s ∈ t.reported, s ≤ t.clock
  apart : ∀ k d, t.dispatched[k + 1]? = some d → ∃ s, t.reported[k]? = some s ∧ s + pause k ≤ d

theorem Trial.Sound.dispatched_le {B : Int} {t : Trial} {r : Resource} (h : t.Sound B r) :
    (t.dispatched.length : Int) ≤ B := by
  have hanswered := h.answered
  rcases Int.lt_or_eq_of_le h.within with hlt | heq
  · have := Bool.toNat_le t.due.isSome
    omega
  · rw [(h.parked heq).2] at hanswered
    simp only [Option.isSome_none, Bool.toNat_false] at hanswered
    omega

/-- An element of a list with one more is an old one, or the one. -/
theorem getElem?_concat_cases {α : Type} {l : List α} {x y : α} {k : ℕ}
    (h : (l ++ [x])[k]? = some y) : k < l.length ∧ l[k]? = some y ∨ k = l.length ∧ x = y := by
  rcases Nat.lt_trichotomy k l.length with hlt | rfl | hgt
  · rw [List.getElem?_append_left hlt] at h
    exact Or.inl ⟨hlt, h⟩
  · exact Or.inr ⟨rfl, by simpa using h⟩
  · have hlen : (l ++ [x]).length ≤ k := by
      simp only [List.length_append, List.length_singleton]
      omega
    rw [List.getElem?_eq_none hlen] at h
    cases h

/-- The columns a dispatch goes by are as they were. -/
structure Resource.Alike (r r' : Resource) : Prop where
  live : r'.live = r.live
  attempts : r'.attempts = r.attempts
  state : r'.state = r.state
  nextAttemptAt : r'.nextAttemptAt = r.nextAttemptAt
  leasedUntil : r'.leasedUntil = r.leasedUntil

/-- Anything that leaves those columns alone keeps the invariant. -/
theorem Trial.Sound.idle {B : Int} {t t' : Trial} {r r' : Resource} (h : t.Sound B r)
    (halike : r.Alike r') (hclock : t.clock ≤ t'.clock) (hdue : t'.due = t.due)
    (hdisp : t'.dispatched = t.dispatched) (hrep : t'.reported = t.reported) : t'.Sound B r' where
  live := by rw [halike.live, h.live]
  attempts := by rw [halike.attempts, hrep, h.attempts]
  within := by rw [hrep]; exact h.within
  waiting := by rw [hrep, halike.state, halike.nextAttemptAt]; exact h.waiting
  parked := by rw [hrep, halike.state, hdue]; exact h.parked
  leased := by rw [hdue, halike.leasedUntil]; exact h.leased
  answered := by rw [hdisp, hrep, hdue]; exact h.answered
  past s hs := (h.past s (hrep ▸ hs)).trans hclock
  apart := by rw [hdisp, hrep]; exact h.apart

theorem backoff_le_of_claimable {r : Resource} {a now w : Int} (h : r.claimable a now = true)
    (hw : r.nextAttemptAt = some w) : w ≤ now := by
  simp only [Resource.claimable, hw, Option.all_some, Bool.and_eq_true, decide_eq_true_eq] at h
  exact h.2

theorem state_ne_of_claimable {r : Resource} {a now : Int} (h : r.claimable a now = true) :
    r.state ≠ "failed" := by
  simp only [Resource.claimable, Resource.outOfSync, Bool.and_eq_true, bne_iff_ne] at h
  exact h.1.1.1.1.2

/-- A dispatch keeps the invariant: nothing was out, and the pause was over. -/
theorem Trial.Sound.dispatch {B : Int} {t t' : Trial} {r : Resource} {a ttl now : Int}
    (h : t.Sound B r) (hclock : t.clock ≤ now) (hdue : t.due.all (now ≤ ·) = true)
    (hclaim : r.claimable a now = true) (hnow : t'.clock = now)
    (hdue' : t'.due = some (now + makeInterval ttl))
    (hdisp : t'.dispatched = t.dispatched ++ [now]) (hrep : t'.reported = t.reported) :
    t'.Sound B (claimPatch a ttl now r) := by
  have hnone : t.due = none := by
    rcases hd : t.due with _ | l
    · rfl
    · have hlt := lease_lt_of_claimable hclaim (h.leased l hd)
      rw [hd, Option.all_some, decide_eq_true_eq] at hdue
      omega
  have hlt : (t.reported.length : Int) < B := by
    refine lt_of_le_of_ne h.within fun heq ↦ ?_
    exact state_ne_of_claimable hclaim (h.parked heq).1
  have hanswered := h.answered
  rw [hnone, Option.isSome_none, Bool.toNat_false] at hanswered
  refine ⟨h.live, ?_, ?_, ?_, ?_, ?_, ?_, ?_, ?_⟩
  · rw [hrep]
    exact h.attempts
  · rw [hrep]
    exact h.within
  · rw [hrep]
    exact h.waiting
  · rw [hrep]
    exact fun heq ↦ absurd heq (ne_of_lt hlt)
  · rw [hdue']
    exact fun l hl ↦ hl
  · rw [hdue', hdisp, hrep, List.length_append, List.length_singleton, Option.isSome_some,
      Bool.toNat_true]
    omega
  · rw [hrep, hnow]
    exact fun s hs ↦ (h.past s hs).trans hclock
  · intro k d hd
    rw [hrep]
    rw [hdisp] at hd
    rcases getElem?_concat_cases hd with ⟨-, hold⟩ | ⟨hk, rfl⟩
    · exact h.apart k d hold
    · -- the new dispatch comes after as many reports as there were dispatches before it
      have hlen : k < t.reported.length := by omega
      obtain ⟨w, hw, hle⟩ := (h.waiting hlt).2 k _ (List.getElem?_eq_getElem hlen)
      have hwait := backoff_le_of_claimable hclaim hw
      exact ⟨_, List.getElem?_eq_getElem hlen, by omega⟩

/-- What a failed report writes into a row of the trial: one more attempt, and the pause after it or
the end. -/
theorem Trial.Sound.failedParams {B : Int} {t : Trial} {r : Resource} {input : AgentReportInput}
    (h : t.Sound B r) (hmax : B ≤ 2147483647) (hlt : (t.reported.length : Int) < B)
    (hs : input.state = "failed") (env : Env) (now : Int) :
    (agentReportParams env now r input B).attempts = t.reported.length + 1 ∧
      (agentReportParams env now r input B).state =
        (if B ≤ t.reported.length + 1 then "failed"
        else if r.state = "deleting" then "deleting" else "error") ∧
      (agentReportParams env now r input B).nextAttemptAt =
        (if B ≤ t.reported.length + 1 then none
        else some (now + nextBackoff (t.reported.length + 1) / 1000)) ∧
      (agentReportParams env now r input B).finalize = false := by
  have hwrap : Text.int32 (r.attempts + 1) = t.reported.length + 1 := by
    rw [h.attempts]
    exact Text.int32_of_lt (by omega) (by omega)
  have hbudget : effectiveBudget B = B := by
    rw [effectiveBudget, if_neg (by omega)]
  have hrunning : input.state ≠ "running" := by
    rw [hs]
    decide
  obtain ⟨hstate, hfin, -⟩ := agentReportParams_of_failed env now r B hs
  refine ⟨?_, ?_, ?_, hfin⟩
  · rw [agentReportParams_attempts, if_neg hrunning, if_pos hs, hwrap]
  · rw [hstate, hbudget, hwrap]
  · rw [agentReportParams_nextAttemptAt, if_neg hrunning, if_pos hs, hbudget, hwrap]

/-- A failed report keeps the invariant: the row is one failure further, and waits or is parked. -/
theorem Trial.Sound.report {env : Env} {B : Int} {t t' : Trial} {r : Resource} {now : Int}
    {input : AgentReportInput} (h : t.Sound B r) (hmax : B ≤ 2147483647)
    (hclock : t.clock ≤ now) (hdue : t.due.isSome = true) (hs : input.state = "failed")
    (hnow : t'.clock = now) (hdue' : t'.due = none) (hdisp : t'.dispatched = t.dispatched)
    (hrep : t'.reported = t.reported ++ [now]) :
    t'.Sound B ((agentReportParams env now r input B).patch now r) := by
  have hlt : (t.reported.length : Int) < B := by
    refine lt_of_le_of_ne h.within fun heq ↦ ?_
    rw [(h.parked heq).2] at hdue
    cases hdue
  have hlen : (t'.reported.length : Int) = t.reported.length + 1 := by
    rw [hrep, List.length_append, List.length_singleton]
    push_cast
    rfl
  obtain ⟨hattempts, hstate, hnext, hfin⟩ := h.failedParams hmax hlt hs env now
  have hlive := (ApplyAgentReportParams.patch_live hfin now r).trans h.live
  refine ⟨hlive, ?_, ?_, ?_, ?_, ?_, ?_, ?_, ?_⟩
  · rw [hlen]
    exact hattempts
  · omega
  · intro hunder
    have hnot : ¬B ≤ (t.reported.length : Int) + 1 := by omega
    obtain ⟨hactive, -⟩ := h.waiting hlt
    refine ⟨Or.inr ?_, ?_⟩
    · refine (ApplyAgentReportParams.patch_state_iff _ now r (by decide)).mpr ?_
      rw [hstate, if_neg hnot, if_neg]
      rcases hactive with hp | hp <;> rw [hp] <;> decide
    · intro k s hk
      show ∃ w, (agentReportParams env now r input B).nextAttemptAt = some w ∧ _
      rw [hnext, if_neg hnot, nextBackoff_pause]
      refine ⟨_, rfl, ?_⟩
      rw [hrep] at hk
      rcases getElem?_concat_cases hk with ⟨hold, hs'⟩ | ⟨rfl, rfl⟩
      · have hpast := h.past s (List.mem_of_getElem? hs')
        have hmono := pause_mono (Nat.le_of_lt hold)
        omega
      · exact le_rfl
  · intro hfull
    refine ⟨?_, hdue'⟩
    refine (ApplyAgentReportParams.patch_state_iff _ now r (by decide)).mpr ?_
    rw [hstate, if_pos (by omega)]
  · rw [hdue']
    exact fun l hl ↦ absurd hl (by simp)
  · have hanswered := h.answered
    rw [hdue, Bool.toNat_true] at hanswered
    rw [hdue', hdisp, hrep, List.length_append, List.length_singleton, Option.isSome_none,
      Bool.toNat_false]
    omega
  · rw [hrep, hnow]
    intro s hmem
    rcases List.mem_append.mp hmem with hold | hnew
    · exact (h.past s hold).trans hclock
    · exact le_of_eq (List.mem_singleton.mp hnew)
  · intro k d hd
    rw [hdisp] at hd
    obtain ⟨s, hs', hle⟩ := h.apart k d hd
    refine ⟨s, ?_, hle⟩
    rw [hrep, List.getElem?_append_left (List.getElem?_eq_some_iff.mp hs').1, hs']

/-! ## What a request does to the trial -/

/-- A claim that does not hand the row out leaves it alone. -/
theorem step_get?_of_not_dispatches (env : Env) {u : Uuid} {db : Db} {q : Request} {r : Resource}
    {a limit ttl : Int} {locked : List Int} (hr : db.resources.get? u = some r)
    (ho : q.op = .claimForAgent a limit ttl locked) (h : dispatches u db q = false) :
    (step env db q).resources.get? u = some r := by
  have hu : r.resourceUuid = u := Table.uuid_of_get? hr
  simp only [dispatches, shipped, ho, claimForAgent, claimAgentWork, List.any_eq_false,
    List.mem_map] at h
  simp only [step, apply, ho, claimForAgent, claimAgentWork, Table.get?_updateWhere, hr,
    Option.map_some]
  rw [if_neg]
  intro hhit
  refine h (ship (toWorkItem (claimPatch a (effectiveTTL ttl) q.now r))) ?_ (beq_iff_eq.mpr hu)
  exact ⟨_, ⟨r, List.mem_filter.mpr ⟨Table.mem_of_get? hr, hhit⟩, rfl⟩, rfl⟩

/-- A request that is neither a dispatch of the row nor a report of its owner leaves the columns
that a dispatch goes by alone. -/
theorem Trial.Sound.step_idle {env : Env} {u : Uuid} {B : Int} {t : Trial} {q : Request}
    {r : Resource} (hr : t.db.resources.get? u = some r) (h : t.Sound B r)
    (hfair : t.fair u B q = true) (hd : dispatches u t.db q = false)
    (hown : ownReport u t.db q = false) :
    ∃ r, (t.step env u q).db.resources.get? u = some r ∧ (t.step env u q).Sound B r := by
  simp only [Trial.fair, Bool.and_eq_true, decide_eq_true_eq] at hfair
  obtain ⟨⟨hclock, -⟩, hop⟩ := hfair
  have hidle : ∀ r', r.Alike r' → (t.step env u q).Sound B r' := by
    intro r' halike
    refine h.idle halike hclock ?_ ?_ ?_ <;> simp [Trial.step, hd, hown]
  obtain ⟨r', hr', hstep⟩ := step_get? env q hr
  generalize ho : q.op = o at hstep hop
  cases hstep with
  | same => exact ⟨r, hr', hidle r ⟨rfl, rfl, rfl, rfl, rfl⟩⟩
  | claim _ =>
    have hsame := step_get?_of_not_dispatches env hr ho hd
    exact ⟨r, hsame, hidle r ⟨rfl, rfl, rfl, rfl, rfl⟩⟩
  | flag _ => exact ⟨_, hr', hidle _ ⟨rfl, rfl, rfl, rfl, rfl⟩⟩
  | report _ hagent => simp [ownReport, ho, hr, hagent] at hown
  | _ => simp [Call.id] at hop

/-- A report of the owner is the failed one that is owed, and the database takes it. -/
theorem Trial.Sound.step_report {env : Env} {u : Uuid} {B : Int} (hmax : B ≤ 2147483647)
    {t : Trial} {q : Request} {r : Resource} (hr : t.db.resources.get? u = some r)
    (hfits : r.Fits) (h : t.Sound B r) (hfair : t.fair u B q = true)
    (hlegible : t.legible env u q = true) (hd : dispatches u t.db q = false)
    (hown : ownReport u t.db q = true) :
    ∃ r, (t.step env u q).db.resources.get? u = some r ∧ (t.step env u q).Sound B r := by
  simp only [Trial.fair, Bool.and_eq_true, decide_eq_true_eq] at hfair
  obtain ⟨⟨hclock, -⟩, hop⟩ := hfair
  obtain ⟨a, input, b, x, ho, hx, hagent⟩ := ownReport_eq_true hown
  obtain rfl : r = x := Option.some.inj (hr.symm.trans hx)
  simp only [ho, hown, Bool.not_true, Bool.false_or, Bool.and_eq_true, beq_iff_eq] at hop
  obtain ⟨⟨hout, hs⟩, rfl⟩ := hop
  simp only [Trial.legible, ho, hown, Bool.not_true, Bool.false_or, Bool.and_eq_true,
    isSome_resolveHealth_iff] at hlegible
  have hw : (Call.applyAgentReport a u input b).written env t.db q.now = true := by
    rw [Call.written_report hr h.live hagent]
    refine (agentReportParams_storable_iff env q.now hfits input b).mpr ⟨?_, hlegible⟩
    rw [hs]
    decide
  have hget : (t.step env u q).db.resources.get? u
      = some ((agentReportParams env q.now r input b).patch q.now r) := by
    rw [Trial.step, Maintainerd.step, apply, ho]
    exact Call.get?_of_written_report hr hw
  refine ⟨_, hget, h.report hmax hclock hout hs rfl ?_ ?_ ?_⟩ <;> simp [Trial.step, hd, hown]

/-- **One fair request keeps the invariant.** -/
theorem Trial.Sound.step {env : Env} {u : Uuid} {B : Int} (hmax : B ≤ 2147483647) {t : Trial}
    {q : Request} (hdb : t.db.Fits)
    (h : ∃ r, t.db.resources.get? u = some r ∧ t.Sound B r)
    (hfair : t.fair u B q = true) (hlegible : t.legible env u q = true) :
    ∃ r, (t.step env u q).db.resources.get? u = some r ∧ (t.step env u q).Sound B r := by
  obtain ⟨r, hr, hsound⟩ := h
  rcases hd : dispatches u t.db q with _ | _
  · rcases hown : ownReport u t.db q with _ | _
    · exact hsound.step_idle hr hfair hd hown
    · exact hsound.step_report hmax hr (hdb u r hr) hfair hlegible hd hown
  · simp only [Trial.fair, Bool.and_eq_true, decide_eq_true_eq] at hfair
    obtain ⟨⟨hclock, hdue⟩, -⟩ := hfair
    obtain ⟨i, hi, hu⟩ := List.any_eq_true.mp hd
    obtain ⟨a, limit, ttl, locked, x, ho, hx, hclaim, -, hget⟩ := mem_shipped env hi
    rw [beq_iff_eq.mp hu] at hx hget
    obtain rfl : r = x := Option.some.inj (hr.symm.trans hx)
    have hown : ownReport u t.db q = false := by simp [ownReport, ho]
    refine ⟨_, hget, hsound.dispatch hclock hdue hclaim rfl ?_ ?_ ?_⟩
    · simp [Trial.step, hd, hget, claimPatch]
    · simp [Trial.step, hd]
    · simp [Trial.step, hown]

/-- The row of a resource that was just specified. -/
theorem row_of_specifies {env : Env} {u : Uuid} {db : Db} {q : Request}
    (h : specifies env u db q = true) : ∃ r, (step env db q).resources.get? u = some r ∧
      r.live = true ∧ r.attempts = 0 ∧ r.state = "pending" := by
  obtain ⟨now, o⟩ := q
  rw [specifies] at h
  split at h
  · rename_i uuid input ho
    simp only at ho
    subst ho
    obtain ⟨p, id, hget⟩ := row_of_arms_create h
    exact ⟨_, hget, rfl, rfl, rfl⟩
  · rename_i id input ho
    simp only at ho
    subst ho
    simp only [arms, Bool.and_eq_true, beq_iff_eq] at h
    obtain ⟨⟨rfl, -⟩, hw⟩ := h
    obtain ⟨r, st, hr, hlive, hplan, hget⟩ := Call.written_spec hw
    obtain ⟨p, -, rfl⟩ := Call.plan_updateSpec hplan
    exact ⟨_, hget, hlive, rfl, rfl⟩
  · cases h

/-- A trial starts with the invariant. -/
theorem Trial.Sound.start {env : Env} {u : Uuid} {db : Db} {q : Request} {B : Int} (hB : 1 ≤ B)
    (hspec : specifies env u db q = true) (owed : Bool) :
    ∃ r, (Trial.start env u db q owed).db.resources.get? u = some r ∧
      (Trial.start env u db q owed).Sound B r := by
  obtain ⟨r, hr, hlive, hatt, hstate⟩ := row_of_specifies hspec
  refine ⟨r, hr, hlive, hatt, ?_, ?_, ?_, ?_, ?_, ?_, ?_⟩
  · exact (by omega : (0 : Int) ≤ B)
  · exact fun _ ↦ ⟨Or.inl hstate, fun k s hk ↦ absurd hk (by simp [Trial.start])⟩
  · intro hzero
    simp only [Trial.start, List.length_nil, Int.natCast_zero] at hzero
    omega
  · intro l hl
    simp only [Trial.start, hr, Option.bind_some] at hl
    split at hl
    · exact hl
    · cases hl
  · simp [Trial.start]
  · simp [Trial.start]
  · simp [Trial.start]

/-! ## The bound -/

/-- **A poison pill is handed out as often as its budget says.**  The rows of the database hold what
their columns can.  A resource is created or its spec is changed; after that the run is fair, and
what the owner reports is legible.  Then the resource is dispatched at most `B` times; each dispatch
but the first comes after the report before it and its pause; and once there are `B` reports it is
not dispatched any more.  Times are in microseconds. -/
theorem poison_pill_bound (env : Env) (u : Uuid) (B : Int) (hB : 1 ≤ B) (hmax : B ≤ 2147483647)
    (db : Db) (hdb : db.Fits) (q : Request) (hspec : specifies env u db q = true) (owed : Bool)
    (qs : List Request)
    (hqs : Guarded (Trial.step env u) (fun t q ↦ t.fair u B q = true ∧ t.legible env u q = true)
      (Trial.start env u db q owed) qs) :
    let t := run (Trial.step env u) (Trial.start env u db q owed) qs
    (t.dispatched.length : Int) ≤ B ∧
      (∀ k d, t.dispatched[k + 1]? = some d →
        ∃ s, t.reported[k]? = some s ∧ s + min (300 * 10 ^ 6) (5 * 10 ^ 6 * 2 ^ k) ≤ d) ∧
      ∀ pre q' post, qs = pre ++ q' :: post →
        B ≤ (run (Trial.step env u) (Trial.start env u db q owed) pre).reported.length →
        dispatches u (run (Trial.step env u) (Trial.start env u db q owed) pre).db q' = false := by
  have hinv : ∀ qs, Guarded (Trial.step env u)
      (fun t q ↦ t.fair u B q = true ∧ t.legible env u q = true) (Trial.start env u db q owed) qs →
      ∃ r, (run (Trial.step env u) (Trial.start env u db q owed) qs).db.resources.get? u = some r ∧
        (run (Trial.step env u) (Trial.start env u db q owed) qs).Sound B r :=
    fun qs h ↦ (h.invariant
      (I := fun t ↦ t.db.Fits ∧ ∃ r, t.db.resources.get? u = some r ∧ t.Sound B r)
      ⟨hdb.step q, Trial.Sound.start hB hspec owed⟩
      fun t q ht hq ↦ ⟨ht.1.step q, Trial.Sound.step hmax ht.1 ht.2 hq.1 hq.2⟩).2
  intro t
  obtain ⟨r, -, hsound⟩ := hinv qs hqs
  refine ⟨hsound.dispatched_le, hsound.apart, ?_⟩
  rintro pre q' post rfl hfull
  obtain ⟨r', hr', hsound'⟩ := hinv pre (guarded_append.mp hqs).1
  have hparked := (hsound'.parked (le_antisymm hsound'.within hfull)).1
  rcases hd : dispatches u _ q' with _ | _
  · rfl
  · obtain ⟨i, hi, hu⟩ := List.any_eq_true.mp hd
    exact absurd (beq_iff_eq.mp hu)
      (not_shipped_of_parked ⟨r', hr', hsound'.live, hparked⟩ hi)

/-- The trial of the resource 7, from its creation. -/
def trialOf7 (qs : List Request) : Trial :=
  run (Trial.step plainEnv 7)
    (Trial.start plainEnv 7 emptyProject
      ⟨0, .create 7 ⟨2, none, "Container", "web", none, none⟩⟩ false) qs

/-- A resource that fails twice with a budget of two, while another agent pulls and its host is
flagged. -/
theorem poison_pill_bound_twice :
    let q : Request := ⟨0, .create 7 ⟨2, none, "Container", "web", none, none⟩⟩
    let qs : List Request := [⟨10, .claimForAgent 1 20 0 []⟩, ⟨20, .claimForAgent 2 20 0 []⟩,
      reportOn7 30 "failed" 1 2, ⟨40, .flagHostUnreachable 7⟩, ⟨10 ^ 7, .claimForAgent 1 20 0 []⟩,
      reportOn7 (2 * 10 ^ 7) "failed" 1 2, ⟨10 ^ 9, .claimForAgent 1 20 0 []⟩]
    specifies plainEnv 7 emptyProject q = true ∧ (trialOf7 qs).dispatched = [10, 10 ^ 7] ∧
      ((trialOf7 qs).dispatched.length : Int) ≤ 2 := by
  intro q qs
  have hspec : specifies plainEnv 7 emptyProject q = true := by decide
  exact ⟨hspec, by decide, (poison_pill_bound plainEnv 7 2 (by decide) (by decide) emptyProject
    fits_emptyProject q hspec false qs (by decide)).1⟩

/-- **A report the database refuses is no attempt.**  The owner answers each dispatch of a resource
with a budget of one by a failed report, as it should, with a health of one letter and ten accented
ones, whose twentieth byte is inside a letter, or with U+0000 in its status.  The resource is handed
out three times. -/
theorem poison_pill_dispatched_forever :
    let q : Request := ⟨0, .create 7 ⟨2, none, "Container", "web", none, none⟩⟩
    let report : JsonMap → Int → Request := fun status now ↦
      ⟨now, .call (.applyAgentReport 1 7 ⟨"failed", some status, 1⟩ 1)⟩
    let qs : JsonMap → List Request := fun status ↦
      [⟨10, .claimForAgent 1 20 0 []⟩, report status 20, ⟨10 ^ 8, .claimForAgent 1 20 0 []⟩,
        report status (10 ^ 8 + 10), ⟨2 * 10 ^ 8, .claimForAgent 1 20 0 []⟩]
    specifies plainEnv 7 emptyProject q = true ∧
      ∀ status ∈ [[("health", .str "aéééééééééé")], [("output", .str "exit\x00")]],
        Guarded (Trial.step plainEnv 7) (fun t q ↦ t.fair 7 1 q = true)
          (Trial.start plainEnv 7 emptyProject q false) (qs status) ∧
        (trialOf7 (qs status)).dispatched = [10, 10 ^ 8, 2 * 10 ^ 8] ∧
        (trialOf7 (qs status)).reported = [20, 10 ^ 8 + 10] := by
  decide

end Maintainerd

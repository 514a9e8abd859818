import Maintainerd.Resource.Step
import Maintainerd.Supervisor.Coverage

/-!
# The supervisor at work on the database

A pass reads the system-tier rows and then makes two kinds of calls: it flags the instances whose
host is gone, and it re-dispatches the ones keep-alive picks.  Which calls it makes is decided by
the snapshot alone, so a pass *is* the list of its requests to the resource service
(`Pass.requests`), and a sequence of passes, claims and reports is a run of the service.

Keep-alive is not to re-dispatch work that is merely slow.  After a re-dispatch the row is `pending`
and one revision ahead, and as long as nothing is heard of it the stale window decides.  That is so
if the health of the row was not bad to begin with and the agent had not answered for a revision
that does not exist yet; `slow_work_left_alone` is the theorem, and `redispatch_spares_iff` says
that the condition on the row is exact.  A re-dispatch resets neither the health nor the observed
revision, so an instance that was re-dispatched because it is unhealthy is re-dispatched by every
pass until it reports, while its agent is at work on it (`redispatched_at_work`).
-/

set_option autoImplicit false

namespace Maintainerd

open Machine

/-! ## Passes and requests -/

/-- `ListSystemTierResources`.  Rows of one name come in the order of the table. -/
def listSystemTierResources (db : Db) : List Resource :=
  (db.resources.rows.filter fun r ↦
    JsonMap.textIs r.metadata "tier" "system" && r.live).insertionSort fun r r' ↦ r.name ≤ r'.name

/-- `ListSystemTier`. -/
def listSystemTier (db : Db) : List SystemInstance :=
  (listSystemTierResources db).map toSystemInstance

/-- What a pass that reads its snapshot is told from outside: the time of the statements that flag,
the offline set, and the registrations with the time in nanoseconds at which keep-alive looks at the
clock.  A call that does not reach the database is a round that is not there. -/
structure Pass where
  now : Int
  offline : List Agent
  rounds : List (Registration × Int)

/-- The instances a pass flags. -/
def Pass.flagged (db : Db) (p : Pass) : List SystemInstance :=
  (listSystemTier db).filter fun i ↦ !i.terminating && stranded p.offline i

/-- The instances a pass calls `RedispatchSystem` for, and when. -/
def Pass.called (s : Supervisor) (db : Db) (p : Pass) : List (SystemInstance × Int) :=
  p.rounds.filterMap fun x ↦
    (redispatchCall s (listSystemTier db) p.offline x.1 x.2).map fun i ↦ (i, x.2)

/-- The requests of a pass to the resource service. -/
def Pass.requests (s : Supervisor) (db : Db) (p : Pass) : List Request :=
  ((p.flagged db).map fun i ↦ ⟨p.now, .flagHostUnreachable i.uuid⟩) ++
    (p.called s db).map fun c ↦ ⟨c.2 / 1000, .call (.redispatchSystem c.1.uuid)⟩

/-- The calls of a pass are the calls of `keepAlive` on its snapshot, whatever they are answered. -/
theorem called_eq_redispatchCalls (s : Supervisor) (db : Db) (p : Pass) (vs : List Visit)
    (h : vs.map (fun v ↦ (v.reg, v.now)) = p.rounds) :
    (p.called s db).map (fun c ↦ c.1.uuid) =
      (redispatchCalls s (listSystemTier db) p.offline vs).map Prod.fst := by
  rw [Pass.called, ← h, redispatchCalls, List.filterMap_map, List.map_filterMap, List.map_filterMap]
  refine List.filterMap_congr fun v _ ↦ ?_
  rcases hcall : redispatchCall s (listSystemTier db) p.offline v.reg v.now with _ | i <;>
    simp [hcall]

/-- Something that happens: a request, or a pass. -/
inductive Act where
  | request (q : Request)
  | pass (p : Pass)

/-- The requests it comes to. -/
def Act.requests (s : Supervisor) (db : Db) : Act → List Request
  | .request q => [q]
  | .pass p => p.requests s db

/-- What it does to the database. -/
def Act.run (env : Env) (s : Supervisor) (db : Db) (a : Act) : Db :=
  Machine.run (step env) db (a.requests s db)

/-! ## The snapshot -/

theorem mem_listSystemTier {db : Db} {i : SystemInstance} (h : i ∈ listSystemTier db) :
    ∃ r ∈ db.resources.rows, i = toSystemInstance r := by
  obtain ⟨r, hr, rfl⟩ := List.mem_map.mp h
  have hmem := (List.mem_insertionSort _).mp hr
  exact ⟨r, (List.mem_filter.mp hmem).1, rfl⟩

/-- The snapshot holds one instance a uuid. -/
theorem nodup_listSystemTier (db : Db) : ((listSystemTier db).map SystemInstance.uuid).Nodup := by
  rw [listSystemTier, List.map_map]
  refine ((List.perm_insertionSort _ _).map _).nodup_iff.mpr ?_
  exact db.resources.uuid_nodup.sublist (List.filter_sublist.map _)

/-- An instance of the snapshot is the row of its uuid. -/
theorem eq_of_mem_listSystemTier {db : Db} {i : SystemInstance} {r : Resource}
    (h : i ∈ listSystemTier db) (hr : db.resources.get? i.uuid = some r) :
    i = toSystemInstance r := by
  obtain ⟨x, hx, rfl⟩ := mem_listSystemTier h
  have hget : db.resources.get? x.resourceUuid = some x := Table.get?_of_mem hx
  rw [show (toSystemInstance x).uuid = x.resourceUuid from rfl, hget] at hr
  rw [Option.some.inj hr]

theorem mem_called {s : Supervisor} {db : Db} {p : Pass} {c : SystemInstance × Int}
    (h : c ∈ p.called s db) :
    c.1 ∈ listSystemTier db ∧ stranded p.offline c.1 = false ∧
      (redispatchReason s c.2 c.1).isSome = true := by
  obtain ⟨x, -, hx⟩ := List.mem_filterMap.mp h
  obtain ⟨i, hi, rfl⟩ := Option.map_eq_some_iff.mp hx
  obtain ⟨name, -, hname⟩ := Option.bind_eq_some_iff.mp hi
  obtain ⟨hinst, hok⟩ := Option.filter_eq_some_iff.mp hname
  simp only [Bool.and_eq_true, Bool.not_eq_true'] at hok
  exact ⟨(mem_of_instanceOf hinst).1, hok.1.2, hok.2⟩

/-! ## Being left alone -/

/-- The health of the row is not bad, and its agent has not answered for a later revision than there
is. -/
def Resource.fit (r : Resource) : Bool :=
  r.health != "unhealthy" && r.health != "unknown" && decide (r.observedGeneration ≤ r.generation)

/-- The row waits for an agent, or for its answer. -/
def Resource.underway (r : Resource) : Bool :=
  r.state == "pending" && r.health != "unhealthy" && r.health != "unknown" &&
    decide (r.observedGeneration < r.generation)

/-- A row that is underway is re-dispatched when it is stale, and not before. -/
theorem stale_of_underway {s : Supervisor} {r : Resource} {now : Int} (h : r.underway = true)
    (hreason : (redispatchReason s now (toSystemInstance r)).isSome = true) :
    s.opts.staleAfter < now - 1000 * r.updatedAt := by
  simp only [Resource.underway, Bool.and_eq_true, bne_iff_ne, beq_iff_eq, decide_eq_true_eq] at h
  obtain ⟨⟨⟨hstate, hbad⟩, hunknown⟩, hlag⟩ := h
  have hbad' : (toSystemInstance r).health ≠ "unhealthy" := hbad
  have hunknown' : (toSystemInstance r).health ≠ "unknown" := hunknown
  have hparked : (toSystemInstance r).state ≠ "failed" := by
    show r.state ≠ "failed"
    rw [hstate]
    decide
  have hconv : (toSystemInstance r).converged = false := decide_eq_false (Int.not_le.mpr hlag)
  rw [redispatchReason, if_neg hbad', if_neg hunknown', if_neg hparked, hconv] at hreason
  simp only [Bool.false_eq_true, and_false, if_false] at hreason
  split at hreason
  · rename_i hstale
    exact hstale
  · cases hreason

theorem fit_of_underway {r : Resource} (h : r.underway = true) : r.fit = true := by
  simp only [Resource.underway, Resource.fit, Bool.and_eq_true, decide_eq_true_eq] at h ⊢
  exact ⟨⟨h.1.1.2, h.1.2⟩, h.2.le⟩

theorem underway_redispatchPatch {r : Resource} (now : Int) (h : r.fit = true) :
    (redispatchPatch now r).underway = true := by
  simp only [Resource.fit, Bool.and_eq_true, decide_eq_true_eq] at h
  have hlag : r.observedGeneration < r.generation + 1 := Int.lt_add_one_of_le h.2
  simp only [Resource.underway, Bool.and_eq_true]
  exact ⟨⟨⟨rfl, h.1.1⟩, h.1.2⟩, decide_eq_true hlag⟩

/-- **Which rows a re-dispatch leaves alone.**  A row that was just re-dispatched gives no reason
for another one inside its stale window, exactly when it was fit. -/
theorem redispatch_spares_iff (s : Supervisor) (r : Resource) (now : Int) :
    (∀ now', now' - 1000 * now ≤ s.opts.staleAfter →
      redispatchReason s now' (toSystemInstance (redispatchPatch now r)) = none) ↔
      r.fit = true := by
  constructor
  · intro h
    have hpos := s.opts.staleAfter_pos
    have hnone := h (1000 * now) (by omega)
    rw [redispatchReason] at hnone
    split_ifs at hnone with hbad hunknown hparked hruns hconv hstale
    · exact absurd hruns.1 (by decide : "pending" ≠ "running")
    · have hle : r.observedGeneration ≤ r.generation := by
        by_contra hgt
        exact hconv (decide_eq_true (Int.add_one_le_of_lt (Int.not_le.mp hgt)))
      simp only [Resource.fit, Bool.and_eq_true, bne_iff_ne]
      exact ⟨⟨hbad, hunknown⟩, decide_eq_true hle⟩
  · intro hfit now' hwindow
    rcases hreason : redispatchReason s now' (toSystemInstance (redispatchPatch now r)) with _ | x
    · rfl
    · have hstale : s.opts.staleAfter < now' - 1000 * now :=
        stale_of_underway (underway_redispatchPatch now hfit) (by rw [hreason]; rfl)
      omega

/-! ## Undisturbed runs -/

/-- The request is nothing the row `u` is heard of by: no report on it that is applied, no flag it
does not carry already, and no change of what is wanted of it. -/
def undisturbed (env : Env) (u : Uuid) (db : Db) (q : Request) : Bool :=
  match q.op with
  | .create _ _ => true
  | .claimForAgent _ _ _ _ => true
  | .call (.redispatchSystem _) => true
  | .call c => c.id != u || !c.written env db q.now
  | .flagHostUnreachable id =>
    id != u || (getResourceByUUID db id).all
      fun r ↦ JsonMap.textIs r.status "host_unreachable" "true"

/-- The request re-dispatches the row `u`. -/
def redispatches (env : Env) (u : Uuid) (db : Db) (q : Request) : Bool :=
  match q.op with
  | .call (.redispatchSystem id) => id == u && Call.written env db q.now (.redispatchSystem id)
  | _ => false

/-- What an undisturbed request makes of a row: nothing that matters here, or a re-dispatch. -/
inductive QuietStep (now : Int) (r : Resource) : Resource → Prop
  | same : QuietStep now r r
  | claim (a ttl : Int) : QuietStep now r (claimPatch a ttl now r)
  | redispatch : QuietStep now r (redispatchPatch now r)

theorem quietStep_of_undisturbed {env : Env} {u : Uuid} {db : Db} {q : Request} {r : Resource}
    (hq : undisturbed env u db q = true) (hr : db.resources.get? u = some r) :
    ∃ r', (step env db q).resources.get? u = some r' ∧ QuietStep q.now r r' := by
  obtain ⟨r', hr', hstep⟩ := step_get? env q hr
  refine ⟨r', hr', ?_⟩
  -- a request that changes nothing leaves the row it found
  have hsame : step env db q = db → QuietStep q.now r r' := fun e ↦ by
    rw [e, hr] at hr'
    rw [← Option.some.inj hr']
    exact .same
  obtain ⟨now, o⟩ := q
  have hcall : ∀ c, o = .call c → (∀ id, c ≠ .redispatchSystem id) → c.id = u →
      QuietStep now r r' := by
    rintro c rfl hc rfl
    refine hsame (step_of_not_written rfl ?_)
    cases c with
    | redispatchSystem id => exact absurd rfl (hc id)
    | _ => simpa [undisturbed, Call.id] using hq
  cases hstep with
  | same => exact .same
  | spec => exact hcall _ rfl (fun _ e ↦ by cases e) rfl
  | status => exact hcall _ rfl (fun _ e ↦ by cases e) rfl
  | delete => exact hcall _ rfl (fun _ e ↦ by cases e) rfl
  | report => exact hcall _ rfl (fun _ e ↦ by cases e) rfl
  | redispatch => exact .redispatch
  | claim => exact .claim _ _
  | flag =>
    have hflag : flagHostUnreachable db now u = (db, .ok (.flagged false)) :=
      flagHostUnreachable_of_flagged (by simpa [undisturbed] using hq)
    exact hsame (congrArg Prod.fst hflag)

theorem QuietStep.fit {now : Int} {r r' : Resource} (h : QuietStep now r r') (hfit : r.fit = true) :
    r'.fit = true := by
  cases h with
  | same => exact hfit
  | claim a ttl => exact hfit
  | redispatch => exact fit_of_underway (underway_redispatchPatch now hfit)

theorem QuietStep.underway {now : Int} {r r' : Resource} (h : QuietStep now r r')
    (hunder : r.underway = true) : r'.underway = true := by
  cases h with
  | same => exact hunder
  | claim a ttl => exact hunder
  | redispatch => exact underway_redispatchPatch now (fit_of_underway hunder)

/-- The row of `u` is there, and passes a test. -/
def Db.HasRow (db : Db) (u : Uuid) (p : Resource → Bool) : Prop :=
  ∃ r, db.resources.get? u = some r ∧ p r = true

instance (db : Db) (u : Uuid) (p : Resource → Bool) : Decidable (db.HasRow u p) :=
  decidable_of_iff ((db.resources.get? u).any p = true) (Option.any_eq_true _ _)

/-- What a quiet step keeps of a row, an undisturbed request keeps. -/
theorem Db.HasRow.step {env : Env} {u : Uuid} {db : Db} {q : Request} {p : Resource → Bool}
    (h : db.HasRow u p) (hq : undisturbed env u db q = true)
    (hp : ∀ r r', QuietStep q.now r r' → p r = true → p r' = true) :
    (step env db q).HasRow u p := by
  obtain ⟨r, hr, hpr⟩ := h
  obtain ⟨r', hr', hstep⟩ := quietStep_of_undisturbed hq hr
  exact ⟨r', hr', hp r r' hstep hpr⟩

/-- The request that re-dispatches a fit row sets it under way. -/
theorem underway_of_redispatches {env : Env} {u : Uuid} {db : Db} {q : Request}
    (h : db.HasRow u Resource.fit) (hq : redispatches env u db q = true) :
    (step env db q).HasRow u Resource.underway := by
  obtain ⟨r, hr, hfit⟩ := h
  obtain ⟨now, o⟩ := q
  rw [redispatches] at hq
  split at hq
  · rename_i id ho
    obtain rfl : o = .call (.redispatchSystem id) := ho
    rw [Bool.and_eq_true, beq_iff_eq] at hq
    obtain ⟨rfl, hwritten⟩ := hq
    obtain ⟨x, st, hx, -, hplan, hget⟩ := Call.written_spec hwritten
    obtain rfl : r = x := Option.some.inj (hr.symm.trans hx)
    obtain ⟨-, rfl⟩ := Call.plan_redispatch hplan
    exact ⟨_, hget, underway_redispatchPatch now hfit⟩
  · cases hq

/-- **An undisturbed run that re-dispatches a fit row** leaves it under way. -/
theorem underway_of_tally {env : Env} {u : Uuid} {db : Db} {qs : List Request}
    (hqs : Guarded (step env) (fun db q ↦ undisturbed env u db q = true) db qs)
    (hfit : db.HasRow u Resource.fit) (hcount : 0 < tally (step env) (redispatches env u) db qs) :
    (run (step env) db qs).HasRow u Resource.underway := by
  -- fit throughout, and under way from the first re-dispatch on
  have hend := hqs.tallied (I := fun n db ↦ db.HasRow u Resource.fit ∧
      (0 < n → db.HasRow u Resource.underway)) (p := redispatches env u) (n := 0)
    ⟨hfit, fun h ↦ absurd h (Nat.lt_irrefl 0)⟩ ?_
  · exact hend.2 (by omega)
  · rintro n db q ⟨hfit, hunder⟩ hq
    refine ⟨hfit.step hq fun _ _ ↦ QuietStep.fit, fun hpos ↦ ?_⟩
    rcases hre : redispatches env u db q with _ | _
    · rw [hre] at hpos
      exact (hunder hpos).step hq fun _ _ ↦ QuietStep.underway
    · exact underway_of_redispatches hfit hre

/-! ## Slow work is left alone -/

/-- What a pass re-dispatches it has called for. -/
theorem exists_called_of_redispatched {env : Env} {s : Supervisor} {u : Uuid} {db : Db} {p : Pass}
    (h : 0 < tally (step env) (redispatches env u) db (p.requests s db)) :
    ∃ c ∈ p.called s db, c.1.uuid = u := by
  obtain ⟨db', q, hq, hre⟩ := exists_of_tally_pos h
  rcases List.mem_append.mp hq with hflag | hcall
  · obtain ⟨i, -, rfl⟩ := List.mem_map.mp hflag
    cases hre
  · obtain ⟨c, hc, rfl⟩ := List.mem_map.mp hcall
    simp only [redispatches, Bool.and_eq_true, beq_iff_eq] at hre
    exact ⟨c, hc, hre.1⟩

/-- A pass that calls for an instance does not disturb it: its host is not gone, so the instance is
not one of those the pass flags. -/
theorem undisturbed_of_called {env : Env} {s : Supervisor} {db : Db} {p : Pass}
    {c : SystemInstance × Int} (hc : c ∈ p.called s db) :
    Guarded (step env) (fun db q ↦ undisturbed env c.1.uuid db q = true) db (p.requests s db) := by
  obtain ⟨hmem, hstr, -⟩ := mem_called hc
  refine guarded_of_forall fun db' q hq ↦ ?_
  rcases List.mem_append.mp hq with hflag | hcall
  · obtain ⟨i, hi, rfl⟩ := List.mem_map.mp hflag
    obtain ⟨himem, hgone⟩ := List.mem_filter.mp hi
    have hne : i.uuid ≠ c.1.uuid := by
      intro e
      obtain rfl : i = c.1 := eq_of_uuid (nodup_listSystemTier db) himem hmem e
      simp [hstr] at hgone
    simp [undisturbed, hne]
  · obtain ⟨x, -, rfl⟩ := List.mem_map.mp hcall
    rfl

/-- **Slow work is left alone.**  A pass re-dispatches an instance whose row is fit, and then claims
and passes and whatever else follow, but nothing is heard of the instance.  A pass that calls for it
again finds its row stale. -/
theorem slow_work_left_alone (env : Env) (s : Supervisor) (u : Uuid) (db : Db) (p : Pass)
    (acts : List Act) (p' : Pass) (hfit : db.HasRow u Resource.fit)
    (hredispatched : 0 < tally (step env) (redispatches env u) db (p.requests s db))
    (hquiet : Guarded (Act.run env s)
      (fun db a ↦ Guarded (step env) (fun db q ↦ undisturbed env u db q = true) db
        (a.requests s db)) ((Act.pass p).run env s db) acts) :
    let db' := run (Act.run env s) ((Act.pass p).run env s db) acts
    ∀ c ∈ p'.called s db', c.1.uuid = u →
      db'.HasRow u fun r ↦ decide (s.opts.staleAfter < c.2 - 1000 * r.updatedAt) := by
  intro db' c hc hu
  obtain ⟨d, hd, hdu⟩ := exists_called_of_redispatched hredispatched
  have hpass : ((Act.pass p).run env s db).HasRow u Resource.underway := by
    subst hdu
    exact underway_of_tally (undisturbed_of_called hd) hfit hredispatched
  have hunder : db'.HasRow u Resource.underway :=
    hquiet.invariant hpass fun db a hdb ha ↦
      ha.invariant hdb fun db q hdb hq ↦ Db.HasRow.step hdb hq fun _ _ ↦ QuietStep.underway
  obtain ⟨r, hr, hrow⟩ := hunder
  obtain ⟨hmem, -, hreason⟩ := mem_called hc
  rw [← hu] at hr
  rw [eq_of_mem_listSystemTier hmem hr] at hreason
  rw [hu] at hr
  exact ⟨r, hr, decide_eq_true (stale_of_underway hrow hreason)⟩

/-! ## Two passes over a small installation -/

/-- The system workload of the service `auth`, claimed by agent 1, and a report on it. -/
def systemAuthReported (state health : String) : List Request :=
  [⟨0, .create 7 ⟨2, none, "Container", "system-auth", none, some [("tier", .str "system")]⟩⟩,
    ⟨10, .claimForAgent 1 20 0 []⟩,
    ⟨20, .call (.applyAgentReport 1 7 ⟨state, some [("health", .str health)], 1⟩ 5)⟩]

/-- A pass with the one registration `auth`, at a time in microseconds. -/
def authPass (now : Int) : Pass := ⟨now, [], [(⟨1, "auth"⟩, 1000 * now)]⟩

/-- Agent 1 pulls its work. -/
def pullBy1 (now : Int) : Request := ⟨now, .claimForAgent 1 20 0 []⟩

/-- A workload that has exited is re-dispatched and claimed, and 400 seconds later it is stale. -/
theorem slow_work_left_alone_exited :
    let db := run (step plainEnv) emptyProject (systemAuthReported "exited" "")
    let db' := run (Act.run plainEnv plainSupervisor)
      ((Act.pass (authPass 100)).run plainEnv plainSupervisor db) [.request (pullBy1 200)]
    ((authPass 15000100).called plainSupervisor db').map (fun c ↦ c.1.uuid) = [] ∧
      ((authPass 400000000).called plainSupervisor db').map (fun c ↦ c.1.uuid) = [7] ∧
      ∀ c ∈ (authPass 400000000).called plainSupervisor db', c.1.uuid = 7 →
        db'.HasRow 7 fun r ↦
          decide (plainSupervisor.opts.staleAfter < c.2 - 1000 * r.updatedAt) := by
  intro db db'
  exact ⟨by decide, by decide,
    slow_work_left_alone plainEnv plainSupervisor 7 db (authPass 100) [.request (pullBy1 200)]
      (authPass 400000000) (by decide) (by decide) (by decide)⟩

/-- **Work that is handed out again while its agent is at it.**  The workload is unhealthy.  A pass
re-dispatches it and its agent pulls it; fifteen seconds later, with nothing heard of it and its
stale window open, the next pass re-dispatches it again, and the agent is handed it again. -/
theorem redispatched_at_work :
    let db := run (step plainEnv) emptyProject (systemAuthReported "running" "unhealthy")
    let db₁ := (Act.pass (authPass 100)).run plainEnv plainSupervisor db
    let db₂ := (Act.request (pullBy1 200)).run plainEnv plainSupervisor db₁
    let db₃ := (Act.pass (authPass 15000100)).run plainEnv plainSupervisor db₂
    0 < tally (step plainEnv) (redispatches plainEnv 7) db
        ((authPass 100).requests plainSupervisor db) ∧
      (shipped db₁ (pullBy1 200)).map ShippedItem.resourceUuid = [7] ∧
      undisturbed plainEnv 7 db₁ (pullBy1 200) = true ∧
      db₂.HasRow 7 (fun r ↦
        decide (1000 * 15000100 - 1000 * r.updatedAt ≤ plainSupervisor.opts.staleAfter)) ∧
      0 < tally (step plainEnv) (redispatches plainEnv 7) db₂
        ((authPass 15000100).requests plainSupervisor db₂) ∧
      (shipped db₃ (pullBy1 15000200)).map ShippedItem.resourceUuid = [7] := by
  decide

end Maintainerd

import Maintainerd.Resource.Serial

/-!
# What converged means

A resource counts as converged when its `observed_generation` has caught up with its `generation`,
and then it leaves the work feed.  That is only worth something if the agent was given the revision
it has answered for: a spec that is written while a report on the revision before it is on its way
must not be lost.

Nothing in the database says what an agent was given, so the runs here carry a *ledger*: every item
a claim has returned, with the agent it was returned to.  The writers overlap as they do in
`Resource/Serial.lean`, each reading the row and writing it later.  `Accounted` ties the ledger to
the rows.  An item in the ledger is of a revision no later than the row's, and if it is of the same
revision it is the row as it stands; and what a live row has answered for was handed out.  Every
write of a row either leaves what an item is made of alone or opens a new revision, and the number
of a revision is counted up by the statement itself, so the first half survives any overlap; the
second is where the agents have to be honest, `Call.vouched`: a report or a status names a revision
of that resource that was handed out, or none.
-/

set_option autoImplicit false

namespace Maintainerd

open Machine

/-! ## The ledger -/

/-- What claims have returned so far, each item with the agent it was returned to. -/
abbrev Ledger := List (Int × ShippedItem)

/-- The number is that of a revision of the resource that was handed out, or of none. -/
def Ledger.covers (l : Ledger) (u : Uuid) (g : Int) : Bool :=
  decide (g ≤ 0) || l.any fun e ↦ e.2.resourceUuid == u && e.2.generation == g

theorem Ledger.covers_iff {l : Ledger} {u : Uuid} {g : Int} :
    l.covers u g = true ↔ g ≤ 0 ∨ ∃ e ∈ l, e.2.resourceUuid = u ∧ e.2.generation = g := by
  simp [Ledger.covers]

theorem Ledger.covers_append {l : Ledger} {u : Uuid} {g : Int} (h : l.covers u g = true)
    (l' : Ledger) : (l ++ l').covers u g = true := by
  rw [Ledger.covers_iff] at h ⊢
  rcases h with h | ⟨e, he, hu⟩
  · exact Or.inl h
  · exact Or.inr ⟨e, List.mem_append_left l' he, hu⟩

/-- The call answers for nothing that was not handed out.  A failure answers for no revision at
all. -/
def Call.vouched (l : Ledger) : Call → Bool
  | .applyAgentReport _ id input _ =>
    input.state == "failed" || l.covers id input.observedGeneration
  | .updateStatus id input => l.covers id input.observedGeneration
  | _ => true

/-- The statement writes no revision that was not handed out into a row that stays. -/
def Statement.vouched (l : Ledger) : Statement → Bool
  | .updateResourceStatus p => l.covers p.resourceUuid p.observedGeneration
  | .applyAgentReport p => p.finalize || l.covers p.resourceUuid p.observedGeneration
  | _ => true

theorem Statement.vouched_append {l : Ledger} {st : Statement} (h : st.vouched l = true)
    (l' : Ledger) : st.vouched (l ++ l') = true := by
  cases st with
  | updateResourceStatus p => exact Ledger.covers_append h l'
  | applyAgentReport p =>
    rw [Statement.vouched, Bool.or_eq_true] at h ⊢
    exact h.imp_right fun h ↦ Ledger.covers_append h l'
  | _ => rfl

/-- What an honest writer computes from a live row whose own counter is covered. -/
theorem Call.plan_vouched {env : Env} {db : Db} {now : Int} {c : Call} {r : Resource}
    {st : Statement} {l : Ledger} (hu : r.resourceUuid = c.id) (hc : c.vouched l = true)
    (hr : l.covers c.id r.observedGeneration = true) (h : c.plan env db now r = .ok st) :
    st.vouched l = true := by
  cases c with
  | updateSpec id input =>
    obtain ⟨p, -, rfl⟩ := Call.plan_updateSpec h
    rfl
  | updateStatus id input =>
    cases h
    show l.covers r.resourceUuid
      (if 0 < input.observedGeneration then input.observedGeneration
        else r.observedGeneration) = true
    rw [hu]
    split
    · exact hc
    · exact hr
  | delete id =>
    cases h
    rfl
  | applyAgentReport a id input b =>
    obtain ⟨-, rfl⟩ := Call.plan_report h
    rw [Statement.vouched, Bool.or_eq_true, agentReportParams_uuid, hu]
    rw [Call.vouched, Bool.or_eq_true, beq_iff_eq] at hc
    have hnothing : l.covers id 0 = true := Ledger.covers_iff.mpr (Or.inl le_rfl)
    have hcovered : input.state ≠ "failed" → l.covers id input.observedGeneration = true :=
      hc.resolve_left
    cases agentReportParams_case env now r input b with
    | converged hs _ hobs => exact Or.inr (by rw [hobs]; exact hcovered (by rw [hs]; decide))
    | parked _ _ _ hobs => exact Or.inr (by rw [hobs]; exact hnothing)
    | retried _ _ _ hobs => exact Or.inr (by rw [hobs]; exact hnothing)
    | finalized _ _ _ _ hfin => exact Or.inl hfin
    | silent hs _ hobs => exact Or.inr (by rw [hobs]; exact hcovered (by rw [hs]; decide))
    | observed _ hfail _ _ _ hobs => exact Or.inr (by rw [hobs]; exact hcovered hfail)
  | redispatchSystem id =>
    obtain ⟨-, rfl⟩ := Call.plan_redispatch h
    rfl

/-! ## What a write leaves of a row -/

/-- The row `r'` may come after `r`: its agent stays, it opens a new revision or it would be
shipped as before but for its state, and what it has answered for is covered if it was. -/
structure Resource.Follows (l : Ledger) (u : Uuid) (r r' : Resource) : Prop where
  agentID : ∀ a, r.agentID = some a → r'.agentID = some a
  revision : r.generation < r'.generation ∨
    ∃ state, toWorkItem r' = { toWorkItem r with state := state }
  live : r'.live = true → r.live = true
  answered : r'.live = true → l.covers u r.observedGeneration = true →
    l.covers u r'.observedGeneration = true

theorem Resource.Follows.refl (l : Ledger) (u : Uuid) (r : Resource) : r.Follows l u r :=
  ⟨fun _ h ↦ h, Or.inr ⟨r.state, rfl⟩, id, fun _ h ↦ h⟩

theorem Resource.Follows.generation_le {l : Ledger} {u : Uuid} {r r' : Resource}
    (h : r.Follows l u r') : r.generation ≤ r'.generation := by
  rcases h.revision with hlt | ⟨state, hitem⟩
  · exact hlt.le
  · exact (congrArg WorkItem.generation hitem).ge

/-- What a statement that is vouched for makes of its row. -/
theorem Statement.patch_follows {l : Ledger} {st : Statement} (now : Int) (r : Resource)
    (hlive : r.live = true) (h : st.vouched l = true) : r.Follows l st.id (st.patch now r) := by
  refine ⟨(Statement.patch_keeps st now r).agentID, ?_, fun _ ↦ hlive, ?_⟩
  · cases st with
    | updateResourceSpec p => exact Or.inl (Int.lt_succ _)
    | redispatchSystemResource id => exact Or.inl (Int.lt_succ _)
    | updateResourceStatus p => exact Or.inr ⟨Postgres.clip 20 p.state, rfl⟩
    | markResourceDeleting id => exact Or.inr ⟨"deleting", rfl⟩
    | applyAgentReport p => exact Or.inr ⟨Postgres.clip 20 p.state, rfl⟩
  · intro hlive' hr
    cases st with
    | updateResourceStatus p => exact h
    | applyAgentReport p =>
      -- a finalised row is not live, and GREATEST picks one of two covered numbers
      have hfin : p.finalize = false := by
        by_contra hfin
        rw [Bool.not_eq_false] at hfin
        simp [Statement.patch, ApplyAgentReportParams.patch, hfin, Resource.live] at hlive'
      rw [Statement.vouched, hfin, Bool.false_or] at h
      show l.covers p.resourceUuid (max r.observedGeneration p.observedGeneration) = true
      rcases max_choice r.observedGeneration p.observedGeneration with hmax | hmax
      · rw [hmax]
        exact hr
      · rw [hmax]
        exact h
    | _ => exact hr

/-- What the requests that are no writer's make of a row that is there. -/
theorem RowStep.follows {env : Env} {db : Db} {now : Int} {u : Uuid} {r r' : Resource} {o : Op}
    (l : Ledger) (hstep : RowStep env db now u r o r') (ho : ∀ c, o ≠ .call c) :
    r.Follows l u r' := by
  have hkeeps := hstep.keeps
  cases hstep with
  | same => exact .refl l u r
  | claim hclaim =>
    exact ⟨hkeeps.agentID, Or.inr ⟨r.state, rfl⟩, fun h ↦ h, fun _ h ↦ h⟩
  | flag hlive => exact ⟨fun _ h ↦ h, Or.inr ⟨r.state, rfl⟩, fun h ↦ h, fun _ h ↦ h⟩
  | _ => exact absurd rfl (ho _)

/-! ## The ledger and the rows -/

/-- **The ledger accounts for the rows.** -/
structure Accounted (db : Db) (l : Ledger) : Prop where
  /-- An item went to the agent its row is assigned to; it is of no later revision than the row,
  and of the row's revision only if it is the row as it stands. -/
  handed : ∀ e ∈ l, ∃ r, db.resources.get? e.2.resourceUuid = some r ∧ r.agentID = some e.1 ∧
    e.2.generation ≤ r.generation ∧
    (e.2.generation = r.generation → ∃ state, e.2 = ship { toWorkItem r with state := state })
  /-- What a live row has answered for was handed out. -/
  answered : ∀ u r, db.resources.get? u = some r → r.live = true →
    l.covers u r.observedGeneration = true
  /-- Revisions are counted from 1. -/
  numbered : ∀ u r, db.resources.get? u = some r → 1 ≤ r.generation

theorem accounted_of_no_rows {db : Db} (h : db.resources.rows = []) : Accounted db [] := by
  have hnone : ∀ u, db.resources.get? u = none := fun u ↦ by rw [Table.get?, h]; rfl
  refine ⟨?_, ?_, ?_⟩
  · intro e he
    cases he
  · intro u r hr
    rw [hnone] at hr
    cases hr
  · intro u r hr
    rw [hnone] at hr
    cases hr

/-- The ledger still accounts for the rows when every row was followed by a later one, and a row
that is new has its first revision and has answered for none. -/
theorem Accounted.of_follows {db db' : Db} {l : Ledger} (h : Accounted db l)
    (hrow : ∀ u r, db.resources.get? u = some r →
      ∃ r', db'.resources.get? u = some r' ∧ r.Follows l u r')
    (hnew : ∀ u r', db.resources.get? u = none → db'.resources.get? u = some r' →
      r'.generation = 1 ∧ r'.observedGeneration = 0) : Accounted db' l := by
  -- a row of the later database is new, or follows one that was there
  have hfrom : ∀ u r', db'.resources.get? u = some r' → db.resources.get? u = none ∨
      ∃ r, db.resources.get? u = some r ∧ r.Follows l u r' := by
    intro u r' hr'
    rcases hr : db.resources.get? u with _ | r
    · exact Or.inl rfl
    · obtain ⟨x, hx, hfollows⟩ := hrow u r hr
      obtain rfl : x = r' := Option.some.inj (hx.symm.trans hr')
      exact Or.inr ⟨r, rfl, hfollows⟩
  refine ⟨?_, ?_, ?_⟩
  · intro e he
    obtain ⟨r, hr, hagent, hle, hsame⟩ := h.handed e he
    obtain ⟨r', hr', hfollows⟩ := hrow _ r hr
    have hmono := hfollows.generation_le
    refine ⟨r', hr', hfollows.agentID _ hagent, hle.trans hmono, fun heq ↦ ?_⟩
    rcases hfollows.revision with hlt | ⟨state, hitem⟩
    · omega
    · obtain ⟨s, hs⟩ := hsame (le_antisymm hle (heq ▸ hmono))
      exact ⟨s, by rw [hs, hitem]⟩
  · intro u r' hr' hlive
    rcases hfrom u r' hr' with hnone | ⟨r, hr, hfollows⟩
    · rw [(hnew u r' hnone hr').2]
      exact Ledger.covers_iff.mpr (Or.inl le_rfl)
    · exact hfollows.answered hlive (h.answered u r hr (hfollows.live hlive))
  · intro u r' hr'
    rcases hfrom u r' hr' with hnone | ⟨r, hr, hfollows⟩
    · exact (hnew u r' hnone hr').1.ge
    · exact (h.numbered u r hr).trans hfollows.generation_le

/-- The second half of a writer. -/
theorem Accounted.write {db : Db} {l : Ledger} (h : Accounted db l) (now : Int) {st : Statement}
    (hst : st.vouched l = true) : Accounted (st.write db now).1 l := by
  refine h.of_follows (fun u r hr ↦ ?_) fun u r' hnone hr' ↦ ?_
  · rcases Statement.write_get? now st hr with hsame | ⟨rfl, hlive, -, hget⟩
    · exact ⟨r, hsame, .refl l u r⟩
    · exact ⟨_, hget, Statement.patch_follows now r hlive hst⟩
  · rw [Statement.write_get?_none hnone] at hr'
    cases hr'

/-- The first half of an honest writer. -/
theorem Accounted.read {env : Env} {db : Db} {l : Ledger} (h : Accounted db l) {now : Int}
    {c : Call} {st : Statement} (hc : c.vouched l = true) (hread : c.read env db now = .ok st) :
    st.vouched l = true := by
  rcases Call.read_eq_ok hread with ⟨-, rfl⟩ | ⟨r, hr, hlive, hplan⟩
  · rfl
  · exact Call.plan_vouched (Table.uuid_of_get? hr) hc (h.answered _ r hr hlive) hplan

/-- What a request hands out. -/
def handout (db : Db) (q : Request) : Ledger :=
  match q.op with
  | .claimForAgent agentID _ _ _ => (shipped db q).map fun i ↦ (agentID, i)
  | _ => []

/-- What a claim has just returned is entered. -/
theorem Accounted.hand {env : Env} {db : Db} {l : Ledger} {q : Request}
    (h : Accounted (step env db q) l) : Accounted (step env db q) (l ++ handout db q) := by
  refine ⟨fun e he ↦ ?_, fun u r hr hlive ↦ ?_, h.numbered⟩
  · rcases List.mem_append.mp he with he | he
    · exact h.handed e he
    · obtain ⟨now, o⟩ := q
      cases o with
      | claimForAgent a limit ttl locked =>
        obtain ⟨i, hi, rfl⟩ := List.mem_map.mp he
        obtain ⟨a', limit', ttl', locked', r, hop, -, -, hitem, hget⟩ := mem_shipped env hi
        cases hop
        refine ⟨_, hget, rfl, ?_, fun _ ↦ ⟨r.state, ?_⟩⟩
        · rw [hitem]
          exact le_rfl
        · exact hitem
      | _ => cases he
  · exact Ledger.covers_append (h.answered u r hr hlive) _

theorem Accounted.whole {env : Env} {db : Db} {l : Ledger} (h : Accounted db l) {q : Request}
    (hq : ∀ c, q.op = .call c → c.vouched l = true) :
    Accounted (step env db q) (l ++ handout db q) := by
  refine Accounted.hand ?_
  obtain ⟨now, o⟩ := q
  by_cases ho : ∃ c, o = .call c
  · obtain ⟨c, rfl⟩ := ho
    show Accounted (c.run env db now).1 l
    rw [Call.run]
    split
    · exact h
    · rename_i st hread
      exact h.write now (h.read (hq c rfl) hread)
  · refine h.of_follows (fun u r hr ↦ ?_) fun u r' hnone hr' ↦ ?_
    · obtain ⟨r', hr', hstep⟩ := step_get? env ⟨now, o⟩ hr
      exact ⟨r', hr', hstep.follows l fun c hc ↦ ho ⟨c, hc⟩⟩
    · rcases step_get?_none env ⟨now, o⟩ hnone with hnone' | ⟨-, p, id, -, -, hrow⟩
      · rw [hnone'] at hr'
        cases hr'
      · cases hrow.symm.trans hr'
        exact ⟨rfl, rfl⟩

/-! ## Runs -/

/-- The service with its writers overlapping, and the ledger. -/
structure Feed where
  core : Overlap.State Db Call Statement Int
  ledger : Ledger

/-- One action. -/
def Feed.step (env : Env) (f : Feed) (act : Overlap.Act Call Int Request) : Feed where
  core := Overlap.step (writers env) f.core act
  ledger :=
    match act with
    | .whole q => f.ledger ++ handout f.core.store q
    | _ => f.ledger

/-- A call that starts, or runs alone, answers for nothing that was not handed out by then. -/
def Feed.honest (f : Feed) : Overlap.Act Call Int Request → Bool
  | .start _ c => c.vouched f.ledger
  | .whole ⟨_, .call c⟩ => c.vouched f.ledger
  | _ => true

/-- The ledger accounts for the rows, and what is about to be written is vouched for. -/
structure Feed.Sound (f : Feed) : Prop where
  accounted : Accounted f.core.store f.ledger
  inFlight : ∀ o ∈ f.core.inFlight, o.plan.vouched f.ledger = true

theorem Feed.Sound.step {env : Env} {f : Feed} {act : Overlap.Act Call Int Request}
    (h : f.Sound) (hact : f.honest act = true) : (f.step env act).Sound := by
  cases act with
  | start t c =>
    have hstore : (Overlap.step (writers env) f.core (.start t c)).store = f.core.store := by
      rw [Overlap.step]
      split <;> rfl
    refine ⟨?_, fun o ho ↦ ?_⟩
    · show Accounted (Overlap.step (writers env) f.core (.start t c)).store f.ledger
      rw [hstore]
      exact h.accounted
    · rcases Overlap.mem_inFlight_step ho with ho | ⟨hstart, hseen, hread⟩
      · exact h.inFlight o ho
      · cases hstart
        rw [hseen] at hread
        rcases hst : o.op.read env f.core.store o.readAt with e | st
        · simp [writers, hst, Except.toOption] at hread
        · obtain rfl : st = o.plan := by simpa [writers, hst, Except.toOption] using hread
          exact h.accounted.read hact hst
  | finish t i =>
    rcases ho : f.core.inFlight[i]? with _ | o
    · have hsame : f.step env (.finish t i) = f := by
        simp only [Feed.step, Overlap.step, ho]
      rw [hsame]
      exact h
    · have hstep : f.step env (.finish t i) =
          ⟨⟨(o.plan.write f.core.store t).1, f.core.inFlight.eraseIdx i⟩, f.ledger⟩ := by
        simp only [Feed.step, Overlap.step, ho, writers]
      rw [hstep]
      refine ⟨h.accounted.write t (h.inFlight o (List.mem_of_getElem? ho)), fun o' ho' ↦ ?_⟩
      exact h.inFlight o' (List.mem_of_mem_eraseIdx ho')
  | whole q =>
    refine ⟨h.accounted.whole fun c hc ↦ ?_, fun o ho ↦ ?_⟩
    · obtain ⟨now, o⟩ := q
      obtain rfl : o = .call c := hc
      exact hact
    · exact Statement.vouched_append (h.inFlight o ho) _

/-- **Converged means delivered.**  Start from a table with no resources and let creations, claims,
re-dispatches, deletions, updates, reports and status writes run in any order, the writers
overlapping in any way, such that no report and no status answers for a revision that was not
handed out.  Then a live row that has answered for its own revision was handed, as it stands but
for its state, to the agent it is assigned to. -/
theorem converged_was_delivered (env : Env) (db : Db) (acts : List (Overlap.Act Call Int Request))
    (hempty : db.resources.rows = [])
    (hacts : Guarded (Feed.step env) (fun f act ↦ f.honest act = true) ⟨⟨db, []⟩, []⟩ acts)
    (u : Uuid) (r : Resource)
    (hr : (run (Feed.step env) ⟨⟨db, []⟩, []⟩ acts).core.store.resources.get? u = some r)
    (hlive : r.live = true) (hconv : (toSystemInstance r).converged = true) :
    ∃ a state, r.agentID = some a ∧
      (a, ship { toWorkItem r with state := state }) ∈
        (run (Feed.step env) ⟨⟨db, []⟩, []⟩ acts).ledger := by
  have hsound : (run (Feed.step env) ⟨⟨db, []⟩, []⟩ acts).Sound := by
    refine hacts.invariant ⟨accounted_of_no_rows hempty, ?_⟩ fun _ _ h hact ↦ h.step hact
    intro o ho
    cases ho
  have hconv : r.generation ≤ r.observedGeneration := of_decide_eq_true hconv
  have hpos := hsound.accounted.numbered u r hr
  rcases Ledger.covers_iff.mp (hsound.accounted.answered u r hr hlive) with hle | ⟨e, he, hu, hg⟩
  · omega
  · obtain ⟨x, hx, hagent, hle, hsame⟩ := hsound.accounted.handed e he
    obtain rfl : r = x := by rw [hu, hr] at hx; exact Option.some.inj hx
    obtain ⟨state, hitem⟩ := hsame (by omega)
    exact ⟨e.1, state, hagent, hitem ▸ he⟩

/-- A new spec is written while the report on the revision before it is under way.  The report does
not count for the new revision, which is handed out and answered for after it. -/
theorem converged_was_delivered_respecified :
    let report := fun g ↦ Call.applyAgentReport 1 7 ⟨"running", none, g⟩ 10
    let acts := createAndPull.map .whole ++ [.start 20 (report 1),
      .whole ⟨30, .call (.updateSpec 7 ⟨some [("image", .str "web:2")], none⟩)⟩, .finish 40 0,
      .whole ⟨50, .claimForAgent 1 20 0 []⟩, .start 60 (report 2), .finish 70 0]
    let f := run (Feed.step plainEnv) ⟨⟨emptyProject, []⟩, []⟩ acts
    ∃ r a state, f.core.store.resources.get? 7 = some r ∧ r.generation = 2 ∧ r.agentID = some a ∧
      (a, ship { toWorkItem r with state := state }) ∈ f.ledger := by
  intro report acts
  have hacts : Guarded (Feed.step plainEnv) (fun f act ↦ f.honest act = true)
      ⟨⟨emptyProject, []⟩, []⟩ acts := by
    decide
  have hrow : ((run (Feed.step plainEnv) ⟨⟨emptyProject, []⟩, []⟩ acts).core.store.resources.get?
      7).any (fun r ↦ r.live && (toSystemInstance r).converged && r.generation == 2) = true := by
    decide
  have hdelivered := converged_was_delivered plainEnv emptyProject acts rfl hacts 7
  -- from here on the run must not be evaluated
  generalize run (Feed.step plainEnv) ⟨⟨emptyProject, []⟩, []⟩ acts = f at hrow hdelivered ⊢
  obtain ⟨r, hr, h⟩ := (Option.any_eq_true _ _).mp hrow
  simp only [Bool.and_eq_true, beq_iff_eq] at h
  obtain ⟨a, state, hagent, hitem⟩ := hdelivered r hr h.1.1 h.1.2
  exact ⟨r, a, state, hr, h.2, hagent, hitem⟩

end Maintainerd

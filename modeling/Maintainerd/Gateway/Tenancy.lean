import Maintainerd.Gateway.Principal

/-!
# Tenants and dispatch

An agent row belongs to a tenant and so does a resource, and a tenant is meant to be the isolation
boundary.  Nothing in the gateway compares the two: `requireAgent` finds the row of the caller, and
the claim takes whatever is assigned to the row or to nobody.  So whether a pull stays inside a
tenant is decided by what is there to be claimed at the moment of its claim.

`tenant_scoped_of_home_claims` is that dependence.  A pull reads the row of its agent, then the
tenant of the row, and claims with its third step; if the resources that the row may claim are of
its tenant whenever a pull has got that far, everything that is ever handed out is handed out at
home, in any interleaving of any calls.  To say which call is to make its third step, the system is
watched together with the calls that were made and the number of steps they have made.
`foreign_work_pulled` is a run with two tenants in which an agent of the one is handed the spec of
the other.
-/

set_option autoImplicit false

namespace Maintainerd

open Interleave Machine

/-! ## Who is at home where -/

/-- What the agent row may claim now is of its tenant. -/
def Agent.atHome (a : Agent) (now : Int) (db : Db) : Bool :=
  db.resources.rows.all fun r ↦ !r.claimable a.agentID now || a.tenantID == r.tenantID

/-- The system, with the calls it has taken and the steps they have made. -/
abbrev WatchedSystem : Type 1 := Watched Moment Db Event Job

/-- What a turn does. -/
def WatchedSystem.turn (env : Env) (g : AgentGateway) (w : WatchedSystem) : Turn → WatchedSystem
  | .start j => w.spawn j (j.work env g)
  | .resume i m => w.resume i m

/-- If the next step of the call is the third one of a pull, what the agent row it is for may claim
is of its tenant. -/
def Job.claimsAtHome (g : AgentGateway) (m : Moment) (db : Db) : Job → ℕ → Bool
  | .pullWork _ agentUuid _, 2 =>
    (g.parseUuid agentUuid).all fun v ↦ (db.agents.get? v).all fun a ↦ a.atHome m.now db
  | _, _ => true

/-- The condition on a turn, told from the system before it. -/
def WatchedSystem.claimsAtHome (g : AgentGateway) (w : WatchedSystem) : Turn → Bool
  | .start _ => true
  | .resume i m => w.labels[i]?.all fun x ↦ x.1.claimsAtHome g m w.pool.store x.2

/-- The item is of the tenant of the agent row that pulled. -/
def ShippedItem.AtHome (i : ShippedItem) (q : Principal) (db : Db) : Prop :=
  ∃ v a r, db.agents.get? v = some a ∧ a.agentID = q.agentID ∧
    db.resources.get? i.resourceUuid = some r ∧ a.tenantID = r.tenantID

/-- Every item a pull has answered with is of the tenant of the agent row that pulled. -/
def System.TenantScoped (p : System) : Prop :=
  ∀ q items, Event.pulled q items ∈ p.history → ∀ i ∈ items, i.AtHome q p.store

/-! ## The tenants never change -/

/-- The agent rows are numbered as they were and belong to the tenants they did, and every resource
that was there still is, and is still about the same thing. -/
structure Db.SameTenants (db db' : Db) : Prop where
  agents : ∀ v, (db'.agents.get? v).map (fun a ↦ (a.agentID, a.tenantID)) =
    (db.agents.get? v).map fun a ↦ (a.agentID, a.tenantID)
  rows : ∀ u r, db.resources.get? u = some r →
    ∃ r', db'.resources.get? u = some r' ∧ r.Keeps r'

theorem Db.SameTenants.refl (db : Db) : db.SameTenants db :=
  ⟨fun _ ↦ rfl, fun _ r hr ↦ ⟨r, hr, .refl r⟩⟩

theorem Db.SameTenants.trans {a b c : Db} (h : a.SameTenants b) (h' : b.SameTenants c) :
    a.SameTenants c where
  agents v := (h'.agents v).trans (h.agents v)
  rows u r hr := by
    obtain ⟨r', hr', hk⟩ := h.rows u r hr
    obtain ⟨r'', hr'', hk'⟩ := h'.rows u r' hr'
    exact ⟨r'', hr'', hk.trans hk'⟩

theorem Db.Evolves.sameTenants {db db' : Db} (h : db.Evolves db') : db.SameTenants db' :=
  ⟨fun v ↦ by rw [h.agents], h.rows⟩

theorem updateAgent_sameTenants {db : Db} {u : Uuid} {guard : Agent → Bool} {holds : Bool}
    {f : Patch Agent} (hf : ∀ a, (f a).agentID = a.agentID ∧ (f a).tenantID = a.tenantID) :
    db.SameTenants (outcome db (updateAgent db u guard holds f)).1 := by
  rcases hupd : updateAgent db u guard holds f with e | ⟨db', a'⟩
  · exact .refl db
  obtain ⟨a, ha, -, -, -, hdb, hget⟩ := updateAgent_spec hupd
  refine ⟨fun v ↦ ?_, fun v r hr ↦ ⟨r, ?_, .refl r⟩⟩
  · show (db'.agents.get? v).map _ = _
    rw [hget v]
    split
    · rename_i hv
      rw [hv, ha, Option.map_some, Option.map_some, (hf a).1, (hf a).2]
    · rfl
  · show db'.resources.get? v = some r
    rw [hdb]
    exact hr

/-- The calls go by `Db.SameTenants`, whether or not binding is enforced. -/
theorem sameTenants_regime (g : AgentGateway) :
    Regime g Db.SameTenants (fun _ _ ↦ True) fun _ _ _ ↦ True where
  refl := Db.SameTenants.refl
  trans _ _ _ := Db.SameTenants.trans
  updateAgentStatus _ _ _ := updateAgent_sameTenants fun _ ↦ ⟨rfl, rfl⟩
  agentHeartbeat _ _ _ := updateAgent_sameTenants fun _ ↦ ⟨rfl, rfl⟩
  bindAgentSubject _ _ _ := updateAgent_sameTenants fun _ ↦ ⟨rfl, rfl⟩
  evolves _ _ := Db.Evolves.sameTenants
  known _ _ _ _ _ := trivial
  handled _ _ _ _ _ _ := trivial
  found _ _ _ _ _ := trivial
  bound _ _ _ _ _ _ := trivial
  handles _ _ _ _ _ := trivial

/-! ## Home claims -/

/-- What a pull answers with is handed out at home. -/
def Event.AtHome (e : Event) (db : Db) : Prop :=
  ∀ q items, e = .pulled q items → ∀ i ∈ items, i.AtHome q db

/-- A pull is answered with something. -/
def Event.HandsOut (e : Event) : Prop := ∃ q items, e = .pulled q items ∧ items ≠ []

theorem Db.SameTenants.agent {db db' : Db} (hs : db.SameTenants db') {v : Uuid} {a : Agent}
    (ha : db.agents.get? v = some a) : ∃ a', db'.agents.get? v = some a' ∧
      a'.agentID = a.agentID ∧ a'.tenantID = a.tenantID := by
  have hmap := hs.agents v
  rw [ha] at hmap
  obtain ⟨a', ha', heq⟩ := Option.map_eq_some_iff.mp hmap
  exact ⟨a', ha', congrArg Prod.fst heq, congrArg Prod.snd heq⟩

theorem ShippedItem.AtHome.sameTenants {i : ShippedItem} {q : Principal} {db db' : Db}
    (h : i.AtHome q db) (hs : db.SameTenants db') : i.AtHome q db' := by
  obtain ⟨v, a, r, ha, hid, hr, htenant⟩ := h
  obtain ⟨a', ha', hid', htenant'⟩ := hs.agent ha
  obtain ⟨r', hr', hk⟩ := hs.rows _ r hr
  exact ⟨v, a', r', ha', hid'.trans hid, hr', by rw [htenant', htenant, hk.tenantID]⟩

theorem atHome_discipline : Discipline Db.SameTenants Event.AtHome where
  refl := Db.SameTenants.refl
  trans _ _ _ := Db.SameTenants.trans
  stable _ _ _ h hs q items he i hi := (h q items he i hi).sameTenants hs

/-- Every call but a pull is in order under any condition: it hands nothing out. -/
theorem Job.okIf_of_not_pull (env : Env) (g : AgentGateway) {j : Job}
    (hj : ∀ claims agentUuid maxItems, j ≠ .pullWork claims agentUuid maxItems)
    {C : ℕ → Moment → Db → Prop} (db : Db) :
    (j.work env g).OkIf Db.SameTenants Event.AtHome C 0 db := by
  have hquiet : ∀ e : Event, (∀ resource q, ¬e.Handles resource q) → ¬e.HandsOut := by
    rintro _ h ⟨q, items, rfl, hne⟩
    obtain ⟨i, hi⟩ := List.exists_mem_of_ne_nil items hne
    exact h i.resourceUuid q ⟨rfl, i, hi, rfl⟩
  have haccepted : ∀ q u, ¬(Event.accepted q u).HandsOut := by
    rintro q u ⟨_, _, h, -⟩
    cases h
  have htells : (j.work env g).Says fun e ↦ ¬e.HandsOut := by
    cases j with
    | register claims agentUuid version capabilities => exact says_register hquiet _ _ _ _
    | heartbeat claims agentUuid => exact says_heartbeat hquiet _ _
    | pullWork claims agentUuid maxItems => exact absurd rfl (hj claims agentUuid maxItems)
    | reportStatus claims agentUuid reports =>
      exact says_requireAgent hquiet fun a q _ ↦ says_reportLoop hquiet (haccepted q) reports 0
    | create uuid input => exact fun _ ↦ trivial
    | write c => exact says_callWork c
    | flagHostUnreachable id => exact fun _ ↦ trivial
  refine (((sameTenants_regime g).job j db).strengthen htells fun e db _ hnot ↦ ?_).okIf
  rintro q items rfl i hi
  exact absurd ⟨q, items, rfl, List.ne_nil_of_mem hi⟩ hnot

/-- What a claim that is made at home ships is of the tenant of the agent row. -/
theorem atHome_of_shipped {db : Db} {m : Moment} {v : Uuid} {a : Agent}
    (ha : db.agents.get? v = some a) (hhome : a.atHome m.now db = true) {limit ttl : Int}
    {q : Principal} (hq : q.agentID = a.agentID) {i : ShippedItem}
    (hi : i ∈ shipped db ⟨m.now, .claimForAgent a.agentID limit ttl m.locked⟩) :
    i.AtHome q (step plainEnv db ⟨m.now, .claimForAgent a.agentID limit ttl m.locked⟩) := by
  obtain ⟨_, _, _, _, r, hop, hr, hclaim, -, hget⟩ := mem_shipped plainEnv hi
  cases hop
  have hmem := List.all_eq_true.mp hhome r (Table.mem_of_get? hr)
  rw [hclaim, Bool.not_true, Bool.false_or, beq_iff_eq] at hmem
  have hagents := (step_evolves plainEnv db
    ⟨m.now, .claimForAgent a.agentID limit ttl m.locked⟩).agents
  exact ⟨v, a, _, by rw [hagents]; exact ha, hq.symm, hget, hmem⟩

/-- The condition on the calls. -/
abbrev HomeClaim (g : AgentGateway) (j : Job) (n : ℕ) (m : Moment) (db : Db) : Prop :=
  j.claimsAtHome g m db n = true

section Pull

variable {g : AgentGateway} {claims : Option String} {agentUuid : String} {maxItems : Int}

theorem okIf_refuse {C : ℕ → Moment → Db → Prop} (status : Status) (n : ℕ) (db : Db) :
    (refuse status).OkIf Db.SameTenants Event.AtHome C n db := by
  refine ⟨?_, trivial⟩
  rintro q items h
  cases h

/-- The third step of a pull. -/
theorem okIf_claim {v : Uuid} (hv : g.parseUuid agentUuid = some v) {a : Agent} {q : Principal}
    (hq : q.agentID = a.agentID) {db : Db} (ha : db.agents.get? v = some a) :
    (Task.act (fun m db ↦ claimForAgent db m.now a.agentID maxItems g.opts.leaseTTL m.locked)
      fun rows ↦ .say (.pulled q (rows.map fun r ↦ ship (toWorkItem r))) .done).OkIf
      Db.SameTenants Event.AtHome (HomeClaim g (.pullWork claims agentUuid maxItems)) 2 db := by
  refine okIf_act fun db' m hs hC ↦ ?_
  obtain ⟨a', ha', hid, -⟩ := hs.agent ha
  have hhome : a'.atHome m.now db' = true := by
    simpa only [HomeClaim, Job.claimsAtHome, hv, Option.all_some, ha'] using hC
  rw [← hid] at hq ⊢
  let request : Request := ⟨m.now, .claimForAgent a'.agentID maxItems g.opts.leaseTTL m.locked⟩
  refine ⟨(step_evolves plainEnv db' request).sameTenants, ?_, trivial⟩
  intro q' items hpulled i hi
  cases hpulled
  exact atHome_of_shipped ha' hhome hq (show i ∈ shipped db' request from hi)

/-- The second step, and what comes after it. -/
theorem okIf_resolveTenantUUID {v : Uuid} (hv : g.parseUuid agentUuid = some v) {a : Agent}
    {q : Principal} (hq : q.agentID = a.agentID) {db : Db} (ha : db.agents.get? v = some a)
    {k : Except AppError Agent → Work Event}
    (herr : ∀ e, ∃ status, k (.error e) = refuse status)
    (hok : k (.ok a) = .act
      (fun m db ↦ claimForAgent db m.now a.agentID maxItems g.opts.leaseTTL m.locked)
      fun rows ↦ .say (.pulled q (rows.map fun r ↦ ship (toWorkItem r))) .done) :
    (resolveTenantUUID a k).OkIf Db.SameTenants Event.AtHome
      (HomeClaim g (.pullWork claims agentUuid maxItems)) 1 db := by
  refine okIf_query atHome_discipline fun db' m hs ↦ ?_
  split
  · obtain ⟨status, hstatus⟩ := herr (.query .noRows)
    rw [hstatus]
    exact okIf_refuse status _ db'
  · rw [hok]
    obtain ⟨a', ha', hid, -⟩ := hs.agent ha
    rw [← hid] at hq ⊢
    exact okIf_claim hv hq ha'

/-- A pull is in order if it claims at home. -/
theorem okIf_pullWork (db : Db) :
    (g.pullWork claims agentUuid maxItems).OkIf Db.SameTenants Event.AtHome
      (HomeClaim g (.pullWork claims agentUuid maxItems)) 0 db := by
  rw [AgentGateway.pullWork, AgentGateway.requireAgent]
  split
  · exact okIf_refuse _ 0 db
  rename_i v hv
  split
  · refine okIf_query atHome_discipline fun db' m hs ↦ ?_
    split
    · exact okIf_refuse _ 1 db'
    rename_i a ha
    exact okIf_resolveTenantUUID hv rfl (getAgentByUUID_eq_some.mp ha).1 (fun e ↦ ⟨_, rfl⟩) rfl
  split
  · exact okIf_refuse _ 0 db
  refine okIf_query atHome_discipline fun db' m hs ↦ ?_
  split
  · exact okIf_refuse _ 1 db'
  rename_i a ha
  split
  · exact okIf_refuse _ 1 db'
  split
  · exact okIf_refuse _ 1 db'
  exact okIf_resolveTenantUUID hv rfl (getAgentByUUID_eq_some.mp ha).1 (fun e ↦ ⟨_, rfl⟩) rfl

end Pull

/-- Every call is in order if, being a pull, it claims at home. -/
theorem Job.okIf (env : Env) (g : AgentGateway) (j : Job) (db : Db) :
    (j.work env g).OkIf Db.SameTenants Event.AtHome (HomeClaim g j) 0 db := by
  cases j with
  | pullWork claims agentUuid maxItems => exact okIf_pullWork db
  | _ => exact Job.okIf_of_not_pull env g (fun _ _ _ h ↦ by cases h) db

/-- **One turn** that claims at home leaves every call in order. -/
theorem WatchedSystem.sound_turn {env : Env} {g : AgentGateway} {w : WatchedSystem}
    (h : w.Sound Db.SameTenants Event.AtHome (HomeClaim g)) {t : Turn}
    (ht : w.claimsAtHome g t = true) :
    (w.turn env g t).Sound Db.SameTenants Event.AtHome (HomeClaim g) := by
  cases t with
  | start j => exact h.spawn (Job.okIf env g j _)
  | resume i m =>
    refine h.resume atHome_discipline fun j n hl ↦ ?_
    simpa only [claimsAtHome, hl, Option.all_some] using ht

/-- Watching changes nothing. -/
theorem WatchedSystem.pool_run (env : Env) (g : AgentGateway) (w : WatchedSystem)
    (ts : List Turn) :
    (run (WatchedSystem.turn env g) w ts).pool = run (System.turn env g) w.pool ts := by
  induction ts generalizing w with
  | nil => rfl
  | cons t ts ih =>
    rw [run_cons, run_cons, ih]
    cases t <;> rfl

/-- **Dispatch stays inside a tenant when pulls find only their own to claim.**  Take any gateway,
any database and any interleaving of any calls.  Whenever a pull is about to make its claim, let the
resources that its agent row may claim be of the tenant of the row.  Then every item that any pull
has answered with is of the tenant of the agent row that pulled. -/
theorem tenant_scoped_of_home_claims (env : Env) (g : AgentGateway) (db : Db) (ts : List Turn)
    (hts : Guarded (WatchedSystem.turn env g) (fun w t ↦ w.claimsAtHome g t = true)
      ⟨⟨db, [], []⟩, []⟩ ts) : (played env g db ts).TenantScoped := by
  have hsound := hts.invariant (I := Watched.Sound Db.SameTenants Event.AtHome (HomeClaim g))
    (Watched.sound_start db) fun _ _ hw ht ↦ WatchedSystem.sound_turn hw ht
  intro q items hpulled
  rw [played, ← WatchedSystem.pool_run env g ⟨⟨db, [], []⟩, []⟩ ts] at hpulled ⊢
  exact hsound.history _ hpulled q items rfl

theorem globex_le : "globex".length ≤ 63 := by decide

theorem alice_le : "alice".length ≤ 255 := by decide

theorem bob_le : "bob".length ≤ 255 := by decide

/-- Two tenants, each with a project and an agent that is bound. -/
def twoTenants : Db where
  tenants := ⟨[⟨1, 1, "acme", none, acme_le⟩, ⟨2, 4, "globex", none, globex_le⟩], 3, by decide,
    by decide, by decide⟩
  projects := ⟨[⟨1, 2, 1, "shop", none, shop_le⟩, ⟨2, 5, 2, "shop", none, shop_le⟩], 3, by decide,
    by decide, by decide⟩
  providers := .empty
  agents := ⟨[⟨1, 3, 1, "host", "online", "", "", [], "alice", none, 0, none, alice_le⟩,
    ⟨2, 6, 2, "host", "online", "", "", [], "bob", none, 0, none, bob_le⟩], 3, by decide,
    by decide, by decide⟩
  resources := .empty

/-- A gateway that knows the two agents by name, and enforces binding. -/
def hostsApart : AgentGateway :=
  newAgentGateway ⟨true, 0, 0⟩
    (fun text ↦ if text = "acme" then some 3 else if text = "globex" then some 6 else none)
    (fun _ ↦ none) fun _ ↦ ""

/-- Both agents pull at once.  The resource of the first tenant is there from the start, and the one
of the second comes when the first has been claimed. -/
def pullsApart : List Turn :=
  .start (.create 7 ⟨2, none, "Container", "web", none, none⟩) ::
  .start (.pullWork (some "alice") "acme" 10) :: .start (.pullWork (some "bob") "globex" 10) ::
  resumes [0, 1, 2, 2, 1, 1] ++
  .start (.create 8 ⟨5, none, "Container", "web", none, none⟩) :: resumes [3, 2, 1, 2]

/-- Each of the two agents is handed the resource of its tenant. -/
theorem tenant_scoped_of_home_claims_apart :
    ((played plainEnv hostsApart twoTenants pullsApart).history.filterMap fun
        | .pulled q items => some (q.agentID, items.map ShippedItem.resourceUuid)
        | _ => none) = [(1, [7]), (2, [8])] ∧
      (played plainEnv hostsApart twoTenants pullsApart).TenantScoped :=
  ⟨by decide, tenant_scoped_of_home_claims plainEnv hostsApart twoTenants pullsApart (by decide)⟩

/-- The small installation, with an agent of another tenant in it. -/
def foreignAgent : Db where
  tenants := twoTenants.tenants
  projects := emptyProject.projects
  providers := .empty
  agents := ⟨[⟨1, 3, 2, "host", "pending", "", "", [], "", none, 0, none, unbound_le⟩], 2,
    by decide, by decide, by decide⟩
  resources := .empty

/-- **An agent is handed the work of another tenant.**  A resource is created in a project of the
first tenant, and the agent, which belongs to the second, registers and pulls: it is answered with
the resource and its spec. -/
theorem foreign_work_pulled :
    let p := played plainEnv plainGateway foreignAgent
      (.start (.create 7 ⟨2, none, "Container", "web", some [("image", .str "acme:1")], none⟩) ::
        .start (.register (some "globex-host") "host" "v1" []) ::
        resumes [0, 1, 1, 1, 1, 1, 1] ++
        .start (.pullWork (some "globex-host") "host" 10) :: resumes [2, 2, 2, 2])
    (p.history.filterMap fun
        | .pulled q items => some (q.agentID, items.map fun i ↦
            (i.resourceUuid, JsonMap.string? i.envelope.workload "image"))
        | _ => none) = [(1, [(7, some "acme:1")])] ∧
      (p.store.agents.get? 3).map (fun a ↦ (a.agentID, a.tenantID)) = some (1, 2) ∧
      (p.store.resources.get? 7).map Resource.tenantID = some 1 := by
  decide

end Maintainerd

import Maintainerd.Gateway.Principal

/-!
# Is the work of a dead host offered to another one?

A pull hands out what is assigned to its agent and what is assigned to nobody, and the first pull
that gets a resource assigns it.  Nothing takes that back: not the sweep that finds the agent
offline, not its deletion, and no write of the resource.  So a resource whose agent is gone stays
with it.  It is due, its lease has run out, and no pull of any other agent returns it, while the
supervisor passes over it on the ground that the feed will offer it to whoever pulls next.

`reoffered_iff_unassigned` says exactly when a pull with room for it returns a resource that is due:
when the resource is assigned to nobody, or to the agent that pulls.

The states it speaks of are those of any interleaving of the calls of `Gateway.Rpc` with what
happens to the agents beside them: they are enrolled, swept and deleted.
-/

set_option autoImplicit false

namespace Maintainerd

open Interleave Machine

/-! ## The system with its hosts -/

/-- A step: a turn of the calls, or a statement on `agents` that no RPC makes, at its time. -/
inductive HostTurn where
  | call (t : Turn)
  | createAgent (now : Int) (p : CreateAgentParams)
  /-- The sweep of the supervisor. -/
  | sweepOffline (now interval : Int)
  | deleteAgent (now : Int) (id : Uuid)

/-- What a step does. -/
def System.hostTurn (env : Env) (g : AgentGateway) (p : System) : HostTurn → System
  | .call t => p.turn env g t
  | .createAgent now params =>
    { p with store := (outcome p.store (createAgent p.store now params)).1 }
  | .sweepOffline now interval =>
    { p with store := (markStaleAgentsOffline p.store now interval).1 }
  | .deleteAgent now id => { p with store := softDeleteAgent p.store now id }

/-- Where a list of steps leads from a database with no call under way. -/
def hosted (env : Env) (g : AgentGateway) (db : Db) (ts : List HostTurn) : System :=
  run (System.hostTurn env g) ⟨db, [], []⟩ ts

/-! ## What was dispatched stays where it is -/

/-- Every resource is still there, and is still about the same thing and assigned to the same
agent. -/
def Db.RowsKeep (db db' : Db) : Prop :=
  ∀ u r, db.resources.get? u = some r → ∃ r', db'.resources.get? u = some r' ∧ r.Keeps r'

theorem Db.RowsKeep.of_eq {db db' : Db} (h : db'.resources = db.resources) : db.RowsKeep db' :=
  fun u r hr ↦ ⟨r, by rw [h, hr], .refl r⟩

theorem Principal.Assigned.rowsKeep {p : Principal} {u : Uuid} {db db' : Db}
    (h : p.Assigned u db) (hs : db.RowsKeep db') : p.Assigned u db' := by
  obtain ⟨r, hr, hown⟩ := h
  obtain ⟨r', hr', hk⟩ := hs u r hr
  exact ⟨r', hr', hk.agentID _ hown⟩

/-- The calls leave every resource with the agent it is assigned to, whether binding is enforced or
not, and what they handle is assigned to the agent they are made as. -/
theorem rowsKeep_regime (g : AgentGateway) :
    Regime g Db.RowsKeep (fun _ _ ↦ True) Principal.Assigned where
  refl _ := .of_eq rfl
  trans a b c hab hbc u r hr := by
    obtain ⟨r', hr', hk⟩ := hab u r hr
    obtain ⟨r'', hr'', hk'⟩ := hbc u r' hr'
    exact ⟨r'', hr'', hk.trans hk'⟩
  updateAgentStatus db now p := (updateAgentStatus_settles db now p).rows
  agentHeartbeat db now u := (agentHeartbeat_settles db now u).rows
  bindAgentSubject db now p := (bindAgentSubject_settles db now p).rows
  evolves _ _ h := h.rows
  known _ _ _ _ _ := trivial
  handled _ _ _ _ h hs := h.rowsKeep hs
  found _ _ _ _ _ := trivial
  bound _ _ _ _ _ _ := trivial
  handles _ _ _ _ h := h

/-- A step beside the calls leaves the resources alone. -/
theorem resources_createAgent (db : Db) (now : Int) (p : CreateAgentParams) :
    (outcome db (createAgent db now p)).1.resources = db.resources := by
  rcases hins : createAgent db now p with e | ⟨db', a⟩
  · rfl
  · obtain ⟨-, -, hdb, -⟩ := createAgent_spec hins
    show db'.resources = db.resources
    rw [hdb]

/-- Every call under way leaves the resources with their agents, and what was handled is assigned to
the agent it was handled as. -/
abbrev System.Sticky (p : System) : Prop :=
  Pool.Sound Db.RowsKeep (Event.Says Principal.Assigned) p

/-- **One step** leaves every call in order. -/
theorem System.Sticky.hostTurn {env : Env} {g : AgentGateway} {p : System} (hp : p.Sticky)
    (t : HostTurn) : (p.hostTurn env g t).Sticky := by
  have hd := (rowsKeep_regime g).discipline
  have hbeside : ∀ db : Db, db.resources = p.store.resources →
      System.Sticky ⟨db, p.tasks, p.history⟩ := by
    intro db hdb
    exact ⟨fun w hw ↦ (hp.tasks w hw).mono hd (.of_eq hdb),
      fun e he ↦ hd.stable e _ _ (hp.history e he) (.of_eq hdb)⟩
  cases t with
  | call t => exact ((rowsKeep_regime g).turn env hp t).2
  | createAgent now params => exact hbeside _ (resources_createAgent p.store now params)
  | sweepOffline now interval => exact hbeside _ rfl
  | deleteAgent now id => exact hbeside _ rfl

/-- In every state a resource is assigned to the agent it was last dispatched to. -/
theorem assigned_of_dispatched {env : Env} {g : AgentGateway} {db : Db} {ts : List HostTurn}
    {e : Event} (he : e ∈ (hosted env g db ts).history) {u : Uuid} {q : Principal}
    (hq : e.Handles u q) : q.Assigned u (hosted env g db ts).store := by
  have hsticky : (hosted env g db ts).Sticky :=
    invariant_run (I := System.Sticky) ts (Pool.sound_start db) fun _ t hp ↦ hp.hostTurn t
  exact hsticky.history e he u q hq

/-! ## What a pull returns -/

/-- A pull that is answered returns what its claim has taken. -/
theorem items_of_pulled {g : AgentGateway} {claims : Option String} {agentUuid : String}
    {maxItems : Int} {m : Moment} {db : Db} {p : Principal} {items : List ShippedItem}
    (h : .pulled p items ∈ ((g.pullWork claims agentUuid maxItems).alone m db).2) :
    items = ((claimForAgent db m.now p.agentID maxItems g.opts.leaseTTL m.locked).2.map fun r ↦
      ship (toWorkItem r)) := by
  rcases g.alone_requireAgent claims agentUuid _ m db with
    ⟨status, hrefused⟩ | ⟨id, a, q, -, -, -, hq, halone⟩
  · rw [AgentGateway.pullWork, hrefused] at h
    simp at h
  · rw [AgentGateway.pullWork, halone] at h
    simp only [Task.alone, List.mem_singleton, Event.pulled.injEq] at h
    obtain ⟨rfl, rfl⟩ := h
    rw [hq]

/-- With room for all that its agent may get, a claim takes a resource that is due exactly if it is
assigned to nobody or to the agent. -/
theorem claimed_iff {db : Db} {now agentID limit ttl : Int} {locked : List Int} {u : Uuid}
    {r : Resource} (hr : db.resources.get? u = some r) (hdue : r.due now = true)
    (hfree : r.resourceID ∉ locked)
    (hroom : (db.resources.rows.filter fun r ↦ r.claimable agentID now).length ≤
      normalizeFeedLimit limit) :
    (∃ r' ∈ (claimForAgent db now agentID limit ttl locked).2, r'.resourceUuid = u) ↔
      r.agentID.all (· == agentID) = true := by
  rw [← claimable_of_due hdue]
  constructor
  · rintro ⟨r', hr', rfl⟩
    obtain ⟨x, hx, hclaim, -, -⟩ := mem_claimAgentWork hr'
    obtain rfl : r = x := Option.some.inj (hr.symm.trans hx)
    exact hclaim
  · intro hclaim
    exact ⟨_, mem_claimAgentWork_of_room hr hclaim hfree hroom, Table.uuid_of_get? hr⟩

/-! ## A host that is lost -/

/-- A gateway that knows two agents by name and does not enforce binding. -/
def hostGateway : AgentGateway :=
  newAgentGateway ⟨false, 0, 0⟩
    (fun text ↦ if text = "old" then some 3 else if text = "new" then some 4 else none)
    (fun _ ↦ none) fun _ ↦ ""

/-- The small installation with two agents, both online. -/
def twoHosts : Db where
  tenants := emptyProject.tenants
  projects := emptyProject.projects
  providers := .empty
  agents := ⟨[⟨1, 3, 1, "old", "online", "", "", [], "", some 0, 0, none, unbound_le⟩,
    ⟨2, 4, 1, "new", "online", "", "", [], "", some 0, 0, none, unbound_le⟩], 3,
    by decide, by decide, by decide⟩
  resources := .empty

/-- A call, from its beginning to its end at one time; it is the i-th, and makes so many steps. -/
def callAt (now : Int) (i steps : ℕ) (j : Job) : List HostTurn :=
  .call (.start j) :: List.replicate steps (.call (.resume i ⟨now, []⟩))

/-- The resource 7 is created and the old agent pulls it; the new one goes on beating and the old
one does not, and is swept.  The resource 8 is created after that. -/
def hostLost : List HostTurn :=
  callAt 0 0 1 (.create 7 ⟨2, none, "Container", "web", none, none⟩) ++
  callAt 10 1 4 (.pullWork none "old" 10) ++
  callAt 60000000 2 5 (.heartbeat none "new") ++
  .sweepOffline 65000000 30000000 ::
  callAt 65000010 3 1 (.create 8 ⟨2, none, "Container", "api", none, none⟩)

/-- The state in which the host is lost. -/
def lost : System := hosted plainEnv hostGateway twoHosts hostLost

/-- What the pulls answer with. -/
def Event.pulledUuids : Event → Option (List Uuid)
  | .pulled _ items => some (items.map ShippedItem.resourceUuid)
  | _ => none

/-! ## The theorem -/

/-- **What is due is offered to the agent it was dispatched to, and to no other.**  Take any
interleaving of any calls with the enrolment, the sweeps and the deletion of agents, and a resource
of the state it leads to that is due: live, out of sync, not parked, its lease run out and its
backoff over.  A pull that is answered then, with room for all its agent may get and the row not
locked by anyone, returns the resource exactly if it is assigned to nobody or to the agent that
pulls.  And an agent it was once dispatched to, whatever has become of that agent, is the one it is
assigned to: so no pull of another agent returns it. -/
theorem reoffered_iff_unassigned (env : Env) (g : AgentGateway) (db : Db) (ts : List HostTurn)
    (u : Uuid) (r : Resource) (hr : (hosted env g db ts).store.resources.get? u = some r)
    (m : Moment) (hdue : r.due m.now = true) (hfree : r.resourceID ∉ m.locked)
    (claims : Option String) (agentUuid : String) (maxItems : Int) (p : Principal)
    (items : List ShippedItem)
    (hpull : .pulled p items ∈
      ((g.pullWork claims agentUuid maxItems).alone m (hosted env g db ts).store).2)
    (hroom : ((hosted env g db ts).store.resources.rows.filter fun r ↦
      r.claimable p.agentID m.now).length ≤ normalizeFeedLimit maxItems) :
    ((∃ i ∈ items, i.resourceUuid = u) ↔ r.agentID.all (· == p.agentID) = true) ∧
      ∀ e ∈ (hosted env g db ts).history, ∀ q, e.Handles u q → q.agentID ≠ p.agentID →
        ¬∃ i ∈ items, i.resourceUuid = u := by
  have hreturned : (∃ i ∈ items, i.resourceUuid = u) ↔ r.agentID.all (· == p.agentID) = true := by
    rw [items_of_pulled hpull, ← claimed_iff hr hdue hfree hroom]
    simp only [List.mem_map, exists_exists_and_eq_and]
    rfl
  refine ⟨hreturned, fun e he q hq hne ↦ ?_⟩
  obtain ⟨x, hx, hown⟩ := assigned_of_dispatched he hq
  obtain rfl : r = x := Option.some.inj (hr.symm.trans hx)
  rw [hreturned, hown]
  simpa using hne

/-- The new agent gets the resource that is assigned to nobody. -/
theorem reoffered_iff_unassigned_new :
    ∃ items, .pulled ⟨2, ""⟩ items ∈
        ((hostGateway.pullWork none "new" 20).alone ⟨70000000, []⟩ lost.store).2 ∧
      ∃ i ∈ items, i.resourceUuid = 8 := by
  obtain ⟨r, hr, hcols⟩ : ∃ r, lost.store.resources.get? 8 = some r ∧
      (r.due 70000000, r.agentID) = (true, none) := Option.map_eq_some_iff.mp (by decide)
  obtain ⟨hdue, hunassigned⟩ := Prod.mk.inj hcols
  refine ⟨_, List.mem_singleton.mpr rfl, ?_⟩
  exact (reoffered_iff_unassigned plainEnv hostGateway twoHosts hostLost 8 r hr ⟨70000000, []⟩ hdue
    List.not_mem_nil none "new" 20 ⟨2, ""⟩ _ (List.mem_singleton.mpr rfl) (by decide)).1.mpr
    (by rw [hunassigned]; rfl)

/-- The resource 7 is of no system tier, due, and assigned to an agent that is offline; and a pull
of the agent that is online, with room for twenty, returns the other resource only. -/
theorem stranded_not_reoffered :
    (lost.store.resources.get? 7).map (fun r ↦ (r.metadata.length, r.due 70000000, r.agentID)) =
        some (0, true, some 1) ∧
      [3, 4].map (fun u ↦ (getAgentByUUID lost.store u).map fun a ↦ (a.agentID, a.status)) =
        [some (1, "offline"), some (2, "online")] ∧
      ((hostGateway.pullWork none "new" 20).alone ⟨70000000, []⟩ lost.store).2.filterMap
        Event.pulledUuids = [[8]] := by
  decide

end Maintainerd

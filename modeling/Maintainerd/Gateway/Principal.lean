import Maintainerd.Gateway.Calls

/-!
# One principal per resource

Two columns are written once: the subject an agent row is bound to, and the agent a resource is
assigned to.  `Db.Settles` is the relation "nothing that was settled has changed" between two
databases, and every statement of every call keeps to it, which is all that the calls ever need to
know about each other.

What a call says is then true for good.  A pull says that the resources it answers with are
assigned to its agent row and that the row is bound to the subject of the caller, and an accepted
report says the same of its resource (`Event.Holds`); the two columns being written once, this stays
true.  `one_principal_per_resource` reads it off the last database: two calls that had to do with
one resource found it assigned to one agent row, which is bound to one subject.
-/

set_option autoImplicit false

namespace Maintainerd

open Interleave Machine

/-! ## What is settled -/

/-- What no write of an agent row changes: its number, and the subject it is bound to once it is
bound. -/
structure Agent.Keeps (a a' : Agent) : Prop where
  agentID : a'.agentID = a.agentID
  boundSubject : a.boundSubject ≠ "" → a'.boundSubject = a.boundSubject

theorem Agent.Keeps.refl (a : Agent) : a.Keeps a := ⟨rfl, fun _ ↦ rfl⟩

theorem Agent.Keeps.trans {a b c : Agent} (h : a.Keeps b) (h' : b.Keeps c) : a.Keeps c where
  agentID := h'.agentID.trans h.agentID
  boundSubject hb := by
    have hab := h.boundSubject hb
    rw [h'.boundSubject (by rw [hab]; exact hb), hab]

/-- Nothing that was settled has changed. -/
structure Db.Settles (db db' : Db) : Prop where
  agents : ∀ u a, db.agents.get? u = some a → ∃ a', db'.agents.get? u = some a' ∧ a.Keeps a'
  rows : ∀ u r, db.resources.get? u = some r →
    ∃ r', db'.resources.get? u = some r' ∧ r.Keeps r'

theorem Db.Settles.refl (db : Db) : db.Settles db :=
  ⟨fun _ a h ↦ ⟨a, h, .refl a⟩, fun _ r h ↦ ⟨r, h, .refl r⟩⟩

theorem Db.Settles.trans {a b c : Db} (h : a.Settles b) (h' : b.Settles c) : a.Settles c where
  agents u x hx := by
    obtain ⟨y, hy, hxy⟩ := h.agents u x hx
    obtain ⟨z, hz, hyz⟩ := h'.agents u y hy
    exact ⟨z, hz, hxy.trans hyz⟩
  rows u x hx := by
    obtain ⟨y, hy, hxy⟩ := h.rows u x hx
    obtain ⟨z, hz, hyz⟩ := h'.rows u y hy
    exact ⟨z, hz, hxy.trans hyz⟩

/-- What the resource service does leaves the agents alone. -/
theorem Db.Evolves.settles {db db' : Db} (h : db.Evolves db') : db.Settles db' := by
  refine ⟨fun u a ha ↦ ⟨a, ?_, .refl a⟩, h.rows⟩
  rw [h.agents]
  exact ha

/-- An update of one agent settles, if what it sets keeps the row it finds. -/
theorem updateAgent_settles {db : Db} {u : Uuid} {guard : Agent → Bool} {holds : Bool}
    {f : Patch Agent} (hf : ∀ a, guard a = true → a.Keeps (f a)) :
    db.Settles (outcome db (updateAgent db u guard holds f)).1 := by
  rcases hupd : updateAgent db u guard holds f with e | ⟨db', a'⟩
  · exact .refl db
  obtain ⟨a, ha, -, hguard, -, hdb, hget⟩ := updateAgent_spec hupd
  refine ⟨fun v x hx ↦ ?_, fun v r hr ↦ ⟨r, ?_, .refl r⟩⟩
  · by_cases hv : v = u
    · subst hv
      obtain rfl : a = x := by rw [ha] at hx; exact Option.some.inj hx
      exact ⟨f a, (hget v).trans (if_pos rfl), hf a hguard⟩
    · exact ⟨x, (hget v).trans ((if_neg hv).trans hx), .refl x⟩
  · show db'.resources.get? v = some r
    rw [hdb]
    exact hr

theorem updateAgentStatus_settles (db : Db) (now : Int) (p : UpdateAgentStatusParams) :
    db.Settles (outcome db (updateAgentStatus db now p)).1 :=
  updateAgent_settles fun _ _ ↦ ⟨rfl, fun _ ↦ rfl⟩

theorem agentHeartbeat_settles (db : Db) (now : Int) (u : Uuid) :
    db.Settles (outcome db (agentHeartbeat db now u)).1 :=
  updateAgent_settles fun _ _ ↦ ⟨rfl, fun _ ↦ rfl⟩

/-- The statement that binds finds no row that is bound to another subject. -/
theorem bindAgentSubject_settles (db : Db) (now : Int) (p : BindAgentSubjectParams) :
    db.Settles (outcome db (bindAgentSubject db now p)).1 := by
  refine updateAgent_settles fun a hguard ↦ ⟨rfl, fun hbound ↦ ?_⟩
  rcases Bool.or_eq_true_iff.mp hguard with h | h
  · exact absurd (by simpa using h) hbound
  · have hsame : a.boundSubject = p.boundSubject := beq_iff_eq.mp h
    show Postgres.clip 255 p.boundSubject = a.boundSubject
    rw [← hsame, Postgres.clip_of_length_le a.boundSubject_le]

/-! ## What the calls say -/

/-- The agent row is bound to the subject. -/
def Principal.Bound (p : Principal) (db : Db) : Prop :=
  p.subject ≠ "" ∧ ∃ u a, db.agents.get? u = some a ∧ a.agentID = p.agentID ∧
    a.boundSubject = p.subject

/-- What a call says holds of the database. -/
def Event.Holds (e : Event) (db : Db) : Prop :=
  ∀ resource p, e.Handles resource p → p.Bound db ∧ p.Assigned resource db

theorem Principal.Bound.settles {p : Principal} {db db' : Db} (h : p.Bound db)
    (hs : db.Settles db') : p.Bound db' := by
  obtain ⟨hne, u, a, ha, hid, hbound⟩ := h
  obtain ⟨a', ha', hk⟩ := hs.agents u a ha
  refine ⟨hne, u, a', ha', hk.agentID.trans hid, ?_⟩
  rw [hk.boundSubject (by rw [hbound]; exact hne), hbound]

theorem Principal.Assigned.settles {p : Principal} {resource : Uuid} {db db' : Db}
    (h : p.Assigned resource db) (hs : db.Settles db') : p.Assigned resource db' := by
  obtain ⟨r, hr, hown⟩ := h
  obtain ⟨r', hr', hk⟩ := hs.rows resource r hr
  exact ⟨r', hr', hk.agentID _ hown⟩

/-- Two principals that a resource was handled by are one. -/
theorem Principal.eq_of_assigned {p q : Principal} {resource : Uuid} {db : Db}
    (hp : p.Bound db ∧ p.Assigned resource db) (hq : q.Bound db ∧ q.Assigned resource db) :
    p = q := by
  obtain ⟨⟨-, u, a, ha, haid, hasub⟩, r, hr, hrid⟩ := hp
  obtain ⟨⟨-, v, b, hb, hbid, hbsub⟩, r', hr', hrid'⟩ := hq
  obtain rfl : r = r' := by rw [hr] at hr'; exact Option.some.inj hr'
  have hid : p.agentID = q.agentID := by rw [hrid] at hrid'; exact Option.some.inj hrid'
  -- the serial key of the table is unique, so the two agent rows are one
  obtain rfl : a = b := Table.eq_of_id_eq (Table.mem_of_get? ha) (Table.mem_of_get? hb)
    (haid.trans (hid.trans hbid.symm))
  cases p
  cases q
  simp only [Principal.mk.injEq]
  exact ⟨hid, hasub.symm.trans hbsub⟩

/-! ## Any interleaving -/

/-- With binding enforced, the calls go by `Db.Settles`, and a caller is known by the subject its
agent row is bound to. -/
theorem settles_regime {g : AgentGateway} (henforce : g.opts.enforceBinding = true) :
    Regime g Db.Settles Principal.Bound
      fun p resource db ↦ p.Bound db ∧ p.Assigned resource db where
  refl := Db.Settles.refl
  trans _ _ _ := Db.Settles.trans
  updateAgentStatus := updateAgentStatus_settles
  agentHeartbeat := agentHeartbeat_settles
  bindAgentSubject := bindAgentSubject_settles
  evolves _ _ := Db.Evolves.settles
  known _ _ _ := Principal.Bound.settles
  handled _ _ _ _ h hs := ⟨h.1.settles hs, h.2.settles hs⟩
  found hopen := by
    rw [henforce] at hopen
    cases hopen
  bound _ db id a ha hne := ⟨hne, id, a, (getAgentByUUID_eq_some.mp ha).1, rfl, rfl⟩
  handles _ _ _ hbound hassigned := ⟨hbound, hassigned⟩

/-- Every call under way is in order, and everything said is true. -/
abbrev System.Sound (p : System) : Prop := Pool.Sound Db.Settles Event.Holds p

/-- Between two points of a run everything settled stays as it is, and at the end of it everything
said is true. -/
theorem played_settles (env : Env) {g : AgentGateway} (henforce : g.opts.enforceBinding = true)
    (db : Db) (ts ts' : List Turn) :
    (played env g db ts).store.Settles (played env g db (ts ++ ts')).store ∧
      (played env g db (ts ++ ts')).Sound :=
  (settles_regime henforce).played env db ts ts'

/-! ## Two callers that claim one agent -/

/-- A gateway that knows the agent 3 and the resource 7 by name, and enforces binding. -/
def plainGateway : AgentGateway :=
  newAgentGateway ⟨true, 0, 0⟩
    (fun text ↦ if text = "host" then some 3 else if text = "web" then some 7 else none)
    (fun _ ↦ none) fun _ ↦ ""

/-- The small installation, with the agent 3 in it, not bound yet. -/
def oneAgent : Db where
  tenants := emptyProject.tenants
  projects := emptyProject.projects
  providers := .empty
  agents := ⟨[⟨1, 3, 1, "host", "pending", "", "", [], "", none, 0, none, unbound_le⟩], 2,
    by decide, by decide, by decide⟩
  resources := .empty

/-- The next step of each of the calls of the list. -/
def resumes (calls : List ℕ) : List Turn := calls.map (.resume · ⟨10, []⟩)

/-- A resource is created; two callers register as the one agent at the same time, and the first
one to be bound pulls and reports while the other one tries the same. -/
def contested : List Turn :=
  .start (.create 7 ⟨2, none, "Container", "web", none, none⟩) ::
  .start (.register (some "mallory") "host" "v1" []) ::
  .start (.register (some "alice") "host" "v1" []) ::
  resumes [0, 2, 1, 2, 1, 1, 2, 2, 2, 2] ++
  .start (.pullWork (some "mallory") "host" 10) ::
  .start (.pullWork (some "alice") "host" 10) ::
  .start (.reportStatus (some "alice") "host" [⟨"web", "running", "", 1⟩]) ::
  resumes [3, 4, 3, 4, 4, 4, 5, 5, 5, 5, 5, 5]

/-! ## The theorem -/

/-- **One principal per resource.**  With identity binding enforced, take any database and any
interleaving of any calls, from any callers under any claims.  Between any two points of it, an
agent row that is bound stays bound to its subject, and a resource that is assigned stays assigned
to its agent; and any two pulls that answered with one resource, and any reports that were accepted
for it, were made as one agent row under one verified subject. -/
theorem one_principal_per_resource (env : Env) (g : AgentGateway)
    (henforce : g.opts.enforceBinding = true) (db : Db) (ts ts' : List Turn) :
    (∀ u a, (played env g db ts).store.agents.get? u = some a → a.boundSubject ≠ "" →
      ∃ a', (played env g db (ts ++ ts')).store.agents.get? u = some a' ∧
        a'.boundSubject = a.boundSubject) ∧
    (∀ u r n, (played env g db ts).store.resources.get? u = some r → r.agentID = some n →
      ∃ r', (played env g db (ts ++ ts')).store.resources.get? u = some r' ∧
        r'.agentID = some n) ∧
    ∀ resource p q, ∀ e ∈ (played env g db (ts ++ ts')).history,
      ∀ e' ∈ (played env g db (ts ++ ts')).history,
      e.Handles resource p → e'.Handles resource q → p = q := by
  obtain ⟨hsettles, hsound⟩ := played_settles env henforce db ts ts'
  refine ⟨fun u a ha hbound ↦ ?_, fun u r n hr hn ↦ ?_, ?_⟩
  · obtain ⟨a', ha', hk⟩ := hsettles.agents u a ha
    exact ⟨a', ha', hk.boundSubject hbound⟩
  · obtain ⟨r', hr', hk⟩ := hsettles.rows u r hr
    exact ⟨r', hr', hk.agentID n hn⟩
  · intro resource p q e he e' he' hp hq
    exact Principal.eq_of_assigned (hsound.history e he resource p hp)
      (hsound.history e' he' resource q hq)

theorem one_principal_per_resource_contested :
    ((played plainEnv plainGateway oneAgent contested).history.filterMap fun
        | .pulled p items => some (p, items.map ShippedItem.resourceUuid)
        | .accepted p u => some (p, [u])
        | _ => none) = [(⟨1, "alice"⟩, [7]), (⟨1, "alice"⟩, [7])] ∧
      ∀ p q, ∀ e ∈ (played plainEnv plainGateway oneAgent contested).history,
        ∀ e' ∈ (played plainEnv plainGateway oneAgent contested).history,
        e.Handles 7 p → e'.Handles 7 q → p = q :=
  ⟨by decide, (one_principal_per_resource plainEnv plainGateway rfl oneAgent contested []).2.2 7⟩

end Maintainerd

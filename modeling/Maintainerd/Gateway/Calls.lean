import Maintainerd.Gateway.Rpc
import Maintainerd.Resource.Step

/-!
# What every call keeps to

Two things are shown about the calls of the system in any interleaving: who a resource is handled
by, and for which tenant.  Both go the same way through the text of the RPCs, so this file goes
through it once, for an arbitrary `Regime`: a relation between databases that every statement keeps
to, and a fact about an agent row, a caller and a resource that is established when the row was
required and the resource was found assigned to it, and that stays true along the relation.

`Regime.job` says that every call of the system is then in order, and `Regime.played` that in any
interleaving every step keeps to the relation and everything said is true.

What a call can say at all is another matter, which no database enters, and the text is gone through
once more for it: an event of which `V` holds if it handles nothing.
-/

set_option autoImplicit false

namespace Maintainerd

open Interleave Machine

/-- The resource is assigned to the agent row. -/
def Principal.Assigned (p : Principal) (resource : Uuid) (db : Db) : Prop :=
  ∃ r, db.resources.get? resource = some r ∧ r.agentID = some p.agentID

/-- The call that says it had to do with the resource, as the principal. -/
def Event.Handles (resource : Uuid) (p : Principal) : Event → Prop
  | .pulled q items => q = p ∧ ∃ i ∈ items, i.resourceUuid = resource
  | .accepted q u => q = p ∧ u = resource
  | _ => False

/-- Whatever a call handles, it handles as `Q` says. -/
def Event.Says (Q : Principal → Uuid → Db → Prop) (e : Event) (db : Db) : Prop :=
  ∀ resource p, e.Handles resource p → Q p resource db

/-- A regime of the calls: a relation `R` that every statement keeps to; what is known of a caller
after `requireAgent`, `K`; and what is then true of a resource it handles, `Q`. -/
structure Regime (g : AgentGateway) (R : Db → Db → Prop) (K : Principal → Db → Prop)
    (Q : Principal → Uuid → Db → Prop) : Prop where
  refl : ∀ db, R db db
  trans : ∀ a b c, R a b → R b c → R a c
  updateAgentStatus : ∀ db now p, R db (outcome db (updateAgentStatus db now p)).1
  agentHeartbeat : ∀ db now u, R db (outcome db (agentHeartbeat db now u)).1
  bindAgentSubject : ∀ db now p, R db (outcome db (bindAgentSubject db now p)).1
  /-- What the resource service does. -/
  evolves : ∀ db db', db.Evolves db' → R db db'
  known : ∀ p db db', K p db → R db db' → K p db'
  handled : ∀ p u db db', Q p u db → R db db' → Q p u db'
  /-- An agent that was found is known, when binding is not enforced. -/
  found : g.opts.enforceBinding = false → ∀ db id a, getAgentByUUID db id = some a →
    K ⟨a.agentID, ""⟩ db
  /-- An agent that was found bound to the caller is known, when binding is enforced. -/
  bound : g.opts.enforceBinding = true → ∀ db id a, getAgentByUUID db id = some a →
    a.boundSubject ≠ "" → K ⟨a.agentID, a.boundSubject⟩ db
  /-- What is handled is assigned to an agent that is known. -/
  handles : ∀ p u db, K p db → p.Assigned u db → Q p u db

namespace Regime

variable {env : Env} {g : AgentGateway} {R : Db → Db → Prop} {K : Principal → Db → Prop}
  {Q : Principal → Uuid → Db → Prop}

theorem discipline (h : Regime g R K Q) : Discipline R (Event.Says Q) where
  refl := h.refl
  trans := h.trans
  stable _ _ _ he hs resource p hp := h.handled p resource _ _ (he resource p hp) hs

/-! ## The parts of a call -/

theorem refuse (status : Status) (db : Db) :
    (refuse status).Ok R (Event.Says Q) db := ⟨fun _ _ h ↦ h.elim, trivial⟩

theorem query (h : Regime g R K Q) {α : Type} {q : Db → α} {k : α → Work Event} {db : Db}
    (hk : ∀ db', R db db' → (k (q db')).Ok R (Event.Says Q) db') :
    (query q k).Ok R (Event.Says Q) db :=
  ok_query h.discipline fun db' _ hs ↦ hk db' hs

theorem statement {α : Type} {q : Db → Int → Except QueryError (Db × α)}
    {k : Except QueryError α → Work Event} {db : Db}
    (hq : ∀ (db : Db) (now : Int), R db (outcome db (q db now)).1)
    (hk : ∀ x db, (k x).Ok R (Event.Says Q) db) : (statement q k).Ok R (Event.Says Q) db :=
  fun db' m _ ↦ ⟨hq db' m.now, hk _ _⟩

theorem resolveTenantUUID (h : Regime g R K Q) {row : Agent}
    {k : Except AppError Agent → Work Event} {db : Db}
    (herr : ∀ e db', (k (.error e)).Ok R (Event.Says Q) db')
    (hok : ∀ db', R db db' → (k (.ok row)).Ok R (Event.Says Q) db') :
    (resolveTenantUUID row k).Ok R (Event.Says Q) db := by
  refine h.query fun db' hs ↦ ?_
  split
  · exact herr _ _
  · exact hok _ hs

theorem updateAgentRow (h : Regime g R K Q) {id : Uuid} {input : AgentUpdateInput}
    {k : Except AppError Agent → Work Event} (hk : ∀ x db, (k x).Ok R (Event.Says Q) db) (db : Db) :
    (updateAgentRow id input k).Ok R (Event.Says Q) db := by
  refine h.query fun db' _ ↦ ?_
  split
  · exact hk _ _
  refine statement (fun db now ↦ h.updateAgentStatus db now _) fun x db ↦ ?_
  split
  · exact hk _ _
  · exact hk _ _
  · exact h.resolveTenantUUID (fun _ _ ↦ hk _ _) fun _ _ ↦ hk _ _

theorem bindSubject (h : Regime g R K Q) {id : Uuid} {subject : String}
    {k : Except AppError Agent → Work Event} (hk : ∀ x db, (k x).Ok R (Event.Says Q) db) (db : Db) :
    (bindSubject id subject k).Ok R (Event.Says Q) db := by
  rw [Maintainerd.bindSubject]
  split
  · exact hk _ _
  refine statement (fun db now ↦ h.bindAgentSubject db now _) fun x db ↦ ?_
  split
  · refine h.query fun db' _ ↦ ?_
    split
    · exact hk _ _
    · exact hk _ _
  · exact hk _ _
  · exact h.resolveTenantUUID (fun _ _ ↦ hk _ _) fun _ _ ↦ hk _ _

theorem heartbeatAgent (h : Regime g R K Q) {id : Uuid} {k : Except AppError Agent → Work Event}
    (hk : ∀ x db, (k x).Ok R (Event.Says Q) db) (db : Db) :
    (heartbeatAgent id k).Ok R (Event.Says Q) db := by
  refine statement (fun db now ↦ h.agentHeartbeat db now id) fun x db ↦ ?_
  split
  · exact hk _ _
  · exact hk _ _
  · exact h.resolveTenantUUID (fun _ _ ↦ hk _ _) fun _ _ ↦ hk _ _

/-- What comes after `Get` may count on what is known of a row that was found. -/
theorem getAgent (h : Regime g R K Q) (hopen : g.opts.enforceBinding = false) {id : Uuid}
    {k : Except AppError Agent → Work Event}
    (herr : ∀ e db, (k (.error e)).Ok R (Event.Says Q) db)
    (hok : ∀ (a : Agent) (db : Db), K ⟨a.agentID, ""⟩ db → (k (.ok a)).Ok R (Event.Says Q) db)
    (db : Db) : (getAgent id k).Ok R (Event.Says Q) db := by
  refine h.query fun db' _ ↦ ?_
  split
  · exact herr _ _
  rename_i row hrow
  have hknown := h.found hopen db' id row hrow
  exact h.resolveTenantUUID herr fun db'' hs ↦ hok row db'' (h.known _ _ _ hknown hs)

/-- What comes after `RequireSubject` may count on what is known of a row bound to the subject. -/
theorem requireSubject (h : Regime g R K Q) (henforce : g.opts.enforceBinding = true) {id : Uuid}
    {subject : String} {k : Except AppError Agent → Work Event}
    (herr : ∀ e db, (k (.error e)).Ok R (Event.Says Q) db)
    (hok : ∀ (a : Agent) (db : Db), K ⟨a.agentID, subject⟩ db →
      (k (.ok a)).Ok R (Event.Says Q) db) (db : Db) :
    (requireSubject id subject k).Ok R (Event.Says Q) db := by
  refine h.query fun db' _ ↦ ?_
  split
  · exact herr _ _
  rename_i row hrow
  split
  · exact herr _ _
  rename_i hne
  split
  · exact herr _ _
  rename_i hmatch
  rw [not_or, not_ne_iff] at hmatch
  have hknown := h.bound henforce db' id row hrow hne
  rw [hmatch.2] at hknown
  exact h.resolveTenantUUID herr fun db'' hs ↦ hok row db'' (h.known _ _ _ hknown hs)

/-! ## The calls -/

/-- What comes after `requireAgent` may count on what is known of the caller. -/
theorem requireAgent (h : Regime g R K Q) {claims : Option String} {agentUuid : String}
    {k : Agent → Principal → Work Event}
    (hk : ∀ (a : Agent) (p : Principal) (db : Db), p.agentID = a.agentID → K p db →
      (k a p).Ok R (Event.Says Q) db) (db : Db) :
    (g.requireAgent claims agentUuid k).Ok R (Event.Says Q) db := by
  rw [AgentGateway.requireAgent]
  split
  · exact refuse _ _
  rcases henforce : g.opts.enforceBinding with _ | _
  · rw [Bool.not_false, if_pos rfl]
    exact h.getAgent henforce (fun _ _ ↦ refuse _ _) (fun a db hknown ↦ hk a _ db rfl hknown) db
  · rw [Bool.not_true, if_neg Bool.false_ne_true]
    split
    · exact refuse _ _
    · exact h.requireSubject henforce (fun _ _ ↦ refuse _ _)
        (fun a db hknown ↦ hk a _ db rfl hknown) db

theorem register (h : Regime g R K Q) (claims : Option String) (agentUuid version : String)
    (capabilities : List String) (db : Db) :
    (g.register claims agentUuid version capabilities).Ok R (Event.Says Q) db := by
  have honline : ∀ id db, (g.registerOnline id version capabilities).Ok R (Event.Says Q) db := by
    refine fun id db ↦ h.updateAgentRow (fun x db ↦ ?_) db
    cases x with
    | error e => exact refuse _ _
    | ok a => exact ⟨fun _ _ h ↦ h.elim, trivial⟩
  rw [AgentGateway.register]
  split
  · exact refuse _ _
  split
  · exact honline _ _
  split
  · exact refuse _ _
  refine h.bindSubject (fun x db ↦ ?_) db
  cases x with
  | error e => exact refuse _ _
  | ok a => exact honline _ _

theorem heartbeat (h : Regime g R K Q) (claims : Option String) (agentUuid : String) (db : Db) :
    (g.heartbeat claims agentUuid).Ok R (Event.Says Q) db := by
  refine h.requireAgent (fun a p db _ _ ↦ ?_) db
  refine h.heartbeatAgent (fun x db ↦ ?_) db
  cases x with
  | error e => exact refuse _ _
  | ok a => exact ⟨fun _ _ h ↦ h.elim, trivial⟩

/-- A pull answers with rows that its claim has assigned. -/
theorem pullWork (h : Regime g R K Q) (claims : Option String) (agentUuid : String)
    (maxItems : Int) (db : Db) : (g.pullWork claims agentUuid maxItems).Ok R (Event.Says Q) db := by
  refine h.requireAgent (fun a p db hid hknown ↦ ?_) db
  refine ok_act fun db' m hs ↦ ?_
  let q : Request := ⟨m.now, .claimForAgent a.agentID maxItems g.opts.leaseTTL m.locked⟩
  have hstep : R db' (step plainEnv db' q) := h.evolves _ _ (step_evolves plainEnv db' q)
  refine ⟨hstep, ?_, trivial⟩
  rintro resource _ ⟨rfl, i, hi, rfl⟩
  obtain ⟨a', limit, ttl, locked, r, hop, -, -, -, hget⟩ :=
    mem_shipped plainEnv (show i ∈ shipped db' q from hi)
  cases hop
  exact h.handles _ _ _ (h.known _ _ _ (h.known _ _ _ hknown hs) hstep)
    ⟨_, hget, congrArg some hid.symm⟩

/-- A report is written to a row that was found assigned to its agent. -/
theorem reportLoop (h : Regime g R K Q) {a : Agent} {p : Principal} (hid : p.agentID = a.agentID)
    (reports : List StatusReport) (accepted : ℕ) (db : Db) (hknown : K p db) :
    (g.reportLoop env a p reports accepted).Ok R (Event.Says Q) db := by
  induction reports generalizing accepted db with
  | nil => exact ⟨fun _ _ h ↦ h.elim, trivial⟩
  | cons rep reports ih =>
    rw [AgentGateway.reportLoop]
    split
    · exact ih accepted db hknown
    rename_i id _
    refine ok_query h.discipline fun db' m hs ↦ ?_
    have hknown' := h.known _ _ _ hknown hs
    split
    · exact ih accepted db' hknown'
    rename_i st hread
    have hhandled : Q p id db' := by
      refine h.handles p id db' hknown' ?_
      rcases Call.read_eq_ok hread with ⟨hdel, -⟩ | ⟨r, hr, -, hplan⟩
      · cases hdel
      · obtain ⟨hown, -⟩ := Call.plan_report hplan
        exact ⟨r, hr, by rw [hid]; exact hown⟩
    refine ok_act fun db'' m' hs' ↦ ?_
    have hwrite := h.evolves _ _ (Statement.write_evolves db'' m'.now st)
    have hall := h.trans _ _ _ hs' hwrite
    refine ⟨hwrite, ?_⟩
    split
    · exact ih accepted _ (h.known _ _ _ hknown' hall)
    · refine ⟨?_, ih (accepted + 1) _ (h.known _ _ _ hknown' hall)⟩
      rintro resource _ ⟨rfl, rfl⟩
      exact h.handled _ _ _ _ hhandled hall

theorem callWork (h : Regime g R K Q) (c : Call) (db : Db) :
    (callWork env c).Ok R (Event.Says Q) db := by
  refine ok_query h.discipline fun db' m _ ↦ ?_
  split
  · trivial
  · exact fun db'' m' _ ↦ ⟨h.evolves _ _ (Statement.write_evolves db'' m'.now _), trivial⟩

/-- **Every call is in order**, whoever makes it. -/
theorem job (h : Regime g R K Q) (j : Job) (db : Db) :
    (j.work env g).Ok R (Event.Says Q) db := by
  cases j with
  | register claims agentUuid version capabilities => exact h.register _ _ _ _ db
  | heartbeat claims agentUuid => exact h.heartbeat _ _ db
  | pullWork claims agentUuid maxItems => exact h.pullWork _ _ _ db
  | reportStatus claims agentUuid reports =>
    exact h.requireAgent (fun a p db hid hknown ↦ h.reportLoop hid reports 0 db hknown) db
  | create uuid input =>
    exact fun db' m _ ↦
      ⟨h.evolves _ _ (step_evolves env db' ⟨m.now, .create uuid input⟩), trivial⟩
  | write c => exact h.callWork c db
  | flagHostUnreachable id =>
    exact fun db' m _ ↦
      ⟨h.evolves _ _ (step_evolves env db' ⟨m.now, .flagHostUnreachable id⟩), trivial⟩

/-! ## Any interleaving -/

/-- A turn keeps to the relation and leaves every call in order. -/
theorem turn (h : Regime g R K Q) (env : Env) {p : System} (hp : p.Sound R (Event.Says Q))
    (t : Turn) : R p.store (p.turn env g t).store ∧ (p.turn env g t).Sound R (Event.Says Q) := by
  cases t with
  | start j =>
    refine Pool.Sound.step h.discipline hp fun w hw ↦ ?_
    cases hw
    exact h.job j p.store
  | resume i m =>
    refine Pool.Sound.step h.discipline hp fun w hw ↦ ?_
    cases hw

/-- **Any interleaving keeps to the relation**, between any two points of it, and everything said is
true. -/
theorem played (h : Regime g R K Q) (env : Env) (db : Db) (ts ts' : List Turn) :
    R (played env g db ts).store (played env g db (ts ++ ts')).store ∧
      (Maintainerd.played env g db (ts ++ ts')).Sound R (Event.Says Q) := by
  have hkeep : ∀ (p : System) (t : Turn), p.Sound R (Event.Says Q) →
      (p.turn env g t).Sound R (Event.Says Q) := fun p t hp ↦ (h.turn env hp t).2
  have hsound : ∀ ts, (Maintainerd.played env g db ts).Sound R (Event.Says Q) :=
    fun ts ↦ invariant_run ts (Pool.sound_start db) hkeep
  refine ⟨?_, hsound _⟩
  rw [Maintainerd.played, Maintainerd.played, run_append]
  exact (guarded_true _ ts').relates (R := fun p p' ↦ R p.store p'.store) (hsound ts)
    (fun p ↦ h.refl p.store) (fun _ _ _ ↦ h.trans _ _ _) (fun p t hp _ ↦ hkeep p t hp)
    fun p t hp _ ↦ (h.turn env hp t).1

end Regime

/-! ## What a call can say -/

section Says

variable {env : Env} {g : AgentGateway} {V : Event → Prop}

theorem says_resolveTenantUUID {row : Agent} {k : Except AppError Agent → Work Event}
    (hk : ∀ x, (k x).Says V) : (resolveTenantUUID row k).Says V := by
  intro t
  cases t with
  | none => exact hk _
  | some _ => exact hk _

theorem says_getAgent {id : Uuid} {k : Except AppError Agent → Work Event}
    (hk : ∀ x, (k x).Says V) : (getAgent id k).Says V := by
  intro row
  cases row with
  | none => exact hk _
  | some row => exact says_resolveTenantUUID hk

theorem says_requireSubject {id : Uuid} {subject : String}
    {k : Except AppError Agent → Work Event} (hk : ∀ x, (k x).Says V) :
    (requireSubject id subject k).Says V := by
  intro row
  cases row with
  | none => exact hk _
  | some row =>
    dsimp only
    split
    · exact hk _
    split
    · exact hk _
    · exact says_resolveTenantUUID hk

theorem says_updateAgentRow {id : Uuid} {input : AgentUpdateInput}
    {k : Except AppError Agent → Work Event} (hk : ∀ x, (k x).Says V) :
    (updateAgentRow id input k).Says V := by
  intro current
  cases current with
  | none => exact hk _
  | some current =>
    intro x
    dsimp only
    split
    · exact hk _
    · exact hk _
    · exact says_resolveTenantUUID hk

theorem says_bindSubject {id : Uuid} {subject : String}
    {k : Except AppError Agent → Work Event} (hk : ∀ x, (k x).Says V) :
    (bindSubject id subject k).Says V := by
  rw [bindSubject]
  split
  · exact hk _
  intro x
  dsimp only
  split
  · intro row
    cases row with
    | none => exact hk _
    | some _ => exact hk _
  · exact hk _
  · exact says_resolveTenantUUID hk

theorem says_heartbeatAgent {id : Uuid} {k : Except AppError Agent → Work Event}
    (hk : ∀ x, (k x).Says V) : (heartbeatAgent id k).Says V := by
  intro x
  dsimp only
  split
  · exact hk _
  · exact hk _
  · exact says_resolveTenantUUID hk

theorem says_callWork (c : Call) : (callWork env c).Says V := by
  intro x
  cases x with
  | error e => trivial
  | ok st => exact fun _ ↦ trivial

variable (hquiet : ∀ e : Event, (∀ resource q, ¬e.Handles resource q) → V e)

include hquiet

theorem says_refuse (status : Status) : (refuse status).Says V :=
  ⟨hquiet _ fun _ _ h ↦ h, trivial⟩

/-- What comes after `requireAgent` is done under the subject of the caller. -/
theorem says_requireAgent {claims : Option String} {agentUuid : String}
    {k : Agent → Principal → Work Event}
    (hk : ∀ a q, g.callerSubject claims = .ok q.subject → (k a q).Says V) :
    (g.requireAgent claims agentUuid k).Says V := by
  rw [AgentGateway.requireAgent]
  split
  · exact says_refuse hquiet _
  rcases henforce : g.opts.enforceBinding with _ | _
  · rw [Bool.not_false, if_pos rfl]
    refine says_getAgent fun x ↦ ?_
    cases x with
    | error e => exact says_refuse hquiet _
    | ok a =>
      refine hk a _ ?_
      rw [AgentGateway.callerSubject, henforce, Bool.not_false, if_pos rfl]
  · rw [Bool.not_true, if_neg Bool.false_ne_true]
    split
    · exact says_refuse hquiet _
    · rename_i subject hsubject
      refine says_requireSubject fun x ↦ ?_
      cases x with
      | error e => exact says_refuse hquiet _
      | ok a => exact hk a _ hsubject

theorem says_register (claims : Option String) (agentUuid version : String)
    (capabilities : List String) : (g.register claims agentUuid version capabilities).Says V := by
  have honline : ∀ id, (g.registerOnline id version capabilities).Says V := by
    refine fun id ↦ says_updateAgentRow fun x ↦ ?_
    cases x with
    | error e => exact says_refuse hquiet _
    | ok a => exact ⟨hquiet _ fun _ _ h ↦ h, trivial⟩
  rw [AgentGateway.register]
  split
  · exact says_refuse hquiet _
  split
  · exact honline _
  split
  · exact says_refuse hquiet _
  refine says_bindSubject fun x ↦ ?_
  cases x with
  | error e => exact says_refuse hquiet _
  | ok a => exact honline _

theorem says_heartbeat (claims : Option String) (agentUuid : String) :
    (g.heartbeat claims agentUuid).Says V := by
  refine says_requireAgent hquiet fun a q _ ↦ says_heartbeatAgent fun x ↦ ?_
  cases x with
  | error e => exact says_refuse hquiet _
  | ok a => exact ⟨hquiet _ fun _ _ h ↦ h, trivial⟩

theorem says_reportLoop {a : Agent} {q : Principal} (hq : ∀ u, V (.accepted q u))
    (reports : List StatusReport) (accepted : ℕ) :
    (g.reportLoop env a q reports accepted).Says V := by
  induction reports generalizing accepted with
  | nil => exact ⟨hquiet _ fun _ _ h ↦ h, trivial⟩
  | cons rep reports ih =>
    rw [AgentGateway.reportLoop]
    split
    · exact ih accepted
    intro x
    cases x with
    | error e => exact ih accepted
    | ok st =>
      intro y
      cases y with
      | error e => exact ih accepted
      | ok r => exact ⟨hq _, ih (accepted + 1)⟩

end Says

end Maintainerd

import Maintainerd.Lib.Fallible
import Maintainerd.Registry.Feed
import Maintainerd.Resource.Step
import Maintainerd.Setup.Attempt
import Maintainerd.Supervisor.Gap
import Maintainerd.Supervisor.Watch

/-!
# The mirror

The last thing an attempt at setup does, and the part of it whose failure is only logged: `mirror`
and `publishSystemResources` of `internal/setup/orchestrator.go`.  Core gets a system tenant of its
own, the three system services are put into its registry, and for every system image that is
configured a workload is put into a project of that tenant.  What the supervisor keeps alive is
found through these rows and nothing else.

`CoreDb` is all of core's tables: the registry with the tenants, and what the resource service works
on, which sees the same tenants with fewer columns.  `MirrorMeets` is what one attempt meets: which
of its statements reach the database, and what the database draws.  An attempt may stop anywhere,
and nothing is undone.

The mirror never asks whether a registration or a workload is there.  It inserts it every time, and
lets a unique index refuse the second copy.  So two things have to be seen.  `Settled` is a state in
which every insertion of the mirror is refused, and an attempt leaves such a state alone, whatever
it meets (`Settled.mirrored_eq`).  `Sound` says that the tables hold nothing that is in the way,
which every attempt keeps, wherever it stops; and from a sound state an attempt that meets no fault
settles the tables (`Sound.settled`).
-/

set_option autoImplicit false

namespace Maintainerd

open Fallible Machine Postgres

/-! ## The tables -/

/-- Core's tables. -/
structure CoreDb where
  registry : Registry
  projects : Table Project
  providers : Table Provider
  agents : Table Agent
  resources : Table Resource

namespace CoreDb

/-- A new installation. -/
def empty : CoreDb := ⟨.empty, .empty, .empty, .empty, .empty⟩

/-- What the resource service sees of the tables. -/
def db (c : CoreDb) : Db where
  tenants := c.registry.tenants.view TenantRow.toTenant (fun _ ↦ rfl) fun _ ↦ rfl
  projects := c.projects
  providers := c.providers
  agents := c.agents
  resources := c.resources

theorem getTenantByUUID_db (c : CoreDb) (u : Uuid) :
    getTenantByUUID c.db u = (c.registry.getTenantByUUID u).map TenantRow.toTenant := by
  rw [getTenantByUUID, db, Table.get?_view, Registry.getTenantByUUID]
  rcases c.registry.tenants.get? u with _ | t
  · rfl
  · rcases hlive : t.deletedAt.isNone with _ | _ <;> simp [Option.filter, TenantRow.live, hlive]

theorem getTenantByID_db (c : CoreDb) (id : Int) :
    getTenantByID c.db id = (c.registry.getTenantByID id).map TenantRow.toTenant := by
  rw [getTenantByID, db, Table.getByID?_view, Registry.getTenantByID]
  rcases c.registry.tenants.getByID? id with _ | t
  · rfl
  · rcases hlive : t.deletedAt.isNone with _ | _ <;> simp [Option.filter, TenantRow.live, hlive]

/-- `Create` of the tenant service. -/
def createTenant (c : CoreDb) (now : Int) (uuid : Uuid) (input : TenantService.CreateInput) :
    CoreDb × Except AppError TenantRow :=
  let out := TenantService.create c.registry now uuid input
  ({ c with registry := out.1 }, out.2)

/-- `Create` of the service registry. -/
def createService (c : CoreDb) (now : Int) (uuid : Uuid) (input : ServiceRegistry.CreateInput) :
    CoreDb × Except AppError ServiceRegistry.Record :=
  let out := ServiceRegistry.create c.registry now uuid input
  ({ c with registry := out.1 }, out.2)

/-- `CreateProject`. -/
def createProject (c : CoreDb) (p : CreateProjectParams) : CoreDb × Except AppError Project :=
  match Maintainerd.createProject c.db p with
  | .error e => (c, .error (.query e))
  | .ok (db', project) => ({ c with projects := db'.projects }, .ok project)

/-- `Create` of the resource service. -/
def createResource (env : Env) (c : CoreDb) (now : Int) (uuid : Uuid) (input : CreateInput) :
    CoreDb × Except AppError Reply :=
  let out := create env c.db now uuid input
  ({ c with resources := out.1.resources }, out.2)

/-- Any request to the resource service. -/
def request (env : Env) (c : CoreDb) (q : Request) : CoreDb :=
  { c with resources := (step env c.db q).resources }

end CoreDb

/-! ## What is mirrored -/

/-- The part of the configuration the mirror reads. -/
structure MirrorConfig where
  tenantName : String
  tenantDisplayName : String
  authEndpoint : String
  secretEndpoint : String
  dockerEndpoint : String
  systemAuthImage : String
  systemSecretImage : String

/-- A row of `systemServices`. -/
structure SystemService where
  name : String
  kind : String
  endpoint : String

/-- `systemServices`. -/
def MirrorConfig.systemServices (cfg : MirrorConfig) : List SystemService :=
  [⟨"auth", "Auth", cfg.authEndpoint⟩, ⟨"secret", "Secret", cfg.secretEndpoint⟩,
    ⟨"docker", "Docker", cfg.dockerEndpoint⟩]

/-- A row of `systemImages`. -/
structure SystemImage where
  name : String
  image : String

/-- `systemImages`. -/
def MirrorConfig.systemImages (cfg : MirrorConfig) : List SystemImage :=
  [⟨"auth", cfg.systemAuthImage⟩, ⟨"secret", cfg.systemSecretImage⟩]

/-- The service has a place among the images, and none is configured for it. -/
def MirrorConfig.lacksImage (cfg : MirrorConfig) (name : String) : Bool :=
  cfg.systemImages.any fun i ↦ i.name == name && i.image == ""

namespace SystemImage

/-- The spec of the workload of an image. -/
def spec (i : SystemImage) : JsonMap :=
  [("image", .str i.image), ("name", .str ("maintainerd-" ++ i.name)),
    ("pull_policy", .str "if-not-present"),
    ("restart_policy", .obj [("name", .str "unless-stopped")])]

/-- The metadata of the workload of an image. -/
def metadata (i : SystemImage) : JsonMap :=
  [("tier", .str "system"), ("mrn_service", .str "core"), ("mrn_resource_type", .str "service"),
    ("mrn_resource_path", .str i.name)]

/-- The name of the workload of an image. -/
def instanceName (i : SystemImage) : String := "system-" ++ i.name

end SystemImage

section

variable {cfg : MirrorConfig}

/-- The names and kinds of the services fit their columns. -/
theorem systemServices_fit {d : SystemService} (hd : d ∈ cfg.systemServices) :
    (d.name.length ≤ 100 ∧ text d.name = true) ∧ d.kind.length ≤ 50 ∧ text d.kind = true := by
  simp only [MirrorConfig.systemServices, List.mem_cons, List.not_mem_nil, or_false] at hd
  rcases hd with rfl | rfl | rfl <;> dsimp only <;> decide

/-- So do the names of the workloads. -/
theorem systemImages_fit {i : SystemImage} (hi : i ∈ cfg.systemImages) :
    i.instanceName.length ≤ 100 ∧ text i.instanceName = true := by
  simp only [MirrorConfig.systemImages, List.mem_cons, List.not_mem_nil, or_false] at hi
  rcases hi with rfl | rfl <;> simp only [SystemImage.instanceName] <;> decide

end

theorem clip_system : clip 63 "system" = "system" := clip_of_length_le (by decide)

theorem clip_workload : clip 50 "Workload" = "Workload" := clip_of_length_le (by decide)

/-- A name that can stand in the name of a resource still can without the blanks that are cut
off. -/
theorem validateMRNSegment_clip {n : ℕ} {name value : String} (hfits : varchar n value = true)
    (h : validateMRNSegment name value = none) : validateMRNSegment name (clip n value) = none := by
  rw [validateMRNSegment, trimSpace_clip hfits]
  rw [validateMRNSegment] at h
  split_ifs at h with hblank hbad
  rw [if_neg hblank, if_neg]
  rw [clip]
  split
  · exact hbad
  · rw [Bool.or_eq_true, Text.containsAny, Text.contains, String.toList_ofList] at *
    rintro (hany | hdots)
    · obtain ⟨c, hc, hin⟩ := List.any_eq_true.mp hany
      exact hbad (Or.inl (List.any_eq_true.mpr ⟨c, List.mem_of_mem_take hc, hin⟩))
    · have hwhole := Text.occurs_append hdots (value.toList.drop n)
      rw [List.take_append_drop] at hwhole
      exact hbad (Or.inr hwhole)

/-- What the mirror runs with. -/
structure MirrorEnv where
  env : Env
  uuids : UuidCodec
  cfg : MirrorConfig

/-! ## What comes from outside -/

/-- What one attempt at the mirror meets: what `RunWith` hands it, which of its statements reach the
database, and the uuids the database draws.  Of a call whose failure is only logged it is enough to
know whether it is committed. -/
structure MirrorMeets where
  now : Int
  authTenantID : String
  tenantName : String
  tenantDisplay : String
  getSystem : Bool
  createTenant : Outcome
  register : String → Bool
  getTenant : Bool
  getProject : Bool
  createProject : Outcome
  publish : String → Bool
  tenantUuid : Uuid
  serviceUuid : String → Uuid
  projectUuid : Uuid
  resourceUuid : String → Uuid

/-- Why the mirror stops. -/
inductive MirrorError where
  /-- The database did not answer. -/
  | unanswered
  | service (e : AppError)

/-- A program of the mirror. -/
abbrev Mirroring (α : Type) : Type := Prog CoreDb MirrorError α

/-- A call of a service. -/
def submit {α : Type} (o : Outcome) (f : CoreDb → CoreDb × Except AppError α) : Mirroring α :=
  match o with
  | .answered => fun c ↦ ((f c).1, (f c).2.mapError .service)
  | .lost => fun c ↦ ((f c).1, .error .unanswered)
  | .refused => fail .unanswered

/-- A call whose failure is only logged. -/
def submitLogged {α : Type} (reaches : Bool) (f : CoreDb → CoreDb × Except AppError α) :
    Mirroring PUnit :=
  passOver (submit (if reaches then .answered else .refused) f)

/-! ## The mirror -/

section

variable (e : MirrorEnv) (m : MirrorMeets)

/-- What the mirror creates the system tenant with. -/
def systemTenantInput : TenantService.CreateInput where
  name := firstNonEmpty [m.tenantName, e.cfg.tenantName]
  displayName := firstNonEmpty [m.tenantDisplay, e.cfg.tenantDisplayName]
  status := "active"
  isSystem := true
  authTenantUUID := e.uuids.parse m.authTenantID
  metadata := []

/-- The first part of `mirror`: the system tenant, which is created when it cannot be read. -/
def ensureSystemTenant : Mirroring Uuid := do
  let c ← get
  match if m.getSystem then c.registry.getSystemTenant else none with
  | some sys => pure sys.tenantUuid
  | none => do
    let created ← submit m.createTenant fun c ↦
      c.createTenant m.now m.tenantUuid (systemTenantInput e m)
    pure created.tenantUuid

/-- What a system service is registered with. -/
def registrationInput (coreTenant : Uuid) (s : SystemService) : ServiceRegistry.CreateInput where
  tenantUUID := coreTenant
  name := s.name
  kind := s.kind
  isSystem := true
  endpoint := s.endpoint
  version := ""
  metadata := []

/-- The second part of `mirror`: the system services. -/
def registerSystemServices (coreTenant : Uuid) : Mirroring PUnit :=
  forEach (fun s ↦ submitLogged (m.register s.name) fun c ↦
    c.createService m.now (m.serviceUuid s.name) (registrationInput coreTenant s))
    e.cfg.systemServices

/-- What the workload of an image is created with. -/
def workloadInput (project : Project) (i : SystemImage) : CreateInput where
  projectUUID := project.projectUuid
  providerUUID := none
  kind := "Workload"
  name := i.instanceName
  spec := some i.spec
  metadata := some i.metadata

/-- The project of the system workloads, which is created when it is not there. -/
def ensureSystemProject (tenant : Tenant) : Mirroring Project := do
  require m.getProject .unanswered
  let c ← get
  match getProjectByTenantAndName c.db tenant.tenantID "system" with
  | some project => pure project
  | none => submit m.createProject fun c ↦
    c.createProject ⟨m.projectUuid, tenant.tenantID, "system"⟩

/-- `publishSystemResources`. -/
def publishSystemResources (tenantUUID : Uuid) : Mirroring PUnit :=
  if e.cfg.systemImages.any fun i ↦ i.image != "" then do
    require m.getTenant .unanswered
    let c ← get
    match getTenantByUUID c.db tenantUUID with
    | none => fail (.service (.query .noRows))
    | some tenant => do
      let project ← ensureSystemProject m tenant
      forEach (fun i ↦
        if i.image = "" then pure ⟨⟩
        else submitLogged (m.publish i.name) fun c ↦
          c.createResource e.env m.now (m.resourceUuid i.name) (workloadInput project i))
        e.cfg.systemImages
  else pure ⟨⟩

/-- `mirror`. -/
def mirror : Mirroring PUnit := do
  let coreTenant ← ensureSystemTenant e m
  registerSystemServices e m coreTenant
  passOver (publishSystemResources e m coreTenant)

end

/-- The tables after an attempt. -/
def mirrored (e : MirrorEnv) (c : CoreDb) (m : MirrorMeets) : CoreDb := (mirror e m c).1

/-! ## Calls -/

/-- The rule for a call: what the service does, and that nothing is known of an answer that is
lost. -/
theorem spec_submit {α : Type} {P : CoreDb → Prop} {o : Outcome}
    {f : CoreDb → CoreDb × Except AppError α} {Q : α → CoreDb → Prop} {E : CoreDb → Prop}
    (hok : ∀ c, P c → ∀ c' a, f c = (c', .ok a) → Q a c')
    (herr : ∀ c, P c → ∀ c' err, f c = (c', .error err) → E c')
    (hlost : o = .lost → ∀ a c, Q a c → E c) (hrefused : o = .refused → ∀ c, P c → E c) :
    Spec P (submit o f) Q E := by
  intro c hc
  rcases hf : f c with ⟨c', err | a⟩
  · have hE := herr c hc c' err hf
    rcases o with _ | _ | _
    · simpa only [submit, hf, Except.mapError] using hE
    · simpa only [submit, hf] using hE
    · exact hrefused rfl c hc
  · have hQ := hok c hc c' a hf
    rcases o with _ | _ | _
    · simpa only [submit, hf, Except.mapError] using hQ
    · simpa only [submit, hf] using hlost rfl a c' hQ
    · exact hrefused rfl c hc

/-- The rule for a call that is answered. -/
theorem spec_submit_answered {α : Type} {P : CoreDb → Prop}
    {f : CoreDb → CoreDb × Except AppError α} {Q : α → CoreDb → Prop} {E : CoreDb → Prop}
    (hok : ∀ c, P c → ∀ c' a, f c = (c', .ok a) → Q a c')
    (herr : ∀ c, P c → ∀ c' err, f c = (c', .error err) → E c') :
    Spec P (submit .answered f) Q E := by
  refine spec_submit hok herr ?_ ?_
  · intro h
    cases h
  · intro h
    cases h

/-- The rule for a call whose failure is only logged, when it is not known whether it is
committed. -/
theorem spec_submitLogged {α : Type} {P Q E : CoreDb → Prop} {reaches : Bool}
    {f : CoreDb → CoreDb × Except AppError α} (h : ∀ c, P c → Q (f c).1)
    (hrefused : reaches = false → ∀ c, P c → Q c) :
    Spec P (submitLogged reaches f) (fun _ ↦ Q) E := by
  refine Spec.passOver (spec_submit (fun c hc c' a hf ↦ ?_) (fun c hc c' err hf ↦ ?_)
    (fun _ _ _ hQ ↦ hQ) fun ho c hc ↦ ?_)
  · simpa only [hf] using h c hc
  · simpa only [hf] using h c hc
  · rcases reaches with _ | _
    · exact hrefused rfl c hc
    · cases ho

/-! ## Tables that are settled -/

namespace CoreDb

/-- The tenant has a live registration of the name. -/
def Registered (c : CoreDb) (tenantID : Int) (name : String) : Prop :=
  ∃ s ∈ c.registry.services.rows, s.live = true ∧ s.tenantID = tenantID ∧ s.name = name

/-- The project holds the workload of the image. -/
def Published (c : CoreDb) (projectID : Int) (i : SystemImage) : Prop :=
  ∃ r ∈ c.resources.rows, r.live = true ∧ r.projectID = projectID ∧ r.kind = "Workload" ∧
    r.name = i.instanceName

/-- Every row the mirror would insert is there. -/
structure Settled (cfg : MirrorConfig) (c : CoreDb) (t : TenantRow) : Prop where
  tenant : c.registry.getSystemTenant = some t
  services : ∀ s ∈ cfg.systemServices, c.Registered t.tenantID s.name
  workloads : ∀ i ∈ cfg.systemImages, i.image ≠ "" →
    ∃ p, getProjectByTenantAndName c.db t.tenantID "system" = some p ∧ c.Published p.projectID i

section

variable {c : CoreDb} {t : TenantRow}

theorem mem_of_getSystemTenant {r : Registry} (h : r.getSystemTenant = some t) :
    t ∈ r.tenants.rows ∧ t.isSystem = true ∧ t.live = true := by
  have hp := List.find?_some h
  rw [Bool.and_eq_true] at hp
  exact ⟨List.mem_of_find?_eq_some h, hp⟩

theorem getTenantByUUID_of_mem {r : Registry} (ht : t ∈ r.tenants.rows) (hlive : t.live = true) :
    r.getTenantByUUID t.tenantUuid = some t := by
  rw [Registry.getTenantByUUID, show r.tenants.get? t.tenantUuid = some t from
    Table.get?_of_mem ht, Option.filter_some, if_pos hlive]

/-- There is one system tenant. -/
theorem createTenant_of_system (h : c.registry.getSystemTenant = some t) (now : Int) (uuid : Uuid)
    (input : TenantService.CreateInput) (hinput : input.isSystem = true) :
    ∃ err, c.createTenant now uuid input = (c, .error err) := by
  obtain ⟨hmem, hsystem, hlive⟩ := mem_of_getSystemTenant h
  rw [createTenant, TenantService.create]
  split
  · exact ⟨_, rfl⟩
  · rw [Registry.createTenant, if_pos]
    · exact ⟨_, rfl⟩
    · exact List.any_eq_true.mpr ⟨t, hmem, by simp [hlive, hsystem, hinput]⟩

/-- A tenant has one registration of a name. -/
theorem createService_of_registered (ht : c.registry.getTenantByUUID t.tenantUuid = some t)
    {cfg : MirrorConfig} {s : SystemService} (hs : s ∈ cfg.systemServices)
    (h : c.Registered t.tenantID s.name) (now : Int) (uuid : Uuid) :
    ∃ err, c.createService now uuid (registrationInput t.tenantUuid s) = (c, .error err) := by
  obtain ⟨row, hmem, hlive, hid, hname⟩ := h
  have hkept : clip 100 s.name = s.name := clip_of_length_le (systemServices_fit hs).1.1
  rw [createService, ServiceRegistry.create]
  split
  · exact ⟨_, rfl⟩
  · simp only [registrationInput, ht]
    rw [Registry.createService, if_pos]
    · exact ⟨_, rfl⟩
    · exact List.any_eq_true.mpr ⟨row, hmem, by simp [hlive, hid, hname, hkept]⟩

/-- A project has one workload of a name. -/
theorem createResource_of_published (env : Env) {p : Project}
    (hp : getProjectByUUID c.db p.projectUuid = some p) {cfg : MirrorConfig} {i : SystemImage}
    (hi : i ∈ cfg.systemImages) (h : c.Published p.projectID i) (now : Int) (uuid : Uuid) :
    ∃ err, c.createResource env now uuid (workloadInput p i) = (c, .error err) := by
  obtain ⟨r, hmem, hlive, hid, hkind, hname⟩ := h
  rw [createResource]
  rcases create_prepared env c.db now uuid (workloadInput p i) with ⟨err, he⟩ |
    ⟨project, tenant, params, db', row, hprep, hins, -⟩
  · rw [he]
    exact ⟨err, rfl⟩
  · obtain rfl : project = p := by
      have hfound := hprep.found
      rw [workloadInput, hp] at hfound
      exact (Option.some.inj hfound).symm
    rw [Maintainerd.createResource, if_pos] at hins
    · cases hins
    · refine List.any_eq_true.mpr ⟨r, hmem, ?_⟩
      have hkept : clip 100 i.instanceName = i.instanceName :=
        clip_of_length_le (systemImages_fit hi).1
      simp [hid, hkind, hname, hlive, hprep.projectID, hprep.kind, hprep.name, workloadInput,
        hkept, clip_workload]

theorem getProjectByUUID_of_name {tenantID : Int} {name : String} {p : Project}
    (h : getProjectByTenantAndName c.db tenantID name = some p) :
    getProjectByUUID c.db p.projectUuid = some p := by
  have hlive := List.find?_some h
  simp only [Bool.and_eq_true] at hlive
  rw [getProjectByUUID, show c.db.projects.get? p.projectUuid = some p from
    Table.get?_of_mem (List.mem_of_find?_eq_some h), Option.filter_some, if_pos hlive.2]

/-- A call that is refused, or does not get through, leaves the tables alone. -/
theorem spec_submitLogged_refused {α : Type} (reaches : Bool) {E : CoreDb → Prop}
    {f : CoreDb → CoreDb × Except AppError α} (h : ∃ err, f c = (c, .error err)) :
    Spec (· = c) (submitLogged reaches f) (fun _ c' ↦ c' = c) E := by
  obtain ⟨err, hf⟩ := h
  refine spec_submitLogged ?_ fun _ _ hc ↦ hc
  rintro _ rfl
  rw [hf]

namespace Settled

variable {e : MirrorEnv} {m : MirrorMeets} (h : c.Settled e.cfg t)

include h

theorem tenant_found : c.registry.getTenantByUUID t.tenantUuid = some t := by
  obtain ⟨hmem, -, hlive⟩ := mem_of_getSystemTenant h.tenant
  exact getTenantByUUID_of_mem hmem hlive

theorem spec_ensureSystemTenant :
    Spec (· = c) (ensureSystemTenant e m) (fun u c' ↦ u = t.tenantUuid ∧ c' = c) (· = c) := by
  refine Spec.bind (R := fun c' s ↦ c' = c ∧ s = c) (spec_get fun _ hc ↦ ⟨hc, hc⟩) fun c' ↦
    spec_fact fun hc' ↦ ?_
  rw [hc']
  rcases hread : (if m.getSystem then c.registry.getSystemTenant else none) with _ | sys
  · obtain ⟨err, hf⟩ := createTenant_of_system h.tenant m.now m.tenantUuid
      (systemTenantInput e m) rfl
    refine Spec.bind (R := fun _ _ ↦ False) (spec_submit ?_ ?_ (fun _ _ _ hQ ↦ hQ.elim)
      fun _ _ hc ↦ hc) fun _ _ hQ ↦ hQ.elim
    · rintro _ rfl c' a hok
      rw [hf] at hok
      cases hok
    · rintro _ rfl c' err' herr
      rw [hf] at herr
      cases herr
      rfl
  · have hsys : sys = t := by
      split at hread
      · exact Option.some.inj (hread.symm.trans h.tenant)
      · cases hread
    exact spec_pure fun _ hc ↦ ⟨by rw [hsys], hc⟩

theorem spec_registerSystemServices :
    Spec (· = c) (registerSystemServices e m t.tenantUuid) (fun _ c' ↦ c' = c) (· = c) := by
  refine spec_forEach_inv fun s hs ↦ spec_submitLogged_refused (m.register s.name) ?_
  exact createService_of_registered h.tenant_found hs (h.services s hs) m.now
    (m.serviceUuid s.name)

theorem spec_ensureSystemProject {i : SystemImage} (hi : i ∈ e.cfg.systemImages)
    (himage : i.image ≠ "") :
    Spec (· = c) (ensureSystemProject m t.toTenant)
      (fun p c' ↦ getProjectByTenantAndName c.db t.tenantID "system" = some p ∧ c' = c)
      (· = c) := by
  obtain ⟨p, hp, -⟩ := h.workloads i hi himage
  refine Spec.bind (R := fun _ s ↦ s = c) (spec_require (fun _ _ hc ↦ hc) fun _ hc ↦ hc)
    fun _ ↦ ?_
  refine Spec.bind (R := fun c' s ↦ c' = c ∧ s = c) (spec_get fun _ hc ↦ ⟨hc, hc⟩) fun c' ↦
    spec_fact fun hc' ↦ ?_
  rw [hc', hp]
  exact spec_pure fun _ hc ↦ ⟨rfl, hc⟩

theorem spec_publishSystemResources :
    Spec (· = c) (publishSystemResources e m t.tenantUuid) (fun _ c' ↦ c' = c) (· = c) := by
  refine spec_ite (fun hany ↦ ?_) fun _ ↦ spec_pure fun _ hc ↦ hc
  obtain ⟨i₀, hi₀, himage₀⟩ := List.any_eq_true.mp hany
  refine Spec.bind (R := fun _ s ↦ s = c) (spec_require (fun _ _ hc ↦ hc) fun _ hc ↦ hc)
    fun _ ↦ ?_
  refine Spec.bind (R := fun c' s ↦ c' = c ∧ s = c) (spec_get fun _ hc ↦ ⟨hc, hc⟩) fun c' ↦
    spec_fact fun hc' ↦ ?_
  rw [hc', getTenantByUUID_db, h.tenant_found]
  refine Spec.bind (h.spec_ensureSystemProject hi₀ (bne_iff_ne.mp himage₀)) fun p ↦
    spec_fact fun hp ↦ ?_
  refine spec_forEach_inv fun i hi ↦ spec_ite (fun _ ↦ spec_pure fun _ hc ↦ hc) fun himage ↦ ?_
  obtain ⟨p', hp', hpublished⟩ := h.workloads i hi himage
  obtain rfl : p = p' := Option.some.inj (hp.symm.trans hp')
  exact spec_submitLogged_refused (m.publish i.name) (createResource_of_published e.env
    (getProjectByUUID_of_name hp) hi hpublished m.now (m.resourceUuid i.name))

/-- **An attempt leaves settled tables alone**, whatever it meets and wherever it stops. -/
theorem mirrored_eq : mirrored e c m = c := by
  have hspec : Spec (· = c) (mirror e m) (fun _ c' ↦ c' = c) (· = c) := by
    refine Spec.bind h.spec_ensureSystemTenant fun u ↦ spec_fact fun hu ↦ ?_
    rw [hu]
    refine Spec.bind h.spec_registerSystemServices fun _ ↦ ?_
    exact h.spec_publishSystemResources.passOver
  exact hspec.ends rfl (fun _ _ hc ↦ hc) fun _ hc ↦ hc

end Settled

end

/-! ## What a creation does -/

section

variable (c : CoreDb) (now : Int) (uuid : Uuid)

/-- The creation of a tenant is refused, or it is one insertion. -/
theorem createTenant_cases (input : TenantService.CreateInput) :
    (∃ err, c.createTenant now uuid input = (c, .error err)) ∨
      ∃ p r' t, c.registry.createTenant now p = .ok (r', t) ∧ p.name = input.name ∧
        p.isSystem = input.isSystem ∧
        c.createTenant now uuid input = ({ c with registry := r' }, .ok t) := by
  rw [createTenant, TenantService.create]
  split
  · exact Or.inl ⟨_, rfl⟩
  split
  · exact Or.inl ⟨_, rfl⟩
  · rename_i r' t hcreate
    exact Or.inr ⟨_, r', t, hcreate, rfl, rfl, rfl⟩

/-- A registration is refused, or it is one insertion. -/
theorem createService_cases (input : ServiceRegistry.CreateInput) :
    (∃ err, c.createService now uuid input = (c, .error err)) ∨
      ∃ p r' row record, c.registry.createService now p = .ok (r', row) ∧ p.serviceUuid = uuid ∧
        p.name = input.name ∧ p.kind = input.kind ∧ p.isSystem = input.isSystem ∧
        c.createService now uuid input = ({ c with registry := r' }, .ok record) := by
  rw [createService, ServiceRegistry.create]
  split
  · exact Or.inl ⟨_, rfl⟩
  split
  · exact Or.inl ⟨_, rfl⟩
  split
  · exact Or.inl ⟨_, rfl⟩
  · rename_i r' row hcreate
    exact Or.inr ⟨_, r', row, _, hcreate, rfl, rfl, rfl, rfl, rfl⟩

/-- The creation of a project is refused, or it is one insertion, under a name its tenant did not
use. -/
theorem createProject_cases (p : CreateProjectParams) :
    (∃ err, c.createProject p = (c, .error err)) ∨
      ∃ projects project, c.projects.insert? p.row (fun _ ↦ rfl) = some (projects, project) ∧
        getProjectByTenantAndName c.db p.tenantID (clip 63 p.name) = none ∧
        (∃ t ∈ c.registry.tenants.rows, t.tenantID = p.tenantID) ∧
        c.createProject p = ({ c with projects := projects }, .ok project) := by
  rw [createProject, Maintainerd.createProject]
  split
  · exact Or.inl ⟨_, rfl⟩
  rename_i db' project hcreate
  split_ifs at hcreate with htaken hfits
  split at hcreate
  · cases hcreate
  rename_i projects project' hinsert
  cases hcreate
  refine Or.inr ⟨projects, project, hinsert, ?_, ?_, rfl⟩
  · exact List.find?_eq_none.mpr fun q hq hp ↦ htaken (List.any_eq_true.mpr ⟨q, hq, hp⟩)
  · obtain ⟨t, ht, hid⟩ := List.any_eq_true.mp (Bool.and_eq_true_iff.mp hfits).2
    obtain ⟨t', ht', rfl⟩ := List.mem_map.mp ht
    exact ⟨t', ht', beq_iff_eq.mp hid⟩

/-- The creation of a workload is refused, or it is one insertion into the project. -/
theorem createResource_cases (env : Env) (project : Project) (i : SystemImage) :
    (∃ err, c.createResource env now uuid (workloadInput project i) = (c, .error err)) ∨
      ∃ (p : CreateResourceParams) (row : Resource) (resources : Table Resource) (reply : Reply)
          (found : Project),
        c.resources.insert? (p.row now) (fun _ ↦ rfl) = some (resources, row) ∧
        p.resourceUuid = uuid ∧
        getProjectByUUID c.db project.projectUuid = some found ∧
        p.projectID = found.projectID ∧ p.kind = "Workload" ∧ p.name = i.instanceName ∧
        p.metadata = i.metadata ∧
        c.createResource env now uuid (workloadInput project i) =
          ({ c with resources := resources }, .ok reply) := by
  rw [createResource]
  rcases create_prepared env c.db now uuid (workloadInput project i) with ⟨err, he⟩ |
    ⟨found, tenant, p, db', row, hprep, hins, he⟩
  · rw [he]
    exact Or.inl ⟨err, rfl⟩
  · rw [Maintainerd.createResource] at hins
    split_ifs at hins
    split at hins
    · cases hins
    rename_i resources row' hinsert
    cases hins
    exact Or.inr ⟨p, row, resources, .resource row found.projectUuid, found, hinsert,
      hprep.resourceUuid, hprep.found, hprep.projectID, hprep.kind, hprep.name, hprep.metadata,
      by rw [he]⟩

end

/-! ## Tables that are sound -/

/-- The tables hold nothing but what the mirror puts there. -/
structure Sound (cfg : MirrorConfig) (c : CoreDb) : Prop where
  tenants : ∀ t ∈ c.registry.tenants.rows, t.live = true ∧ t.isSystem = true ∧
    validateMRNSegment "tenant" t.name = none ∧ text t.name = true
  one_tenant : ∀ t ∈ c.registry.tenants.rows, ∀ t' ∈ c.registry.tenants.rows, t' = t
  services : ∀ s ∈ c.registry.services.rows, s.live = true ∧ s.isSystem = true ∧
    ∃ d ∈ cfg.systemServices, s.name = d.name ∧ s.kind = d.kind
  projects : ∀ p ∈ c.projects.rows, p.deletedAt = none ∧ p.name = "system" ∧
    ∃ t ∈ c.registry.tenants.rows, t.tenantID = p.tenantID
  one_project : ∀ p ∈ c.projects.rows, ∀ p' ∈ c.projects.rows, p' = p
  workloads : ∀ r ∈ c.resources.rows, r.live = true ∧ r.kind = "Workload" ∧
    (∃ p ∈ c.projects.rows, p.projectID = r.projectID) ∧
    ∃ i ∈ cfg.systemImages, i.image ≠ "" ∧ r.name = i.instanceName ∧ r.metadata = i.metadata

theorem sound_empty (cfg : MirrorConfig) : empty.Sound cfg := by
  constructor <;> simp [empty, Registry.empty, Table.empty]

namespace Sound

variable {cfg : MirrorConfig} {c : CoreDb} (h : c.Sound cfg)

include h

theorem createTenant (now : Int) (uuid : Uuid) {input : TenantService.CreateInput}
    (hsystem : input.isSystem = true) (hname : validateMRNSegment "tenant" input.name = none) :
    (c.createTenant now uuid input).1.Sound cfg := by
  rcases createTenant_cases c now uuid input with ⟨err, hout⟩ | ⟨p, r', t, hcreate, hpname, hpsys,
    hout⟩
  · rw [hout]
    exact h
  rw [hout]
  obtain ⟨hservices, htaken, hfits, hinsert⟩ := Registry.createTenant_eq_ok hcreate
  have hrows := Table.rows_insert? hinsert
  have hrow := Table.row_of_insert? hinsert
  -- a second system tenant would have been refused, so there is no other
  have hnone : c.registry.tenants.rows = [] := by
    refine List.eq_nil_iff_forall_not_mem.mpr fun t₀ ht₀ ↦ ?_
    obtain ⟨hlive, hsys, -⟩ := h.tenants t₀ ht₀
    refine Bool.eq_false_iff.mp htaken (List.any_eq_true.mpr ⟨t₀, ht₀, ?_⟩)
    simp [hlive, hsys, hpsys, hsystem]
  have hmem : ∀ t' ∈ r'.tenants.rows, t' = t := by
    intro t' ht'
    rwa [hrows, hnone, List.mem_singleton] at ht'
  refine ⟨fun t' ht' ↦ ?_, fun t₁ ht₁ t₂ ht₂ ↦ (hmem t₂ ht₂).trans (hmem t₁ ht₁).symm,
    fun s hs ↦ h.services s (by rwa [← hservices]), fun q hq ↦ ?_, h.one_project, h.workloads⟩
  · rw [hmem t' ht', hrow]
    have hvarchar : varchar 63 p.name = true := by
      simp only [Registry.CreateTenantParams.storable, Bool.and_eq_true] at hfits
      exact hfits.1.1.1
    exact ⟨rfl, hpsys.trans hsystem, validateMRNSegment_clip hvarchar (hpname ▸ hname),
      text_clip (Bool.and_eq_true _ _ ▸ hvarchar).1⟩
  · obtain ⟨hlive, hsysname, t₀, ht₀, -⟩ := h.projects q hq
    rw [hnone] at ht₀
    cases ht₀

theorem createService (now : Int) (uuid coreTenant : Uuid) {d : SystemService}
    (hd : d ∈ cfg.systemServices) :
    (c.createService now uuid (registrationInput coreTenant d)).1.Sound cfg := by
  rcases createService_cases c now uuid (registrationInput coreTenant d) with ⟨err, hout⟩ |
    ⟨p, r', row, record, hcreate, -, hname, hkind, hsystem, hout⟩
  · rw [hout]
    exact h
  rw [hout]
  obtain ⟨htenants, hinsert⟩ := Registry.createService_eq_ok hcreate
  have hrows := Table.rows_insert? hinsert
  have hrow := Table.row_of_insert? hinsert
  constructor
  · simpa only [htenants] using h.tenants
  · simpa only [htenants] using h.one_tenant
  · intro s hs
    rw [show r'.services.rows = _ from hrows] at hs
    rcases List.mem_cons.mp hs with rfl | hs
    · rw [hrow]
      obtain ⟨⟨hname_le, -⟩, hkind_le, -⟩ := systemServices_fit hd
      exact ⟨rfl, hsystem, d, hd, clip_of_eq hname hname_le, clip_of_eq hkind hkind_le⟩
    · exact h.services s hs
  · simpa only [htenants] using h.projects
  · exact h.one_project
  · exact h.workloads

theorem createProject (uuid : Uuid) (tenantID : Int) :
    (c.createProject ⟨uuid, tenantID, "system"⟩).1.Sound cfg := by
  rcases createProject_cases c ⟨uuid, tenantID, "system"⟩ with ⟨err, hout⟩ |
    ⟨projects, project, hinsert, hnone, ⟨t, ht, hid⟩, hout⟩
  · rw [hout]
    exact h
  rw [hout]
  have hrows := Table.rows_insert? hinsert
  have hrow := Table.row_of_insert? hinsert
  rw [clip_system] at hnone
  -- a project that was there would be found under the one tenant there is
  have hempty : c.projects.rows = [] := by
    refine List.eq_nil_iff_forall_not_mem.mpr fun q hq ↦ ?_
    obtain ⟨hlive, hname, t', ht', hid'⟩ := h.projects q hq
    have hq' := List.find?_eq_none.mp hnone q hq
    rw [h.one_tenant t ht t' ht'] at hid'
    simp only [hlive, hname, ← hid', hid, BEq.rfl, Option.isNone_none, Bool.and_self,
      not_true_eq_false] at hq'
  have hmem : ∀ q ∈ projects.rows, q = project := by
    intro q hq
    rwa [hrows, hempty, List.mem_singleton] at hq
  refine ⟨h.tenants, h.one_tenant, h.services, fun q hq ↦ ?_,
    fun q hq q' hq' ↦ (hmem q' hq').trans (hmem q hq).symm, fun r hr ↦ ?_⟩
  · rw [hmem q hq, hrow]
    exact ⟨rfl, by simpa only [CreateProjectParams.row] using clip_system, t, ht, hid⟩
  · obtain ⟨-, -, ⟨q, hq, -⟩, -⟩ := h.workloads r hr
    rw [hempty] at hq
    cases hq

theorem createResource (env : Env) (now : Int) (uuid : Uuid) (project : Project) {i : SystemImage}
    (hi : i ∈ cfg.systemImages) (himage : i.image ≠ "") :
    (c.createResource env now uuid (workloadInput project i)).1.Sound cfg := by
  rcases createResource_cases c now uuid env project i with ⟨err, hout⟩ |
    ⟨p, row, resources, reply, found, hinsert, -, hfound, hproject, hkind, hname, hmeta, hout⟩
  · rw [hout]
    exact h
  rw [hout]
  have hrows := Table.rows_insert? hinsert
  have hrow := Table.row_of_insert? hinsert
  refine ⟨h.tenants, h.one_tenant, h.services, h.projects, h.one_project, fun r hr ↦ ?_⟩
  rw [show resources.rows = _ from hrows] at hr
  rcases List.mem_cons.mp hr with rfl | hr
  · rw [hrow]
    rw [getProjectByUUID, Option.filter_eq_some_iff] at hfound
    exact ⟨rfl, clip_of_eq hkind (by decide),
      ⟨found, Table.mem_of_get? hfound.1, hproject.symm⟩, i, hi, himage,
      clip_of_eq hname (systemImages_fit hi).1, hmeta⟩
  · exact h.workloads r hr

end Sound

/-! ## Wherever an attempt stops, the tables are sound -/

section

variable {e : MirrorEnv} {m : MirrorMeets}

/-- The name of the tenant that the attempt would create can stand in the name of a resource. -/
def Named (e : MirrorEnv) (m : MirrorMeets) : Prop :=
  validateMRNSegment "tenant" (systemTenantInput e m).name = none

instance (e : MirrorEnv) (m : MirrorMeets) : Decidable (Named e m) :=
  inferInstanceAs (Decidable (_ = none))

theorem spec_ensureSystemTenant_sound (hname : Named e m) :
    Spec (Sound e.cfg) (ensureSystemTenant e m) (fun _ ↦ Sound e.cfg) (Sound e.cfg) := by
  refine Spec.bind (R := fun _ ↦ Sound e.cfg) (spec_get fun _ hc ↦ hc) fun c' ↦ ?_
  rcases (if m.getSystem then c'.registry.getSystemTenant else none) with _ | sys
  · have hkeeps : ∀ c : CoreDb, c.Sound e.cfg →
        (c.createTenant m.now m.tenantUuid (systemTenantInput e m)).1.Sound e.cfg :=
      fun c hc ↦ hc.createTenant m.now m.tenantUuid rfl hname
    refine Spec.bind (R := fun _ ↦ Sound e.cfg) (spec_submit ?_ ?_ (fun _ _ _ hQ ↦ hQ)
      fun _ _ hc ↦ hc) fun _ ↦ spec_pure fun _ hc ↦ hc
    · intro c hc c' a hf
      simpa only [hf] using hkeeps c hc
    · intro c hc c' err hf
      simpa only [hf] using hkeeps c hc
  · exact spec_pure fun _ hc ↦ hc

theorem spec_registerSystemServices_sound (u : Uuid) :
    Spec (Sound e.cfg) (registerSystemServices e m u) (fun _ ↦ Sound e.cfg) (Sound e.cfg) :=
  spec_forEach_inv fun _ hs ↦ spec_submitLogged
    (fun _ hc ↦ hc.createService m.now _ u hs) fun _ _ hc ↦ hc

theorem spec_ensureSystemProject_sound (cfg : MirrorConfig) (tenant : Tenant) :
    Spec (Sound cfg) (ensureSystemProject m tenant) (fun _ ↦ Sound cfg) (Sound cfg) := by
  refine Spec.bind (R := fun _ ↦ Sound cfg) (spec_require (fun _ _ hc ↦ hc) fun _ hc ↦ hc)
    fun _ ↦ ?_
  refine Spec.bind (R := fun _ ↦ Sound cfg) (spec_get fun _ hc ↦ hc) fun c' ↦ ?_
  rcases getProjectByTenantAndName c'.db tenant.tenantID "system" with _ | project
  · refine spec_submit ?_ ?_ (fun _ _ _ hQ ↦ hQ) fun _ _ hc ↦ hc
    · intro c hc c' a hf
      simpa only [hf] using hc.createProject m.projectUuid tenant.tenantID
    · intro c hc c' err hf
      simpa only [hf] using hc.createProject m.projectUuid tenant.tenantID
  · exact spec_pure fun _ hc ↦ hc

theorem spec_publishSystemResources_sound (u : Uuid) :
    Spec (Sound e.cfg) (publishSystemResources e m u) (fun _ ↦ Sound e.cfg) (Sound e.cfg) := by
  refine spec_ite (fun _ ↦ ?_) fun _ ↦ spec_pure fun _ hc ↦ hc
  refine Spec.bind (R := fun _ ↦ Sound e.cfg) (spec_require (fun _ _ hc ↦ hc) fun _ hc ↦ hc)
    fun _ ↦ ?_
  refine Spec.bind (R := fun _ ↦ Sound e.cfg) (spec_get fun _ hc ↦ hc) fun c' ↦ ?_
  rcases getTenantByUUID c'.db u with _ | tenant
  · exact spec_fail fun _ hc ↦ hc
  refine Spec.bind (spec_ensureSystemProject_sound e.cfg tenant) fun project ↦ ?_
  refine spec_forEach_inv fun i hi ↦ spec_ite (fun _ ↦ spec_pure fun _ hc ↦ hc) fun himage ↦ ?_
  exact spec_submitLogged (fun _ hc ↦ hc.createResource e.env m.now _ project hi himage)
    fun _ _ hc ↦ hc

/-- **Wherever an attempt stops, it leaves the tables sound.** -/
theorem Sound.mirrored {c : CoreDb} (h : c.Sound e.cfg) (hname : Named e m) :
    (mirrored e c m).Sound e.cfg := by
  have hspec : Spec (Sound e.cfg) (mirror e m) (fun _ ↦ Sound e.cfg) (Sound e.cfg) := by
    refine Spec.bind (spec_ensureSystemTenant_sound hname) fun u ↦ ?_
    refine Spec.bind (spec_registerSystemServices_sound u) fun _ ↦ ?_
    exact (spec_publishSystemResources_sound u).passOver
  exact hspec.ends h (fun _ _ hc ↦ hc) fun _ hc ↦ hc

end

/-! ## An attempt that meets no fault -/

/-- The attempt meets no fault: every statement is answered, what it writes fits its columns, and
the uuids the database draws are new. -/
structure Clean (e : MirrorEnv) (m : MirrorMeets) (c : CoreDb) : Prop where
  getSystem : m.getSystem = true
  createTenant : m.createTenant = .answered
  register : ∀ d ∈ e.cfg.systemServices, m.register d.name = true
  getTenant : m.getTenant = true
  getProject : m.getProject = true
  createProject : m.createProject = .answered
  publish : ∀ i ∈ e.cfg.systemImages, m.publish i.name = true
  name_fits : varchar 63 (systemTenantInput e m).name = true
  display_fits : varchar 255 (systemTenantInput e m).displayName = true
  endpoint_fits : ∀ d ∈ e.cfg.systemServices, text d.endpoint = true
  tenantUuid : c.registry.tenants.get? m.tenantUuid = none
  serviceUuid : ∀ d ∈ e.cfg.systemServices, c.registry.services.get? (m.serviceUuid d.name) = none
  serviceUuid_ne : ∀ d ∈ e.cfg.systemServices, ∀ d' ∈ e.cfg.systemServices,
    m.serviceUuid d.name = m.serviceUuid d'.name → d.name = d'.name
  projectUuid : c.projects.get? m.projectUuid = none
  resourceUuid : ∀ i ∈ e.cfg.systemImages, c.resources.get? (m.resourceUuid i.name) = none
  resourceUuid_ne : ∀ i ∈ e.cfg.systemImages, ∀ i' ∈ e.cfg.systemImages,
    m.resourceUuid i.name = m.resourceUuid i'.name → i.name = i'.name

/-- The specs of the configured images are accepted, and there is no U+0000 in them. -/
def SpecsAccepted (e : MirrorEnv) : Prop :=
  ∀ i ∈ e.cfg.systemImages, i.image ≠ "" →
    e.env.validateSpec "Workload" i.spec = none ∧ jsonb i.spec = true

section

variable {cfg : MirrorConfig} {c : CoreDb} {t : TenantRow}

theorem Sound.getSystemTenant (h : c.Sound cfg) (ht : t ∈ c.registry.tenants.rows) :
    c.registry.getSystemTenant = some t := by
  rcases hfind : c.registry.getSystemTenant with _ | t'
  · obtain ⟨hlive, hsystem, -⟩ := h.tenants t ht
    exact absurd (by rw [hsystem, hlive]; rfl) (List.find?_eq_none.mp hfind t ht)
  · rw [h.one_tenant t ht t' (mem_of_getSystemTenant hfind).1]

/-- On sound tables without a tenant, the system tenant can be created. -/
theorem Sound.createTenant_ok {e : MirrorEnv} {m : MirrorMeets} (h : c.Sound e.cfg)
    (hclean : Clean e m c) (hname : Named e m) (hnone : c.registry.getSystemTenant = none) :
    ∃ r' t, c.createTenant m.now m.tenantUuid (systemTenantInput e m) =
        ({ c with registry := r' }, .ok t) ∧
      r'.getSystemTenant = some t ∧ r'.services = c.registry.services := by
  have hempty : c.registry.tenants.rows = [] := by
    refine List.eq_nil_iff_forall_not_mem.mpr fun t ht ↦ ?_
    rw [h.getSystemTenant ht] at hnone
    cases hnone
  rcases createTenant_cases c m.now m.tenantUuid (systemTenantInput e m) with ⟨err, hout⟩ |
    ⟨p, r', t, hcreate, -, -, hout⟩
  · exfalso
    rw [CoreDb.createTenant, TenantService.create, if_neg (ne_empty_of_validateMRNSegment hname)]
      at hout
    split at hout
    · rename_i herr
      refine Registry.createTenant_ne_error ?_ ?_ hclean.tenantUuid herr
      · rw [Registry.tenantTaken, hempty]
        rfl
      · rw [Registry.CreateTenantParams.storable, hclean.name_fits, hclean.display_fits]
        show (true && true && varchar 20 (if "active" = "" then "active" else "active") &&
          jsonb []) = true
        decide
    · cases congrArg Prod.snd hout
  · have hsound := h.createTenant m.now m.tenantUuid rfl hname
    obtain ⟨hservices, -, -, hinsert⟩ := Registry.createTenant_eq_ok hcreate
    rw [hout] at hsound
    refine ⟨r', t, hout, hsound.getSystemTenant ?_, hservices⟩
    exact Table.rows_insert? hinsert ▸ List.mem_cons_self

/-- A kind is that of one system service. -/
theorem systemServices_kind {d d' : SystemService} (hd : d ∈ cfg.systemServices)
    (hd' : d' ∈ cfg.systemServices) (hkind : d.kind = d'.kind) : d.name = d'.name := by
  simp only [MirrorConfig.systemServices, List.mem_cons, List.not_mem_nil, or_false] at hd hd'
  rcases hd with rfl | rfl | rfl <;> rcases hd' with rfl | rfl | rfl <;> simp_all

/-- What a registration leaves alone. -/
structure AddsService (c c' : CoreDb) (uuid : Uuid) : Prop where
  tenants : c'.registry.tenants = c.registry.tenants
  projects : c'.projects = c.projects
  resources : c'.resources = c.resources
  rows : ∀ s ∈ c.registry.services.rows, s ∈ c'.registry.services.rows
  others : ∀ u, u ≠ uuid → c'.registry.services.get? u = c.registry.services.get? u

theorem createService_adds (c : CoreDb) (now : Int) (uuid : Uuid)
    (input : ServiceRegistry.CreateInput) :
    c.AddsService (c.createService now uuid input).1 uuid := by
  rcases createService_cases c now uuid input with ⟨err, hout⟩ |
    ⟨p, r', row, record, hcreate, huuid, -, -, -, hout⟩
  · rw [hout]
    exact ⟨rfl, rfl, rfl, fun _ hs ↦ hs, fun _ _ ↦ rfl⟩
  rw [hout]
  obtain ⟨htenants, hinsert⟩ := Registry.createService_eq_ok hcreate
  refine ⟨htenants, rfl, rfl, fun s hs ↦ ?_, fun u hu ↦ ?_⟩
  · rw [show r'.services.rows = _ from Table.rows_insert? hinsert]
    exact List.mem_cons_of_mem _ hs
  · refine (Table.get?_insert? hinsert u).2.trans (if_neg fun hrow ↦ hu ?_)
    rw [← hrow, Table.row_of_insert? hinsert, ← huuid]
    rfl

/-- On sound tables a system service is registered, if it has not been before. -/
theorem Sound.registers (h : c.Sound cfg) (ht : c.registry.getSystemTenant = some t)
    {d : SystemService} (hd : d ∈ cfg.systemServices) (hendpoint : text d.endpoint = true)
    (now : Int) {uuid : Uuid}
    (hfree : c.Registered t.tenantID d.name ∨ c.registry.services.get? uuid = none) :
    (c.createService now uuid (registrationInput t.tenantUuid d)).1.Registered t.tenantID
      d.name := by
  obtain ⟨hmem, -, hlive⟩ := mem_of_getSystemTenant ht
  have hfound := getTenantByUUID_of_mem hmem hlive
  by_cases hreg : c.Registered t.tenantID d.name
  · obtain ⟨err, hout⟩ := createService_of_registered hfound hd hreg now uuid
    rw [hout]
    exact hreg
  have hfree := hfree.resolve_left hreg
  have hnonblank : ¬(d.name = "" ∨ d.kind = "") := by
    simp only [MirrorConfig.systemServices, List.mem_cons, List.not_mem_nil, or_false] at hd
    rcases hd with rfl | rfl | rfl <;> simp
  obtain ⟨⟨hname_le, hname_text⟩, hkind_le, hkind_text⟩ := systemServices_fit hd
  simp only [CoreDb.createService, ServiceRegistry.create, registrationInput,
    if_neg hnonblank, hfound]
  split
  · rename_i err herr
    exfalso
    refine Registry.createService_ne_error ?_ ?_ ⟨t, hmem, rfl⟩ hfree herr
    · -- a row that refuses the registration has its name, and belongs to the one tenant there is
      refine Bool.eq_false_iff.mpr fun htaken ↦ ?_
      obtain ⟨row, hrow, hclash⟩ := List.any_eq_true.mp htaken
      obtain ⟨hrowlive, hrowsystem, d', hd', hname, hkind⟩ := h.services row hrow
      obtain ⟨t', ht', hid⟩ := c.registry.references row hrow
      rw [h.one_tenant t hmem t' ht'] at hid
      refine hreg ⟨row, hrow, hrowlive, hid.symm, ?_⟩
      simp only [Bool.and_eq_true, Bool.or_eq_true, beq_iff_eq] at hclash
      rw [clip_of_length_le hname_le, clip_of_length_le hkind_le] at hclash
      rcases hclash.2 with ⟨-, hsame⟩ | ⟨-, hsame⟩
      · exact hsame
      · exact hname.trans (systemServices_kind hd' hd (hkind.symm.trans hsame))
    · simp only [Registry.CreateServiceParams.storable, varchar_of_length_le hname_le, hname_text,
        varchar_of_length_le hkind_le, hkind_text, hendpoint, Bool.true_and]
      decide
  · rename_i r' row hcreate
    obtain ⟨-, hinsert⟩ := Registry.createService_eq_ok hcreate
    refine ⟨row, ?_, ?_⟩
    · rw [show r'.services.rows = _ from Table.rows_insert? hinsert]
      exact List.mem_cons_self
    · rw [Table.row_of_insert? hinsert]
      exact ⟨rfl, rfl, clip_of_length_le hname_le⟩

/-- What the creation of a workload leaves alone. -/
structure AddsWorkload (c c' : CoreDb) (uuid : Uuid) : Prop where
  registry : c'.registry = c.registry
  projects : c'.projects = c.projects
  rows : ∀ r ∈ c.resources.rows, r ∈ c'.resources.rows
  others : ∀ u, u ≠ uuid → c'.resources.get? u = c.resources.get? u

theorem createResource_adds (c : CoreDb) (env : Env) (now : Int) (uuid : Uuid) (project : Project)
    (i : SystemImage) :
    c.AddsWorkload (c.createResource env now uuid (workloadInput project i)).1 uuid := by
  rcases createResource_cases c now uuid env project i with ⟨err, hout⟩ |
    ⟨p, row, resources, reply, found, hinsert, huuid, -, -, -, -, -, hout⟩
  · rw [hout]
    exact ⟨rfl, rfl, fun _ hr ↦ hr, fun _ _ ↦ rfl⟩
  rw [hout]
  refine ⟨rfl, rfl, fun r hr ↦ ?_, fun u hu ↦ ?_⟩
  · rw [show resources.rows = _ from Table.rows_insert? hinsert]
    exact List.mem_cons_of_mem _ hr
  · refine (Table.get?_insert? hinsert u).2.trans (if_neg fun hrow ↦ hu ?_)
    rw [← hrow, Table.row_of_insert? hinsert, ← huuid]
    rfl

/-- On sound tables a tenant without the project gets it. -/
theorem createProject_ok (ht : t ∈ c.registry.tenants.rows)
    (hnone : getProjectByTenantAndName c.db t.tenantID "system" = none) {uuid : Uuid}
    (hfree : c.projects.get? uuid = none) :
    ∃ projects project, c.createProject ⟨uuid, t.tenantID, "system"⟩ =
        ({ c with projects := projects }, .ok project) ∧
      getProjectByTenantAndName { c with projects := projects }.db t.tenantID "system" =
        some project := by
  rcases createProject_cases c ⟨uuid, t.tenantID, "system"⟩ with ⟨err, hout⟩ |
    ⟨projects, project, hinsert, -, -, hout⟩
  · exfalso
    rw [CoreDb.createProject, Maintainerd.createProject, if_neg, if_pos] at hout
    · split at hout
      · rename_i err herr
        split at herr
        · rename_i hinsert
          exact Table.insert?_ne_none hfree hinsert
        · cases herr
      · cases congrArg Prod.snd hout
    · rw [Bool.and_eq_true]
      exact ⟨by dsimp only; decide, List.any_eq_true.mpr
        ⟨t.toTenant, List.mem_map_of_mem ht, beq_self_eq_true _⟩⟩
    · exact fun htaken ↦ by
        obtain ⟨q, hq, hp⟩ := List.any_eq_true.mp htaken
        rw [clip_system] at hp
        exact List.find?_eq_none.mp hnone q hq hp
  · refine ⟨projects, project, hout, ?_⟩
    rw [getProjectByTenantAndName, db, Table.rows_insert? hinsert, List.find?_cons_of_pos]
    rw [Table.row_of_insert? hinsert]
    simp [CreateProjectParams.row, clip_system]

/-- The name of a system workload is accepted, when the name of the tenant is. -/
theorem buildMRN_workload (lower : Char → Char) {tenantName : String}
    (hname : validateMRNSegment "tenant" tenantName = none) {i : SystemImage}
    (hi : i ∈ cfg.systemImages) :
    buildMRN lower tenantName "system" "Workload" i.instanceName i.metadata =
      .ok ⟨"core", tenantName, "system", "service", i.name⟩ := by
  have hpath : Text.trimSpace i.name = i.name ∧ i.name ≠ "" ∧ validateMRNPath i.name = none := by
    simp only [MirrorConfig.systemImages, List.mem_cons, List.not_mem_nil, or_false] at hi
    rcases hi with rfl | rfl <;>
      exact ⟨by dsimp only; decide, by simp, by dsimp only; decide⟩
  have hservice : firstMetaString i.metadata ["mrn_service", "service"] = "core" := rfl
  have htype : firstMetaString i.metadata ["mrn_resource_type", "resource_type"] = "service" := rfl
  have hname' : firstMetaString i.metadata ["mrn_resource_path", "resource_path"] = i.name :=
    hpath.1
  have hcore : validateMRNSegment "service" "core" = none := by decide
  have hproject : validateMRNSegment "project" "system" = none := by decide
  have hkind : validateMRNSegment "resource_type" "service" = none := by decide
  simp only [buildMRN, hservice, htype, hname', if_neg hpath.2.1, ite_self, hname, hpath.2.2,
    if_neg (show "service" ≠ "" by decide), hcore, hproject, hkind, Option.or_none]

/-- On sound tables the workload of a configured image is created, if it has not been before. -/
theorem Sound.publishes {env : Env} (h : c.Sound cfg) (ht : c.registry.getSystemTenant = some t)
    {p : Project} (hp : getProjectByTenantAndName c.db t.tenantID "system" = some p)
    {i : SystemImage} (hi : i ∈ cfg.systemImages)
    (hspec : env.validateSpec "Workload" i.spec = none ∧ jsonb i.spec = true) (now : Int)
    {uuid : Uuid}
    (hfree : c.Published p.projectID i ∨ c.resources.get? uuid = none) :
    (c.createResource env now uuid (workloadInput p i)).1.Published p.projectID i := by
  have hfound := getProjectByUUID_of_name hp
  by_cases hpub : c.Published p.projectID i
  · obtain ⟨err, hout⟩ := createResource_of_published env hfound hi hpub now uuid
    rw [hout]
    exact hpub
  have hfree := hfree.resolve_left hpub
  obtain ⟨hmem, -, hlive⟩ := mem_of_getSystemTenant ht
  obtain ⟨-, -, hvalid, htext⟩ := h.tenants t hmem
  have hpt := List.find?_some hp
  simp only [Bool.and_eq_true, beq_iff_eq] at hpt
  have hhoused : getTenantByID c.db p.tenantID = some t.toTenant := by
    rw [getTenantByID_db, hpt.1.1, Registry.getTenantByID,
      show c.registry.tenants.getByID? t.tenantID = some t from Table.getByID?_of_mem hmem,
      Option.filter_some, if_pos hlive]
    rfl
  have hmrn := buildMRN_workload env.lower hvalid hi
  have hname : ¬("Workload" = "" ∨ i.instanceName = "") := by
    simp [SystemImage.instanceName]
  obtain ⟨hname_le, hname_text⟩ := systemImages_fit hi
  rcases createResource_cases c now uuid env p i with ⟨err, hout⟩ |
    ⟨params, row, resources, reply, found, hinsert, -, hfound', hproject, hkind, hname', -, hout⟩
  · exfalso
    have herr := congrArg Prod.snd hout
    simp only [CoreDb.createResource, create, workloadInput, if_neg hname, hfound, hhoused,
      Option.map_none, hspec.1, Option.getD_some, hpt.1.2, hmrn] at herr
    split at herr
    · rename_i hrefused
      refine createResource_ne_error ?_ ?_ hfree hrefused
      · refine Bool.eq_false_iff.mpr fun htaken ↦ hpub ?_
        obtain ⟨r, hr, hclash⟩ := List.any_eq_true.mp htaken
        simp only [Bool.and_eq_true, beq_iff_eq, clip_of_length_le hname_le, clip_workload]
          at hclash
        exact ⟨r, hr, hclash.2, hclash.1.1.1, hclash.1.1.2, hclash.1.2⟩
      · have hpath : text i.name = true ∧ jsonb i.metadata = true := by
          simp only [MirrorConfig.systemImages, List.mem_cons, List.not_mem_nil, or_false] at hi
          rcases hi with rfl | rfl <;> exact ⟨by dsimp only; decide, by
            simp only [SystemImage.metadata]; decide⟩
        simp only [CreateResourceParams.storable, varchar_of_length_le hname_le, hname_text,
          varchar_of_length_le t.name_le, htext, hspec.2, hpath.1, hpath.2, Bool.and_true]
        decide
    · cases herr
  · obtain rfl : found = p := Option.some.inj (hfound'.symm.trans hfound)
    rw [hout]
    refine ⟨row, ?_, ?_⟩
    · rw [show resources.rows = _ from Table.rows_insert? hinsert]
      exact List.mem_cons_self
    · rw [Table.row_of_insert? hinsert]
      exact ⟨rfl, hproject, clip_of_eq hkind (by decide),
        clip_of_eq hname' hname_le⟩

end

/-! ## What such an attempt achieves -/

section

variable {e : MirrorEnv} {m : MirrorMeets} {c₀ : CoreDb} {t : TenantRow} {p : Project}

/-- The tables while the services are being registered. -/
structure Registering (e : MirrorEnv) (m : MirrorMeets) (c₀ : CoreDb) (t : TenantRow)
    (c : CoreDb) : Prop where
  sound : c.Sound e.cfg
  tenant : c.registry.getSystemTenant = some t
  projects : c.projects = c₀.projects
  resources : c.resources = c₀.resources
  free : ∀ d ∈ e.cfg.systemServices, c.Registered t.tenantID d.name ∨
    c.registry.services.get? (m.serviceUuid d.name) = none

/-- The tables while the workloads are being created. -/
structure Publishing (e : MirrorEnv) (m : MirrorMeets) (t : TenantRow) (p : Project)
    (c : CoreDb) : Prop where
  sound : c.Sound e.cfg
  tenant : c.registry.getSystemTenant = some t
  services : ∀ d ∈ e.cfg.systemServices, c.Registered t.tenantID d.name
  project : getProjectByTenantAndName c.db t.tenantID "system" = some p
  free : ∀ i ∈ e.cfg.systemImages, c.Published p.projectID i ∨
    c.resources.get? (m.resourceUuid i.name) = none

theorem AddsService.registered {c c' : CoreDb} {uuid : Uuid} (h : c.AddsService c' uuid)
    {tenantID : Int} {name : String} (hreg : c.Registered tenantID name) :
    c'.Registered tenantID name := by
  obtain ⟨s, hs, hrest⟩ := hreg
  exact ⟨s, h.rows s hs, hrest⟩

theorem AddsWorkload.published {c c' : CoreDb} {uuid : Uuid} (h : c.AddsWorkload c' uuid)
    {projectID : Int} {i : SystemImage} (hpub : c.Published projectID i) :
    c'.Published projectID i := by
  obtain ⟨r, hr, hrest⟩ := hpub
  exact ⟨r, h.rows r hr, hrest⟩

theorem Registering.createService {c : CoreDb} (h : Registering e m c₀ t c)
    (hclean : Clean e m c₀) {d : SystemService} (hd : d ∈ e.cfg.systemServices) :
    Registering e m c₀ t
      (c.createService m.now (m.serviceUuid d.name) (registrationInput t.tenantUuid d)).1 := by
  have hadds := createService_adds c m.now (m.serviceUuid d.name)
    (registrationInput t.tenantUuid d)
  refine ⟨h.sound.createService m.now _ t.tenantUuid hd, ?_, hadds.projects.trans h.projects,
    hadds.resources.trans h.resources, fun d' hd' ↦ ?_⟩
  · rw [Registry.getSystemTenant, hadds.tenants]
    exact h.tenant
  · by_cases hname : d'.name = d.name
    · exact Or.inl (hname ▸ h.sound.registers h.tenant hd (hclean.endpoint_fits d hd) m.now
        (h.free d hd))
    · rcases h.free d' hd' with hreg | hfree
      · exact Or.inl (hadds.registered hreg)
      · exact Or.inr ((hadds.others _ fun heq ↦
          hname (hclean.serviceUuid_ne d' hd' d hd heq)).trans hfree)

theorem Publishing.createResource {c : CoreDb} (h : Publishing e m t p c) (hclean : Clean e m c₀)
    (hspecs : SpecsAccepted e) {i : SystemImage} (hi : i ∈ e.cfg.systemImages)
    (himage : i.image ≠ "") :
    Publishing e m t p
      (c.createResource e.env m.now (m.resourceUuid i.name) (workloadInput p i)).1 := by
  have hadds := createResource_adds c e.env m.now (m.resourceUuid i.name) p i
  refine ⟨h.sound.createResource e.env m.now _ p hi himage, ?_, fun d hd ↦ ?_, ?_,
    fun i' hi' ↦ ?_⟩
  · rw [hadds.registry]
    exact h.tenant
  · have hreg := h.services d hd
    rw [Registered, ← hadds.registry] at hreg
    exact hreg
  · have hproject := h.project
    rw [getProjectByTenantAndName, db, ← hadds.projects] at hproject
    exact hproject
  · by_cases hname : i'.name = i.name
    · have hpub := h.sound.publishes h.tenant h.project hi (hspecs i hi himage) m.now (h.free i hi)
      have hinst : i'.instanceName = i.instanceName := by
        rw [SystemImage.instanceName, hname]
        rfl
      rw [Published, ← hinst] at hpub
      exact Or.inl hpub
    · rcases h.free i' hi' with hpub | hfree
      · exact Or.inl (hadds.published hpub)
      · exact Or.inr ((hadds.others _ fun heq ↦
          hname (hclean.resourceUuid_ne i' hi' i hi heq)).trans hfree)

theorem spec_ensureSystemTenant_clean (hsound : c₀.Sound e.cfg) (hname : Named e m)
    (hclean : Clean e m c₀) :
    Spec (· = c₀) (ensureSystemTenant e m)
      (fun u c ↦ ∃ t, u = t.tenantUuid ∧ Registering e m c₀ t c) fun _ ↦ False := by
  refine Spec.bind (R := fun c' s ↦ c' = c₀ ∧ s = c₀) (spec_get fun _ hc ↦ ⟨hc, hc⟩) fun c' ↦
    spec_fact fun hc' ↦ ?_
  rw [hc', hclean.getSystem, if_pos rfl]
  have hfree : ∀ d ∈ e.cfg.systemServices,
      c₀.registry.services.get? (m.serviceUuid d.name) = none := hclean.serviceUuid
  rcases hread : c₀.registry.getSystemTenant with _ | sys
  · obtain ⟨r', t, hout, htenant, hservices⟩ := hsound.createTenant_ok hclean hname hread
    have hsound' := hsound.createTenant m.now m.tenantUuid rfl hname
    rw [hout] at hsound'
    have hreg : Registering e m c₀ t { c₀ with registry := r' } :=
      ⟨hsound', htenant, rfl, rfl, fun d hd ↦ Or.inr (by rw [← hfree d hd, ← hservices])⟩
    rw [hclean.createTenant]
    refine Spec.bind (R := fun t' c ↦ t' = t ∧ Registering e m c₀ t c)
      (spec_submit_answered ?_ ?_) fun t' ↦ spec_fact fun ht' ↦ spec_pure fun c hc ↦
        ⟨t, by rw [ht'], hc⟩
    · rintro _ rfl c' a hf
      rw [hout] at hf
      cases hf
      exact ⟨rfl, hreg⟩
    · rintro _ rfl c' err hf
      rw [hout] at hf
      cases hf
  · refine spec_pure ?_
    rintro _ rfl
    exact ⟨sys, rfl, hsound, hread, rfl, rfl, fun d hd ↦ Or.inr (hfree d hd)⟩

theorem spec_registerSystemServices_clean (hclean : Clean e m c₀) {E : CoreDb → Prop} :
    Spec (Registering e m c₀ t) (registerSystemServices e m t.tenantUuid)
      (fun _ c ↦ Registering e m c₀ t c ∧
        ∀ d ∈ e.cfg.systemServices, c.Registered t.tenantID d.name) E := by
  refine spec_forEach_each
    (D := fun (d : SystemService) (c : CoreDb) ↦ c.Registered t.tenantID d.name)
    (fun d hd ↦ ?_) fun d hd d' ↦ ?_
  · refine spec_submitLogged (fun c hc ↦ ?_) fun hfalse ↦ ?_
    · exact ⟨hc.createService hclean hd, hc.sound.registers hc.tenant hd
        (hclean.endpoint_fits d hd) m.now (hc.free d hd)⟩
    · rw [hclean.register d hd] at hfalse
      cases hfalse
  · refine spec_submitLogged (fun c hc ↦ ?_) fun _ c hc ↦ hc.2
    exact (createService_adds c m.now _ _).registered hc.2

theorem spec_ensureSystemProject_clean (hclean : Clean e m c₀) :
    Spec (fun c ↦ Registering e m c₀ t c ∧
        ∀ d ∈ e.cfg.systemServices, c.Registered t.tenantID d.name)
      (ensureSystemProject m t.toTenant) (fun p ↦ Publishing e m t p) fun _ ↦ False := by
  rw [ensureSystemProject, hclean.createProject]
  refine Spec.bind (R := fun _ (c : CoreDb) ↦ Registering e m c₀ t c ∧
      ∀ d ∈ e.cfg.systemServices, c.Registered t.tenantID d.name)
    (spec_require_of hclean.getProject fun _ hc ↦ hc) fun _ ↦ ?_
  refine Spec.bind (R := fun c' (c : CoreDb) ↦ c' = c ∧ Registering e m c₀ t c ∧
      ∀ d ∈ e.cfg.systemServices, c.Registered t.tenantID d.name)
    (spec_get fun _ hc ↦ ⟨rfl, hc⟩) fun c' ↦ ?_
  have hfree : ∀ c, Registering e m c₀ t c → ∀ i ∈ e.cfg.systemImages,
      c.resources.get? (m.resourceUuid i.name) = none := by
    intro c hreg
    rw [hreg.resources]
    exact hclean.resourceUuid
  rcases hread : getProjectByTenantAndName c'.db t.tenantID "system" with _ | project
  · have hout : ∀ c, c' = c → Registering e m c₀ t c → ∃ projects project,
        c.createProject ⟨m.projectUuid, t.tenantID, "system"⟩ =
          ({ c with projects := projects }, .ok project) ∧
        getProjectByTenantAndName { c with projects := projects }.db t.tenantID "system" =
          some project := by
      rintro _ rfl hreg
      refine createProject_ok (mem_of_getSystemTenant hreg.tenant).1 hread ?_
      rw [hreg.projects]
      exact hclean.projectUuid
    refine spec_submit_answered ?_ ?_
    · rintro c ⟨hc', hreg, hall⟩ c₁ project hf
      obtain ⟨projects, project', hok, hfound⟩ := hout c hc' hreg
      have hsound := hreg.sound.createProject m.projectUuid t.tenantID
      rw [hok] at hf hsound
      cases hf
      exact ⟨hsound, hreg.tenant, hall, hfound, fun i hi ↦ Or.inr (hfree c hreg i hi)⟩
    · rintro c ⟨hc', hreg, -⟩ c₁ err hf
      obtain ⟨projects, project', hok, -⟩ := hout c hc' hreg
      rw [hok] at hf
      cases hf
  · refine spec_pure ?_
    rintro _ ⟨rfl, hreg, hall⟩
    exact ⟨hreg.sound, hreg.tenant, hall, hread, fun i hi ↦ Or.inr (hfree _ hreg i hi)⟩

theorem spec_publishSystemResources_clean (hclean : Clean e m c₀) (hspecs : SpecsAccepted e) :
    Spec (fun c ↦ Registering e m c₀ t c ∧
        ∀ d ∈ e.cfg.systemServices, c.Registered t.tenantID d.name)
      (publishSystemResources e m t.tenantUuid)
      (fun _ c ↦ c.Sound e.cfg ∧ c.Settled e.cfg t) fun _ ↦ False := by
  refine spec_ite (fun _ ↦ ?_) fun hnone ↦ spec_pure fun c hc ↦ ?_
  swap
  · refine ⟨hc.1.sound, hc.1.tenant, hc.2, fun i hi himage ↦ absurd ?_ hnone⟩
    exact List.any_eq_true.mpr ⟨i, hi, bne_iff_ne.mpr himage⟩
  refine Spec.bind (R := fun _ (c : CoreDb) ↦ Registering e m c₀ t c ∧
      ∀ d ∈ e.cfg.systemServices, c.Registered t.tenantID d.name)
    (spec_require_of hclean.getTenant fun _ hc ↦ hc) fun _ ↦ ?_
  refine Spec.bind (R := fun c' (c : CoreDb) ↦
      getTenantByUUID c'.db t.tenantUuid = some t.toTenant ∧ Registering e m c₀ t c ∧
        ∀ d ∈ e.cfg.systemServices, c.Registered t.tenantID d.name)
    (spec_get fun c hc ↦ ⟨?_, hc⟩) fun c' ↦ spec_fact fun hfound ↦ ?_
  · obtain ⟨hmem, -, hlive⟩ := mem_of_getSystemTenant hc.1.tenant
    rw [getTenantByUUID_db, getTenantByUUID_of_mem hmem hlive]
    rfl
  rw [hfound]
  refine Spec.bind (spec_ensureSystemProject_clean hclean) fun p ↦ ?_
  have hloop : Spec (Publishing e m t p)
      (forEach (fun i ↦ if i.image = "" then pure ⟨⟩ else submitLogged (m.publish i.name) fun c ↦
        c.createResource e.env m.now (m.resourceUuid i.name) (workloadInput p i))
        e.cfg.systemImages)
      (fun _ c ↦ Publishing e m t p c ∧
        ∀ i ∈ e.cfg.systemImages, i.image ≠ "" → c.Published p.projectID i) fun _ ↦ False := by
    refine spec_forEach_each
      (D := fun (i : SystemImage) (c : CoreDb) ↦ i.image ≠ "" → c.Published p.projectID i)
      (fun i hi ↦ spec_ite (fun hempty ↦ ?_) fun himage ↦ ?_) fun i hi i' ↦
        spec_ite (fun _ ↦ spec_pure fun _ hc ↦ hc.2) fun himage ↦ ?_
    · exact spec_pure fun c hc ↦ ⟨hc, fun himage ↦ absurd hempty himage⟩
    · refine spec_submitLogged (fun c hc ↦ ?_) fun hfalse ↦ ?_
      · exact ⟨hc.createResource hclean hspecs hi himage, fun _ ↦ hc.sound.publishes hc.tenant
          hc.project hi (hspecs i hi himage) m.now (hc.free i hi)⟩
      · rw [hclean.publish i hi] at hfalse
        cases hfalse
    · refine spec_submitLogged (fun c hc himage' ↦ ?_) fun _ c hc ↦ hc.2
      exact (createResource_adds c e.env m.now _ p i).published (hc.2 himage')
  refine hloop.mono (fun _ hc ↦ hc) (fun _ c hc ↦ ?_) fun _ hc ↦ hc
  exact ⟨hc.1.sound, hc.1.tenant, hc.1.services,
    fun i hi himage ↦ ⟨p, hc.1.project, hc.2 i hi himage⟩⟩

/-- **An attempt that meets no fault settles the tables.** -/
theorem Sound.settled (h : c₀.Sound e.cfg) (hname : Named e m) (hclean : Clean e m c₀)
    (hspecs : SpecsAccepted e) :
    (Maintainerd.mirrored e c₀ m).Sound e.cfg ∧
      ∃ t, (Maintainerd.mirrored e c₀ m).Settled e.cfg t := by
  have hspec : Spec (· = c₀) (mirror e m) (fun _ c ↦ c.Sound e.cfg ∧ ∃ t, c.Settled e.cfg t)
      fun _ ↦ False := by
    refine Spec.bind (spec_ensureSystemTenant_clean h hname hclean) fun u c hc ↦ ?_
    obtain ⟨t, rfl, hreg⟩ := hc
    have hrest := Spec.bind (spec_registerSystemServices_clean hclean) fun _ ↦
      ((spec_publishSystemResources_clean (t := t) hclean hspecs).mono (fun _ hc ↦ hc)
        (fun _ c hc ↦ hc) fun _ hf ↦ hf.elim).passOver (E := fun _ ↦ False)
    exact (hrest.mono (fun _ hc ↦ hc) (fun _ c hc ↦ ⟨hc.1, t, hc.2⟩) fun _ hf ↦ hf) c hreg
  exact hspec.ends rfl (fun _ _ hc ↦ hc) fun _ hf ↦ hf.elim

end

/-! ## What agents and operators make of the workloads -/

/-- The request takes no resource away: what is live before it is live after it. -/
def spares (env : Env) (c : CoreDb) (q : Request) : Bool :=
  c.resources.rows.all fun r ↦
    !r.live || ((step env c.db q).resources.get? r.resourceUuid).any Resource.live

theorem Settled.request {cfg : MirrorConfig} {c : CoreDb} {t : TenantRow} (h : c.Settled cfg t)
    {env : Env} {q : Request} (hspares : c.spares env q = true) :
    (c.request env q).Settled cfg t := by
  refine ⟨h.tenant, h.services, fun i hi himage ↦ ?_⟩
  obtain ⟨p, hp, r, hr, hlive, hproject, hkind, hname⟩ := h.workloads i hi himage
  have hget : c.db.resources.get? r.resourceUuid = some r := Table.get?_of_mem hr
  obtain ⟨r', hget', hstep⟩ := step_get? env q hget
  have hlive' := List.all_eq_true.mp hspares r hr
  rw [hlive, hget', Bool.not_true, Bool.false_or, Option.any_some] at hlive'
  have hkeeps := hstep.keeps
  exact ⟨p, hp, r', Table.mem_of_get? hget', hlive', hkeeps.projectID.trans hproject,
    hkeeps.kind.trans hkind, hkeeps.name.trans hname⟩

/-- What happens to the tables once the platform runs: an attempt at the mirror, which every start
of core may make, or a request to the resource service. -/
inductive Traffic where
  | mirror (m : MirrorMeets)
  | request (q : Request)

/-- The tables after a turn. -/
def play (e : MirrorEnv) (c : CoreDb) : Traffic → CoreDb
  | .mirror m => mirrored e c m
  | .request q => c.request e.env q

/-- The turn takes no resource away. -/
def Traffic.spares (env : Env) (c : CoreDb) : Traffic → Bool
  | .mirror _ => true
  | .request q => c.spares env q

/-- The request of a turn. -/
def Traffic.request? : Traffic → Option Request
  | .mirror _ => none
  | .request q => some q

/-- In a run from settled tables the attempts at the mirror might as well not be there. -/
theorem Settled.run_play {e : MirrorEnv} {c : CoreDb} {t : TenantRow} (h : c.Settled e.cfg t)
    {turns : List Traffic}
    (hspares : Guarded (play e) (fun c o ↦ o.spares e.env c = true) c turns) :
    run (play e) c turns = run (CoreDb.request e.env) c (turns.filterMap Traffic.request?) := by
  induction turns generalizing c with
  | nil => rfl
  | cons o turns ih =>
    obtain ⟨ho, hrest⟩ := hspares
    rcases o with m | q
    · rw [run_cons, show play e c (.mirror m) = c from h.mirrored_eq]
      rw [show play e c (.mirror m) = c from h.mirrored_eq] at hrest
      exact ih h hrest
    · exact ih (h.request ho) hrest

/-! ## What keep-alive finds -/

section

variable {cfg : MirrorConfig} {c : CoreDb} {t : TenantRow}

theorem Sound.fed (h : c.Sound cfg) : c.registry.Fed := by
  rintro id ⟨s, hs, -, -, rfl⟩
  obtain ⟨t, ht, hid⟩ := c.registry.references s hs
  exact lives_iff.mpr ⟨t, ht, (h.tenants t ht).1, hid⟩

/-- On settled tables keep-alive walks through the three system services. -/
theorem Settled.visits (h : c.Settled cfg t) (hsound : c.Sound cfg)
    (told : Registration → Int × Bool) :
    ∃ vs, c.registry.visits told = some vs ∧
      ∀ name, (∃ v ∈ vs, v.reg.name = name) ↔ ∃ d ∈ cfg.systemServices, d.name = name := by
  rcases hvs : c.registry.visits told with _ | vs
  · exact absurd hsound.fed ((visits_eq_none_iff told).mp hvs)
  · refine ⟨vs, rfl, fun name ↦ (mem_visits_name hvs name).trans ⟨?_, ?_⟩⟩
    · rintro ⟨s, hs, -, -, rfl⟩
      obtain ⟨-, -, d, hd, hname, -⟩ := hsound.services s hs
      exact ⟨d, hd, hname.symm⟩
    · rintro ⟨d, hd, rfl⟩
      obtain ⟨s, hs, hlive, -, hname⟩ := h.services d hd
      exact ⟨s, hs, (hsound.services s hs).2.1, hlive, hname⟩

/-- On settled tables a service has an instance just in case it has an image. -/
theorem Settled.isSome_instanceOf (h : c.Settled cfg t) (hsound : c.Sound cfg) (name : String) :
    (instanceOf (listSystemTier c.db) name).isSome = true ↔
      ∃ i ∈ cfg.systemImages, i.image ≠ "" ∧ i.name = name := by
  rw [instanceOf, List.getLast?_isSome, ne_eq, List.filter_eq_nil_iff, not_forall]
  simp only [Classical.not_imp, not_not, beq_iff_eq]
  constructor
  · rintro ⟨inst, hinst, hname⟩
    obtain ⟨r, hr, rfl⟩ := List.mem_map.mp hinst
    rw [listSystemTierResources, List.mem_insertionSort, List.mem_filter] at hr
    obtain ⟨-, -, -, i, hi, himage, hrname, -⟩ := hsound.workloads r hr.1
    refine ⟨i, hi, himage, ?_⟩
    exact String.append_right_inj "system-" |>.mp (hrname.symm.trans hname)
  · rintro ⟨i, hi, himage, rfl⟩
    obtain ⟨p, -, r, hr, hlive, -, -, hname⟩ := h.workloads i hi himage
    refine ⟨toSystemInstance r, List.mem_map_of_mem ?_, hname⟩
    obtain ⟨-, -, -, i', -, -, -, hmeta⟩ := hsound.workloads r hr
    have htier : JsonMap.textIs r.metadata "tier" "system" = true := by
      rw [hmeta]
      rfl
    rw [listSystemTierResources, List.mem_insertionSort, List.mem_filter, htier, hlive]
    exact ⟨hr, rfl⟩

/-- How keep-alive looks at the registration of a system service. -/
theorem serviceOf_systemService {s : Supervisor} {d : SystemService} (hd : d ∈ cfg.systemServices)
    (hlower : Text.toLower s.lower d.name = d.name) {reg : Registration}
    (hreg : reg.name = d.name) :
    serviceOf s reg = if supervises s d.name then some d.name else none := by
  have htrim : Text.trimSpace d.name = d.name ∧ d.name ≠ "" := by
    simp only [MirrorConfig.systemServices, List.mem_cons, List.not_mem_nil, or_false] at hd
    rcases hd with rfl | rfl | rfl <;> exact ⟨by dsimp only; decide, by simp⟩
  rw [serviceOf, hreg, htrim.1, hlower]
  rcases supervises s d.name with _ | _
  · simp
  · simp [htrim.2]

/-- The services without an image are those of the three that have no instance, docker apart. -/
theorem lacksImage_iff (s : Supervisor) (name : String) :
    (supervises s name = true ∧ cfg.lacksImage name = true) ↔
      (∃ d ∈ cfg.systemServices, d.name = name ∧ supervises s d.name = true) ∧
        ¬∃ i ∈ cfg.systemImages, i.image ≠ "" ∧ i.name = name := by
  have hdocker : supervises s "docker" = false := rfl
  simp only [MirrorConfig.lacksImage, MirrorConfig.systemServices, MirrorConfig.systemImages,
    List.any_cons, List.any_nil, Bool.or_false, Bool.or_eq_true, Bool.and_eq_true, beq_iff_eq,
    List.mem_cons, List.not_mem_nil, or_false, exists_eq_or_imp, exists_eq_left]
  constructor
  · rintro ⟨hsup, ⟨rfl, himage⟩ | ⟨rfl, himage⟩⟩
    · exact ⟨Or.inl ⟨rfl, hsup⟩, by simp [himage]⟩
    · exact ⟨Or.inr (Or.inl ⟨rfl, hsup⟩), by simp [himage]⟩
  · rintro ⟨⟨rfl, hsup⟩ | ⟨rfl, hsup⟩ | ⟨rfl, hsup⟩, hnone⟩
    · exact ⟨hsup, by simpa using hnone⟩
    · exact ⟨hsup, by simpa using hnone⟩
    · rw [hdocker] at hsup
      cases hsup

/-- A first pass of keep-alive over settled tables reports the services that have no image. -/
theorem Settled.missingReports_keepAlive (h : c.Settled cfg t) (hsound : c.Sound cfg)
    (s : Supervisor) (hlower : ∀ d ∈ cfg.systemServices, Text.toLower s.lower d.name = d.name)
    (told : Registration → Int × Bool) (offline : List Agent) (name : String) :
    missingReports name
        (keepAlive s (listSystemTier c.db) offline .fresh (c.registry.visits told)).2 =
      if supervises s name && cfg.lacksImage name then 1 else 0 := by
  obtain ⟨vs, hvs, hnames⟩ := h.visits hsound told
  have hrounds : (!(roundsFor s name vs).isEmpty) = true ↔
      ∃ d ∈ cfg.systemServices, d.name = name ∧ supervises s d.name = true := by
    rw [Bool.not_eq_true', Bool.eq_false_iff, ne_eq, List.isEmpty_iff, roundsFor,
      List.filter_eq_nil_iff, not_forall]
    simp only [Classical.not_imp, not_not, beq_iff_eq]
    constructor
    · rintro ⟨v, hv, hservice⟩
      obtain ⟨d, hd, hname⟩ := (hnames v.reg.name).mp ⟨v, hv, rfl⟩
      rw [serviceOf_systemService hd (hlower d hd) hname.symm] at hservice
      split at hservice
      · rename_i hsup
        exact ⟨d, hd, Option.some.inj hservice, hsup⟩
      · cases hservice
    · rintro ⟨d, hd, rfl, hsup⟩
      obtain ⟨v, hv, hname⟩ := (hnames d.name).mpr ⟨d, hd, rfl⟩
      refine ⟨v, hv, ?_⟩
      rw [serviceOf_systemService hd (hlower d hd) hname, if_pos hsup]
  have hnone : (instanceOf (listSystemTier c.db) name).isNone = true ↔
      ¬∃ i ∈ cfg.systemImages, i.image ≠ "" ∧ i.name = name := by
    rw [← h.isSome_instanceOf hsound name]
    rcases instanceOf (listSystemTier c.db) name with _ | inst <;> simp
  rw [hvs, keepAlive]
  refine (visitAll_flagged s _ offline name .fresh vs).2.trans (if_congr ?_ rfl rfl)
  rw [Bool.and_eq_true, Bool.and_eq_true, hrounds, hnone, Bool.and_eq_true, lacksImage_iff]
  exact and_iff_left rfl

end

end CoreDb

/-! ## Setup and the supervisor agree -/

open CoreDb

/-- **What setup publishes is what keep-alive looks for, and setup publishes it once.**  Let the
specs of the configured images be accepted.  Take any number of attempts at the mirror on a new
installation, each stopped anywhere, and then one that meets no fault; the name that each would give
the tenant can stand in the name of a resource.  From there on attempts at the mirror change
nothing, whatever they meet and whatever agents and operators have made of the workloads in between,
as long as none of them is removed: a run with them is the run without them.  And a supervisor that
starts on these tables reports a missing instance for exactly those of auth and secret that it
supervises and that have no image configured. -/
theorem mirror_settles (e : MirrorEnv) (hspecs : SpecsAccepted e) (pre : List MirrorMeets)
    (m : MirrorMeets) (hnames : ∀ m' ∈ pre ++ [m], Named e m')
    (hclean : Clean e m (run (mirrored e) .empty pre)) :
    (∀ turns : List Traffic,
        Guarded (play e) (fun c o ↦ o.spares e.env c = true)
          (run (mirrored e) .empty (pre ++ [m])) turns →
        run (play e) (run (mirrored e) .empty (pre ++ [m])) turns =
          run (CoreDb.request e.env) (run (mirrored e) .empty (pre ++ [m]))
            (turns.filterMap Traffic.request?)) ∧
      ∀ (s : Supervisor) (told : Registration → Int × Bool) (offline : List Agent) (name : String),
        (∀ d ∈ e.cfg.systemServices, Text.toLower s.lower d.name = d.name) →
        missingReports name (keepAlive s
            (listSystemTier (run (mirrored e) .empty (pre ++ [m])).db) offline .fresh
            ((run (mirrored e) .empty (pre ++ [m])).registry.visits told)).2 =
          if supervises s name && e.cfg.lacksImage name then 1 else 0 := by
  have hsound : (run (mirrored e) .empty pre).Sound e.cfg := by
    have hguarded : Guarded (mirrored e) (fun _ m' ↦ Named e m') .empty pre :=
      guarded_of_forall fun _ m' hm' ↦ hnames m' (List.mem_append_left _ hm')
    exact hguarded.invariant (sound_empty e.cfg) fun _ _ hc hname ↦ hc.mirrored hname
  have hname := hnames m (List.mem_append_right _ List.mem_cons_self)
  obtain ⟨hsound', t, hsettled⟩ := hsound.settled hname hclean hspecs
  rw [run_append, show run (mirrored e) (run (mirrored e) .empty pre) [m] =
    mirrored e (run (mirrored e) .empty pre) m from rfl]
  exact ⟨fun turns hturns ↦ hsettled.run_play hturns, fun s told offline name hlower ↦
    hsettled.missingReports_keepAlive hsound' s hlower told offline name⟩

/-- An environment in which only the image of Auth is configured. -/
def authImageOnly : MirrorEnv where
  env := plainEnv
  uuids := plainSetup.uuids
  cfg := ⟨"maintainerd", "Maintainerd", "auth:9090", "", "", "auth:1", ""⟩

theorem specsAccepted_authImageOnly : SpecsAccepted authImageOnly := by
  intro i hi _
  simp only [MirrorConfig.systemImages, authImageOnly, List.mem_cons, List.not_mem_nil,
    or_false] at hi
  rcases hi with rfl | rfl <;> exact ⟨rfl, by decide⟩

/-- An attempt that meets no fault and draws its uuids from `n` on. -/
def smoothMirror (n : ℕ) : MirrorMeets where
  now := 0
  authTenantID := ""
  tenantName := ""
  tenantDisplay := ""
  getSystem := true
  createTenant := .answered
  register _ := true
  getTenant := true
  getProject := true
  createProject := .answered
  publish _ := true
  tenantUuid := .ofNat 128 n
  serviceUuid name := .ofNat 128
    (n + if name = "auth" then 1 else if name = "secret" then 2 else 3)
  projectUuid := .ofNat 128 n
  resourceUuid name := .ofNat 128 (n + if name = "auth" then 1 else 2)

/-- An attempt that registers one of the services, creates the project and is not told so. -/
def halfWay : MirrorMeets :=
  { smoothMirror 10 with register := fun name ↦ name == "secret", createProject := .lost }

/-- The attempt that was stopped is made good by the next, and the one after that changes
nothing. -/
theorem mirror_settles_half_way :
    let c := run (mirrored authImageOnly) .empty ([halfWay] ++ [smoothMirror 20])
    run (play authImageOnly) c [.request (pullBy1 5), .mirror (smoothMirror 30)] =
        c.request plainEnv (pullBy1 5) ∧
      missingReports "secret" (keepAlive plainSupervisor (listSystemTier c.db) [] .fresh
        (c.registry.visits fun _ ↦ (0, true))).2 = 1 ∧
      missingReports "auth" (keepAlive plainSupervisor (listSystemTier c.db) [] .fresh
        (c.registry.visits fun _ ↦ (0, true))).2 = 0 := by
  intro c
  have hclean : Clean authImageOnly (smoothMirror 20)
      (run (mirrored authImageOnly) .empty [halfWay]) := by
    constructor <;> decide +kernel
  obtain ⟨hturns, hreports⟩ := mirror_settles authImageOnly specsAccepted_authImageOnly [halfWay]
    (smoothMirror 20) (by decide) hclean
  refine ⟨hturns _ (by decide +kernel), ?_, ?_⟩
  · exact (hreports plainSupervisor _ [] "secret" (by decide)).trans (by decide)
  · exact (hreports plainSupervisor _ [] "auth" (by decide)).trans (by decide)

end Maintainerd

import Maintainerd.Resource.Step

/-!
# Does a name identify its resource?

Beside the index on the project, the kind and the name of a live row there is nothing that keeps two
resources apart.  The index compares the columns as they are kept; the parts of the MRN, which
policy and lookup go by, are made of the kind in lower case and of both without the blanks around
them.  So two resources that the index tells apart can have one MRN.

`identify_iff_distinct` says when that happens in a run whose metadata override nothing: exactly
when some `Create` goes through for a kind and a name that come to the same as those of a live
resource of the project.  Behind it is one invariant, `Resource.Derived`: a row's MRN is what its
kind, its name and its project make it, in every state of such a run.
-/

set_option autoImplicit false

namespace Maintainerd

open Machine Postgres

/-! ## Names that are derived -/

/-- The five columns of a row that name it. -/
def Resource.mrn (r : Resource) : MrnParts :=
  ⟨r.mrnService, r.mrnTenant, r.mrnProject, r.mrnResourceType, r.mrnResourcePath⟩

/-- The metadata override no part of the name. -/
def NoOverride (metadata : JsonMap) : Prop :=
  firstMetaString metadata ["mrn_service", "service"] = "" ∧
    firstMetaString metadata ["mrn_resource_type", "resource_type"] = "" ∧
    firstMetaString metadata ["mrn_resource_path", "resource_path"] = ""

instance (metadata : JsonMap) : Decidable (NoOverride metadata) :=
  inferInstanceAs (Decidable (_ ∧ _ ∧ _))

/-- What a kind and a name come to. -/
def nameKey (lower : Char → Char) (kind name : String) : String × String :=
  (Text.toLower lower (Text.trimSpace kind), Text.trimSpace name)

/-- The name `buildMRN` makes when nothing is overridden. -/
def derivedMRN (lower : Char → Char) (tenantName projectName kind name : String) : MrnParts :=
  ⟨"core", tenantName, projectName, (nameKey lower kind name).1, (nameKey lower kind name).2⟩

theorem buildMRN_of_noOverride {lower : Char → Char} {tenantName projectName kind name : String}
    {metadata : JsonMap} {p : MrnParts} (hm : NoOverride metadata)
    (h : buildMRN lower tenantName projectName kind name metadata = .ok p) :
    p = derivedMRN lower tenantName projectName kind name := by
  obtain ⟨hservice, htype, hpath⟩ := hm
  simp only [buildMRN, hservice, htype, hpath, if_true] at h
  split at h
  · cases h
  · cases h
    rfl

/-- The row is named after its kind, its name and its project, and would be again. -/
structure Resource.Derived (lower : Char → Char) (db : Db) (r : Resource) : Prop where
  plain : NoOverride r.metadata
  named : ∃ project tenant, db.projects.getByID? r.projectID = some project ∧
    r.tenantID = project.tenantID ∧ db.tenants.getByID? project.tenantID = some tenant ∧
    r.mrn = derivedMRN lower tenant.name project.name r.kind r.name

/-- All rows are. -/
def Db.Derived (lower : Char → Char) (db : Db) : Prop :=
  ∀ u r, db.resources.get? u = some r → r.Derived lower db

/-- In one project, resources share their MRN when their kinds and names come to the same. -/
theorem Resource.Derived.mrn_eq_iff {lower : Char → Char} {db : Db} {r r' : Resource}
    (h : r.Derived lower db) (h' : r'.Derived lower db) (hproject : r.projectID = r'.projectID) :
    r.mrn = r'.mrn ↔ nameKey lower r.kind r.name = nameKey lower r'.kind r'.name := by
  obtain ⟨p, t, hp, -, ht, hmrn⟩ := h.named
  obtain ⟨p', t', hp', -, ht', hmrn'⟩ := h'.named
  obtain rfl : p = p' := Option.some.inj (by rw [← hp, ← hp', hproject])
  obtain rfl : t = t' := Option.some.inj (by rw [← ht, ← ht'])
  rw [hmrn, hmrn', derivedMRN, derivedMRN, Prod.ext_iff]
  simp

/-! ## What the writers make of a name -/

/-- What the blanks that the columns cut off come to is nothing. -/
theorem nameKey_row (lower : Char → Char) {p : CreateResourceParams} (h : p.storable = true)
    (now id : Int) :
    nameKey lower (p.row now id).kind (p.row now id).name = nameKey lower p.kind p.name := by
  rw [nameKey, nameKey]
  show (Text.toLower lower (Text.trimSpace (clip 50 p.kind)), Text.trimSpace (clip 100 p.name)) = _
  rw [trimSpace_clip (CreateResourceParams.varchar_kind h),
    trimSpace_clip (CreateResourceParams.varchar_name h)]

/-- The columns keep a derived name as it is. -/
theorem clip_derivedMRN (lower : Char → Char) (tenant : Tenant) (project : Project) {r : Resource}
    {m : MrnParts} (h : m = derivedMRN lower tenant.name project.name r.kind r.name)
    (hr : r.mrn = ⟨clip 63 m.service, clip 63 m.tenant, clip 63 m.project, clip 63 m.resourceType,
      m.resourcePath⟩) : r.mrn = derivedMRN lower tenant.name project.name r.kind r.name := by
  have hkind : (nameKey lower r.kind r.name).1.length ≤ 63 := by
    rw [nameKey, Text.length_toLower]
    exact (Text.length_trimSpace_le r.kind).trans (r.kind_le.trans (by decide))
  rw [hr, h, derivedMRN, clip_of_length_le tenant.name_le, clip_of_length_le project.name_le,
    clip_of_length_le hkind, clip_of_length_le (s := "core") (by decide)]

/-- The name `UpdateSpec` writes, and where it takes it from. -/
theorem updateSpecParams_mrn {env : Env} {db : Db} {r : Resource} {input : UpdateSpecInput}
    {p : UpdateResourceSpecParams} (h : updateSpecParams env db r input = .ok p) :
    ∃ project tenant, getProjectByID db r.projectID = some project ∧
      getTenantByID db r.tenantID = some tenant ∧
      buildMRN env.lower tenant.name project.name r.kind r.name p.metadata =
        .ok ⟨p.mrnService, p.mrnTenant, p.mrnProject, p.mrnResourceType, p.mrnResourcePath⟩ := by
  simp only [updateSpecParams] at h
  split at h
  · cases h
  split at h
  · cases h
  rename_i project hproject
  split at h
  · cases h
  rename_i tenant htenant
  split at h
  · cases h
  rename_i parts hparts
  cases h
  exact ⟨project, tenant, hproject, htenant, hparts⟩

/-- A resource that is inserted without an override is named after its kind and its name. -/
theorem Prepared.derived {env : Env} {db : Db} {uuid : Uuid} {input : CreateInput}
    {project : Project} {tenant : Tenant} {p : CreateResourceParams}
    (h : Prepared env db uuid input project tenant p) (hstore : p.storable = true)
    (hplain : NoOverride (input.metadata.getD [])) (now id : Int) :
    (p.row now id).Derived env.lower db := by
  obtain ⟨hproject, -⟩ := Option.filter_eq_some_iff.mp h.found
  obtain ⟨htenant, -⟩ := Option.filter_eq_some_iff.mp h.housed
  rw [← h.metadata] at hplain
  refine ⟨hplain, project, tenant, ?_, h.tenantID, htenant, ?_⟩
  · show db.projects.getByID? p.projectID = some project
    rw [h.projectID]
    exact Table.getByID?_of_mem (Table.mem_of_get? hproject)
  · have hmrn := buildMRN_of_noOverride hplain h.mrn
    refine clip_derivedMRN env.lower tenant project (hmrn.trans ?_) rfl
    rw [derivedMRN, derivedMRN, nameKey_row env.lower hstore, h.kind, h.name]

/-! ## One step -/

/-- The operation overrides no part of a name. -/
def Op.Plain : Op → Prop
  | .create _ input => NoOverride (input.metadata.getD [])
  | .call (.updateSpec _ input) => NoOverride (input.metadata.getD [])
  | _ => True

instance (o : Op) : Decidable o.Plain :=
  match o with
  | .create _ input => inferInstanceAs (Decidable (NoOverride (input.metadata.getD [])))
  | .call (.updateSpec _ input) => inferInstanceAs (Decidable (NoOverride (input.metadata.getD [])))
  | .call (.updateStatus _ _) => isTrue trivial
  | .call (.delete _) => isTrue trivial
  | .call (.applyAgentReport _ _ _ _) => isTrue trivial
  | .call (.redispatchSystem _) => isTrue trivial
  | .claimForAgent _ _ _ _ => isTrue trivial
  | .flagHostUnreachable _ => isTrue trivial

theorem Resource.Derived.congr {lower : Char → Char} {db db' : Db} {r : Resource}
    (h : r.Derived lower db) (hdb : db.OnlyResources db') : r.Derived lower db' := by
  obtain ⟨p, t, hp, hid, ht, hmrn⟩ := h.named
  rw [hdb]
  exact ⟨h.plain, p, t, hp, hid, ht, hmrn⟩

theorem RowStep.derived {env : Env} {db : Db} {now : Int} {u : Uuid} {r r' : Resource} {o : Op}
    (h : RowStep env db now u r o r') (ho : o.Plain) (hr : r.Derived env.lower db) :
    r'.Derived env.lower db := by
  cases h with
  | @spec input p hlive hp =>
    obtain ⟨project, tenant, hproject, htenant, hmrn⟩ := updateSpecParams_mrn hp
    obtain ⟨project', tenant', hproject', hid, htenant', -⟩ := hr.named
    have hplain : NoOverride p.metadata := by
      rw [(updateSpecParams_spec hp).2.2]
      rcases hm : input.metadata with _ | m
      · exact hr.plain
      · simpa only [Op.Plain, hm, Option.getD_some] using ho
    obtain ⟨hproject, -⟩ := Option.filter_eq_some_iff.mp hproject
    obtain ⟨htenant, -⟩ := Option.filter_eq_some_iff.mp htenant
    obtain rfl : project = project' := Option.some.inj (by rw [← hproject, ← hproject'])
    rw [hid] at htenant
    exact ⟨hplain, project, tenant, hproject, hid, htenant,
      clip_derivedMRN env.lower tenant project (buildMRN_of_noOverride hplain hmrn) rfl⟩
  | _ => exact ⟨hr.plain, hr.named⟩

theorem Db.Derived.step {env : Env} {db : Db} (h : db.Derived env.lower) {q : Request}
    (hq : q.op.Plain) : (step env db q).Derived env.lower := by
  intro u r' hr'
  refine Resource.Derived.congr ?_ (step_onlyResources env db q)
  rcases hr : db.resources.get? u with _ | r
  · obtain ⟨input, project, tenant, p, id, hop, -, hprep, hstore, rfl⟩ := created_of_none hr hr'
    rw [hop] at hq
    exact hprep.derived hstore hq q.now id
  · obtain ⟨r'', hr'', hstep⟩ := step_get? env q hr
    obtain rfl : r'' = r' := Option.some.inj (hr''.symm.trans hr')
    exact hstep.derived hq (h u r hr)

/-- The live resources of each project have names of their own. -/
def Db.MrnsIdentify (db : Db) : Prop :=
  ∀ u v r r', db.resources.get? u = some r → db.resources.get? v = some r' → r.live = true →
    r'.live = true → r.projectID = r'.projectID → r.mrn = r'.mrn → u = v

/-- The request creates a resource whose kind and name come to the same as those of a live resource
of its project. -/
def Request.collides (env : Env) (db : Db) (q : Request) : Bool :=
  match q.op with
  | .create uuid input =>
    (create env db q.now uuid input).2.isOk &&
      (getProjectByUUID db input.projectUUID).any fun project ↦ db.resources.rows.any fun r ↦
        r.live && r.projectID == project.projectID &&
          nameKey env.lower r.kind r.name == nameKey env.lower input.kind input.name
  | _ => false

theorem collides_iff {env : Env} {db : Db} {now : Int} {uuid : Uuid} {input : CreateInput} :
    Request.collides env db ⟨now, .create uuid input⟩ = true ↔
      (create env db now uuid input).2.isOk = true ∧
        ∃ project, getProjectByUUID db input.projectUUID = some project ∧
        ∃ v r, db.resources.get? v = some r ∧ r.live = true ∧ r.projectID = project.projectID ∧
          nameKey env.lower r.kind r.name = nameKey env.lower input.kind input.name := by
  simp only [Request.collides, Bool.and_eq_true, Option.any_eq_true, List.any_eq_true, beq_iff_eq]
  refine and_congr_right fun _ ↦ exists_congr fun project ↦ and_congr_right fun _ ↦ ?_
  constructor
  · rintro ⟨r, hr, ⟨hlive, hproject⟩, hkey⟩
    exact ⟨_, r, Table.get?_of_mem hr, hlive, hproject, hkey⟩
  · rintro ⟨v, r, hr, hlive, hproject, hkey⟩
    exact ⟨r, Table.mem_of_get? hr, ⟨hlive, hproject⟩, hkey⟩

/-- A live row that is not new was live before the step, in the same project and under a kind and a
name that are the same; its MRN is too. -/
theorem live_before {env : Env} {db : Db} (hdb : db.Derived env.lower) {q : Request}
    (hq : q.op.Plain) {u : Uuid} {r r' : Resource} (hr : db.resources.get? u = some r)
    (hr' : (step env db q).resources.get? u = some r') (hlive : r'.live = true) :
    r.live = true ∧ r'.projectID = r.projectID ∧ r'.kind = r.kind ∧ r'.name = r.name ∧
      r'.mrn = r.mrn := by
  obtain ⟨r'', hr'', hstep⟩ := step_get? env q hr
  obtain rfl : r'' = r' := Option.some.inj (hr''.symm.trans hr')
  have hkeeps := hstep.keeps
  have hmrn : r''.mrn = r.mrn := by
    rw [(hstep.derived hq (hdb u r hr)).mrn_eq_iff (hdb u r hr) hkeeps.projectID, hkeeps.kind,
      hkeeps.name]
  refine ⟨?_, hkeeps.projectID, hkeeps.kind, hkeeps.name, hmrn⟩
  rcases hdead : r.live with _ | _
  · rw [hstep.eq_of_not_live hdead, hdead] at hlive
    cases hlive
  · rfl

/-- `Create` leaves the rows that are there alone. -/
theorem get?_step_create {env : Env} {db : Db} {now : Int} {uuid v : Uuid} {input : CreateInput}
    {r : Resource} (hr : db.resources.get? v = some r) :
    (step env db ⟨now, .create uuid input⟩).resources.get? v = some r := by
  obtain ⟨r', hr', hstep⟩ := step_get? env ⟨now, .create uuid input⟩ hr
  cases hstep
  exact hr'

/-- A new resource and one that was there share their MRN only if the request collides. -/
theorem collides_of_shared {env : Env} {db : Db} (hdb : db.Derived env.lower) {q : Request}
    (hq : q.op.Plain) {u v : Uuid} {r r' s : Resource} (hnone : db.resources.get? u = none)
    (hr : (step env db q).resources.get? u = some r) (hs : db.resources.get? v = some s)
    (hr' : (step env db q).resources.get? v = some r') (hlive : r'.live = true)
    (hproject : r.projectID = r'.projectID) (hmrn : r.mrn = r'.mrn) :
    q.collides env db = true := by
  obtain ⟨slive, sproject, skind, sname, smrn⟩ := live_before hdb hq hs hr' hlive
  obtain ⟨input, project, tenant, p, id, hop, hok, hprep, hstore, rfl⟩ := created_of_none hnone hr
  obtain ⟨now, o⟩ := q
  obtain rfl : o = .create u input := hop
  rw [sproject] at hproject
  rw [smrn, (hprep.derived hstore hq now id).mrn_eq_iff (hdb v s hs) hproject,
    nameKey_row env.lower hstore] at hmrn
  refine collides_iff.mpr ⟨hok, project, hprep.found, v, s, hs, slive, ?_, ?_⟩
  · exact hproject.symm.trans hprep.projectID
  · rw [← hmrn, ← hprep.kind, ← hprep.name]

/-- **One step** that does not collide keeps the names apart. -/
theorem Db.MrnsIdentify.step {env : Env} {db : Db} (h : db.MrnsIdentify)
    (hdb : db.Derived env.lower) {q : Request} (hq : q.op.Plain)
    (hfree : q.collides env db = false) : (step env db q).MrnsIdentify := by
  intro u v r r' hr hr' hlive hlive' hproject hmrn
  rcases hu : db.resources.get? u with _ | s <;> rcases hv : db.resources.get? v with _ | s'
  · obtain ⟨_, _, _, _, _, hop, -⟩ := created_of_none hu hr
    obtain ⟨_, _, _, _, _, hop', -⟩ := created_of_none hv hr'
    cases hop.symm.trans hop'
    rfl
  · rw [collides_of_shared hdb hq hu hr hv hr' hlive' hproject hmrn] at hfree
    cases hfree
  · rw [collides_of_shared hdb hq hv hr' hu hr hlive hproject.symm hmrn.symm] at hfree
    cases hfree
  · obtain ⟨slive, sproject, -, -, smrn⟩ := live_before hdb hq hu hr hlive
    obtain ⟨slive', sproject', -, -, smrn'⟩ := live_before hdb hq hv hr' hlive'
    refine h u v s s' hu hv slive slive' ?_ ?_
    · rw [← sproject, ← sproject', hproject]
    · rw [← smrn, ← smrn', hmrn]

/-- After a request that collides two live resources of the project share their MRN. -/
theorem not_identify_of_collides {env : Env} {db : Db} (hdb : db.Derived env.lower) {q : Request}
    (hq : q.op.Plain) (h : q.collides env db = true) : ¬ (step env db q).MrnsIdentify := by
  obtain ⟨now, o⟩ := q
  cases o with
  | create uuid input =>
    obtain ⟨hok, project, hfound, v, s, hs, slive, sproject, hkey⟩ := collides_iff.mp h
    rcases create_prepared env db now uuid input with ⟨e, he⟩ | ⟨project', tenant, p, db',
      row, hprep, hins, he⟩
    · rw [he] at hok
      cases hok
    obtain rfl : project = project' := Option.some.inj (hfound.symm.trans hprep.found)
    obtain ⟨⟨id, rfl⟩, hnone, -, hget⟩ := createResource_spec hins
    rw [hprep.resourceUuid] at hnone hget
    have hnew : (step env db ⟨now, .create uuid input⟩).resources.get? uuid
        = some (p.row now id) := by
      show (create env db now uuid input).1.resources.get? uuid = _
      rw [he, hget, if_pos rfl]
    have hstore := createResource_storable hins
    have hshared : (p.row now id).mrn = s.mrn := by
      rw [(hprep.derived hstore hq now id).mrn_eq_iff (hdb v s hs)
        (hprep.projectID.trans sproject.symm), hkey, nameKey_row env.lower hstore, hprep.kind,
        hprep.name]
    intro hident
    obtain rfl : uuid = v := hident uuid v _ s hnew (get?_step_create hs) rfl slive
      (hprep.projectID.trans sproject.symm) hshared
    rw [hnone] at hs
    cases hs
  | _ => cases h

/-! ## Runs -/

/-- **When names identify resources.**  Take any run of the service, of requests that override no
part of a name, from any database in which every resource is named after its kind, its name and its
project and no two live ones of a project share their MRN; a new installation is one.  Then in every
state of the run no two live resources of a project share their MRN, exactly if no `Create` of the
run goes through for a kind and a name that come to the same as those of a resource that is live in
its project. -/
theorem identify_iff_distinct (env : Env) (db : Db) (qs : List Request)
    (hdb : db.Derived env.lower) (hident : db.MrnsIdentify) (hqs : ∀ q ∈ qs, q.op.Plain) :
    (∀ pre post, qs = pre ++ post → (run (step env) db pre).MrnsIdentify) ↔
      Guarded (step env) (fun db q ↦ q.collides env db = false) db qs := by
  have hone : ∀ db, ∀ q ∈ qs, db.Derived env.lower → db.MrnsIdentify →
      ((step env db q).MrnsIdentify ↔ q.collides env db = false) := by
    intro db q hq hderived hidentify
    refine ⟨fun hnext ↦ ?_, fun hfree ↦ hidentify.step hderived (hqs q hq) hfree⟩
    by_contra hcollides
    exact not_identify_of_collides hderived (hqs q hq) (by simpa using hcollides) hnext
  rw [forall_points_iff hdb (fun db q hq h ↦ h.step (hqs q hq)) hone]
  exact and_iff_right hident

/-- A resource is created, torn down, and created again under its old kind and name; and another one
whose name is the same but for its kind. -/
def recreated : List Request :=
  [⟨0, .create 7 ⟨2, none, "Container", "web", none, none⟩⟩, ⟨10, .claimForAgent 1 20 0 []⟩,
    ⟨20, .call (.delete 7)⟩, reportOn7 30 "removed" 1 10,
    ⟨40, .create 8 ⟨2, none, "Container", "web", none, none⟩⟩,
    ⟨50, .create 9 ⟨2, none, "Bucket", "web", none, none⟩⟩]

theorem identify_iff_distinct_recreated :
    Guarded (step plainEnv) (fun db q ↦ q.collides plainEnv db = false) emptyProject recreated ∧
      ∀ pre post, recreated = pre ++ post →
        (run (step plainEnv) emptyProject pre).MrnsIdentify := by
  have hfree : Guarded (step plainEnv) (fun db q ↦ q.collides plainEnv db = false) emptyProject
      recreated := by decide
  refine ⟨hfree, (identify_iff_distinct plainEnv emptyProject recreated ?_ ?_ (by decide)).mpr
    hfree⟩
  · exact fun u r hr ↦ absurd hr (by simp [emptyProject, Table.empty, Table.get?])
  · exact fun u v r r' hr ↦ absurd hr (by simp [emptyProject, Table.empty, Table.get?])

/-- Two resources whose kinds differ in the case of a letter. -/
def twins : List Request :=
  [⟨0, .create 7 ⟨2, none, "Container", "web", none, none⟩⟩,
    ⟨10, .create 8 ⟨2, none, "container", "web", none, none⟩⟩]

/-- The index lets both of them in, and they have one name. -/
theorem twins_share_mrn :
    (∀ q ∈ twins, q.op.Plain) ∧ ¬ (run (step plainEnv) emptyProject twins).MrnsIdentify := by
  have hcolumns : [7, 8].map (fun u ↦
      ((run (step plainEnv) emptyProject twins).resources.get? u).map
        fun r ↦ (r.live, r.projectID, r.mrn)) =
        [some (true, 1, ⟨"core", "acme", "shop", "container", "web"⟩),
          some (true, 1, ⟨"core", "acme", "shop", "container", "web"⟩)] := by decide
  obtain ⟨h7, h8⟩ := List.cons.inj hcolumns
  obtain ⟨r, hr, hcols⟩ := Option.map_eq_some_iff.mp h7
  obtain ⟨r', hr', hcols'⟩ := Option.map_eq_some_iff.mp (List.cons.inj h8).1
  simp only [Prod.mk.injEq] at hcols hcols'
  refine ⟨by decide, fun h ↦ absurd (h 7 8 r r' hr hr' hcols.1 hcols'.1 ?_ ?_) (by decide)⟩
  · rw [hcols.2.1, hcols'.2.1]
  · rw [hcols.2.2, hcols'.2.2]

end Maintainerd

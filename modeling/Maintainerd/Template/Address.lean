import Maintainerd.Template.Vault

/-!
# The addresses of credentials

A credential lies in the vault at an address made of the name of its template and the name of its
parameter, in the project and the environment that core is configured with.  Nothing else tells two
credentials apart: what is stored at the address of another one replaces it, and a workload that
carries the reference of the other one is given the new value.

`Store` trims both names, and `Create` of a template only asks that its name is not blank and keeps
it as it is given.  So `api` and `api` with a blank after it are two templates with one address
(`blank_collides`).  `store_distinct_iff` says that this is the only way to collide: the references
and the addresses of two credentials differ exactly if the names differ once they are trimmed.  The
names cannot leave the place they are given, because a name with a slash or two dots in it is
refused.
-/

set_option autoImplicit false

namespace Maintainerd

namespace DeployTemplate

/-! ## Creating a template -/

/-- `CreateInput`. -/
structure CreateInput where
  name : String
  version : String
  capability : String
  image : String
  parameters : List Parameter
  spec : List (String × Value)
  metadata : List (String × Value)

/-- `CreateDeploymentTemplateParams`. -/
structure CreateDeploymentTemplateParams where
  name : String
  version : String
  capability : String
  image : String
  parameters : String
  spec : String
  metadata : String
deriving DecidableEq, Repr

/-- A `Parameter` as `encoding/json` sees it. -/
def Parameter.fields (p : Parameter) : Value :=
  .map ([("name", .string p.name), ("type", .string p.type)] ++
    (if p.required then [("required", .bool true)] else []) ++
    (match p.default with
      | .nil => []
      | default => [("default", default)]) ++
    (if p.generate then [("generate", .bool true)] else []))

/-- `marshalMap`. -/
def marshalMap (k : Packages) (fields : List (String × Value)) : Except String String :=
  if fields.isEmpty then .ok "\x7b\x7d" else k.marshal (.map fields)

/-- `Create`, up to its statement. -/
def create (k : Packages) (input : CreateInput) :
    Except RenderError CreateDeploymentTemplateParams :=
  if Text.trimSpace input.name = "" ∨ Text.trimSpace input.image = "" then
    .error (.validation "name and image are required")
  else
    match k.marshal (.slice (input.parameters.map Parameter.fields)) with
    | .error _ => .error (.validation "invalid parameters")
    | .ok parameters =>
      match marshalMap k input.spec with
      | .error _ => .error (.validation "invalid spec")
      | .ok spec =>
        match marshalMap k input.metadata with
        | .error _ => .error (.validation "invalid metadata")
        | .ok metadata =>
          .ok ⟨input.name, if input.version = "" then "v1" else input.version, input.capability,
            input.image, parameters, spec, metadata⟩

/-! ## What a name comes to -/

theorem sanitizeSegment_eq {s : String} (h : sanitizeSegment s ≠ "") :
    sanitizeSegment s = Text.trimSpace s := by
  rw [sanitizeSegment] at h ⊢
  split_ifs at h ⊢ with hrefused
  · exact absurd rfl h
  · rfl

/-- A name that is not refused is one segment. -/
theorem sanitizeSegment_segment {s : String} (h : sanitizeSegment s ≠ "") :
    Text.containsAny (sanitizeSegment s) "/\\" = false ∧
      Text.contains (sanitizeSegment s) ".." = false := by
  rw [sanitizeSegment] at h ⊢
  split_ifs at h ⊢ with hrefused
  · exact absurd rfl h
  · simp only [Bool.or_eq_true, decide_eq_true_eq, not_or, Bool.not_eq_true] at hrefused
    exact ⟨hrefused.1.2, hrefused.2⟩

/-- An address in the project and the environment of the credentials, directly under one folder. -/
structure Credentials.Holds (c : Credentials) (a : Address) : Prop where
  project : a.project = c.project
  environment : a.environment = c.environment
  named : a.project ≠ "" ∧ a.environment ≠ "" ∧ a.folderPath ≠ "" ∧ a.key ≠ ""
  folder : Text.containsAny a.folderPath "/\\" = false ∧ Text.contains a.folderPath ".." = false
  leaf : Text.containsAny a.key "/\\" = false ∧ Text.contains a.key ".." = false

theorem holds_mk {c : Credentials} {folderPath key : String} (hproject : c.project ≠ "")
    (henvironment : c.environment ≠ "") (hfolder : folderPath ≠ "") (hkey : key ≠ "")
    (hsegment : Text.containsAny folderPath "/\\" = false ∧ Text.contains folderPath ".." = false)
    (hleaf : Text.containsAny key "/\\" = false ∧ Text.contains key ".." = false) :
    c.Holds ⟨c.project, c.environment, folderPath, key⟩ :=
  ⟨rfl, rfl, ⟨hproject, henvironment, hfolder, hkey⟩, hsegment, hleaf⟩

/-- The names that an address is made of. -/
def StoreCall.names (call : StoreCall) : String × String :=
  (Text.trimSpace call.template, Text.trimSpace call.param)

section

variable {c : Credentials} {quote : String → String} {reply : Reply} {call : StoreCall}
variable {ref : String}

theorem address_folderPath : (c.address call).folderPath = sanitizeSegment call.template := by
  rw [Credentials.address]

theorem address_key : (c.address call).key = sanitizeSegment call.param := by
  rw [Credentials.address]

theorem complete_of_putCredential {client : Option Client} {a : Address}
    (h : (putCredential client reply a).2 = .ok ()) : a.project ≠ "" ∧ a.environment ≠ "" := by
  rcases client with _ | client
  · cases h
  dsimp only [putCredential] at h
  split_ifs at h with hincomplete
  rw [not_or, not_or] at hincomplete
  exact ⟨hincomplete.1, hincomplete.2.1⟩

/-- What is stored has an address in its place. -/
theorem holds_of_store (h : (c.store quote reply call).2 = .ok ref) :
    c.Holds (c.address call) := by
  dsimp only [Credentials.store] at h
  split_ifs at h with hnames
  rw [not_or, address_folderPath, address_key] at hnames
  obtain ⟨hfolder, hkey⟩ := hnames
  dsimp only at h
  rcases hput : (putCredential c.client reply (c.address call)).2 with e | ⟨⟩ <;> rw [hput] at h
  · cases h
  · obtain ⟨hproject, henvironment⟩ := complete_of_putCredential hput
    rw [Credentials.address]
    exact holds_mk hproject henvironment hfolder hkey (sanitizeSegment_segment hfolder)
      (sanitizeSegment_segment hkey)

/-- The address of what is stored, by the names. -/
theorem address_of_store (h : (c.store quote reply call).2 = .ok ref) :
    c.address call = ⟨c.project, c.environment, call.names.1, call.names.2⟩ := by
  have hnamed := (holds_of_store h).named.2.2
  rw [address_folderPath, address_key] at hnamed
  obtain ⟨hfolder, hkey⟩ := hnamed
  rw [Credentials.address, sanitizeSegment_eq hfolder, sanitizeSegment_eq hkey]
  rfl

end

/-! ## References -/

/-- The reference to an address in its place. -/
theorem Credentials.Holds.ref_eq {c : Credentials} {a : Address} (h : c.Holds a) :
    a.ref.toList = ("secret://" ++ c.project ++ "/" ++ c.environment ++ "/").toList ++
      (a.folderPath.toList ++ '/' :: a.key.toList) := by
  have hfolder : Text.trim a.folderPath "/" = a.folderPath :=
    Text.trim_of_notMem (by
      intro x hx hfolder
      obtain rfl : x = '/' := by simpa using hx
      exact Text.notMem_of_containsAny h.folder.1 (by decide) hfolder)
  delta Address.ref
  simp [hfolder, h.named.2.2.1, h.project, h.environment, List.append_assoc]

/-- Two addresses in one place with one reference are the same. -/
theorem Credentials.Holds.eq_of_ref_eq {c : Credentials} {a a' : Address} (h : c.Holds a)
    (h' : c.Holds a') (href : a.ref = a'.ref) : a = a' := by
  have hslash : ∀ {b : Address}, c.Holds b → '/' ∉ b.folderPath.toList := fun hb ↦
    Text.notMem_of_containsAny hb.folder.1 (by decide)
  have hlist := congrArg String.toList href
  rw [h.ref_eq, h'.ref_eq, List.append_cancel_left_eq] at hlist
  have hcut := congrArg (Text.cut '/') hlist
  rw [Text.cut_append (hslash h), Text.cut_append (hslash h'), Option.some.injEq,
    Prod.mk.injEq] at hcut
  obtain ⟨project, environment, folderPath, key⟩ := a
  obtain ⟨project', environment', folderPath', key'⟩ := a'
  obtain rfl : folderPath = folderPath' := String.toList_injective hcut.1
  obtain rfl : key = key' := String.toList_injective hcut.2
  obtain rfl : project = project' := h.project.trans h'.project.symm
  obtain rfl : environment = environment' := h.environment.trans h'.environment.symm
  rfl

/-! ## Collisions -/

/-- **When two credentials collide.**  For any two calls of `Store` that succeed, the references
they return and the addresses they write differ exactly if the names of the templates or those of
the parameters differ after trimming.  The address of each is in the project and the environment of
the credentials, directly under one folder, and the vault has taken the value. -/
theorem store_distinct_iff (c : Credentials) (quote : String → String) {reply reply' : Reply}
    {call call' : StoreCall} {ref ref' : String} (h : (c.store quote reply call).2 = .ok ref)
    (h' : (c.store quote reply' call').2 = .ok ref') :
    ((ref ≠ ref' ∧ c.address call ≠ c.address call') ↔ call.names ≠ call'.names) ∧
      (c.Holds (c.address call) ∧ (c.store quote reply call).1 = true) ∧
      c.Holds (c.address call') ∧ (c.store quote reply' call').1 = true := by
  have hholds := holds_of_store h
  have hholds' := holds_of_store h'
  have haddress : c.address call = c.address call' ↔ call.names = call'.names := by
    rw [address_of_store h, address_of_store h', Address.mk.injEq, Prod.ext_iff]
    exact ⟨fun heq ↦ heq.2.2, fun heq ↦ ⟨rfl, rfl, heq⟩⟩
  refine ⟨?_, ⟨hholds, kept_of_store c quote h⟩, hholds', kept_of_store c quote h'⟩
  rw [← haddress.ne, ref_of_store c quote h, ref_of_store c quote h']
  exact ⟨fun hdiffer ↦ hdiffer.2,
    fun hdiffer ↦ ⟨fun href ↦ hdiffer (hholds.eq_of_ref_eq hholds' href), hdiffer⟩⟩

/-- Two parameters of one template. -/
theorem store_distinct_iff_params :
    let user : StoreCall := ⟨"api", "db_user", []⟩
    let password : StoreCall := ⟨"api", "db_password", []⟩
    (coreCredentials.store id (.status 201 true) user).2.toOption ≠
      (coreCredentials.store id (.status 201 true) password).2.toOption := by
  intro user password
  have huser : (coreCredentials.store id (.status 201 true) user).2 =
      .ok "secret://core/prod/api/db_user" := by decide
  have hpassword : (coreCredentials.store id (.status 201 true) password).2 =
      .ok "secret://core/prod/api/db_password" := by decide
  have hdiffer := (store_distinct_iff coreCredentials id huser hpassword).1.mpr (by decide)
  rw [huser, hpassword]
  exact fun h ↦ hdiffer.1 (Option.some.inj h)

/-- A template with no parameters but the one. -/
def templateNamed (name : String) : CreateInput :=
  ⟨name, "", "", "api:1", [⟨"db_password", "secret", true, .nil, false⟩], [], []⟩

/-- Two templates whose names differ by a blank are both created, and the password of the one is
stored over that of the other. -/
theorem blank_collides :
    let here : StoreCall := ⟨"api", "db_password", [1]⟩
    let there : StoreCall := ⟨"api ", "db_password", [2]⟩
    ((create plainPackages (templateNamed here.template)).toOption.map
        CreateDeploymentTemplateParams.name = some "api" ∧
      (create plainPackages (templateNamed there.template)).toOption.map
        CreateDeploymentTemplateParams.name = some "api ") ∧
      (coreCredentials.store id (.status 201 true) here).2.toOption =
        some "secret://core/prod/api/db_password" ∧
      (coreCredentials.store id (.status 201 true) there).2.toOption =
        some "secret://core/prod/api/db_password" ∧
      coreCredentials.vaultAfter id created [here, there] (fun _ ↦ none) passwordAddress =
        some [2] := by
  decide

end DeployTemplate

end Maintainerd

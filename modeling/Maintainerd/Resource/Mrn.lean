import Maintainerd.Lib.Json
import Maintainerd.Lib.Text

/-!
# The name of a resource

`buildMRN` and the checks under it, and `renderMRN`, from `internal/resource/service.go`.  A name
has five parts, each its own column; the metadata of a resource may override three of them.

The parts are shown as one text.  `parseMRN` is not in the sources: it reads a text from the left,
at the first colon each time and then at the first slash.  No part before the path may hold either
of the two, so it finds the parts of every name that was accepted, although the path may hold
slashes of its own.
-/

set_option autoImplicit false

namespace Maintainerd

/-- `mrnParts`. -/
structure MrnParts where
  service : String
  tenant : String
  project : String
  resourceType : String
  resourcePath : String
deriving DecidableEq, Repr

/-- `firstMetaString`: the first of the keys that holds a string decides, even with a blank one. -/
def firstMetaString (metadata : JsonMap) : List String → String
  | [] => ""
  | key :: keys =>
    match JsonMap.string? metadata key with
    | some v => Text.trimSpace v
    | none => firstMetaString metadata keys

/-- `validateMRNSegment`: the error, if there is one. -/
def validateMRNSegment (name value : String) : Option String :=
  if Text.trimSpace value = "" then some ("mrn_" ++ name ++ " is required")
  else if Text.containsAny value ":/*" || Text.contains value ".." then
    some ("mrn_" ++ name ++ " contains invalid characters")
  else none

/-- `validateMRNPath`: the error, if there is one. -/
def validateMRNPath (path : String) : Option String :=
  if Text.trimSpace path = "" then some "mrn_resource_path is required"
  else if Text.startsWith path "/" || Text.endsWith path "/" || Text.contains path ":" ||
      Text.contains path "*" || Text.contains path ".." then
    some "mrn_resource_path contains invalid characters"
  else none

/-- `buildMRN`. -/
def buildMRN (lower : Char → Char) (tenantName projectName kind name : String)
    (metadata : JsonMap) : Except String MrnParts :=
  let service := firstMetaString metadata ["mrn_service", "service"]
  let resourceType := firstMetaString metadata ["mrn_resource_type", "resource_type"]
  let resourcePath := firstMetaString metadata ["mrn_resource_path", "resource_path"]
  let parts : MrnParts :=
    { service := if service = "" then "core" else service
      tenant := tenantName
      project := projectName
      resourceType :=
        if resourceType = "" then Text.toLower lower (Text.trimSpace kind) else resourceType
      resourcePath := if resourcePath = "" then Text.trimSpace name else resourcePath }
  match (validateMRNSegment "service" parts.service).or <|
      (validateMRNSegment "tenant" parts.tenant).or <|
      (validateMRNSegment "project" parts.project).or <|
      (validateMRNSegment "resource_type" parts.resourceType).or <|
      validateMRNPath parts.resourcePath with
  | some e => .error e
  | none => .ok parts

/-- `renderMRN`. -/
def renderMRN (service tenant project resourceType resourcePath : String) : String :=
  if service = "" ∧ tenant = "" ∧ project = "" ∧ resourceType = "" ∧ resourcePath = "" then ""
  else
    "mrn:" ++ service ++ ":" ++ tenant ++ ":" ++ project ++ ":" ++ resourceType ++ "/" ++
      resourcePath

/-- The name as it is shown. -/
def MrnParts.render (p : MrnParts) : String :=
  renderMRN p.service p.tenant p.project p.resourceType p.resourcePath

/-! ## What is accepted -/

/-- The parts have passed the checks. -/
structure MrnParts.Valid (p : MrnParts) : Prop where
  service : validateMRNSegment "service" p.service = none
  tenant : validateMRNSegment "tenant" p.tenant = none
  project : validateMRNSegment "project" p.project = none
  resourceType : validateMRNSegment "resource_type" p.resourceType = none
  resourcePath : validateMRNPath p.resourcePath = none

theorem valid_of_buildMRN {lower : Char → Char} {tenantName projectName kind name : String}
    {metadata : JsonMap} {p : MrnParts}
    (h : buildMRN lower tenantName projectName kind name metadata = .ok p) : p.Valid := by
  simp only [buildMRN] at h
  split at h
  · cases h
  · rename_i hnone
    cases h
    simp only [Option.or_eq_none_iff] at hnone
    obtain ⟨hservice, htenant, hproject, htype, hpath⟩ := hnone
    exact ⟨hservice, htenant, hproject, htype, hpath⟩

/-- A segment holds neither a colon nor a slash. -/
theorem notMem_of_validateMRNSegment {name value : String}
    (h : validateMRNSegment name value = none) : ':' ∉ value.toList ∧ '/' ∉ value.toList := by
  rw [validateMRNSegment] at h
  split_ifs at h with hblank hbad
  obtain ⟨hany, -⟩ := Bool.or_eq_false_iff.mp (Bool.eq_false_iff.mpr hbad)
  exact ⟨Text.notMem_of_containsAny hany (by decide), Text.notMem_of_containsAny hany (by decide)⟩

theorem ne_empty_of_validateMRNSegment {name value : String}
    (h : validateMRNSegment name value = none) : value ≠ "" := by
  rintro rfl
  rw [validateMRNSegment, if_pos (by decide)] at h
  cases h

/-! ## Reading a name back -/

/-- The parts of a name that is shown as `s`. -/
def parseMRN (s : String) : Option MrnParts :=
  (Text.cut ':' s.toList).bind fun (scheme, rest) ↦
  (Text.cut ':' rest).bind fun (service, rest) ↦
  (Text.cut ':' rest).bind fun (tenant, rest) ↦
  (Text.cut ':' rest).bind fun (project, rest) ↦
  (Text.cut '/' rest).bind fun (resourceType, resourcePath) ↦
  if scheme = "mrn".toList then
    some ⟨.ofList service, .ofList tenant, .ofList project, .ofList resourceType,
      .ofList resourcePath⟩
  else none

/-- The characters of a name that is shown. -/
theorem MrnParts.Valid.toList_render {p : MrnParts} (h : p.Valid) :
    p.render.toList = "mrn".toList ++ ':' :: (p.service.toList ++ ':' :: (p.tenant.toList ++ ':' ::
      (p.project.toList ++ ':' :: (p.resourceType.toList ++ '/' :: p.resourcePath.toList)))) := by
  have hservice : p.service ≠ "" := ne_empty_of_validateMRNSegment h.service
  rw [MrnParts.render, renderMRN, if_neg fun hempty ↦ hservice hempty.1]
  simp

theorem MrnParts.Valid.parse_render {p : MrnParts} (h : p.Valid) :
    parseMRN p.render = some p := by
  obtain ⟨hservice, -⟩ := notMem_of_validateMRNSegment h.service
  obtain ⟨htenant, -⟩ := notMem_of_validateMRNSegment h.tenant
  obtain ⟨hproject, -⟩ := notMem_of_validateMRNSegment h.project
  obtain ⟨-, htype⟩ := notMem_of_validateMRNSegment h.resourceType
  have hscheme : ':' ∉ "mrn".toList := by decide
  simp only [parseMRN, h.toList_render, Text.cut_append hscheme, Text.cut_append hservice,
    Text.cut_append htenant, Text.cut_append hproject, Text.cut_append htype, Option.bind_some,
    if_true, String.ofList_toList]

/-- **A name can be read back.**  For all parts that `buildMRN` accepts, of any tenant, project,
kind, name and metadata, `parseMRN` finds the five parts in the text they are shown as; and so two
such names that are shown alike have the same parts. -/
theorem parseMRN_renderMRN {lower : Char → Char} {tenantName projectName kind name : String}
    {metadata : JsonMap} {p : MrnParts}
    (h : buildMRN lower tenantName projectName kind name metadata = .ok p) :
    parseMRN p.render = some p ∧
      ∀ (tenantName' projectName' kind' name' : String) (metadata' : JsonMap) (q : MrnParts),
        buildMRN lower tenantName' projectName' kind' name' metadata' = .ok q →
        p.render = q.render → p = q := by
  have hp := (valid_of_buildMRN h).parse_render
  refine ⟨hp, fun _ _ _ _ _ q hq heq ↦ ?_⟩
  have hq := (valid_of_buildMRN hq).parse_render
  rw [← heq, hp] at hq
  exact Option.some.inj hq

theorem parseMRN_renderMRN_slashes :
    (⟨"store", "acme", "shop", "bucket", "img/2024/web"⟩ : MrnParts).render =
        "mrn:store:acme:shop:bucket/img/2024/web" ∧
      parseMRN "mrn:store:acme:shop:bucket/img/2024/web" =
        some ⟨"store", "acme", "shop", "bucket", "img/2024/web"⟩ := by
  have hbuild : buildMRN Char.toLower "acme" "shop" " Bucket " "img/2024/web"
      [("service", .str "store")] = .ok ⟨"store", "acme", "shop", "bucket", "img/2024/web"⟩ := rfl
  exact ⟨rfl, (parseMRN_renderMRN hbuild).1⟩

end Maintainerd

import Maintainerd.Lib.Text
import Maintainerd.Lib.Url
import Mathlib.Data.List.Sort

/-!
# The guard of the HTTP API

`internal/platform/authz/authz.go`: the middleware that stands in front of everything under
`/api/v1`.  It goes by the first segment of the *decoded* path.  Two segments are served with no
token at all, `exemptSegments`; any other takes a verified token that carries the permission the
segment and the method ask for, `routePermissions`, and a segment that is not listed is refused.

What a token may carry was registered in Auth by setup, from the same table
(`declaredPermissions`).  That the two ends agree is shown where the other surface that asks for
permissions is modelled, in `Gateway/Wire.lean`.
-/

set_option autoImplicit false

namespace Maintainerd.Http

/-! ## Claims and modes -/

/-- `Claims`. -/
structure Claims where
  subject : String
  scopes : List String
  permissions : List String
deriving DecidableEq, Repr

/-- `HasPermission`. -/
def Claims.hasPermission (c : Claims) (perm : String) : Bool :=
  c.scopes.contains perm || c.permissions.contains perm

/-- `Mode`. -/
inductive Mode where
  | enforced
  | devOpen
  | unavailable
deriving DecidableEq, Repr

/-- `Mode.Name`. -/
def Mode.name : Mode → String
  | .enforced => "enforced"
  | .devOpen => "dev-open"
  | .unavailable => "unavailable"

/-- `Guard`.  `verify` is `none` where the verifier fails. -/
structure Guard where
  mode : Mode
  verify : String → Option Claims
  reason : String

/-! ## The tables -/

/-- `perms`. -/
structure Perms where
  read : String
  write : String

/-- `routePermissions`. -/
def routePermissions : List (String × Perms) :=
  [("tenants", ⟨"core:tenant:read", "core:tenant:write"⟩),
    ("projects", ⟨"core:project:read", "core:project:write"⟩),
    ("services", ⟨"core:service:read", "core:service:write"⟩),
    ("providers", ⟨"core:provider:read", "core:provider:write"⟩),
    ("agents", ⟨"core:agent:read", "core:agent:write"⟩),
    ("resources", ⟨"core:resource:read", "core:resource:write"⟩),
    ("events", ⟨"core:event:read", "core:event:write"⟩),
    ("steward", ⟨"core:admin", "core:admin"⟩)]

/-- `GatewayPermission`. -/
def gatewayPermission : String := "core:agent:gateway"

/-- The methods a segment is exempt for; `none` is every method.  `exemptSegments`. -/
def exemptSegments : List (String × Option (List String)) :=
  [("setup", none), ("capabilities", some ["GET", "HEAD"])]

/-- `exempt`. -/
def exempt (segment method : String) : Bool :=
  match exemptSegments.lookup segment with
  | none => false
  | some none => true
  | some (some methods) => methods.contains method

/-- The permission that is asked for, if the segment has any: `Read` for `GET` and `HEAD`, and
`Write` for every other method. -/
def demanded (segment method : String) : Option String :=
  (routePermissions.lookup segment).map fun p ↦
    if method = "GET" ∨ method = "HEAD" then p.read else p.write

/-! ## The middleware -/

/-- What the guard and the router read of a request.  The path is decoded; `rawPath` is the path as
it was sent, and is empty where the default encoding of the decoded one is what was sent. -/
structure Request where
  method : String
  path : List Char
  rawPath : List Char
  /-- The `Authorization` header, empty if there is none. -/
  authorization : String
  decoded : rawPath = [] ∨ Url.unescape rawPath = some path

/-- `apiSegment`. -/
def apiSegment (path : List Char) : String :=
  let base := "/api/v1/".toList
  if base.isPrefixOf path then String.ofList ((path.drop base.length).takeWhile (· ≠ '/')) else ""

/-- `bearer`, and `bearerFromMD` on the first value of the metadata.  The seven bytes that are
compared without case are ASCII if they compare equal. -/
def bearer (header : String) : String :=
  if 7 < header.toList.length ∧ (header.toList.take 7).map Char.toLower = "bearer ".toList then
    Text.trimSpace (String.ofList (header.toList.drop 7))
  else ""

/-- The first segment of a path under `/api/v1`. -/
theorem apiSegment_append {segment rest : List Char} (hsegment : '/' ∉ segment)
    (hrest : rest = [] ∨ ∃ tail, rest = '/' :: tail) :
    apiSegment ("/api/v1/".toList ++ (segment ++ rest)) = String.ofList segment := by
  have hend : rest.takeWhile (· ≠ '/') = [] := by
    rcases hrest with rfl | ⟨tail, rfl⟩
    · rfl
    · rw [List.takeWhile_cons_of_neg (by simp)]
  have hall : ∀ c ∈ segment, decide (c ≠ '/') = true := fun c hc ↦
    decide_eq_true fun e ↦ hsegment (e ▸ hc)
  simp only [apiSegment]
  rw [if_pos (List.isPrefixOf_iff_prefix.mpr (List.prefix_append _ _)), List.drop_left,
    List.takeWhile_append_of_pos hall, hend, List.append_nil]

/-- What the middleware does with a request. -/
inductive Verdict where
  /-- The request is passed on, with the claims in its context. -/
  | pass (claims : Option Claims)
  | refuse (status : ℕ) (message : String)

/-- `Guard.Middleware`. -/
def Guard.middleware (g : Guard) (r : Request) : Verdict :=
  let segment := apiSegment r.path
  if exempt segment r.method then .pass none
  else
    match g.mode with
    | .devOpen => .pass none
    | .unavailable => .refuse 503 ("API authentication is not configured (" ++ g.reason ++
        "); the API is disabled outside development")
    | .enforced =>
      if bearer r.authorization = "" then .refuse 401 "missing bearer token"
      else
        match g.verify (bearer r.authorization) with
        | none => .refuse 401 "invalid token"
        | some claims =>
          match demanded segment r.method with
          | none => .refuse 403 "route has no permission mapping"
          | some required =>
            if claims.hasPermission required then .pass (some claims)
            else .refuse 403 ("requires permission " ++ required)

/-- The caller has shown a token that the verifier accepts and that carries the permission. -/
def Guard.Vouches (g : Guard) (r : Request) (perm : String) : Prop :=
  bearer r.authorization ≠ "" ∧
    ∃ c, g.verify (bearer r.authorization) = some c ∧ c.hasPermission perm = true

/-- **What passes the guard.** -/
theorem middleware_pass_iff (g : Guard) (r : Request) :
    (∃ c, g.middleware r = .pass c) ↔
      exempt (apiSegment r.path) r.method = true ∨ g.mode = .devOpen ∨
        g.mode = .enforced ∧
          ∃ perm, demanded (apiSegment r.path) r.method = some perm ∧ g.Vouches r perm := by
  simp only [Guard.middleware, Guard.Vouches]
  rcases hexempt : exempt (apiSegment r.path) r.method with _ | _
  · rcases hmode : g.mode with _ | _ | _
    · by_cases htoken : bearer r.authorization = ""
      · simp [htoken]
      rcases hverify : g.verify (bearer r.authorization) with _ | c
      · simp [htoken]
      rcases hdemanded : demanded (apiSegment r.path) r.method with _ | perm
      · simp [htoken]
      rcases hperm : c.hasPermission perm with _ | _
      · simp [htoken, hperm]
      · simp [htoken, hperm]
    · simp
    · simp
  · simp

/-! ## What setup registers -/

/-- One more permission, unless it is empty or there already. -/
def addPermission (out : List String) (p : String) : List String :=
  if p = "" ∨ p ∈ out then out else out ++ [p]

/-- `DeclaredPermissions`: the pairs of the segments in their order, and the gateway's. -/
def declaredPermissions : List String :=
  let segments := (routePermissions.map Prod.fst).insertionSort (· ≤ ·)
  let pairs := segments.flatMap fun segment ↦
    (routePermissions.lookup segment).toList.flatMap fun p ↦ [p.read, p.write]
  (pairs ++ [gatewayPermission]).foldl addPermission []

/-- `core:admin`, which the gate of setup asks for as well. -/
def adminPermission : String := "core:admin"

/-- The permissions `RunWith` registers with `EnsureResourceAPI`, and the ones it puts into the role
`core-admin` with `EnsureRole`: the administrator's first, and then the others. -/
def corePermissions : List String :=
  adminPermission :: declaredPermissions.filter (· ≠ adminPermission)

theorem mem_foldl_addPermission {out ps : List String} {p : String} :
    p ∈ ps.foldl addPermission out ↔ p ∈ out ∨ p ∈ ps ∧ p ≠ "" := by
  induction ps generalizing out with
  | nil => simp
  | cons q ps ih =>
    have hadd : p ∈ addPermission out q ↔ p ∈ out ∨ p = q ∧ p ≠ "" := by
      rw [addPermission]
      split
      · rename_i hq
        refine ⟨Or.inl, ?_⟩
        rintro (h | ⟨rfl, hne⟩)
        · exact h
        · exact hq.resolve_left hne
      · rename_i hq
        have hne : q ≠ "" := fun e ↦ hq (Or.inl e)
        rw [List.mem_append, List.mem_singleton]
        exact ⟨fun h ↦ h.imp_right fun e ↦ ⟨e, e ▸ hne⟩, fun h ↦ h.imp_right And.left⟩
    rw [List.foldl_cons, ih, hadd, List.mem_cons]
    tauto

theorem mem_declaredPermissions {p : String} :
    p ∈ declaredPermissions ↔
      (p = gatewayPermission ∨ ∃ segment perms, routePermissions.lookup segment = some perms ∧
        (p = perms.read ∨ p = perms.write)) ∧ p ≠ "" := by
  rw [declaredPermissions, mem_foldl_addPermission]
  simp only [List.not_mem_nil, false_or, List.mem_append, List.mem_flatMap,
    List.mem_insertionSort, Option.mem_toList, List.mem_cons, or_false]
  refine and_congr_left fun _ ↦ ?_
  rw [or_comm]
  refine or_congr_right ⟨?_, ?_⟩
  · rintro ⟨segment, -, perms, hperms, hp⟩
    exact ⟨segment, perms, hperms, hp⟩
  · rintro ⟨segment, perms, hperms, hp⟩
    refine ⟨segment, ?_, perms, hperms, hp⟩
    obtain ⟨l, l', hl, -⟩ := List.lookup_eq_some_iff.mp hperms
    rw [hl]
    simp

end Maintainerd.Http

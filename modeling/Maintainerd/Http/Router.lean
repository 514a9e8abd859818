import Maintainerd.Http.Guard

/-!
# The routes of the HTTP API

`Router` of `internal/server/server.go` and the `Routes` of the handlers it mounts under `/api/v1`,
behind the guard.  How a path is matched with what was registered is the business of the router's
library, and a parameter here: a `Routing` is any way to find a handler for a request that finds
nothing but what is registered, under the method it is registered with, and at a path in which the
segment of the handler stands.  That path may be the decoded one or the path *as it was sent*, while
the guard reads the decoded one, so it is not immediate that the two have the same segment in mind.
But a segment has no escape in it, and so it is the one the guard reads (`apiSegment_of_handler`).

`reached_iff` puts the two together: a handler is reached exactly by the requests for it whose
caller may do what the *handler* does, to read or to write.
-/

set_option autoImplicit false

namespace Maintainerd.Http

/-! ## The route tables -/

/-- What a handler does. -/
inductive Action where
  | list | getSystem | listSystem | get | status | probe
  | create | update | updateSpec | updateStatus | remove | heartbeat | apply | trigger
deriving DecidableEq, Repr

/-- The handler changes something. -/
def Action.mutates : Action → Bool
  | .list | .getSystem | .listSystem | .get | .status | .probe => false
  | .create | .update | .updateSpec | .updateStatus | .remove | .heartbeat | .apply | .trigger =>
    true

/-- A handler, by the segment it is mounted under. -/
structure Handler where
  segment : String
  action : Action
deriving DecidableEq, Repr

/-- One route of a segment: the method, and what is done. -/
structure Route where
  method : String
  action : Action
deriving DecidableEq, Repr

/-- What `Router` registers under `/api/v1`: the probe, by `mountCapabilities`, and the `Routes` it
mounts. -/
def mounts : List (String × List Route) :=
  [("capabilities", [⟨"GET", .probe⟩]),
    ("tenants", [⟨"GET", .list⟩, ⟨"GET", .getSystem⟩, ⟨"POST", .create⟩, ⟨"GET", .get⟩,
      ⟨"PATCH", .update⟩, ⟨"DELETE", .remove⟩]),
    ("projects", [⟨"GET", .list⟩, ⟨"POST", .create⟩, ⟨"GET", .get⟩, ⟨"PATCH", .update⟩,
      ⟨"DELETE", .remove⟩]),
    ("services", [⟨"GET", .list⟩, ⟨"GET", .listSystem⟩, ⟨"POST", .create⟩, ⟨"GET", .get⟩,
      ⟨"PATCH", .updateStatus⟩, ⟨"DELETE", .remove⟩]),
    ("providers", [⟨"GET", .list⟩, ⟨"POST", .create⟩, ⟨"GET", .get⟩, ⟨"PATCH", .update⟩,
      ⟨"DELETE", .remove⟩]),
    ("agents", [⟨"GET", .list⟩, ⟨"POST", .create⟩, ⟨"GET", .get⟩, ⟨"PATCH", .update⟩,
      ⟨"POST", .heartbeat⟩, ⟨"DELETE", .remove⟩]),
    ("resources", [⟨"GET", .list⟩, ⟨"POST", .create⟩, ⟨"GET", .get⟩, ⟨"PATCH", .updateSpec⟩,
      ⟨"PATCH", .updateStatus⟩, ⟨"DELETE", .remove⟩]),
    ("events", [⟨"GET", .list⟩]),
    ("setup", [⟨"GET", .status⟩, ⟨"POST", .trigger⟩]),
    ("steward", [⟨"POST", .apply⟩, ⟨"GET", .status⟩])]

/-- The segment stands in the path right after `/api/v1`, and ends there. -/
def StandsIn (segment : String) (path : List Char) : Prop :=
  ∃ rest, path = "/api/v1/".toList ++ (segment.toList ++ rest) ∧
    (rest = [] ∨ ∃ tail, rest = '/' :: tail)

/-- How the router finds what a request is for. -/
structure Routing where
  /-- The request is for something under `/api/v1`, and so it meets the guard. -/
  under : Request → Bool
  /-- The handler under `/api/v1` that a request is for. -/
  handler : Request → Option Handler
  /-- A handler under `/api/v1` is found behind the guard. -/
  under_of_handler : ∀ {r h}, handler r = some h → under r = true
  /-- A handler is found only if it was registered, and for the method it was registered for. -/
  registered : ∀ {r h}, handler r = some h →
    ∃ m ∈ mounts, h.segment = m.1 ∧ (⟨r.method, h.action⟩ : Route) ∈ m.2
  /-- Its segment stands in the path, decoded or as it was sent. -/
  placed : ∀ {r h}, handler r = some h → StandsIn h.segment r.path ∨ StandsIn h.segment r.rawPath

/-- The handler that a request gets to, with the claims in its context. -/
def reached (routing : Routing) (g : Guard) (r : Request) : Option (Handler × Option Claims) :=
  if routing.under r = false then none
  else
    match g.middleware r with
    | .refuse _ _ => none
    | .pass claims => (routing.handler r).map fun h ↦ (h, claims)

/-! ## The two paths agree -/

/-- The handlers that take no token: those of setup, which has a gate of its own, and the probe. -/
def Handler.open (h : Handler) : Bool := h.segment == "setup" || h.segment == "capabilities"

/-- What a handler does takes this permission. -/
def Handler.permission (h : Handler) : Option String :=
  (routePermissions.lookup h.segment).map fun p ↦ if h.action.mutates then p.write else p.read

/-- What is registered: every segment is plain text, and what the guard makes of the segment and the
method is right for what the handler does. -/
theorem mounts_sound : ∀ m ∈ mounts, '/' ∉ m.1.toList ∧ '%' ∉ m.1.toList ∧
    ∀ route ∈ m.2, exempt m.1 route.method = (⟨m.1, route.action⟩ : Handler).open ∧
      ((⟨m.1, route.action⟩ : Handler).open = false →
        demanded m.1 route.method = (⟨m.1, route.action⟩ : Handler).permission) := by
  decide

/-- A plain segment that stands in the path as it was sent stands in the decoded one. -/
theorem StandsIn.unescape {segment : String} {sent path : List Char} (h : StandsIn segment sent)
    (hplain : '%' ∉ segment.toList) (hdecoded : Url.unescape sent = some path) :
    StandsIn segment path := by
  obtain ⟨rest, rfl, hrest⟩ := h
  have hfront : '%' ∉ "/api/v1/".toList ++ segment.toList := by
    rw [List.mem_append]
    exact fun hmem ↦ hmem.elim (by decide) hplain
  rw [← List.append_assoc, Url.unescape_append hfront, Option.map_eq_some_iff] at hdecoded
  obtain ⟨rest', hrest', rfl⟩ := hdecoded
  refine ⟨rest', List.append_assoc _ _ _, ?_⟩
  rcases hrest with rfl | ⟨tail, rfl⟩
  · exact Or.inl (Option.some.inj hrest').symm
  · rw [Url.unescape_cons (by decide), Option.map_eq_some_iff] at hrest'
    obtain ⟨tail', -, rfl⟩ := hrest'
    exact Or.inr ⟨tail', rfl⟩

section Found

variable {routing : Routing} {r : Request} {h : Handler}

/-- **The guard has the segment of the handler in mind.** -/
theorem apiSegment_of_handler (hr : routing.handler r = some h) :
    apiSegment r.path = h.segment := by
  obtain ⟨m, hm, hsegment, -⟩ := routing.registered hr
  obtain ⟨hslash, hpercent, -⟩ := mounts_sound m hm
  rw [← hsegment] at hslash hpercent
  have hplaced : StandsIn h.segment r.path := by
    rcases routing.placed hr with hpath | hsent
    · exact hpath
    · -- what was sent begins with plain text, which decodes to itself
      have hraw : r.rawPath ≠ [] := by
        obtain ⟨rest, hrest, -⟩ := hsent
        rw [hrest]
        exact List.cons_ne_nil _ _
      exact hsent.unescape hpercent (r.decoded.resolve_left hraw)
  obtain ⟨rest, hpath, hrest⟩ := hplaced
  rw [hpath, apiSegment_append hslash hrest, String.ofList_toList]

/-- What the guard makes of the segment and the method is right for the handler. -/
theorem guard_of_handler (hr : routing.handler r = some h) :
    exempt h.segment r.method = h.open ∧
      (h.open = false → demanded h.segment r.method = h.permission) := by
  obtain ⟨m, hm, hsegment, hroute⟩ := routing.registered hr
  obtain ⟨segment, action⟩ := h
  obtain rfl : segment = m.1 := hsegment
  exact (mounts_sound m hm).2.2 _ hroute

end Found

/-! ## Who reaches a handler -/

/-- **Who reaches a handler.**  Take any routing, any guard and any request, with any escapes in its
path.  It gets to a handler exactly if it is for that handler and the handler is open, or the guard
is, or the guard is enforced and the caller shows a verified token with the permission for what the
handler does: to change something takes the permission to write, and no request that carries only
the permission to read gets there. -/
theorem reached_iff (routing : Routing) (g : Guard) (r : Request) (h : Handler) :
    (∃ claims, reached routing g r = some (h, claims)) ↔
      routing.handler r = some h ∧
        (h.open = true ∨ g.mode = .devOpen ∨
          g.mode = .enforced ∧ ∃ perm, h.permission = some perm ∧ g.Vouches r perm) := by
  have hpass := middleware_pass_iff g r
  have hreached : (∃ claims, reached routing g r = some (h, claims)) ↔
      routing.handler r = some h ∧ ∃ c, g.middleware r = .pass c := by
    rw [reached]
    split
    · rename_i houtside
      have hne : routing.handler r ≠ some h := fun hr ↦
        absurd (routing.under_of_handler hr) (by rw [houtside]; decide)
      simp [hne]
    · rcases g.middleware r with c | ⟨status, message⟩
      · simp
      · simp
  rw [hreached, hpass]
  refine and_congr_right fun hr ↦ ?_
  obtain ⟨hexempt, hdemanded⟩ := guard_of_handler hr
  rw [apiSegment_of_handler hr, hexempt]
  rcases hopen : h.open with _ | _
  · rw [hdemanded hopen]
  · simp

/-! ## A routing -/

theorem StandsIn.under {segment : String} {path : List Char} (h : StandsIn segment path) :
    "/api/v1/".toList.isPrefixOf path = true := by
  obtain ⟨rest, rfl, -⟩ := h
  exact List.isPrefixOf_iff_prefix.mpr (List.prefix_append _ _)

/-- A segment that the guard reads stands in the path. -/
theorem standsIn_apiSegment {path : List Char} (h : apiSegment path ≠ "") :
    StandsIn (apiSegment path) path := by
  simp only [apiSegment] at h ⊢
  split at h
  · rename_i hbase
    obtain ⟨rest, rfl⟩ := List.isPrefixOf_iff_prefix.mp hbase
    rw [if_pos hbase, List.drop_left]
    refine ⟨rest.dropWhile (· ≠ '/'), ?_, ?_⟩
    · simp only [String.toList_ofList]
      rw [List.takeWhile_append_dropWhile]
    · rcases hdrop : rest.dropWhile (· ≠ '/') with _ | ⟨c, tail⟩
      · exact Or.inl rfl
      · have hc := List.head?_dropWhile_not (· ≠ '/') rest
        rw [hdrop] at hc
        have hslash : c = '/' := by simpa using hc
        exact Or.inr ⟨tail, by rw [hslash]⟩
  · exact absurd rfl h

/-- The first route of the segment that has the method. -/
def firstRoute (segment method : String) : Option Handler :=
  (mounts.lookup segment).bind fun routes ↦
    (routes.find? fun route ↦ route.method == method).map fun route ↦ ⟨segment, route.action⟩

theorem registered_of_firstRoute {segment method : String} {h : Handler}
    (hfirst : firstRoute segment method = some h) :
    h.segment = segment ∧ ∃ m ∈ mounts, h.segment = m.1 ∧
      (⟨method, h.action⟩ : Route) ∈ m.2 := by
  obtain ⟨routes, hroutes, hfind⟩ := Option.bind_eq_some_iff.mp hfirst
  obtain ⟨⟨method', action⟩, hroute, rfl⟩ := Option.map_eq_some_iff.mp hfind
  have hmethod := List.find?_some hroute
  obtain rfl : method' = method := beq_iff_eq.mp hmethod
  obtain ⟨before, after, hmounts, -⟩ := List.lookup_eq_some_iff.mp hroutes
  refine ⟨rfl, (segment, routes), ?_, rfl, List.mem_of_find?_eq_some hroute⟩
  rw [hmounts]
  exact List.mem_append_right _ List.mem_cons_self

theorem standsIn_of_firstRoute {path : List Char} {method : String} {h : Handler}
    (hfirst : firstRoute (apiSegment path) method = some h) : StandsIn h.segment path := by
  obtain ⟨hsegment, m, hm, hname, -⟩ := registered_of_firstRoute hfirst
  have hnamed : ∀ m ∈ mounts, m.1 ≠ "" := by decide
  rw [hsegment] at hname ⊢
  exact standsIn_apiSegment (hname ▸ hnamed m hm)

/-- A routing that goes by the segment of the decoded path and by the method alone. -/
def Routing.plain : Routing where
  under r := "/api/v1/".toList.isPrefixOf r.path
  handler r := firstRoute (apiSegment r.path) r.method
  under_of_handler hr := (standsIn_of_firstRoute hr).under
  registered hr := (registered_of_firstRoute hr).2
  placed hr := Or.inl (standsIn_of_firstRoute hr)

end Maintainerd.Http

import Mathlib.Data.List.Induction
import Mathlib.Data.Nat.Digits.Defs
import Maintainerd.Lib.Run
import Maintainerd.Lib.Url

/-!
# Listings and their URLs

`web/console/src/components/data-table/useServerDataTable.ts`: the state of a listing (the search,
the filters, the sort and the page) is mirrored to the URL, "so listings are shareable /
bookmarkable", and a table that is mounted takes its state from the URL.

The effect that mirrors the state starts from the query string that is there and only ever sets
parameters.  A search that is cleared, or a filter, is an absence in the state, and no absence is
written: the parameter that was there stays.  Whoever opens the URL gets the search back
(`cleared_search_returns`).  What else is not read back is small: of several sort columns only the
first is written, a sort column without a name is taken for none, and the number of a page is read
as at least the first.

`Numbers` is what the hook needs of JavaScript's numbers, and the two facts it needs about them:
the text of a number is read back as that number, and is not empty.  `mirror` is the effect and
`seed` is the initialisation.  `get_mirror` says what a parameter is after the effect, and from it
`roundTrips_mirror_iff` says when a state can be read back, in terms of what the URL said before.
`listing_round_trips_iff` is the result for any sequence of changes.

Every text of the hook, of a search, a filter or a sort column, is taken to be well-formed, as every
`String` is.  A search in which one half of a surrogate pair stands alone would be written to the
URL with U+FFFD in its place, and read back as another one.
-/

set_option autoImplicit false

namespace Maintainerd

namespace Console

open Machine Url

/-! ## The hook -/

/-- The numbers of JavaScript, as far as the hook computes with them. -/
structure Numbers (N : Type) where
  /-- `Number(text)` -/
  number : String → N
  /-- `String(n)` -/
  text : N → String
  /-- `n + 1` -/
  succ : N → N
  /-- `n - 1` -/
  pred : N → N
  /-- `Math.max(0, n)` -/
  max0 : N → N
  one : N
  number_text : ∀ n, number (text n) = n
  text_ne : ∀ n, text n ≠ ""

/-- `FilterGroup` -/
structure FilterGroup where
  key : String
  multiple : Bool := false

/-- `ListingFilters`.  A key that is absent has no values. -/
abbrev ListingFilters : Type := String → List String

/-- `ColumnSort` -/
structure ColumnSort where
  id : String
  desc : Bool
deriving DecidableEq

/-- `UseServerDataTableOptions` -/
structure TableOptions (N : Type) where
  filterGroups : List FilterGroup
  defaultSort : List ColumnSort
  defaultPageSize : N

/-- The state of a table that the URL is about. -/
structure TableState (N : Type) where
  search : String
  filters : ListingFilters
  sorting : List ColumnSort
  pageIndex : N
  pageSize : N

/-- An object with the key of every group, made in a loop over them. -/
def byGroup (filterGroups : List FilterGroup) (values : FilterGroup → List String) :
    ListingFilters :=
  filterGroups.foldl (fun filters group ↦ Function.update filters group.key (values group))
    fun _ ↦ []

/-- What a group keeps of some values: all of them, or the last. -/
def FilterGroup.arity (group : FilterGroup) (values : List String) : List String :=
  if group.multiple then values else values.drop (values.length - 1)

/-- `clampToGroupArity` -/
def clampToGroupArity (filterGroups : List FilterGroup) (filters : ListingFilters) :
    ListingFilters :=
  byGroup filterGroups fun group ↦ group.arity (filters group.key)

/-- `split(",").filter(Boolean)` -/
def splitValues (s : String) : List String := (split ',' s).filter fun v ↦ v != ""

section

variable {N : Type} (num : Numbers N) (o : TableOptions N)

/-- The state a table is mounted with. -/
def seed (params : Query) : TableState N where
  search := (params.get "search").getD ""
  filters := clampToGroupArity o.filterGroups
    (byGroup o.filterGroups fun group ↦ ((params.get group.key).map splitValues).getD [])
  sorting :=
    match params.get "sortBy" with
    | none => o.defaultSort
    | some sortBy =>
      if sortBy = "" then o.defaultSort
      else [⟨sortBy, params.get "sortOrder" == some "desc"⟩]
  pageIndex := num.max0 (num.pred
    (((params.get "page").filter fun s ↦ s != "").elim num.one num.number))
  pageSize := ((params.get "limit").filter fun s ↦ s != "").elim o.defaultPageSize num.number

/-- The effect that mirrors the state to the URL. -/
def mirror (s : TableState N) (params : Query) : Query :=
  -- what the state does not have is skipped, not deleted
  let params := if s.search = "" then params else params.set "search" s.search
  let params := o.filterGroups.foldl
    (fun params group ↦
      if s.filters group.key = [] then params
      else params.set group.key (join ',' (s.filters group.key)))
    params
  let params :=
    match s.sorting with
    | [] => params
    | sort :: _ =>
      (params.set "sortBy" sort.id).set "sortOrder" (if sort.desc then "desc" else "asc")
  let params := params.set "page" (num.text (num.succ s.pageIndex))
  params.set "limit" (num.text s.pageSize)

/-- A change made through the hook. -/
inductive Change (N : Type) where
  | setSearch (value : String)
  | setFilters (next : ListingFilters)
  | clearFilters
  | setSorting (next : List ColumnSort)
  | setPagination (pageIndex pageSize : N)

/-- What a change does to the state. -/
def TableState.change (s : TableState N) : Change N → TableState N
  | .setSearch value => { s with search := value }
  | .setFilters next => { s with filters := clampToGroupArity o.filterGroups next }
  | .clearFilters => { s with filters := byGroup o.filterGroups fun _ ↦ [] }
  | .setSorting next => { s with sorting := next }
  | .setPagination pageIndex pageSize => { s with pageIndex := pageIndex, pageSize := pageSize }

/-- A mounted table and the query string of the page. -/
structure Listing (N : Type) where
  state : TableState N
  params : Query

/-- The table is mounted, and the effect runs. -/
def mount (params : Query) : Listing N :=
  ⟨seed num o params, mirror num o (seed num o params) params⟩

/-- A change, and the effect after it. -/
def update (l : Listing N) (c : Change N) : Listing N :=
  ⟨l.state.change o c, mirror num o (l.state.change o c) l.params⟩

/-- **What a listing's URL is for**: a table that is mounted on it has the same search, filters,
sort, if there is one, and page. -/
structure RoundTrips (l : Listing N) : Prop where
  search : (seed num o l.params).search = l.state.search
  filters : (seed num o l.params).filters = l.state.filters
  sorting : l.state.sorting ≠ [] → (seed num o l.params).sorting = l.state.sorting
  pageIndex : (seed num o l.params).pageIndex = l.state.pageIndex
  pageSize : (seed num o l.params).pageSize = l.state.pageSize

/-! ## What a group holds -/

/-- Values that can be kept in one parameter. -/
def Plain (values : List String) : Prop := ∀ v ∈ values, v ≠ "" ∧ ',' ∉ v.toList

theorem byGroup_of_notMem {filterGroups : List FilterGroup} (values : FilterGroup → List String)
    {key : String} (h : ∀ group ∈ filterGroups, group.key ≠ key) :
    byGroup filterGroups values key = [] := by
  refine List.foldlRecOn (motive := fun filters : ListingFilters ↦ filters key = []) _ _ rfl ?_
  intro filters hfilters group hgroup
  rw [Function.update_of_ne (h group hgroup).symm]
  exact hfilters

theorem byGroup_of_mem {filterGroups : List FilterGroup} (values : FilterGroup → List String)
    (hnodup : (filterGroups.map FilterGroup.key).Nodup) {group : FilterGroup}
    (h : group ∈ filterGroups) : byGroup filterGroups values group.key = values group := by
  induction filterGroups using List.reverseRecOn with
  | nil => cases h
  | append_singleton groups last ih =>
    rw [List.map_append, List.map_singleton, List.nodup_append] at hnodup
    rw [byGroup, List.foldl_append, List.foldl_cons, List.foldl_nil, ← byGroup]
    rcases List.mem_append.mp h with hmem | hmem
    · have hne : group.key ≠ last.key :=
        hnodup.2.2 _ (List.mem_map_of_mem hmem) _ (List.mem_singleton.mpr rfl)
      rw [Function.update_of_ne hne, ih hnodup.1 hmem]
    · rw [List.mem_singleton.mp hmem, Function.update_self]

theorem FilterGroup.arity_arity (group : FilterGroup) (values : List String) :
    group.arity (group.arity values) = group.arity values := by
  rw [arity, arity]
  split_ifs
  · rfl
  · rw [List.drop_drop, List.length_drop]
    congr 1
    omega

theorem FilterGroup.arity_eq_nil (group : FilterGroup) (values : List String) :
    group.arity values = [] ↔ values = [] := by
  rw [arity]
  split_ifs
  · rfl
  · rw [List.drop_eq_nil_iff, ← List.length_eq_zero_iff]
    omega

theorem FilterGroup.mem_of_mem_arity {group : FilterGroup} {values : List String} {v : String}
    (h : v ∈ group.arity values) : v ∈ values := by
  rw [arity] at h
  split_ifs at h
  · exact h
  · exact List.mem_of_mem_drop h

theorem plain_splitValues (s : String) : Plain (splitValues s) := by
  intro v hv
  obtain ⟨hsplit, hne⟩ := List.mem_filter.mp hv
  exact ⟨by simpa using hne, notMem_of_mem_split hsplit⟩

theorem splitValues_join {values : List String} (h : Plain values) (hne : values ≠ []) :
    splitValues (join ',' values) = values := by
  rw [splitValues, split_join (fun v hv ↦ (h v hv).2) hne, List.filter_eq_self]
  intro v hv
  simpa using (h v hv).1

/-! ## What the effect writes -/

/-- The parameters of a listing. -/
def keys : List String :=
  "search" :: (o.filterGroups.map FilterGroup.key ++ ["sortBy", "sortOrder", "page", "limit"])

/-- The search, if the effect sets it. -/
def searchWrites (s : TableState N) : List (String × String) :=
  if s.search = "" then [] else [("search", s.search)]

/-- The filters the effect sets. -/
def filterWrites (s : TableState N) (groups : List FilterGroup) : List (String × String) :=
  (groups.filter fun group ↦ s.filters group.key ≠ []).map
    fun group ↦ (group.key, join ',' (s.filters group.key))

/-- The sort, if the effect sets it. -/
def sortWrites (s : TableState N) : List (String × String) :=
  match s.sorting with
  | [] => []
  | sort :: _ => [("sortBy", sort.id), ("sortOrder", if sort.desc then "desc" else "asc")]

/-- The page the effect sets. -/
def pageWrites (s : TableState N) : List (String × String) :=
  [("page", num.text (num.succ s.pageIndex)), ("limit", num.text s.pageSize)]

/-- What the effect sets. -/
def writes (s : TableState N) : List (String × String) :=
  searchWrites s ++ (filterWrites s o.filterGroups ++ (sortWrites s ++ pageWrites num s))

variable {num o}

theorem foldl_set_filter (s : TableState N) (groups : List FilterGroup) (params : Query) :
    groups.foldl (fun params group ↦ if s.filters group.key = [] then params
      else params.set group.key (join ',' (s.filters group.key))) params =
    params.setAll (filterWrites s groups) := by
  induction groups generalizing params with
  | nil => rfl
  | cons group groups ih =>
    rw [List.foldl_cons, ih, filterWrites, filterWrites]
    by_cases h : s.filters group.key = []
    · rw [if_pos h, List.filter_cons_of_neg (by simpa using h)]
    · rw [if_neg h, List.filter_cons_of_pos (by simpa using h)]
      rfl

/-- The effect sets some parameters, one after the other. -/
theorem mirror_eq_setAll (s : TableState N) (params : Query) :
    mirror num o s params = params.setAll (writes num o s) := by
  rw [mirror, foldl_set_filter, writes, Query.setAll_append, Query.setAll_append,
    Query.setAll_append, searchWrites, sortWrites]
  split_ifs <;> rcases s.sorting with _ | ⟨sort, rest⟩ <;> rfl

theorem keys_filterWrites (s : TableState N) (groups : List FilterGroup) :
    ((filterWrites s groups).map Prod.fst).Sublist (groups.map FilterGroup.key) := by
  rw [filterWrites, List.map_map]
  exact List.filter_sublist.map _

theorem keys_sortWrites (s : TableState N) :
    ((sortWrites s).map Prod.fst).Sublist ["sortBy", "sortOrder"] := by
  rw [sortWrites]
  rcases s.sorting with _ | ⟨sort, rest⟩
  · exact List.nil_sublist _
  · exact List.Sublist.refl _

theorem keys_searchWrites (s : TableState N) :
    ((searchWrites s).map Prod.fst).Sublist ["search"] := by
  rw [searchWrites]
  split_ifs
  · exact List.nil_sublist _
  · exact List.Sublist.refl _

theorem keys_writes (s : TableState N) : ((writes num o s).map Prod.fst).Sublist (keys o) := by
  rw [writes, List.map_append, List.map_append, List.map_append]
  exact (keys_searchWrites s).append ((keys_filterWrites s _).append
    ((keys_sortWrites s).append (List.Sublist.refl _)))

/-- The parameters that are no filters. -/
def reserved : List String := "search" :: ["sortBy", "sortOrder", "page", "limit"]

theorem mem_writes {s : TableState N} {w : String × String} (h : w ∈ writes num o s) :
    w ∈ filterWrites s o.filterGroups ∨ w.1 ∈ reserved := by
  rcases List.mem_append.mp h with hsearch | h
  · refine Or.inr (List.mem_cons.mpr (Or.inl ?_))
    exact List.mem_singleton.mp ((keys_searchWrites s).subset (List.mem_map_of_mem hsearch))
  rcases List.mem_append.mp h with hfilter | h
  · exact Or.inl hfilter
  have hrest := (keys_sortWrites s).append (List.Sublist.refl ((pageWrites num s).map Prod.fst))
  rw [← List.map_append] at hrest
  exact Or.inr (List.mem_cons_of_mem _ (hrest.subset (List.mem_map_of_mem h)))

theorem mem_writes_of_mem_pageWrites {s : TableState N} {w : String × String}
    (h : w ∈ pageWrites num s) : w ∈ writes num o s :=
  List.mem_append_right _ (List.mem_append_right _ (List.mem_append_right _ h))

/-- The text of a number is taken for that number. -/
theorem Numbers.elim_text (n : N) (other : N) :
    ((some (num.text n)).filter fun s ↦ s != "").elim other num.number = n := by
  have hne : (num.text n != "") = true := bne_iff_ne.mpr (num.text_ne n)
  rw [Option.filter_some, if_pos hne]
  exact num.number_text n

/-- A key of a group is none of the others. -/
theorem key_ne_of_nodup (hkeys : (keys o).Nodup) {group : FilterGroup}
    (h : group ∈ o.filterGroups) :
    group.key ∉ reserved := by
  obtain ⟨hsearch, hrest⟩ := List.nodup_cons.mp hkeys
  obtain ⟨-, -, hdisjoint⟩ := List.nodup_append.mp hrest
  intro hmem
  rcases List.mem_cons.mp hmem with heq | hmem
  · exact hsearch (heq ▸ List.mem_append_left _ (List.mem_map_of_mem h))
  · exact hdisjoint _ (List.mem_map_of_mem h) _ hmem rfl

/-! ## What is read back -/

section

variable (hkeys : (keys o).Nodup) (s : TableState N) (params : Query)

include hkeys

/-- A parameter the effect sets. -/
theorem get_mirror {key value : String} (h : (key, value) ∈ writes num o s) :
    (mirror num o s params).get key = some value := by
  rw [mirror_eq_setAll]
  exact Query.get_setAll_of_mem params (hkeys.sublist (keys_writes s)) h

/-- A search that is not there is not written. -/
theorem get_mirror_search : (mirror num o s params).get "search" =
    if s.search = "" then params.get "search" else some s.search := by
  split_ifs with h
  · rw [mirror_eq_setAll]
    refine Query.get_setAll_of_notMem params fun w hw heq ↦ (List.nodup_cons.mp hkeys).1 ?_
    rw [writes, searchWrites, if_pos h, List.nil_append] at hw
    have hrest := (keys_filterWrites s o.filterGroups).append
      ((keys_sortWrites s).append (List.Sublist.refl ((pageWrites num s).map Prod.fst)))
    rw [← List.map_append, ← List.map_append] at hrest
    exact heq ▸ hrest.subset (List.mem_map_of_mem hw)
  · refine get_mirror hkeys s params (List.mem_append_left _ ?_)
    rw [searchWrites, if_neg h]
    exact List.mem_singleton.mpr rfl

/-- A filter that is not there is not written. -/
theorem get_mirror_key {group : FilterGroup} (hgroup : group ∈ o.filterGroups) :
    (mirror num o s params).get group.key =
      if s.filters group.key = [] then params.get group.key
      else some (join ',' (s.filters group.key)) := by
  split_ifs with h
  · rw [mirror_eq_setAll]
    refine Query.get_setAll_of_notMem params fun w hw heq ↦ ?_
    rcases mem_writes hw with hfilter | hreserved
    · obtain ⟨other, hother, rfl⟩ := List.mem_map.mp hfilter
      have hvalues : s.filters other.key ≠ [] := by simpa using (List.mem_filter.mp hother).2
      exact hvalues ((congrArg s.filters heq).trans h)
    · exact key_ne_of_nodup hkeys hgroup (heq ▸ hreserved)
  · refine get_mirror hkeys s params (List.mem_append_right _ (List.mem_append_left _ ?_))
    exact List.mem_map_of_mem (List.mem_filter.mpr ⟨hgroup, by simpa using h⟩)

theorem seed_mirror_search : (seed num o (mirror num o s params)).search =
    if s.search = "" then (seed num o params).search else s.search := by
  have hget : (mirror num o s params).get "search" = _ := get_mirror_search hkeys s params
  refine (congrArg (Option.getD · "") hget).trans ?_
  split_ifs <;> rfl

theorem nodup_groups : (o.filterGroups.map FilterGroup.key).Nodup :=
  (List.nodup_append.mp (List.nodup_cons.mp hkeys).2).1

/-- The filter of a group that a table is mounted with. -/
theorem seed_filters {group : FilterGroup} (hgroup : group ∈ o.filterGroups) :
    (seed num o params).filters group.key =
      group.arity (((params.get group.key).map splitValues).getD []) := by
  refine (byGroup_of_mem _ (nodup_groups hkeys) hgroup).trans ?_
  rw [byGroup_of_mem _ (nodup_groups hkeys) hgroup]

theorem seed_mirror_filters {group : FilterGroup} (hgroup : group ∈ o.filterGroups)
    (hplain : Plain (s.filters group.key))
    (harity : group.arity (s.filters group.key) = s.filters group.key) :
    (seed num o (mirror num o s params)).filters group.key =
      if s.filters group.key = [] then (seed num o params).filters group.key
      else s.filters group.key := by
  rw [seed_filters hkeys _ hgroup, get_mirror_key hkeys s params hgroup]
  split_ifs with h
  · rw [seed_filters hkeys _ hgroup]
  · rw [Option.map_some, Option.getD_some, splitValues_join hplain h, harity]

theorem seed_mirror_sorting {sort : ColumnSort} {rest : List ColumnSort}
    (h : s.sorting = sort :: rest) :
    (seed num o (mirror num o s params)).sorting =
      if sort.id = "" then o.defaultSort else [sort] := by
  have hwrites : sortWrites s =
      [("sortBy", sort.id), ("sortOrder", if sort.desc then "desc" else "asc")] := by
    rw [sortWrites, h]
  have hmem : ∀ w ∈ sortWrites s, w ∈ writes num o s := fun w hw ↦
    List.mem_append_right _ (List.mem_append_right _ (List.mem_append_left _ hw))
  rw [hwrites] at hmem
  have hby := get_mirror hkeys s params (hmem _ List.mem_cons_self)
  have horder := get_mirror hkeys s params (hmem _ (List.mem_cons_of_mem _ List.mem_cons_self))
  simp only [seed, hby, horder]
  split_ifs with hid hdesc
  · rfl
  · exact congrArg (fun desc ↦ [ColumnSort.mk sort.id desc]) hdesc.symm
  · exact congrArg (fun desc ↦ [ColumnSort.mk sort.id desc]) (Bool.eq_false_iff.mpr hdesc).symm

theorem seed_mirror_pageIndex : (seed num o (mirror num o s params)).pageIndex =
    num.max0 (num.pred (num.succ s.pageIndex)) := by
  have hmem : ("page", num.text (num.succ s.pageIndex)) ∈ writes num o s :=
    mem_writes_of_mem_pageWrites List.mem_cons_self
  simp only [seed, get_mirror hkeys s params hmem, Numbers.elim_text]

theorem seed_mirror_pageSize : (seed num o (mirror num o s params)).pageSize = s.pageSize := by
  have hmem : ("limit", num.text s.pageSize) ∈ writes num o s :=
    mem_writes_of_mem_pageWrites (List.mem_cons_of_mem _ List.mem_cons_self)
  simp only [seed, get_mirror hkeys s params hmem, Numbers.elim_text]

/-- The effect runs once more when the router has taken the URL it wrote.  That changes no
parameter. -/
theorem get_mirror_mirror (key : String) :
    (mirror num o s (mirror num o s params)).get key = (mirror num o s params).get key := by
  by_cases h : ∃ value, (key, value) ∈ writes num o s
  · obtain ⟨value, hvalue⟩ := h
    rw [get_mirror hkeys s _ hvalue, get_mirror hkeys s _ hvalue]
  · rw [mirror_eq_setAll s (mirror num o s params)]
    refine Query.get_setAll_of_notMem _ fun w hw heq ↦ h ⟨w.2, ?_⟩
    rwa [← heq]

end

/-! ## When a state is read back -/

/-- Filters as the hook keeps them: those of its groups, as many as the group may have, with values
that can be kept in one parameter. -/
structure Fits (o : TableOptions N) (filters : ListingFilters) : Prop where
  outside : ∀ key, (∀ group ∈ o.filterGroups, group.key ≠ key) → filters key = []
  arity : ∀ group ∈ o.filterGroups, group.arity (filters group.key) = filters group.key
  plain : ∀ group ∈ o.filterGroups, Plain (filters group.key)

/-- A sort that is read back as it is: none, the first column alone, or the default one. -/
def Readable (o : TableOptions N) (sorting : List ColumnSort) : Prop :=
  ∀ sort rest, sorting = sort :: rest →
    (if sort.id = "" then o.defaultSort else [sort]) = sorting

/-- The number of a page that is read back as it is. -/
def Steady (num : Numbers N) (pageIndex : N) : Prop :=
  num.max0 (num.pred (num.succ pageIndex)) = pageIndex

theorem Fits.ext {filters filters' : ListingFilters} (h : Fits o filters) (h' : Fits o filters')
    (heq : ∀ group ∈ o.filterGroups, filters group.key = filters' group.key) :
    filters = filters' := by
  funext key
  by_cases hkey : ∃ group ∈ o.filterGroups, group.key = key
  · obtain ⟨group, hgroup, rfl⟩ := hkey
    exact heq group hgroup
  · have hnone : ∀ group ∈ o.filterGroups, group.key ≠ key :=
      fun group hgroup hk ↦ hkey ⟨group, hgroup, hk⟩
    rw [h.outside key hnone, h'.outside key hnone]

theorem fits_byGroup (hkeys : (keys o).Nodup) {values : FilterGroup → List String}
    (harity : ∀ group ∈ o.filterGroups, group.arity (values group) = values group)
    (hplain : ∀ group ∈ o.filterGroups, Plain (values group)) :
    Fits o (byGroup o.filterGroups values) where
  outside _ hkey := byGroup_of_notMem _ hkey
  arity group hgroup := by
    rw [byGroup_of_mem _ (nodup_groups hkeys) hgroup]
    exact harity group hgroup
  plain group hgroup := by
    rw [byGroup_of_mem _ (nodup_groups hkeys) hgroup]
    exact hplain group hgroup

theorem fits_clamp (hkeys : (keys o).Nodup) {filters : ListingFilters}
    (h : ∀ group ∈ o.filterGroups, Plain (filters group.key)) :
    Fits o (clampToGroupArity o.filterGroups filters) :=
  fits_byGroup hkeys (fun group _ ↦ group.arity_arity _)
    fun group hgroup v hv ↦ h group hgroup v (FilterGroup.mem_of_mem_arity hv)

/-- What is read from a URL fits. -/
theorem fits_seed (hkeys : (keys o).Nodup) (params : Query) :
    Fits o (seed num o params).filters := by
  refine fits_clamp hkeys fun group hgroup ↦ ?_
  rw [byGroup_of_mem _ (nodup_groups hkeys) hgroup]
  rcases params.get group.key with _ | value
  · exact List.forall_mem_nil _
  · exact plain_splitValues value

/-- **A state is read back from the URL it was mirrored to** exactly if the URL said nothing that
the state is silent about, and the sort and the page are readable. -/
theorem roundTrips_mirror_iff (hkeys : (keys o).Nodup) {s : TableState N} (hfits : Fits o s.filters)
    (params : Query) :
    RoundTrips num o ⟨s, mirror num o s params⟩ ↔
      (s.search = "" → (seed num o params).search = "") ∧
      (∀ group ∈ o.filterGroups, s.filters group.key = [] →
        (seed num o params).filters group.key = []) ∧
      Readable o s.sorting ∧ Steady num s.pageIndex := by
  have hfilters : ∀ group ∈ o.filterGroups,
      (seed num o (mirror num o s params)).filters group.key =
        if s.filters group.key = [] then (seed num o params).filters group.key
        else s.filters group.key := fun group hgroup ↦
    seed_mirror_filters hkeys s params hgroup (hfits.plain group hgroup) (hfits.arity group hgroup)
  constructor
  · rintro ⟨hs, hf, hsort, hindex, -⟩
    refine ⟨fun hempty ↦ ?_, fun group hgroup hempty ↦ ?_, fun sort rest heq ↦ ?_, ?_⟩
    · rw [seed_mirror_search hkeys, if_pos hempty] at hs
      exact hs.trans hempty
    · have hone := (congrFun hf group.key).symm.trans (hfilters group hgroup)
      rw [if_pos hempty] at hone
      exact hone.symm.trans hempty
    · rw [← seed_mirror_sorting hkeys s params heq]
      exact hsort (heq ▸ List.cons_ne_nil sort rest)
    · rw [seed_mirror_pageIndex hkeys] at hindex
      exact hindex
  · rintro ⟨hs, hf, hsort, hindex⟩
    refine ⟨?_, (fits_seed hkeys _).ext hfits fun group hgroup ↦ ?_, fun hne ↦ ?_, ?_,
      seed_mirror_pageSize hkeys s params⟩
    · rw [seed_mirror_search hkeys]
      split_ifs with hempty
      · exact (hs hempty).trans hempty.symm
      · rfl
    · rw [hfilters group hgroup]
      split_ifs with hempty
      · exact (hf group hgroup hempty).trans hempty.symm
      · rfl
    · obtain ⟨sort, rest, heq⟩ := List.exists_cons_of_ne_nil hne
      exact (seed_mirror_sorting hkeys s params heq).trans (hsort sort rest heq)
    · rw [seed_mirror_pageIndex hkeys]
      exact hindex

/-! ## Any sequence of changes -/

/-- The values a change brings can be kept in one parameter. -/
def Change.Plain (o : TableOptions N) : Change N → Prop
  | .setFilters next => ∀ group ∈ o.filterGroups, Console.Plain (next group.key)
  | _ => True

/-- The changes that do not spoil the URL: no search and no filter is cleared that was there, and
the sort and the page are readable. -/
def Keeps (num : Numbers N) (o : TableOptions N) (l : Listing N) : Change N → Prop
  | .setSearch value => value = "" → l.state.search = ""
  | .setFilters next =>
    ∀ group ∈ o.filterGroups, next group.key = [] → l.state.filters group.key = []
  | .clearFilters => ∀ group ∈ o.filterGroups, l.state.filters group.key = []
  | .setSorting next => Readable o next
  | .setPagination pageIndex _ => Steady num pageIndex

/-- The URL of a mounted table is one its state was mirrored to. -/
structure Mirrored (num : Numbers N) (o : TableOptions N) (l : Listing N) : Prop where
  fits : Fits o l.state.filters
  params : ∃ params, l.params = mirror num o l.state params

theorem fits_change (hkeys : (keys o).Nodup) {s : TableState N} (h : Fits o s.filters)
    {c : Change N} (hc : c.Plain o) : Fits o (s.change o c).filters := by
  cases c with
  | setFilters next => exact fits_clamp hkeys hc
  | clearFilters =>
    exact fits_byGroup hkeys (fun group _ ↦ (group.arity_eq_nil []).mpr rfl)
      fun _ _ ↦ List.forall_mem_nil _
  | _ => exact h

theorem mirrored_update (hkeys : (keys o).Nodup) {l : Listing N} (h : Mirrored num o l)
    {c : Change N} (hc : c.Plain o) : Mirrored num o (update num o l c) :=
  ⟨fits_change hkeys h.fits hc, l.params, rfl⟩

/-- One change keeps what is read back exactly if it is one of those that do not spoil the URL. -/
theorem roundTrips_update_iff (hkeys : (keys o).Nodup) {l : Listing N} (h : Mirrored num o l)
    (hl : RoundTrips num o l) {c : Change N} (hc : c.Plain o) :
    RoundTrips num o (update num o l c) ↔ Keeps num o l c := by
  obtain ⟨params, hparams⟩ := h.params
  have hnow : RoundTrips num o ⟨l.state, mirror num o l.state params⟩ := hparams ▸ hl
  obtain ⟨-, -, hsorting, hindex⟩ := (roundTrips_mirror_iff hkeys h.fits params).mp hnow
  refine (roundTrips_mirror_iff hkeys (fits_change hkeys h.fits hc) l.params).trans ?_
  rw [hl.search, hl.filters]
  cases c with
  | setSearch value =>
    exact ⟨fun h ↦ h.1, fun h ↦ ⟨h, fun _ _ hempty ↦ hempty, hsorting, hindex⟩⟩
  | setFilters next =>
    have hvalues : ∀ group ∈ o.filterGroups,
        (l.state.change o (.setFilters next)).filters group.key = [] ↔ next group.key = [] := by
      intro group hgroup
      refine (Eq.congr_left (byGroup_of_mem _ (nodup_groups hkeys) hgroup)).trans ?_
      exact group.arity_eq_nil _
    constructor
    · exact fun h group hgroup hempty ↦ h.2.1 group hgroup ((hvalues group hgroup).mpr hempty)
    · exact fun h ↦ ⟨id, fun group hgroup hempty ↦
        h group hgroup ((hvalues group hgroup).mp hempty), hsorting, hindex⟩
  | clearFilters =>
    have hvalues : ∀ group ∈ o.filterGroups,
        (l.state.change o .clearFilters).filters group.key = [] :=
      fun group hgroup ↦ byGroup_of_mem _ (nodup_groups hkeys) hgroup
    constructor
    · exact fun h group hgroup ↦ h.2.1 group hgroup (hvalues group hgroup)
    · exact fun h ↦ ⟨id, fun group hgroup _ ↦ h group hgroup, hsorting, hindex⟩
  | setSorting next =>
    exact ⟨fun h ↦ h.2.2.1, fun h ↦ ⟨id, fun _ _ hempty ↦ hempty, h, hindex⟩⟩
  | setPagination pageIndex pageSize =>
    exact ⟨fun h ↦ h.2.2.2, fun h ↦ ⟨id, fun _ _ hempty ↦ hempty, hsorting, h⟩⟩

/-- **Listings round-trip through their URLs** exactly as long as nothing is cleared.  At every
point of a sequence of changes, a table that is mounted on the URL has the state of this one, if and
only if the sort and the page it began with are readable, no change clears a search or a filter that
was there, and each new sort and page is readable.  The parameters of the listing are to be
different ones. -/
theorem listing_round_trips_iff (num : Numbers N) (o : TableOptions N) (hkeys : (keys o).Nodup)
    (params : Query) (cs : List (Change N)) (hplain : ∀ c ∈ cs, c.Plain o) :
    (∀ pre post, cs = pre ++ post →
      RoundTrips num o (run (update num o) (mount num o params) pre)) ↔
    (Readable o (seed num o params).sorting ∧ Steady num (seed num o params).pageIndex) ∧
      Guarded (update num o) (Keeps num o) (mount num o params) cs := by
  have hfits : Fits o (seed num o params).filters := fits_seed hkeys params
  have hmount : Mirrored num o (mount num o params) := ⟨hfits, params, rfl⟩
  rw [forall_points_iff hmount (fun l c hc h ↦ mirrored_update hkeys h (hplain c hc))
    fun l c hc h hl ↦ roundTrips_update_iff hkeys h hl (hplain c hc)]
  refine and_congr_left fun _ ↦ (roundTrips_mirror_iff hkeys hfits params).trans ?_
  exact ⟨fun h ↦ h.2.2, fun h ↦ ⟨id, fun _ _ hempty ↦ hempty, h⟩⟩

end

/-! ## A list of agents -/

/-- The numeral of a natural number. -/
def numeral (n : ℕ) : String :=
  if n = 0 then "0" else String.ofList ((Nat.digits 10 n).reverse.map Nat.digitChar)

/-- The number of a numeral. -/
def ofNumeral (s : String) : ℕ :=
  Nat.ofDigits 10 (s.toList.reverse.map fun c ↦ c.toNat - '0'.toNat)

theorem toNat_digitChar : ∀ d < 10, (Nat.digitChar d).toNat - '0'.toNat = d := by decide

theorem ofNumeral_numeral (n : ℕ) : ofNumeral (numeral n) = n := by
  rw [ofNumeral, numeral]
  split_ifs with h
  · exact h.symm
  · have hdigits : ((Nat.digits 10 n).map Nat.digitChar).map (fun c ↦ c.toNat - '0'.toNat) =
        Nat.digits 10 n := by
      rw [List.map_map]
      refine (List.map_congr_left fun d hd ↦ ?_).trans (List.map_id _)
      exact toNat_digitChar d (Nat.digits_lt_base (by decide) hd)
    rw [String.toList_ofList, List.map_reverse, List.map_reverse, List.map_reverse,
      List.reverse_reverse, hdigits, Nat.ofDigits_digits]

theorem numeral_ne (n : ℕ) : numeral n ≠ "" := by
  rw [numeral]
  split_ifs with h
  · decide
  · intro hempty
    have hnil := congrArg String.toList hempty
    rw [String.toList_ofList] at hnil
    exact Nat.digits_ne_nil_iff_ne_zero.mpr h (by simpa using hnil)

/-- Natural numbers and their numerals. -/
def decimal : Numbers ℕ where
  number := ofNumeral
  text := numeral
  succ n := n + 1
  pred n := n - 1
  max0 n := n
  one := 1
  number_text := ofNumeral_numeral
  text_ne := numeral_ne

/-- A listing of agents with one filter. -/
def agents : TableOptions ℕ where
  filterGroups := [⟨"status", false⟩]
  defaultSort := [⟨"Created", true⟩]
  defaultPageSize := 10

/-- The filter that selects the agents of one status. -/
def status (value : String) : ListingFilters := Function.update (fun _ ↦ []) "status" [value]

theorem listing_round_trips_iff_agents :
    RoundTrips decimal agents (run (update decimal agents) (mount decimal agents [("tab", "all")])
      [.setSearch "bob", .setFilters (status "active"), .setSorting [⟨"Name", false⟩],
        .setPagination 2 20]) := by
  refine (listing_round_trips_iff decimal agents (by decide) [("tab", "all")]
    [.setSearch "bob", .setFilters (status "active"), .setSorting [⟨"Name", false⟩],
      .setPagination 2 20] ?_).mpr ?_ _ [] rfl
  · have hstatus : ∀ group ∈ agents.filterGroups, Plain (status "active" group.key) := by
      simp only [agents, List.forall_mem_singleton, Plain]
      decide
    simp only [List.forall_mem_cons]
    exact ⟨trivial, hstatus, trivial, trivial, List.forall_mem_nil _⟩
  · refine ⟨⟨?_, rfl⟩, fun h ↦ absurd h (by decide), ?_, ?_, rfl, trivial⟩
    · rintro sort rest ⟨⟩
      rfl
    · intro group hgroup _
      rw [List.mem_singleton.mp hgroup]
      rfl
    · rintro sort rest ⟨⟩
      rfl

/-- A search that was cleared comes back from the URL, and so does a filter. -/
theorem cleared_search_returns :
    (run (update decimal agents) (mount decimal agents [])
      [.setSearch "bob", .setSearch ""]).params =
        [("sortBy", "Created"), ("sortOrder", "desc"), ("page", "1"), ("limit", "10"),
          ("search", "bob")] ∧
    (run (update decimal agents) (mount decimal agents [])
      [.setSearch "bob", .setSearch ""]).state.search = "" ∧
    (seed decimal agents (run (update decimal agents) (mount decimal agents [])
      [.setSearch "bob", .setSearch ""]).params).search = "bob" ∧
    (run (update decimal agents) (mount decimal agents [])
      [.setFilters (status "active"), .clearFilters]).state.filters "status" = [] ∧
    (seed decimal agents (run (update decimal agents) (mount decimal agents [])
      [.setFilters (status "active"), .clearFilters]).params).filters "status" = ["active"] := by
  decide

end Console

end Maintainerd

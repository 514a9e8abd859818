import Mathlib.Data.List.Sort
import Maintainerd.Registry.Feed
import Maintainerd.Resource.Step
import Maintainerd.Storage.Agents

/-!
# The pages of a listing

`ListByProject` of `internal/resource/service.go`, `List` of `internal/agent/service.go` and
`ListByTenant` of `internal/service/service.go` are one function on three tables: they look the
owner up, bring the page and the limit into bounds, and ask the database for a window of the rows.

The limit ends between 1 and 100.  The page has a lower bound and no upper one.  The offset is
computed in 64 bits and sent in 32, so it is the product only as long as the product is below
`2 ^ 31`.  Beyond, it wraps round: to a negative number, which the server refuses, or to a page that
was already shown (`page_wraps_round`).

`listPage` is the function and the three are instances of it.  `toInt_offset` says what is sent, and
`pages_exact_iff` when it is what was asked for.
-/

set_option autoImplicit false

namespace Maintainerd

namespace Paging

/-! ## A page -/

/-- `normalizePage` -/
def normalizePage (page limit : Int64) : Int64 × Int64 :=
  (if page < 1 then 1 else page, if limit < 1 || 100 < limit then 20 else limit)

/-- The window a statement asks for. -/
structure Window where
  limit : Int32
  offset : Int32
deriving DecidableEq, Repr

/-- The window of a page. -/
def window (page limit : Int64) : Window :=
  let (page, limit) := normalizePage page limit
  ⟨limit.toInt32, ((page - 1) * limit).toInt32⟩

/-- `LIMIT … OFFSET …`.  The server refuses negative numbers. -/
def Window.select {ρ : Type} (w : Window) (rows : List ρ) : Except QueryError (List ρ) :=
  if w.limit < 0 || w.offset < 0 then .error .dataException
  else .ok ((rows.drop w.offset.toInt.toNat).take w.limit.toInt.toNat)

/-- What an operation asks for, if it does, and what it returns: the page and the number of all the
rows. -/
structure Listed (α : Type) where
  sent : Option Window
  result : Except AppError (List α × ℕ)

/-- The rows of an owner, the newest first.  Rows of one time come in the order of the table. -/
def newestFirst {ρ : Type} (createdAt : ρ → Int) (rows : List ρ) : List ρ :=
  rows.insertionSort fun r r' ↦ createdAt r' ≤ createdAt r

/-- A page of the rows of an owner. -/
def listPage {P ρ α : Type} (entity : String) (owner : Option P) (rows : P → List ρ)
    (convert : P → ρ → α) (page limit : Int64) : Listed α :=
  match owner with
  | none => ⟨none, .error (.notFound entity)⟩
  | some p =>
    ⟨some (window page limit),
      match (window page limit).select (rows p) with
      | .error e => .error (.query e)
      | .ok page => .ok (page.map (convert p), (rows p).length)⟩

/-- `ListByProject`: resources with the uuid of their project. -/
def listByProject (db : Db) (projectUUID : Uuid) (page limit : Int64) : Listed (Resource × Uuid) :=
  listPage "project" (getProjectByUUID db projectUUID)
    (fun p ↦ newestFirst Resource.createdAt
      (db.resources.rows.filter fun r ↦ r.projectID == p.projectID && r.live))
    (fun p r ↦ (r, p.projectUuid)) page limit

/-- `List`: agents with the uuid of their tenant.  The time a row was created at is not among the
columns of `Agent`. -/
def listAgents (db : Db) (createdAt : Agent → Int) (tenantUUID : Uuid) (page limit : Int64) :
    Listed (Agent × Uuid) :=
  listPage "tenant" (getTenantByUUID db tenantUUID)
    (fun t ↦ newestFirst createdAt
      (db.agents.rows.filter fun a ↦ a.tenantID == t.tenantID && a.live))
    (fun t a ↦ (a, t.tenantUuid)) page limit

/-- `ListByTenant` -/
def listByTenant (r : Registry) (tenantUUID : Uuid) (page limit : Int64) :
    Listed ServiceRegistry.Record :=
  listPage "tenant" (r.getTenantByUUID tenantUUID)
    (fun t ↦ newestFirst Service.createdAt
      (r.services.rows.filter fun s ↦ s.tenantID == t.tenantID && s.live))
    (fun t s ↦ ServiceRegistry.regFrom s t.tenantUuid) page limit

/-- A listing, apart from the page. -/
inductive Listing where
  | resources (db : Db) (projectUUID : Uuid)
  | agents (db : Db) (createdAt : Agent → Int) (tenantUUID : Uuid)
  | services (r : Registry) (tenantUUID : Uuid)

/-- What a listing asks the database for. -/
def Listing.sent (page limit : Int64) : Listing → Option Window
  | .resources db projectUUID => (listByProject db projectUUID page limit).sent
  | .agents db createdAt tenantUUID => (listAgents db createdAt tenantUUID page limit).sent
  | .services r tenantUUID => (listByTenant r tenantUUID page limit).sent

/-! ## What was asked for -/

/-- The page a caller means. -/
def requested (page : Int64) : Int := max 1 page.toInt

/-- The limit a caller means: one that is out of bounds is taken for 20. -/
def bounded (limit : Int64) : Int :=
  if 1 ≤ limit.toInt ∧ limit.toInt ≤ 100 then limit.toInt else 20

/-- The page begins within the first `2 ^ 31` rows. -/
def Fits (page limit : Int64) : Prop := (requested page - 1) * bounded limit < 2 ^ 31

/-- The window covers a position. -/
def Window.Covers (w : Window) (i : Int) : Prop :=
  w.offset.toInt ≤ i ∧ i < w.offset.toInt + w.limit.toInt

/-- No position is in both windows. -/
def Window.Apart (w w' : Window) : Prop := ∀ i, w.Covers i → ¬ w'.Covers i

theorem sent_listPage {P ρ α : Type} {entity : String} {owner : Option P} {rows : P → List ρ}
    {convert : P → ρ → α} {page limit : Int64} {w : Window}
    (h : (listPage entity owner rows convert page limit).sent = some w) :
    w = window page limit := by
  rcases owner with _ | p
  · cases h
  · exact (Option.some.inj h).symm

/-- Whichever the table, the window is the same. -/
theorem Listing.sent_eq {page limit : Int64} {l : Listing} {w : Window}
    (h : l.sent page limit = some w) : w = window page limit := by
  cases l with
  | resources db projectUUID => exact sent_listPage h
  | agents db createdAt tenantUUID => exact sent_listPage h
  | services r tenantUUID => exact sent_listPage h

theorem one_le_bounded (limit : Int64) : 1 ≤ bounded limit := by
  rw [bounded]
  split_ifs <;> omega

theorem bounded_le (limit : Int64) : bounded limit ≤ 100 := by
  rw [bounded]
  split_ifs <;> omega

theorem toInt_normalizePage_fst (page limit : Int64) :
    (normalizePage page limit).1.toInt = requested page := by
  have hone : (1 : Int64).toInt = 1 := by decide
  rw [normalizePage, requested]
  dsimp only
  split_ifs with h <;> rw [Int64.lt_iff_toInt_lt, hone] at h <;> omega

theorem toInt_normalizePage_snd (page limit : Int64) :
    (normalizePage page limit).2.toInt = bounded limit := by
  have hone : (1 : Int64).toInt = 1 := by decide
  have hmax : (100 : Int64).toInt = 100 := by decide
  have hdefault : (20 : Int64).toInt = 20 := by decide
  rw [normalizePage, bounded]
  simp only [Bool.or_eq_true, decide_eq_true_eq, Int64.lt_iff_toInt_lt, hone, hmax]
  split_ifs <;> omega

theorem window_eq (page limit : Int64) :
    window page limit = ⟨(normalizePage page limit).2.toInt32,
      (((normalizePage page limit).1 - 1) * (normalizePage page limit).2).toInt32⟩ :=
  rfl

/-- **The limit that is sent** is between 1 and 100. -/
theorem toInt_limit (page limit : Int64) : (window page limit).limit.toInt = bounded limit := by
  have hlow := one_le_bounded limit
  have hhigh := bounded_le limit
  rw [window_eq, Int64.toInt_toInt32, toInt_normalizePage_snd]
  exact Int.bmod_eq_of_le (by omega) (by omega)

/-- **The offset that is sent** is the product, modulo `2 ^ 32`. -/
theorem toInt_offset (page limit : Int64) :
    (window page limit).offset.toInt = ((requested page - 1) * bounded limit).bmod (2 ^ 32) := by
  have hone : (1 : Int64).toInt = 1 := by decide
  have hupper := page.toInt_lt
  have hpred : ((normalizePage page limit).1 - 1).toInt = requested page - 1 := by
    rw [Int64.toInt_sub, toInt_normalizePage_fst, hone, requested]
    exact Int.bmod_eq_of_le (by omega) (by omega)
  rw [window_eq, Int64.toInt_toInt32, Int64.toInt_mul, hpred, toInt_normalizePage_snd]
  exact Int.bmod_bmod_of_dvd (by decide)

theorem product_nonneg (page limit : Int64) : 0 ≤ (requested page - 1) * bounded limit := by
  have hpage : 1 ≤ requested page := Int.le_max_left _ _
  have hlimit := one_le_bounded limit
  exact Int.mul_nonneg (by omega) (by omega)

theorem toInt_offset_of_fits {page limit : Int64} (h : Fits page limit) :
    (window page limit).offset.toInt = (requested page - 1) * bounded limit := by
  have hnonneg := product_nonneg page limit
  rw [Fits] at h
  rw [toInt_offset]
  exact Int.bmod_eq_of_le (by omega) (by omega)

/-- Of two pages the later one begins where the other has ended. -/
theorem apart_of_lt {page page' limit : Int64} (h : Fits page limit)
    (h' : Fits page' limit) (hlt : requested page < requested page') :
    (window page limit).Apart (window page' limit) := by
  have hlimit := one_le_bounded limit
  have hmul : requested page * bounded limit ≤ (requested page' - 1) * bounded limit :=
    Int.mul_le_mul_of_nonneg_right (by omega) (by omega)
  rintro i ⟨-, hbelow⟩ ⟨habove, -⟩
  rw [toInt_limit, toInt_offset_of_fits h, Int.sub_mul] at hbelow
  rw [toInt_offset_of_fits h'] at habove
  omega

/-- What a window shows are the rows at the positions it covers. -/
theorem Window.getElem?_select {ρ : Type} {w : Window} {rows page : List ρ}
    (h : w.select rows = .ok page) {i : ℕ} (hi : i < w.limit.toInt.toNat) :
    page[i]? = rows[w.offset.toInt.toNat + i]? ∧
      w.Covers (w.offset.toInt.toNat + i : ℕ) := by
  rw [Window.select] at h
  split_ifs at h with hneg
  cases h
  rw [Bool.or_eq_true, decide_eq_true_eq, decide_eq_true_eq, Int32.lt_iff_toInt_lt,
    Int32.lt_iff_toInt_lt, not_or] at hneg
  have hzero : (0 : Int32).toInt = 0 := by decide
  rw [hzero] at hneg
  refine ⟨by rw [List.getElem?_take_of_lt hi, List.getElem?_drop], ?_⟩
  rw [Window.Covers]
  omega

/-- **When pages are exact.**  Whatever the listing, the page and the limit, the limit that is sent
is between 1 and 100.  The offset is the number of the rows on the pages before, exactly if that
number is below `2 ^ 31`; and of such pages no two overlap. -/
theorem pages_exact_iff (page limit : Int64) (l : Listing) (w : Window)
    (h : l.sent page limit = some w) :
    (1 ≤ w.limit.toInt ∧ w.limit.toInt ≤ 100) ∧
    ((0 ≤ w.offset.toInt ∧ w.offset.toInt = (requested page - 1) * w.limit.toInt) ↔
      Fits page limit) ∧
    ∀ (page' : Int64) (l' : Listing) (w' : Window), l'.sent page' limit = some w' →
      Fits page limit → Fits page' limit → requested page ≠ requested page' →
      w.Apart w' := by
  obtain rfl := Listing.sent_eq h
  rw [toInt_limit]
  refine ⟨⟨one_le_bounded limit, bounded_le limit⟩, ⟨fun hexact ↦ ?_, fun hfits ↦ ?_⟩, ?_⟩
  · rw [Fits, ← hexact.2]
    exact Int32.toInt_lt _
  · rw [toInt_offset_of_fits hfits]
    exact ⟨product_nonneg page limit, rfl⟩
  · intro page' l' w' h' hfits hfits' hne
    obtain rfl := Listing.sent_eq h'
    rcases Int.lt_or_gt_of_ne hne with hlt | hlt
    · exact apart_of_lt hfits hfits' hlt
    · exact fun i hi hi' ↦ apart_of_lt hfits' hfits hlt i hi' hi

theorem pages_exact_iff_second :
    (Listing.resources emptyProject 2).sent 2 16 = some ⟨16, 16⟩ ∧
    0 ≤ (16 : Int32).toInt ∧ (16 : Int32).toInt = (requested 2 - 1) * (16 : Int32).toInt :=
  ⟨by decide, (pages_exact_iff 2 16 (.resources emptyProject 2) ⟨16, 16⟩ (by decide)).2.1.mpr
    (by unfold Fits; decide)⟩

/-- Sixteen rows a page: page 268435457 is the first page again, of the resources and of the agents,
and page 134217729 begins before the first row, which the server refuses. -/
theorem page_wraps_round :
    (Listing.resources emptyProject 2).sent 1 16 = some ⟨16, 0⟩ ∧
    (Listing.resources emptyProject 2).sent 268435457 16 = some ⟨16, 0⟩ ∧
    (Listing.agents emptyProject (fun _ ↦ 0) 1).sent 268435457 16 = some ⟨16, 0⟩ ∧
    (Listing.resources emptyProject 2).sent 134217729 16 = some ⟨16, -2147483648⟩ ∧
    (Window.mk 16 (-2147483648)).select [()] = .error .dataException := by
  refine ⟨by decide, by decide, by decide, by decide, rfl⟩

end Paging

end Maintainerd

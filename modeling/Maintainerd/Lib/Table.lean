import Mathlib.Data.List.Nodup

/-!
# Tables with a serial key and a public key

A relational table in the shape most services give theirs: every row has a serial number the
database hands out and a public identifier the outside world knows it by, and both are unique.
`Table` carries the two uniqueness constraints and the bound of the sequence as fields, so that a
table that breaks one of them cannot be written down.

* `Table.get?` and `Table.getByID?` look a row up by either key.
* `Table.updateWhere` is `UPDATE … SET … WHERE …`.  What is set is a `Patch`, a function on rows
  that leaves both keys alone; `get?_updateWhere` says that an update acts on each row by itself,
  which is all that is ever used of it.
* `Table.insert?` is `INSERT`: it takes the next number of the sequence and fails on a public
  identifier that is already there.
* `Table.view` is the table with the columns that a query asks for.
-/

set_option autoImplicit false

/-- A public identifier. -/
abbrev Uuid := BitVec 128

/-- A row with a serial key and a public key. -/
class Keyed (ρ : Type) where
  /-- The number the sequence of the table gave the row. -/
  id : ρ → Int
  /-- The public identifier of the row. -/
  uuid : ρ → Uuid

/-- What an `UPDATE` does to a row: anything that leaves its two keys alone. -/
structure Patch (ρ : Type) [Keyed ρ] where
  /-- The row after the update. -/
  apply : ρ → ρ
  /-- The serial key is left alone. -/
  id_apply : ∀ r, Keyed.id (apply r) = Keyed.id r := by intro; rfl
  /-- The public key is left alone. -/
  uuid_apply : ∀ r, Keyed.uuid (apply r) = Keyed.uuid r := by intro; rfl

instance {ρ : Type} [Keyed ρ] : CoeFun (Patch ρ) fun _ ↦ ρ → ρ := ⟨Patch.apply⟩

/-- A table, with its uniqueness constraints. -/
structure Table (ρ : Type) [Keyed ρ] where
  /-- The rows, in no order a query may rely on. -/
  rows : List ρ
  /-- The next number of the sequence. -/
  nextID : Int
  /-- Every number handed out so far is below the next one. -/
  id_lt : ∀ r ∈ rows, Keyed.id r < nextID
  /-- The serial key is unique. -/
  id_nodup : (rows.map Keyed.id).Nodup
  /-- The public key is unique. -/
  uuid_nodup : (rows.map Keyed.uuid).Nodup

namespace Table

variable {ρ : Type} [Keyed ρ]

/-- The empty table. -/
def empty : Table ρ := ⟨[], 1, by simp, by simp, by simp⟩

/-! ## Looking a row up -/

/-- `SELECT … WHERE uuid = u`. -/
def get? (t : Table ρ) (u : Uuid) : Option ρ := t.rows.find? fun r ↦ Keyed.uuid r == u

/-- `SELECT … WHERE id = i`. -/
def getByID? (t : Table ρ) (i : Int) : Option ρ := t.rows.find? fun r ↦ Keyed.id r == i

variable {t : Table ρ} {u : Uuid} {r r' : ρ}

theorem uuid_of_get? (h : t.get? u = some r) : Keyed.uuid r = u := by
  simpa using List.find?_some h

theorem mem_of_get? (h : t.get? u = some r) : r ∈ t.rows := List.mem_of_find?_eq_some h

theorem id_of_getByID? {i : Int} (h : t.getByID? i = some r) : Keyed.id r = i := by
  simpa using List.find?_some h

theorem mem_of_getByID? {i : Int} (h : t.getByID? i = some r) : r ∈ t.rows :=
  List.mem_of_find?_eq_some h

theorem eq_of_uuid_eq (hr : r ∈ t.rows) (hr' : r' ∈ t.rows)
    (h : Keyed.uuid r = Keyed.uuid r') : r = r' :=
  List.inj_on_of_nodup_map t.uuid_nodup hr hr' h

theorem eq_of_id_eq (hr : r ∈ t.rows) (hr' : r' ∈ t.rows) (h : Keyed.id r = Keyed.id r') :
    r = r' :=
  List.inj_on_of_nodup_map t.id_nodup hr hr' h

/-- A row of the table is found under its own public key. -/
theorem get?_of_mem (hr : r ∈ t.rows) : t.get? (Keyed.uuid r) = some r := by
  rcases h : t.get? (Keyed.uuid r) with _ | r'
  · have := List.find?_eq_none.mp h r hr
    simp at this
  · rw [eq_of_uuid_eq (mem_of_get? h) hr (uuid_of_get? h)]

/-- A row of the table is found under its own serial key. -/
theorem getByID?_of_mem (hr : r ∈ t.rows) : t.getByID? (Keyed.id r) = some r := by
  rcases h : t.getByID? (Keyed.id r) with _ | r'
  · have := List.find?_eq_none.mp h r hr
    simp at this
  · rw [eq_of_id_eq (mem_of_getByID? h) hr (id_of_getByID? h)]

/-- Of the rows that satisfy a condition, the one with a given public key is there once if there is
such a row, and not otherwise. -/
theorem count_filter_uuid (t : Table ρ) (p : ρ → Bool) (u : Uuid) :
    ((t.rows.filter p).map Keyed.uuid).count u = if (t.get? u).any p then 1 else 0 := by
  have hnodup : ((t.rows.filter p).map Keyed.uuid).Nodup :=
    t.uuid_nodup.sublist ((List.filter_sublist).map Keyed.uuid)
  rw [hnodup.count]
  refine if_congr ?_ rfl rfl
  simp only [List.mem_map, List.mem_filter, Option.any_eq_true]
  constructor
  · rintro ⟨r, ⟨hr, hp⟩, rfl⟩
    exact ⟨r, get?_of_mem hr, hp⟩
  · rintro ⟨r, hr, hp⟩
    exact ⟨r, ⟨mem_of_get? hr, hp⟩, uuid_of_get? hr⟩

/-! ## Updating rows -/

/-- `UPDATE … SET f WHERE p`. -/
def updateWhere (t : Table ρ) (p : ρ → Bool) (f : Patch ρ) : Table ρ where
  rows := t.rows.map fun r ↦ if p r then f r else r
  nextID := t.nextID
  id_lt := by
    intro r hr
    obtain ⟨r₀, h₀, rfl⟩ := List.mem_map.mp hr
    have := t.id_lt r₀ h₀
    split
    · rwa [f.id_apply]
    · exact this
  id_nodup := by
    have h : (Keyed.id ∘ fun r ↦ if p r then f r else r) = (Keyed.id : ρ → Int) := by
      funext r; simp only [Function.comp]; split <;> simp [f.id_apply]
    rw [List.map_map, h]
    exact t.id_nodup
  uuid_nodup := by
    have h : (Keyed.uuid ∘ fun r ↦ if p r then f r else r) = (Keyed.uuid : ρ → Uuid) := by
      funext r; simp only [Function.comp]; split <;> simp [f.uuid_apply]
    rw [List.map_map, h]
    exact t.uuid_nodup

theorem mem_updateWhere {p : ρ → Bool} {f : Patch ρ} :
    r ∈ (t.updateWhere p f).rows ↔ ∃ r₀ ∈ t.rows, (if p r₀ then f r₀ else r₀) = r :=
  List.mem_map

/-- An update that leaves no row of a kind takes the rows it hits away from that kind, and no
others. -/
theorem countP_updateWhere (t : Table ρ) (p : ρ → Bool) (f : Patch ρ) {q : ρ → Bool}
    (hf : ∀ r, q (f r) = false) :
    (t.updateWhere p f).rows.countP q + t.rows.countP (fun r ↦ p r && q r) =
      t.rows.countP q := by
  show (t.rows.map fun r ↦ if p r then f r else r).countP q + _ = _
  induction t.rows with
  | nil => rfl
  | cons r l ih =>
    rw [List.map_cons, List.countP_cons, List.countP_cons, List.countP_cons, ← ih]
    rcases hp : p r with _ | _
    · simp only [Bool.false_eq_true, if_false, Bool.false_and]
      omega
    · simp only [if_true, hf, Bool.false_eq_true, if_false, Bool.true_and]
      omega

/-- **An update acts on each row by itself.** -/
theorem get?_updateWhere (t : Table ρ) (p : ρ → Bool) (f : Patch ρ) (u : Uuid) :
    (t.updateWhere p f).get? u = (t.get? u).map fun r ↦ if p r then f r else r := by
  have h : ((fun r ↦ Keyed.uuid r == u) ∘ fun r ↦ if p r then f r else r)
      = fun r : ρ ↦ Keyed.uuid r == u := by
    funext r; simp only [Function.comp]; split <;> simp [f.uuid_apply]
  rw [get?, updateWhere, List.find?_map, h, get?]

/-- The same by the serial key. -/
theorem getByID?_updateWhere (t : Table ρ) (p : ρ → Bool) (f : Patch ρ) (i : Int) :
    (t.updateWhere p f).getByID? i = (t.getByID? i).map fun r ↦ if p r then f r else r := by
  have h : ((fun r ↦ Keyed.id r == i) ∘ fun r ↦ if p r then f r else r)
      = fun r : ρ ↦ Keyed.id r == i := by
    funext r; simp only [Function.comp]; split <;> simp [f.id_apply]
  rw [getByID?, updateWhere, List.find?_map, h, getByID?]

/-- An update that hits one row. -/
theorem get?_updateWhere_one {hit : ρ → Bool} (f : Patch ρ) (hr : t.get? u = some r)
    (hhit : hit r = true) (hother : ∀ x, Keyed.uuid x ≠ u → hit x = false) (v : Uuid) :
    (t.updateWhere hit f).get? v = if v = u then some (f r) else t.get? v := by
  rw [get?_updateWhere]
  by_cases hv : v = u
  · subst hv
    rw [if_pos rfl, hr, Option.map_some, if_pos hhit]
  · rw [if_neg hv]
    rcases hx : t.get? v with _ | x
    · rfl
    · have hne : Keyed.uuid x ≠ u := by
        rw [uuid_of_get? hx]
        exact hv
      rw [Option.map_some, hother x hne, if_neg Bool.false_ne_true]

/-! ## Inserting a row -/

/-- `INSERT`: the row takes the next number of the sequence.  Fails on a public key that is
already there. -/
def insert? (t : Table ρ) (mk : Int → ρ) (hmk : ∀ i, Keyed.id (mk i) = i) :
    Option (Table ρ × ρ) :=
  if h : Keyed.uuid (mk t.nextID) ∈ t.rows.map Keyed.uuid then none
  else some
    ({ rows := mk t.nextID :: t.rows
       nextID := t.nextID + 1
       id_lt := by
         intro r hr
         rcases List.mem_cons.mp hr with rfl | hr
         · rw [hmk]; omega
         · have := t.id_lt r hr; omega
       id_nodup := by
         rw [List.map_cons, List.nodup_cons, hmk]
         refine ⟨fun hm ↦ ?_, t.id_nodup⟩
         obtain ⟨r, hr, hid⟩ := List.mem_map.mp hm
         have := t.id_lt r hr
         omega
       uuid_nodup := by
         rw [List.map_cons, List.nodup_cons]
         exact ⟨h, t.uuid_nodup⟩ }, mk t.nextID)

theorem row_of_insert? {mk : Int → ρ} {hmk : ∀ i, Keyed.id (mk i) = i} {t' : Table ρ}
    (h : t.insert? mk hmk = some (t', r)) : r = mk t.nextID := by
  rw [insert?] at h
  split at h
  · cases h
  · cases h; rfl

/-- The new row comes before the rows that were there. -/
theorem rows_insert? {mk : Int → ρ} {hmk : ∀ i, Keyed.id (mk i) = i} {t' : Table ρ}
    (h : t.insert? mk hmk = some (t', r)) : t'.rows = r :: t.rows := by
  rw [insert?] at h
  split at h
  · cases h
  · cases h; rfl

/-- A row that was there is still found under its serial key. -/
theorem getByID?_insert? {mk : Int → ρ} {hmk : ∀ i, Keyed.id (mk i) = i} {t' : Table ρ}
    (h : t.insert? mk hmk = some (t', r)) {x : ρ} (hx : x ∈ t.rows) :
    t'.getByID? (Keyed.id x) = t.getByID? (Keyed.id x) := by
  rw [getByID?_of_mem hx]
  refine getByID?_of_mem ?_
  rw [rows_insert? h]
  exact List.mem_cons_of_mem _ hx

/-- What is in the table after an insertion: the new row, and every row that was there. -/
theorem get?_insert? {mk : Int → ρ} {hmk : ∀ i, Keyed.id (mk i) = i} {t' : Table ρ}
    (h : t.insert? mk hmk = some (t', r)) (u : Uuid) :
    t.get? (Keyed.uuid r) = none ∧
      t'.get? u = if Keyed.uuid r = u then some r else t.get? u := by
  rw [insert?] at h
  split at h
  · cases h
  · rename_i hnot
    cases h
    refine ⟨?_, ?_⟩
    · rw [get?, List.find?_eq_none]
      intro x hx hk
      exact hnot (List.mem_map.mpr ⟨x, hx, by simpa using hk⟩)
    · rw [get?, get?, List.find?_cons]
      by_cases hu : Keyed.uuid (mk t.nextID) = u
      · simp [hu]
      · have : (Keyed.uuid (mk t.nextID) == u) = false := by simpa using hu
        rw [this, if_neg hu]

/-- An insertion under a public key that is free goes through. -/
theorem insert?_ne_none {mk : Int → ρ} {hmk : ∀ i, Keyed.id (mk i) = i}
    (h : t.get? (Keyed.uuid (mk t.nextID)) = none) : t.insert? mk hmk ≠ none := by
  have hnot : Keyed.uuid (mk t.nextID) ∉ t.rows.map Keyed.uuid := by
    intro hm
    obtain ⟨r, hr, hu⟩ := List.mem_map.mp hm
    rw [← hu, get?_of_mem hr] at h
    cases h
  rw [insert?, dif_neg hnot]
  exact Option.some_ne_none _

/-! ## Some of the columns -/

section

variable {σ : Type} [Keyed σ]

/-- The table with the columns `f` keeps, of which the two keys are among them. -/
def view (t : Table ρ) (f : ρ → σ) (hid : ∀ r, Keyed.id (f r) = Keyed.id r)
    (huuid : ∀ r, Keyed.uuid (f r) = Keyed.uuid r) : Table σ where
  rows := t.rows.map f
  nextID := t.nextID
  id_lt := by
    intro r hr
    obtain ⟨r₀, h₀, rfl⟩ := List.mem_map.mp hr
    rw [hid]
    exact t.id_lt r₀ h₀
  id_nodup := by
    rw [List.map_map, show Keyed.id ∘ f = (Keyed.id : ρ → Int) from funext hid]
    exact t.id_nodup
  uuid_nodup := by
    rw [List.map_map, show Keyed.uuid ∘ f = (Keyed.uuid : ρ → Uuid) from funext huuid]
    exact t.uuid_nodup

theorem get?_view (t : Table ρ) (f : ρ → σ) (hid : ∀ r, Keyed.id (f r) = Keyed.id r)
    (huuid : ∀ r, Keyed.uuid (f r) = Keyed.uuid r) (u : Uuid) :
    (t.view f hid huuid).get? u = (t.get? u).map f := by
  have h : (fun r ↦ Keyed.uuid r == u) ∘ f = fun r : ρ ↦ Keyed.uuid r == u := by
    funext r
    rw [Function.comp, huuid]
  rw [get?, view, List.find?_map, h, get?]

theorem getByID?_view (t : Table ρ) (f : ρ → σ) (hid : ∀ r, Keyed.id (f r) = Keyed.id r)
    (huuid : ∀ r, Keyed.uuid (f r) = Keyed.uuid r) (i : Int) :
    (t.view f hid huuid).getByID? i = (t.getByID? i).map f := by
  have h : (fun r ↦ Keyed.id r == i) ∘ f = fun r : ρ ↦ Keyed.id r == i := by
    funext r
    rw [Function.comp, hid]
  rw [getByID?, view, List.find?_map, h, getByID?]

end

end Table

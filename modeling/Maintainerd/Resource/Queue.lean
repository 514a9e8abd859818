import Maintainerd.Resource.Serial

/-!
# The feed as a queue

`ClaimAgentWork` takes the claimable rows in the order of `updated_at`, as many as the caller has
room for, and sets `updated_at` as it does.  A pull with little room may therefore pass over a row
that is due, for rows that have waited longer.  The question is how often.

Every statement on the table sets `updated_at` to its own clock, and nothing else moves it.  So a
row that is not written keeps its place: the rows stamped no later than it, `Db.ahead`, can only
become fewer, whatever the other writers and the other agents do in the meantime, and whichever rows
leave the feed and come back to it.  And a claim that passes over a row that it could have taken
was full, and took rows from that set alone (`room_le_taken`).  Hence the bound of
`passed_over_le_ahead`.
-/

set_option autoImplicit false

namespace Maintainerd

open Machine

/-! ## The rows ahead -/

/-- The row `x` is not the one of uuid `u`, and was last written no later than `t`. -/
def Resource.aheadOf (u : Uuid) (t : Int) (x : Resource) : Bool :=
  x.resourceUuid != u && decide (x.updatedAt ≤ t)

theorem Resource.aheadOf_eq_false {u : Uuid} {t : Int} {x : Resource} (h : t < x.updatedAt) :
    x.aheadOf u t = false := by
  simp [Resource.aheadOf, h]

/-- How many rows are ahead of a row of uuid `u` stamped `t`. -/
def Db.ahead (u : Uuid) (t : Int) (db : Db) : ℕ :=
  db.resources.rows.countP (Resource.aheadOf u t)

/-- A statement stamps its row. -/
theorem Statement.patch_updatedAt (st : Statement) (now : Int) (r : Resource) :
    (st.patch now r).updatedAt = now := by
  cases st <;> rfl

/-- An update of one row that stamps it later puts no row ahead. -/
theorem updateResource_ahead {db db' : Db} {id u : Uuid} {guard holds : Resource → Bool}
    {f : Patch Resource} {t : Int} {r' : Resource} (hf : ∀ r, t < (f r).updatedAt)
    (h : updateResource db id guard holds f = .ok (db', r')) : db'.ahead u t ≤ db.ahead u t := by
  rw [updateResource] at h
  split at h
  · cases h
  · split at h
    · cases h
      have hcount := Table.countP_updateWhere db.resources
        (fun x ↦ x.resourceUuid == id && x.live && guard x) f
        fun r ↦ Resource.aheadOf_eq_false (u := u) (hf r)
      exact Nat.le_of_add_right_le hcount.le
    · cases h

theorem Statement.write_ahead {db : Db} {u : Uuid} {t now : Int} (ht : t < now)
    (st : Statement) : (st.write db now).1.ahead u t ≤ db.ahead u t := by
  have hstamp : ∀ r, t < (st.patch now r).updatedAt := fun r ↦ by
    rw [Statement.patch_updatedAt]
    exact ht
  rw [Statement.write]
  split
  · exact le_rfl
  · rename_i db' row hex
    cases st <;> exact updateResource_ahead hstamp hex

theorem create_ahead {env : Env} {db : Db} {u uuid : Uuid} {t now : Int} (ht : t < now)
    (input : CreateInput) : (create env db now uuid input).1.ahead u t ≤ db.ahead u t := by
  rcases create_db env db now uuid input with hdb | ⟨p, row, -, hins⟩
  · rw [hdb]
  · rw [createResource] at hins
    split at hins
    · cases hins
    split at hins
    · split at hins
      · cases hins
      · rename_i table r hrow
        have hdb := congrArg Prod.fst (Except.ok.inj hins)
        have hlate : t < r.updatedAt := by
          rw [Table.row_of_insert? hrow]
          exact ht
        rw [← hdb, Db.ahead, Db.ahead]
        show List.countP _ table.rows ≤ _
        rw [Table.rows_insert? hrow,
          List.countP_cons_of_neg (by rw [Resource.aheadOf_eq_false hlate]; decide)]
    · cases hins

/-! ## A claim that passes a row over -/

/-- A claim stamps the rows it takes, so they are ahead no longer. -/
theorem claimAgentWork_ahead (db : Db) {now t : Int} (ht : t < now) (u : Uuid)
    (agentID leaseTTL : Int) (maxItems : ℕ) (locked : List Int) :
    (claimAgentWork db now agentID leaseTTL maxItems locked).1.ahead u t +
        db.resources.rows.countP (fun r ↦
          (claimSelect db now agentID maxItems locked).contains r.resourceID && r.aheadOf u t) =
      db.ahead u t :=
  Table.countP_updateWhere db.resources _ _ fun _ ↦ Resource.aheadOf_eq_false ht

/-- In a list that is in order, what comes after the first `n` comes after each of them, and there
are `n` of them. -/
theorem take_before {α : Type} {R : α → α → Prop} {l : List α} {n : ℕ} {x : α}
    (hl : l.Pairwise R) (hx : x ∈ l) (hnot : x ∉ l.take n) :
    (l.take n).length = n ∧ ∀ y ∈ l.take n, R y x := by
  rw [← List.take_append_drop n l] at hl hx
  have hdrop : x ∈ l.drop n := (List.mem_append.mp hx).resolve_left hnot
  refine ⟨List.length_take_of_le ?_, fun y hy ↦ (List.pairwise_append.mp hl).2.2 y hy x hdrop⟩
  by_contra hlt
  rw [List.drop_of_length_le (by omega)] at hdrop
  cases hdrop

/-- **A claim that passes over a row it could have taken takes as many rows as it has room for, and
each of them was ahead of that row.** -/
theorem room_le_taken {db : Db} {now agentID : Int} {maxItems : ℕ} {locked : List Int} {u : Uuid}
    {r : Resource} (hr : db.resources.get? u = some r) (hclaim : r.claimable agentID now = true)
    (hfree : r.resourceID ∉ locked)
    (hnot : r.resourceID ∉ claimSelect db now agentID maxItems locked) :
    maxItems ≤ db.resources.rows.countP fun x ↦
      (claimSelect db now agentID maxItems locked).contains x.resourceID &&
        x.aheadOf u r.updatedAt := by
  have hu : r.resourceUuid = u := Table.uuid_of_get? hr
  let older : Resource → Resource → Prop := fun x y ↦ x.updatedAt ≤ y.updatedAt
  have htotal : Std.Total older := ⟨fun x y ↦ le_total x.updatedAt y.updatedAt⟩
  have htrans : IsTrans Resource older := ⟨fun _ _ _ ↦ le_trans⟩
  let due := db.resources.rows.filter fun x ↦
    x.claimable agentID now && !locked.contains x.resourceID
  let queue := due.insertionSort older
  have hselect : claimSelect db now agentID maxItems locked =
      (queue.take maxItems).map Resource.resourceID := rfl
  have hmem : ∀ x ∈ queue, x ∈ db.resources.rows := fun x hx ↦
    List.mem_of_mem_filter ((List.mem_insertionSort older).mp hx)
  have hqueued : r ∈ queue := by
    refine (List.mem_insertionSort older).mpr (List.mem_filter.mpr ⟨Table.mem_of_get? hr, ?_⟩)
    simp [hclaim, hfree]
  have hpassed : r ∉ queue.take maxItems := fun h ↦
    hnot (hselect ▸ List.mem_map_of_mem h)
  obtain ⟨hlength, holder⟩ := take_before (List.pairwise_insertionSort older due) hqueued hpassed
  -- the ids of the rows taken are distinct, and each is that of a row that is counted
  have hnodup : ((queue.take maxItems).map Resource.resourceID).Nodup := by
    have hsub : (due.map Resource.resourceID).Sublist
        (db.resources.rows.map Resource.resourceID) := List.filter_sublist.map _
    have hperm := (List.perm_insertionSort older due).map Resource.resourceID
    have hqueue : (queue.map Resource.resourceID).Nodup :=
      hperm.nodup_iff.mpr (hsub.nodup db.resources.id_nodup)
    exact ((List.take_sublist maxItems queue).map _).nodup hqueue
  have hsubset : (queue.take maxItems).map Resource.resourceID ⊆
      (db.resources.rows.filter fun x ↦
        (claimSelect db now agentID maxItems locked).contains x.resourceID &&
          x.aheadOf u r.updatedAt).map Resource.resourceID := by
    intro i hi
    obtain ⟨x, hx, rfl⟩ := List.mem_map.mp hi
    refine List.mem_map_of_mem (List.mem_filter.mpr ⟨hmem x (List.mem_of_mem_take hx), ?_⟩)
    have hne : x.resourceUuid ≠ u := by
      intro he
      have hsame : x = r := Table.eq_of_uuid_eq (hmem x (List.mem_of_mem_take hx))
        (Table.mem_of_get? hr) (he.trans hu.symm)
      exact hpassed (hsame ▸ hx)
    have hle : x.updatedAt ≤ r.updatedAt := holder x hx
    rw [Bool.and_eq_true, List.contains_iff_mem, hselect]
    exact ⟨hi, by simp [Resource.aheadOf, hne, hle]⟩
  have hle := (List.subperm_of_subset hnodup hsubset).length_le
  rwa [List.length_map, List.length_map, hlength, ← List.countP_eq_length_filter] at hle

/-- The request is a claim that could have taken the row of uuid `u` and did not. -/
def passedOver (u : Uuid) (db : Db) (q : Request) : Bool :=
  match q.op with
  | .claimForAgent agentID limit _ locked =>
    (db.resources.get? u).any fun r ↦ r.claimable agentID q.now &&
      !locked.contains r.resourceID &&
      !(claimSelect db q.now agentID (normalizeFeedLimit limit) locked).contains r.resourceID
  | _ => false

/-- A request has room for `n` items if it is a claim. -/
def Request.room (n : ℕ) (q : Request) : Bool :=
  match q.op with
  | .claimForAgent _ limit _ _ => decide (n ≤ normalizeFeedLimit limit)
  | _ => true

/-- A request that is later than the stamp puts no row ahead, and takes away as many rows as it has
room for if it passes the row over. -/
theorem step_ahead {env : Env} {db : Db} {u : Uuid} {r : Resource} {q : Request} {n : ℕ}
    (hr : db.resources.get? u = some r) (hlate : r.updatedAt < q.now) (hroom : q.room n = true) :
    n * (passedOver u db q).toNat + (step env db q).ahead u r.updatedAt ≤
      db.ahead u r.updatedAt := by
  obtain ⟨now, o⟩ := q
  replace hlate : r.updatedAt < now := hlate
  cases o with
  | create uuid input =>
    show n * 0 + (create env db now uuid input).1.ahead u r.updatedAt ≤ _
    rw [Nat.mul_zero, Nat.zero_add]
    exact create_ahead hlate input
  | call c =>
    show n * 0 + (c.run env db now).1.ahead u r.updatedAt ≤ _
    rw [Nat.mul_zero, Nat.zero_add, Call.run]
    split
    · exact le_rfl
    · exact Statement.write_ahead hlate _
  | claimForAgent a limit ttl locked =>
    have hcount := claimAgentWork_ahead db hlate u a (effectiveTTL ttl) (normalizeFeedLimit limit)
      locked
    change _ * _ + (claimAgentWork db now a (effectiveTTL ttl) (normalizeFeedLimit limit)
      locked).1.ahead u r.updatedAt ≤ _
    rcases hpass : passedOver u db ⟨now, .claimForAgent a limit ttl locked⟩ with _ | _
    · simp only [Bool.toNat_false, Nat.mul_zero]
      omega
    · simp only [passedOver, hr, Option.any_some, Bool.and_eq_true, Bool.not_eq_true',
        List.contains_eq_mem, decide_eq_false_iff_not] at hpass
      have htaken := room_le_taken hr hpass.1.1 hpass.1.2 hpass.2
      have hn : n ≤ normalizeFeedLimit limit := of_decide_eq_true hroom
      simp only [Bool.toNat_true, Nat.mul_one]
      omega
  | flagHostUnreachable id =>
    show n * 0 + (flagHostUnreachable db now id).1.ahead u r.updatedAt ≤ _
    rw [Nat.mul_zero, Nat.zero_add, flagHostUnreachable]
    split
    · exact le_rfl
    · exact le_rfl
    · rename_i db' row hex
      exact updateResource_ahead (fun _ ↦ hlate) hex

/-! ## Runs -/

/-- The action passes the row of uuid `u` over. -/
def passesOver (u : Uuid) (s : Overlap.State Db Call Statement Int) :
    Overlap.Act Call Int Request → Bool
  | .whole q => passedOver u s.store q
  | _ => false

/-- What the action writes is written after `t`. -/
def writesAfter (t : Int) : Overlap.Act Call Int Request → Bool
  | .start _ _ => true
  | .finish now _ => decide (t < now)
  | .whole q => decide (t < q.now)

/-- The action has room for `n` items if it is a claim. -/
def hasRoom (n : ℕ) : Overlap.Act Call Int Request → Bool
  | .whole q => q.room n
  | _ => true

/-- The row of uuid `u` waits with the stamp `t`: it is there and has not been written since, what
is written now is written later, and a claim has room for `n` items. -/
def waits (u : Uuid) (t : Int) (n : ℕ) (s : Overlap.State Db Call Statement Int)
    (act : Overlap.Act Call Int Request) : Bool :=
  (s.store.resources.get? u).any (fun r ↦ r.updatedAt == t) && writesAfter t act && hasRoom n act

/-- **No resource starves.**  As long as a row keeps its stamp, and whatever is written is written
after that, count the claims that find the row claimable and not locked and hand out other rows
instead.  If every claim has room for `n` items, `n` times their number is at most the number of the
other rows that were stamped no later when the wait began.  The writers overlap in any way, and
rows leave the feed and come back to it. -/
theorem passed_over_le_ahead (env : Env) (s : Overlap.State Db Call Statement Int) (u : Uuid)
    (t : Int) (n : ℕ) (acts : List (Overlap.Act Call Int Request))
    (hwait : Guarded (Overlap.step (writers env)) (fun s act ↦ waits u t n s act = true) s acts) :
    n * tally (Overlap.step (writers env)) (passesOver u) s acts ≤ s.store.ahead u t := by
  -- what was passed over and what is still ahead never exceed what was ahead at the start
  have hbound := hwait.tallied (I := fun k s' ↦
    n * k + s'.store.ahead u t ≤ s.store.ahead u t) (n := 0) (p := passesOver u) (by simp) ?_
  · rw [Nat.zero_add] at hbound
    exact Nat.le_of_add_right_le hbound
  intro k s' act hk hact
  rw [waits, Bool.and_eq_true, Bool.and_eq_true, Option.any_eq_true] at hact
  obtain ⟨⟨⟨r, hr, hstamp⟩, hlate⟩, hroom⟩ := hact
  obtain rfl : r.updatedAt = t := beq_iff_eq.mp hstamp
  suffices hstep : n * (passesOver u s' act).toNat +
      (Overlap.step (writers env) s' act).store.ahead u r.updatedAt ≤
        s'.store.ahead u r.updatedAt by
    rw [Nat.mul_add]
    omega
  cases act with
  | start t c =>
    rw [Overlap.step]
    split <;> simp [passesOver]
  | finish t i =>
    rw [Overlap.step]
    split
    · simp [passesOver]
    · rename_i o ho
      show n * 0 + (o.plan.write s'.store t).1.ahead u r.updatedAt ≤ _
      rw [Nat.mul_zero, Nat.zero_add]
      exact Statement.write_ahead (of_decide_eq_true hlate) _
  | whole q => exact step_ahead hr (of_decide_eq_true hlate) hroom

/-- Three resources and an agent that pulls them one by one: the last of them is passed over twice,
for the two that are ahead of it, though one of the two has come back to the feed by then. -/
theorem passed_over_le_ahead_third :
    let create := fun (now : Int) (u : Uuid) (name : String) ↦
      (⟨now, .create u ⟨2, none, "Container", name, none, none⟩⟩ : Request)
    let s : Overlap.State Db Call Statement Int :=
      ⟨run (step plainEnv) emptyProject [create 1 7 "a", create 2 8 "b", create 3 9 "c"], []⟩
    let acts : List (Overlap.Act Call Int Request) := [.whole ⟨10, .claimForAgent 1 1 0 []⟩,
      .start 11 (.applyAgentReport 1 7 ⟨"running", none, 1⟩ 10), .finish 12 0,
      .whole ⟨13, .call (.updateSpec 7 ⟨some [], none⟩)⟩, .whole ⟨20, .claimForAgent 1 1 0 []⟩]
    tally (Overlap.step (writers plainEnv)) (passesOver 9) s acts = 2 ∧
      1 * tally (Overlap.step (writers plainEnv)) (passesOver 9) s acts ≤ s.store.ahead 9 3 := by
  intro create s acts
  have hwait : Guarded (Overlap.step (writers plainEnv))
      (fun s act ↦ waits 9 3 1 s act = true) s acts := by
    decide
  exact ⟨by decide, passed_over_le_ahead plainEnv s 9 3 1 acts hwait⟩

end Maintainerd

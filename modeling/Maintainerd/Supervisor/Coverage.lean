import Maintainerd.Supervisor.KeepAlive

/-!
# Which instances keep-alive acts on

A pass of keep-alive should call `RedispatchSystem` once for each instance that needs it: an
instance of a supervised service that is not being torn down, whose host is not offline and for
which there is a reason.  The pass goes the other way round.  It walks the registrations, and takes
for each the instance its map holds under the name of the service.

So two things come between an instance and its call.  The map holds one instance a name, the last of
the snapshot, and names are unique only within a project and a kind; and two registrations whose
names differ in case or in blanks around them are two rounds for one instance.  `count_calls` is the
exact number of calls an instance gets, and `exactly_once_iff` says when it is the right one.
`shadowed_and_doubled` is a pass in which an unhealthy instance gets no call and another one two.
-/

set_option autoImplicit false

namespace Maintainerd

/-! ## The calls of a pass -/

/-- The instance a round calls `RedispatchSystem` for, if it does. -/
def redispatchCall (s : Supervisor) (instances : List SystemInstance) (offline : List Agent)
    (reg : Registration) (now : Int) : Option SystemInstance :=
  (serviceOf s reg).bind fun name ↦
    (instanceOf instances name).filter fun inst ↦
      !inst.terminating && !stranded offline inst && (redispatchReason s now inst).isSome

/-- The calls of `RedispatchSystem` a pass makes, and whether each of them goes through. -/
def redispatchCalls (s : Supervisor) (instances : List SystemInstance) (offline : List Agent)
    (vs : List Visit) : List (Uuid × Bool) :=
  vs.filterMap fun v ↦
    (redispatchCall s instances offline v.reg v.now).map fun i ↦ (i.uuid, v.redispatches)

theorem redispatchCalls_cons (s : Supervisor) (instances : List SystemInstance)
    (offline : List Agent) (v : Visit) (vs : List Visit) :
    redispatchCalls s instances offline (v :: vs) =
      ((redispatchCall s instances offline v.reg v.now).map
        fun i ↦ (i.uuid, v.redispatches)).toList ++ redispatchCalls s instances offline vs := by
  rw [redispatchCalls, List.filterMap_cons, ← redispatchCalls]
  rcases redispatchCall s instances offline v.reg v.now with _ | i <;> rfl

/-- The resource an effect re-dispatched. -/
def Effect.redispatchedUuid : Effect → Option Uuid
  | .redispatched _ resource => some resource
  | _ => none

/-- What a round re-dispatches is what it called for, if the call went through; what the pass
remembers from earlier does not come into it. -/
theorem visit_redispatched (s : Supervisor) (instances : List SystemInstance)
    (offline : List Agent) (eps : Episodes) (v : Visit) :
    (visit s instances offline eps v).2.filterMap Effect.redispatchedUuid =
      if v.redispatches then
        ((redispatchCall s instances offline v.reg v.now).map SystemInstance.uuid).toList
      else [] := by
  unfold visit
  rw [redispatchCall]
  rcases serviceOf s v.reg with _ | name
  · simp
  rcases hinst : instanceOf instances name with _ | inst
  · simp only [Option.bind_some, hinst, Option.filter_none, Option.map_none, Option.toList_none,
      ite_self, reportMissingInstance]
    split <;> rfl
  simp only [Option.bind_some, hinst]
  rcases hterm : inst.terminating with _ | _
  · rcases hstr : stranded offline inst with _ | _
    · rcases hreason : redispatchReason s v.now inst with _ | reason
      · simp only [Bool.false_eq_true, if_false, Option.filter_some, hterm, hstr, hreason,
          noteRecovered]
        split
        · simp
        · split <;> simp [Effect.redispatchedUuid]
      · simp only [Bool.false_eq_true, if_false, Option.filter_some, hterm, hstr, hreason,
          redispatch]
        rcases v.redispatches with _ | _
        · simp
        · simp only [if_true]
          split <;> simp [Effect.redispatchedUuid]
    · simp [hterm, hstr]
  · simp [hterm]

/-- **What a pass re-dispatches** are the calls that went through, in order. -/
theorem keepAlive_redispatched (s : Supervisor) (instances : List SystemInstance)
    (offline : List Agent) (eps : Episodes) (vs : List Visit) :
    (keepAlive s instances offline eps (some vs)).2.filterMap Effect.redispatchedUuid =
      ((redispatchCalls s instances offline vs).filter Prod.snd).map Prod.fst := by
  show (visitAll s instances offline eps vs).2.filterMap Effect.redispatchedUuid = _
  induction vs generalizing eps with
  | nil => rfl
  | cons v vs ih =>
    rw [visitAll, List.filterMap_append, visit_redispatched, ih, redispatchCalls_cons,
      List.filter_append, List.map_append]
    rcases redispatchCall s instances offline v.reg v.now with _ | i
    · simp
    · rcases v.redispatches with _ | _
      · simp
      · simp

/-! ## How often an instance is called for -/

/-- The round is one for the instance: it is about its service, and there is something to do. -/
def wants (s : Supervisor) (offline : List Agent) (i : SystemInstance) (v : Visit) : Bool :=
  (serviceOf s v.reg).any (fun name ↦ i.name == "system-" ++ name) && !i.terminating &&
    !stranded offline i && (redispatchReason s v.now i).isSome

/-- No later instance of the snapshot has the name of this one. -/
def lastOfName (instances : List SystemInstance) (i : SystemInstance) : Bool :=
  ((instances.filter fun j ↦ j.name == i.name).getLast?).any fun j ↦ j.uuid == i.uuid

theorem mem_of_instanceOf {instances : List SystemInstance} {name : String} {i : SystemInstance}
    (h : instanceOf instances name = some i) : i ∈ instances ∧ i.name = "system-" ++ name := by
  have hmem := List.mem_of_getLast? h
  rw [List.mem_filter, beq_iff_eq] at hmem
  exact hmem

section Snapshot

variable {s : Supervisor} {instances : List SystemInstance} {offline : List Agent}
  (hnodup : (instances.map SystemInstance.uuid).Nodup)

include hnodup

/-- A snapshot holds one instance a uuid. -/
theorem eq_of_uuid {i j : SystemInstance} (hi : i ∈ instances) (hj : j ∈ instances)
    (h : i.uuid = j.uuid) : i = j :=
  List.inj_on_of_nodup_map hnodup hi hj h

/-- **What one round calls for.** -/
theorem redispatchCall_uuid_iff {i : SystemInstance} (hi : i ∈ instances) (v : Visit) :
    (redispatchCall s instances offline v.reg v.now).map SystemInstance.uuid = some i.uuid ↔
      lastOfName instances i = true ∧ wants s offline i v = true := by
  rw [redispatchCall, wants]
  rcases serviceOf s v.reg with _ | name
  · simp
  simp only [Option.bind_some, Option.any_some, Bool.and_eq_true, beq_iff_eq]
  constructor
  · intro h
    obtain ⟨j, hj, huuid⟩ := Option.map_eq_some_iff.mp h
    obtain ⟨hinst, hok⟩ := Option.filter_eq_some_iff.mp hj
    obtain ⟨hmem, hname⟩ := mem_of_instanceOf hinst
    obtain rfl : j = i := eq_of_uuid hnodup hmem hi huuid
    simp only [Bool.and_eq_true] at hok
    refine ⟨?_, ⟨⟨hname, hok.1.1⟩, hok.1.2⟩, hok.2⟩
    rw [lastOfName, hname, show (instances.filter fun k ↦ k.name == "system-" ++ name).getLast?
      = some j from hinst]
    exact beq_self_eq_true _
  · rintro ⟨hlast, ⟨⟨hname, hterm⟩, hstr⟩, hreason⟩
    rw [lastOfName, hname] at hlast
    obtain ⟨j, hj, huuid⟩ := (Option.any_eq_true _ _).mp hlast
    have hinst : instanceOf instances name = some j := hj
    obtain rfl : j = i :=
      eq_of_uuid hnodup (mem_of_instanceOf hinst).1 hi (beq_iff_eq.mp huuid)
    rw [hinst, Option.filter_some, if_pos (by simp [hterm, hstr, hreason])]
    rfl

/-- **How often a pass calls for an instance**: once for each round that is one for it, if it is the
last of its name, and not at all otherwise. -/
theorem count_calls {i : SystemInstance} (hi : i ∈ instances) (vs : List Visit) :
    ((redispatchCalls s instances offline vs).map Prod.fst).count i.uuid =
      if lastOfName instances i then vs.countP (wants s offline i) else 0 := by
  induction vs with
  | nil => simp [redispatchCalls]
  | cons v vs ih =>
    have hround : (redispatchCall s instances offline v.reg v.now).map SystemInstance.uuid
        = some i.uuid ↔ lastOfName instances i = true ∧ wants s offline i v = true :=
      redispatchCall_uuid_iff hnodup hi v
    rw [redispatchCalls_cons, List.map_append, List.count_append, ih, List.countP_cons]
    rcases hcall : redispatchCall s instances offline v.reg v.now with _ | j
    · rw [hcall, Option.map_none] at hround
      rcases hlast : lastOfName instances i with _ | _
      · simp
      · have hnot : wants s offline i v = false := by simpa [hlast] using hround
        simp [hnot]
    · rw [hcall, Option.map_some, Option.some.injEq] at hround
      by_cases huuid : j.uuid = i.uuid
      · obtain ⟨hlast, hwants⟩ := hround.mp huuid
        simp [huuid, hlast, hwants, Nat.add_comm]
      · have hnot : lastOfName instances i = true → wants s offline i v = false := by
          intro hlast
          simpa [hlast, huuid] using hround
        rcases hlast : lastOfName instances i with _ | _
        · simp [huuid]
        · simp [huuid, hnot hlast]

end Snapshot

/-! ## The right number -/

/-- The instance needs a re-dispatch: some round is one for it. -/
def wanted (s : Supervisor) (offline : List Agent) (vs : List Visit) (i : SystemInstance) : Bool :=
  vs.any (wants s offline i)

/-- Every instance that needs it is called for once, and nothing else is called for. -/
def ExactlyOnce (s : Supervisor) (instances : List SystemInstance) (offline : List Agent)
    (vs : List Visit) : Prop :=
  (∀ i ∈ instances, ((redispatchCalls s instances offline vs).map Prod.fst).count i.uuid =
    if wanted s offline vs i then 1 else 0) ∧
  ∀ u ∈ (redispatchCalls s instances offline vs).map Prod.fst, ∃ i ∈ instances, i.uuid = u

theorem mem_of_mem_calls {s : Supervisor} {instances : List SystemInstance} {offline : List Agent}
    {vs : List Visit} {u : Uuid}
    (h : u ∈ (redispatchCalls s instances offline vs).map Prod.fst) :
    ∃ i ∈ instances, i.uuid = u := by
  obtain ⟨c, hc, rfl⟩ := List.mem_map.mp h
  obtain ⟨v, -, hv⟩ := List.mem_filterMap.mp hc
  obtain ⟨i, hi, rfl⟩ := Option.map_eq_some_iff.mp hv
  obtain ⟨name, -, hname⟩ := Option.bind_eq_some_iff.mp hi
  exact ⟨i, (mem_of_instanceOf (Option.filter_eq_some_iff.mp hname).1).1, rfl⟩

/-- **Keep-alive acts on exactly the right instances when none is shadowed and none is doubled.**
What a pass re-dispatches are its calls that went through, whatever it remembers.  And it calls once
for every instance of the snapshot that needs it and for no other, exactly when each of those
instances is the last one of its name and has one round. -/
theorem exactly_once_iff (s : Supervisor) (instances : List SystemInstance) (offline : List Agent)
    (eps : Episodes) (vs : List Visit)
    (hnodup : (instances.map SystemInstance.uuid).Nodup) :
    (keepAlive s instances offline eps (some vs)).2.filterMap Effect.redispatchedUuid =
        ((redispatchCalls s instances offline vs).filter Prod.snd).map Prod.fst ∧
      (ExactlyOnce s instances offline vs ↔
        ∀ i ∈ instances, wanted s offline vs i = true →
          lastOfName instances i = true ∧ vs.countP (wants s offline i) = 1) := by
  refine ⟨keepAlive_redispatched s instances offline eps vs, ?_, ?_⟩
  · rintro ⟨honce, -⟩ i hi hwanted
    have hcount := honce i hi
    rw [count_calls hnodup hi, if_pos hwanted] at hcount
    split at hcount
    · rename_i hlast
      exact ⟨hlast, hcount⟩
    · cases hcount
  · intro h
    refine ⟨fun i hi ↦ ?_, fun u hu ↦ mem_of_mem_calls hu⟩
    rw [count_calls hnodup hi]
    rcases hwanted : wanted s offline vs i with _ | _
    · have hzero : vs.countP (wants s offline i) = 0 := by
        rw [List.countP_eq_zero]
        simpa [wanted] using hwanted
      simp [hzero]
    · obtain ⟨hlast, hone⟩ := h i hi hwanted
      simp [hlast, hone]

/-! ## A pass over a small snapshot -/

/-- A supervisor with the defaults, and a catalogue that declares nothing. -/
def plainSupervisor : Supervisor :=
  ⟨(RawOptions.mk 0 0 0 0 "").withDefaults, fun _ ↦ none, Char.toLower⟩

/-- An instance of agent 1 that has converged, in a given health. -/
def sighted (uuid : Uuid) (name health : String) : SystemInstance :=
  ⟨uuid, name, "Container", "running", health, 1, false, 0, 1, 1, 0, []⟩

/-- One instance that is not well and one that is. -/
theorem exactly_once_iff_unhealthy :
    let instances := [sighted 7 "system-auth" "unhealthy", sighted 8 "system-web" "healthy"]
    let vs : List Visit := [⟨⟨1, " Auth "⟩, 0, true⟩, ⟨⟨2, "web"⟩, 0, true⟩]
    redispatchCalls plainSupervisor instances [] vs = [(7, true)] ∧
      ExactlyOnce plainSupervisor instances [] vs := by
  intro instances vs
  exact ⟨by decide, (exactly_once_iff plainSupervisor instances [] Episodes.fresh vs
    (by decide)).2.mpr (by decide)⟩

/-- **An instance that is overlooked and one that is called for twice.**  Two projects have an
instance of the name `system-auth`, both of them unhealthy, and only the second is called for; the
service `web` is registered under two spellings, and its instance is called for twice. -/
theorem shadowed_and_doubled :
    let instances := [sighted 7 "system-auth" "unhealthy", sighted 9 "system-auth" "unhealthy",
      sighted 8 "system-web" "unhealthy"]
    let vs : List Visit := [⟨⟨1, "auth"⟩, 0, true⟩, ⟨⟨2, "web"⟩, 0, true⟩, ⟨⟨3, " Web"⟩, 0, true⟩]
    (instances.map SystemInstance.uuid).Nodup ∧
      (∀ i ∈ instances, wanted plainSupervisor [] vs i = true) ∧
      redispatchCalls plainSupervisor instances [] vs = [(9, true), (8, true), (8, true)] := by
  decide

end Maintainerd

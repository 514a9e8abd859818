import Maintainerd.Supervisor.KeepAlive
import Maintainerd.Lib.Run
import Mathlib.Data.List.Induction

/-!
# Escalation

Keep-alive escalates once per incident: it counts the re-dispatches of a service since the service
was last seen well, and emits `system.redispatch_escalated` when the count passes `EscalateAfter`
and `system.recovered` when the service is well again.

That is what the counter is *for*; `look` below is that purpose as a machine on one number.  The
code keeps to it as long as a pass that finds nothing to do finds the service well.  It does not
when the service has just been re-dispatched and is still out of sync within the stale window:
`redispatchReason` is empty there as well, and `noteRecovered` clears the counter of a service that
has not recovered and reports a recovery that has not happened (`forgotten_in_stale_window`).

`visit_look` is the refinement, one round of the loop at a time, and
`escalation_counts_redispatches` what follows for any sequence of passes.
-/

set_option autoImplicit false

namespace Maintainerd

open Machine

/-! ## What is seen of one service -/

/-- What a pass lets an operator know about one service. -/
inductive Notice where
  | redispatched
  | escalated
  | recovered
deriving DecidableEq, Repr

/-- The notice an effect gives about the service of an episode. -/
def Effect.notice (key : String) : Effect → Option Notice
  | .redispatched k _ => if k = key then some .redispatched else none
  | .redispatchEscalated k _ => if k = key then some .escalated else none
  | .recovered k _ => if k = key then some .recovered else none
  | _ => none

/-- The notices a pass gives about the service of an episode. -/
def notices (key : String) (effects : List Effect) : List Notice :=
  effects.filterMap (Effect.notice key)

/-- The instance is running, converged, and of a health that is not bad and not unknown. -/
def SystemInstance.recovered (i : SystemInstance) : Bool :=
  i.state == "running" && i.converged && i.health != "unhealthy" && i.health != "unknown"

/-- The rounds of a pass that are about a service. -/
def roundsFor (s : Supervisor) (name : String) (vs : List Visit) : List Visit :=
  vs.filter fun v ↦ serviceOf s v.reg == some name

theorem roundsFor_cons_of_eq {s : Supervisor} {name : String} {v : Visit}
    (hv : serviceOf s v.reg = some name) (vs : List Visit) :
    roundsFor s name (v :: vs) = v :: roundsFor s name vs := by
  rw [roundsFor, List.filter_cons_of_pos (by simp [hv])]
  rfl

theorem roundsFor_cons_of_ne {s : Supervisor} {name : String} {v : Visit}
    (hv : serviceOf s v.reg ≠ some name) (vs : List Visit) :
    roundsFor s name (v :: vs) = roundsFor s name vs := by
  rw [roundsFor, List.filter_cons_of_neg (by simp [hv])]
  rfl

/-- What the snapshot of a pass shows of a service. -/
inductive Sight where
  /-- The pass did not get as far as keep-alive. -/
  | unseen
  /-- The service is not registered any more, or not supervised. -/
  | dropped
  | missing
  | tearingDown
  | recovered
  /-- The instance is not well, and its host is offline. -/
  | stranded
  | broken
deriving DecidableEq, Repr

/-- The host of the instance is offline. -/
def hostGone (offline : List Agent) (i : Option SystemInstance) : Bool := i.any (stranded offline)

theorem hostGone_some (offline : List Agent) (i : SystemInstance) :
    hostGone offline (some i) = stranded offline i := rfl

/-- What the instance of a service, if there is one, shows of it. -/
def seenOf (i : Option SystemInstance) (gone : Bool) : Sight :=
  match i with
  | none => .missing
  | some i =>
    if i.terminating then .tearingDown
    else if i.recovered then .recovered
    else if gone then .stranded
    else .broken

/-- What keep-alive is shown of a service. -/
def shown (s : Supervisor) (name : String) (instances : List SystemInstance)
    (offline : List Agent) (vs : List Visit) : Sight :=
  let i := instanceOf instances name
  if (roundsFor s name vs).isEmpty then .dropped else seenOf i (hostGone offline i)

/-- What a pass is shown of a service. -/
def sight (s : Supervisor) (name : String) (t : Tick) : Sight :=
  if t.cancelled then .unseen
  else
    match t.instances, t.visits with
    | some instances, some vs => shown s name instances (t.offline.getD []) vs
    | _, _ => .unseen

/-- The sights after which counting starts again. -/
def Sight.resets : Sight → Bool
  | .dropped => true
  | .tearingDown => true
  | .recovered => true
  | _ => false

/-- A round that is told nothing ambiguous about the instance: if it finds no reason to act then the
instance is well, and an instance that is well is not on an offline host. -/
def steadyRound (s : Supervisor) (i : Option SystemInstance) (gone : Bool) (v : Visit) : Bool :=
  i.all fun i ↦ i.terminating ||
    if gone then !i.recovered else i.recovered || (redispatchReason s v.now i).isSome

/-- A pass that is told nothing ambiguous about a service. -/
def steady (s : Supervisor) (name : String) (t : Tick) : Bool :=
  match t.instances, t.visits with
  | some instances, some vs =>
    let i := instanceOf instances name
    (roundsFor s name vs).all (steadyRound s i (hostGone (t.offline.getD []) i))
  | _, _ => true

/-! ## What the counter is for -/

/-- The notices of `m` re-dispatches that go through when `c` have gone through before: each gives
one, and the one that passes the threshold `e` escalates. -/
def announced (e : Int) : ℕ → ℕ → List Notice
  | _, 0 => []
  | c, m + 1 => .redispatched :: ((if (c : Int) = e then [.escalated] else []) ++
      announced e (c + 1) m)

theorem count_announced (e : Int) (c m : ℕ) : (announced e c m).count .redispatched = m := by
  induction m generalizing c with
  | zero => rfl
  | succ m ih =>
    rw [announced, List.count_cons_self, List.count_append, ih]
    split <;> simp

/-- One look at the service: the count after it, and the notices.  `i` is the instance, and `gone`
says that its host is offline. -/
def look (e : Int) (i : Option SystemInstance) (gone : Bool) (c : ℕ) (v : Visit) :
    ℕ × List Notice :=
  match i with
  | none => (c, [])
  | some i =>
    if i.terminating then (0, [])
    else if i.recovered then (0, if e < c then [.recovered] else [])
    else if gone then (c, [])
    else (if v.redispatches then c + 1 else c, if v.redispatches then announced e c 1 else [])

/-- All looks of a pass. -/
def lookAll (e : Int) (i : Option SystemInstance) (gone : Bool) :
    ℕ → List Visit → ℕ × List Notice
  | c, [] => (c, [])
  | c, v :: vs =>
    let first := look e i gone c v
    let rest := lookAll e i gone first.1 vs
    (rest.1, first.2 ++ rest.2)

/-- A pass that leaves the count alone at every look does. -/
theorem lookAll_of_idle {e : Int} {i : Option SystemInstance} {gone : Bool} {c : ℕ}
    (h : ∀ v, look e i gone c v = (c, [])) (vs : List Visit) :
    lookAll e i gone c vs = (c, []) := by
  induction vs with
  | nil => rfl
  | cons v vs ih => rw [lookAll, h v, ih]; rfl

/-- A pass over an instance that is not well and can be reached counts what goes through. -/
theorem lookAll_of_broken {e : Int} {i : SystemInstance} (hterm : i.terminating = false)
    (hrec : i.recovered = false) (c : ℕ) (vs : List Visit) :
    ∃ m, lookAll e (some i) false c vs = (c + m, announced e c m) := by
  induction vs generalizing c with
  | nil => exact ⟨0, rfl⟩
  | cons v vs ih =>
    have hlook : look e (some i) false c v =
        (if v.redispatches then c + 1 else c, if v.redispatches then announced e c 1 else []) := by
      simp [look, hterm, hrec]
    rw [lookAll, hlook]
    cases v.redispatches with
    | true =>
      obtain ⟨m, hm⟩ := ih (c + 1)
      refine ⟨m + 1, ?_⟩
      simp [hm, announced, Nat.add_assoc, Nat.add_comm 1 m]
    | false =>
      obtain ⟨m, hm⟩ := ih c
      exact ⟨m, by simp [hm]⟩

/-! ## The code keeps the count -/

/-- The episode of the service stands at `c`. -/
def Counts (e : Int) (key : String) (eps : Episodes) (c : ℕ) : Prop :=
  ((eps key).getD {}).redispatches = c ∧ ((eps key).getD {}).escalated = decide (e < (c : Int))

theorem Counts.of_eq {e : Int} {key : String} {eps eps' : Episodes} {c : ℕ}
    (h : Counts e key eps c) (heq : eps' key = eps key) : Counts e key eps' c := by
  rw [Counts, heq]
  exact h

theorem counts_of_none {e : Int} (he : 0 < e) {key : String} {eps : Episodes}
    (h : eps key = none) : Counts e key eps 0 := by
  rw [Counts, h]
  exact ⟨rfl, by simp [he.le]⟩

theorem counts_set {e : Int} {key : String} {eps : Episodes} {ep : Episode} {c : ℕ} :
    Counts e key (eps.set key (some ep)) c ↔
      ep.redispatches = c ∧ ep.escalated = decide (e < (c : Int)) := by
  rw [Counts, Episodes.set_self, Option.getD_some]

theorem episodeKey_injective {a b : String} (h : episodeKey a = episodeKey b) : a = b := by
  exact String.append_right_inj _ |>.mp h

theorem Counts.clearMissing {e : Int} {key : String} {eps : Episodes} {c : ℕ}
    (h : Counts e key eps c) : Counts e key (clearMissing eps key) c := by
  rw [Maintainerd.clearMissing]
  split
  · exact h
  · rename_i ep hep
    rw [Counts, hep] at h
    exact counts_set.mpr h

/-- What each thing done to an episode does to the count, and what notices it gives. -/
theorem Counts.reportMissing {e : Int} {key : String} {eps : Episodes} {c : ℕ}
    (h : Counts e key eps c) (reg : Registration) :
    Counts e key (reportMissingInstance eps key reg).1 c ∧
      notices key (reportMissingInstance eps key reg).2 = [] := by
  rw [reportMissingInstance]
  refine ⟨counts_set.mpr h, ?_⟩
  dsimp only
  split <;> rfl

theorem Counts.noteRecovered {e : Int} (he : 0 < e) {key : String} {eps : Episodes} {c : ℕ}
    (h : Counts e key eps c) (i : SystemInstance) :
    Counts e key (noteRecovered eps key i).1 0 ∧
      notices key (noteRecovered eps key i).2 = if e < c then [.recovered] else [] := by
  rw [Maintainerd.noteRecovered]
  split
  · rename_i hep
    rw [Counts, hep] at h
    obtain ⟨rfl, -⟩ := h
    exact ⟨counts_of_none he hep, by simp [notices, he.le]⟩
  · rename_i ep hep
    rw [Counts, hep] at h
    obtain ⟨-, hesc⟩ := h
    refine ⟨counts_set.mpr ⟨rfl, by simp [he.le]⟩, ?_⟩
    rw [show ep.escalated = decide (e < (c : Int)) from hesc]
    simp only [decide_eq_true_eq]
    split <;> simp [notices, Effect.notice]

theorem Counts.redispatch {s : Supervisor} {key : String} {eps : Episodes} {c : ℕ}
    (h : Counts s.opts.escalateAfter key eps c) (i : SystemInstance) (ok : Bool) :
    Counts s.opts.escalateAfter key (redispatch s eps key i ok).1 (if ok then c + 1 else c) ∧
      notices key (redispatch s eps key i ok).2 =
        if ok then announced s.opts.escalateAfter c 1 else [] := by
  rw [Maintainerd.redispatch]
  cases ok with
  | false => exact ⟨h, rfl⟩
  | true =>
    obtain ⟨hcount, hesc⟩ := h
    -- the call that escalates is the one that takes the count from the threshold past it
    have hpass : (decide (s.opts.escalateAfter < ((c + 1 : ℕ) : Int)) &&
        !decide (s.opts.escalateAfter < (c : Int))) =
          decide ((c : Int) = s.opts.escalateAfter) := by
      rw [Bool.eq_iff_iff]
      simp only [Bool.and_eq_true, Bool.not_eq_true', decide_eq_true_eq, decide_eq_false_iff_not]
      omega
    simp only [if_true, hcount, hesc, hpass]
    refine ⟨counts_set.mpr ⟨rfl, ?_⟩, ?_⟩
    · rw [Bool.eq_iff_iff]
      simp only [Bool.or_eq_true, decide_eq_true_eq]
      omega
    · simp only [announced, decide_eq_true_eq]
      split <;> simp [notices, Effect.notice]

/-! ## One round of the loop -/

/-- What a round did concerns the episode `key` alone. -/
def Only (key : String) (eps : Episodes) (out : Episodes × List Effect) : Prop :=
  ∀ k, k ≠ key → out.1 k = eps k ∧ notices k out.2 = []

theorem only_reportMissing (key : String) (eps : Episodes) (reg : Registration) :
    Only key eps (reportMissingInstance eps key reg) := by
  intro k hk
  rw [reportMissingInstance]
  refine ⟨Episodes.set_of_ne _ _ hk, ?_⟩
  dsimp only
  split <;> rfl

theorem clearMissing_of_ne {key k : String} (eps : Episodes) (hk : k ≠ key) :
    clearMissing eps key k = eps k := by
  rcases hep : eps key with _ | ep
  · simp only [clearMissing, hep]
  · simp only [clearMissing, hep, Episodes.set_of_ne _ _ hk]

theorem only_noteRecovered (key : String) (eps : Episodes) (i : SystemInstance) :
    Only key eps (noteRecovered eps key i) := by
  intro k hk
  rw [noteRecovered]
  split
  · exact ⟨rfl, rfl⟩
  · refine ⟨Episodes.set_of_ne _ _ hk, ?_⟩
    dsimp only
    split <;> simp [notices, Effect.notice, hk.symm]

theorem only_redispatch (s : Supervisor) (key : String) (eps : Episodes) (i : SystemInstance)
    (ok : Bool) : Only key eps (redispatch s eps key i ok) := by
  intro k hk
  rw [redispatch]
  split
  · refine ⟨Episodes.set_of_ne _ _ hk, ?_⟩
    dsimp only
    split <;> simp [notices, Effect.notice, hk.symm]
  · exact ⟨rfl, rfl⟩

/-- A round for one service leaves every other alone. -/
theorem visit_of_ne {s : Supervisor} (instances : List SystemInstance) (offline : List Agent)
    {name : String} (eps : Episodes) {v : Visit} (hv : serviceOf s v.reg ≠ some name) :
    (visit s instances offline eps v).1 (episodeKey name) = eps (episodeKey name) ∧
      notices (episodeKey name) (visit s instances offline eps v).2 = [] := by
  unfold visit
  split
  · exact ⟨rfl, rfl⟩
  rename_i name' hname'
  have hk : episodeKey name ≠ episodeKey name' := by
    intro heq
    rw [hname', episodeKey_injective heq] at hv
    exact hv rfl
  split
  · exact only_reportMissing _ _ _ _ hk
  have hclear := clearMissing_of_ne eps hk
  dsimp only
  split
  · exact ⟨(Episodes.set_of_ne _ _ hk).trans hclear, rfl⟩
  split
  · exact ⟨hclear, rfl⟩
  split
  · obtain ⟨heps, hnot⟩ := only_noteRecovered _ (clearMissing eps (episodeKey name')) _ _ hk
    exact ⟨heps.trans hclear, hnot⟩
  · obtain ⟨heps, hnot⟩ := only_redispatch s _ (clearMissing eps (episodeKey name')) _ _ _ hk
    exact ⟨heps.trans hclear, hnot⟩

/-- An instance that is well is left alone. -/
theorem redispatchReason_of_recovered {s : Supervisor} {now : Int} {i : SystemInstance}
    (h : i.recovered = true) : redispatchReason s now i = none := by
  simp only [SystemInstance.recovered, Bool.and_eq_true, beq_iff_eq, bne_iff_ne] at h
  obtain ⟨⟨⟨hstate, hconv⟩, hunhealthy⟩, hunknown⟩ := h
  simp [redispatchReason, hunhealthy, hunknown, hstate, hconv]

/-- **A round is a look.**  When it is told nothing ambiguous about the service, a round for it
takes the count where the purpose of the counter takes it, and gives the same notices. -/
theorem visit_look {s : Supervisor} {instances : List SystemInstance} {offline : List Agent}
    {name : String} {eps : Episodes} {v : Visit} {c : ℕ} {i : Option SystemInstance}
    (h : Counts s.opts.escalateAfter (episodeKey name) eps c)
    (hv : serviceOf s v.reg = some name) (hi : instanceOf instances name = i)
    (hs : steadyRound s i (hostGone offline i) v = true) :
    Counts s.opts.escalateAfter (episodeKey name) (visit s instances offline eps v).1
        (look s.opts.escalateAfter i (hostGone offline i) c v).1 ∧
      notices (episodeKey name) (visit s instances offline eps v).2 =
        (look s.opts.escalateAfter i (hostGone offline i) c v).2 := by
  have he := s.opts.escalateAfter_pos
  cases i with
  | none =>
    unfold visit
    simp only [hv, hi, look]
    exact h.reportMissing v.reg
  | some x =>
    have hclear := h.clearMissing
    rw [hostGone_some] at hs ⊢
    simp only [steadyRound, Option.all_some, Bool.or_eq_true] at hs
    unfold visit
    simp only [hv, hi, look]
    split
    · exact ⟨counts_of_none he (Episodes.set_self _ _ _), rfl⟩
    rename_i hterm
    have hs := hs.resolve_left hterm
    by_cases hgone : stranded offline x = true
    · simp only [hgone, if_true, Bool.not_eq_true'] at hs
      rw [if_pos hgone, if_neg (by simp [hs]), if_pos hgone]
      exact ⟨hclear, rfl⟩
    simp only [hgone, Bool.false_eq_true, if_false, Bool.or_eq_true] at hs
    rw [if_neg hgone, if_neg hgone]
    by_cases hrec : x.recovered = true
    · rw [redispatchReason_of_recovered hrec, if_pos hrec]
      exact hclear.noteRecovered he x
    · obtain ⟨reason, hreason⟩ := Option.isSome_iff_exists.mp (hs.resolve_left hrec)
      rw [hreason, if_neg hrec]
      exact hclear.redispatch x v.redispatches

/-! ## One pass -/

theorem notices_append (key : String) (a b : List Effect) :
    notices key (a ++ b) = notices key a ++ notices key b := List.filterMap_append

/-- The loop of keep-alive is the looks at the service. -/
theorem visitAll_lookAll {s : Supervisor} {instances : List SystemInstance}
    {offline : List Agent} {name : String} {eps : Episodes} {vs : List Visit} {c : ℕ}
    {i : Option SystemInstance} (h : Counts s.opts.escalateAfter (episodeKey name) eps c)
    (hi : instanceOf instances name = i)
    (hs : ∀ v ∈ roundsFor s name vs, steadyRound s i (hostGone offline i) v = true) :
    Counts s.opts.escalateAfter (episodeKey name) (visitAll s instances offline eps vs).1
        (lookAll s.opts.escalateAfter i (hostGone offline i) c (roundsFor s name vs)).1 ∧
      notices (episodeKey name) (visitAll s instances offline eps vs).2 =
        (lookAll s.opts.escalateAfter i (hostGone offline i) c (roundsFor s name vs)).2 := by
  induction vs generalizing eps c with
  | nil => exact ⟨h, rfl⟩
  | cons v vs ih =>
    rw [visitAll]
    dsimp only
    rw [notices_append]
    by_cases hv : serviceOf s v.reg = some name
    · rw [roundsFor_cons_of_eq hv] at hs ⊢
      obtain ⟨hcount, hnot⟩ := visit_look h hv hi (hs v List.mem_cons_self)
      obtain ⟨hcount', hnot'⟩ := ih hcount fun w hw ↦ hs w (List.mem_cons_of_mem _ hw)
      rw [lookAll, hnot, hnot']
      exact ⟨hcount', rfl⟩
    · rw [roundsFor_cons_of_ne hv] at hs ⊢
      obtain ⟨heps, hnot⟩ := visit_of_ne instances offline eps hv
      obtain ⟨hcount', hnot'⟩ := ih (h.of_eq heps) hs
      rw [hnot, hnot']
      exact ⟨hcount', rfl⟩

/-- The sweep and the flags are about no service. -/
theorem notices_swept (key : String) (agents : List Agent) :
    notices key (agents.map fun a ↦ Effect.agentOffline a.agentUuid) = [] := by
  simp [notices, List.filterMap_map, Function.comp_def, Effect.notice]

theorem notices_flagStranded (key : String) (instances : List SystemInstance)
    (offline : List Agent) (flags : Uuid → Option Bool) :
    notices key (flagStranded instances offline flags) = [] := by
  simp [notices, flagStranded, List.filterMap_map, Function.comp_def, Effect.notice]

/-- An episode outlives a pass that has a round for its service, and no other. -/
theorem prune_episodeKey (s : Supervisor) (name : String) (eps : Episodes) (vs : List Visit) :
    prune eps ((vs.filterMap fun v ↦ serviceOf s v.reg).map episodeKey) (episodeKey name) =
      if (roundsFor s name vs).isEmpty then none else eps (episodeKey name) := by
  have hlive : ((vs.filterMap fun v ↦ serviceOf s v.reg).map episodeKey).contains
      (episodeKey name) = !(roundsFor s name vs).isEmpty := by
    rw [Bool.eq_iff_iff, List.contains_iff_mem, List.mem_map, Bool.not_eq_true',
      ← Bool.not_eq_true, List.isEmpty_iff, roundsFor, List.filter_eq_nil_iff]
    constructor
    · rintro ⟨name', hmem, hkey⟩ hnone
      obtain ⟨v, hv, hname'⟩ := List.mem_filterMap.mp hmem
      exact hnone v hv (by rw [hname', episodeKey_injective hkey]; exact beq_self_eq_true _)
    · intro hsome
      push Not at hsome
      obtain ⟨v, hv, hname⟩ := hsome
      exact ⟨name, List.mem_filterMap.mpr ⟨v, hv, by simpa using hname⟩, rfl⟩
  rw [prune, hlive]
  cases (roundsFor s name vs).isEmpty <;> rfl

/-- What a pass does to the count of a service of which it is shown `seen`, and what notices it
gives, when `c` re-dispatches have gone through so far. -/
structure Passes (e : Int) (seen : Sight) (c c' : ℕ) (out : List Notice) : Prop where
  count_eq : c' = if seen.resets then 0 else c + out.count .redispatched
  out_eq : out = if seen = .recovered then (if e < c then [.recovered] else [])
    else announced e c (out.count .redispatched)

/-- A pass that gives no notice and leaves the count alone. -/
theorem Passes.idle {e : Int} {seen : Sight} {c : ℕ} (h : seen.resets = false) :
    Passes e seen c c [] := by
  refine ⟨by rw [h]; rfl, ?_⟩
  have hne : seen ≠ .recovered := fun heq ↦ by rw [heq] at h; cases h
  rw [if_neg hne]
  rfl

/-- The looks of a pass that has a round for the service do what the pass is for. -/
theorem lookAll_passes {e : Int} (he : 0 < e) (i : Option SystemInstance) (gone : Bool) (c : ℕ)
    (v : Visit) (vs : List Visit) :
    Passes e (seenOf i gone) c (lookAll e i gone c (v :: vs)).1
      (lookAll e i gone c (v :: vs)).2 := by
  cases i with
  | none =>
    rw [lookAll_of_idle fun _ ↦ rfl]
    exact .idle rfl
  | some x =>
    rw [seenOf]
    by_cases hterm : x.terminating = true
    · have hlook : ∀ c v, look e (some x) gone c v = (0, []) := by simp [look, hterm]
      rw [lookAll, hlook, lookAll_of_idle (hlook 0), if_pos hterm]
      exact ⟨rfl, rfl⟩
    rw [if_neg hterm]
    by_cases hrec : x.recovered = true
    · have hlook : ∀ (c : ℕ) v, look e (some x) gone c v =
          (0, if e < c then [.recovered] else []) := by simp [look, hterm, hrec]
      have hidle : ∀ v, look e (some x) gone 0 v = (0, []) := by
        intro v
        rw [hlook, if_neg (by simp [he.le])]
      rw [lookAll, hlook, lookAll_of_idle hidle, if_pos hrec]
      exact ⟨rfl, by simp⟩
    rw [if_neg hrec]
    cases gone with
    | true =>
      rw [lookAll_of_idle fun v ↦ by simp [look, hterm, hrec]]
      exact .idle rfl
    | false =>
      obtain ⟨m, hm⟩ := lookAll_of_broken (e := e) (by simpa using hterm) (by simpa using hrec) c
        (v :: vs)
      rw [hm]
      exact ⟨by rw [count_announced]; rfl, by rw [count_announced]; rfl⟩

/-- **One pass.**  When it is told nothing ambiguous about the service, it keeps the count, and
gives exactly the notices the count calls for. -/
theorem tick_passes {s : Supervisor} {name : String} {eps : Episodes} {t : Tick} {c : ℕ}
    (h : Counts s.opts.escalateAfter (episodeKey name) eps c) (hs : steady s name t = true) :
    ∃ c', Counts s.opts.escalateAfter (episodeKey name) (tick s eps t).1 c' ∧
      Passes s.opts.escalateAfter (sight s name t) c c'
        (notices (episodeKey name) (tick s eps t).2) := by
  have he := s.opts.escalateAfter_pos
  rw [tick, sight]
  split
  · exact ⟨c, h, .idle rfl⟩
  rw [steady] at hs
  rcases hinst : t.instances with _ | instances
  · exact ⟨c, h, by rw [notices_swept]; exact .idle rfl⟩
  dsimp only
  rw [notices_append, notices_append, notices_swept, notices_flagStranded]
  rcases hvs : t.visits with _ | vs
  · exact ⟨c, h, .idle rfl⟩
  rw [hinst, hvs] at hs
  simp only [List.all_eq_true] at hs
  simp only [keepAlive, shown, List.nil_append]
  obtain ⟨hcount, hnot⟩ := visitAll_lookAll h rfl hs
  rcases hrounds : roundsFor s name vs with _ | ⟨v, rest⟩
  · -- no round for the service: its episode is pruned
    rw [hrounds] at hnot
    refine ⟨0, counts_of_none he ?_, ?_⟩
    · rw [prune_episodeKey, hrounds]
      rfl
    · rw [hnot]
      exact ⟨rfl, rfl⟩
  · rw [hrounds] at hcount hnot
    refine ⟨_, hcount.of_eq ?_, ?_⟩
    · rw [prune_episodeKey, hrounds]
      rfl
    · rw [hnot]
      exact lookAll_passes he _ _ c v rest

/-! ## Any sequence of passes -/

/-- The supervisor as a machine on its memory. -/
def supervise (s : Supervisor) (eps : Episodes) (t : Tick) : Episodes := (tick s eps t).1

/-- The passes of a run, and what each did. -/
def trace (s : Supervisor) : Episodes → List Tick → List (Tick × List Effect)
  | _, [] => []
  | eps, t :: ts => (t, (tick s eps t).2) :: trace s (supervise s eps t) ts

theorem trace_concat (s : Supervisor) (eps : Episodes) (ts : List Tick) (t : Tick) :
    trace s eps (ts ++ [t]) = trace s eps ts ++ [(t, (tick s (run (supervise s) eps ts) t).2)] := by
  induction ts generalizing eps with
  | nil => rfl
  | cons t' ts ih => rw [List.cons_append, trace, ih, trace, run_cons, List.cons_append]

/-- The calls of `RedispatchSystem` for a service that went through in a pass. -/
def callsIn (name : String) (effects : List Effect) : ℕ :=
  (notices (episodeKey name) effects).count .redispatched

/-- The calls of `RedispatchSystem` for a service that went through since the last pass that showed
it recovered, in teardown, or gone. -/
def callsSince (s : Supervisor) (name : String) (tr : List (Tick × List Effect)) : ℕ :=
  ((tr.reverse.takeWhile fun x ↦ !(sight s name x.1).resets).map fun x ↦ callsIn name x.2).sum

theorem callsSince_concat (s : Supervisor) (name : String) (tr : List (Tick × List Effect))
    (x : Tick × List Effect) :
    callsSince s name (tr ++ [x]) =
      if (sight s name x.1).resets then 0 else callsSince s name tr + callsIn name x.2 := by
  rw [callsSince, List.reverse_append, List.reverse_singleton, List.singleton_append,
    List.takeWhile_cons]
  cases (sight s name x.1).resets with
  | true => rfl
  | false =>
    simp only [Bool.not_false, if_true, List.map_cons, List.sum_cons, Bool.false_eq_true, if_false]
    rw [Nat.add_comm]
    rfl

/-- The counter of the episode of a service. -/
def redispatchesOf (eps : Episodes) (name : String) : ℕ :=
  ((eps (episodeKey name)).getD {}).redispatches

/-- The episode stands at the calls since counting last started again. -/
theorem counts_callsSince {s : Supervisor} {name : String} (ts : List Tick)
    (h : ∀ t ∈ ts, steady s name t = true) :
    Counts s.opts.escalateAfter (episodeKey name) (run (supervise s) .fresh ts)
      (callsSince s name (trace s .fresh ts)) := by
  induction ts using List.reverseRecOn with
  | nil => exact counts_of_none s.opts.escalateAfter_pos rfl
  | append_singleton ts t ih =>
    have hcount := ih fun t' ht' ↦ h t' (List.mem_append_left _ ht')
    obtain ⟨c', hc', hpass⟩ := tick_passes hcount (h t (by simp))
    rw [run_append, trace_concat, callsSince_concat]
    exact hpass.count_eq ▸ hc'

/-- **Escalation counts consecutive re-dispatches, and recovery means recovery**, in every sequence
of passes that are told nothing ambiguous about the service.  The counter of its episode is the
number of re-dispatches that went through since the service was last shown recovered, in teardown or
gone; a pass announces the re-dispatches that go through, with the escalation right after the one
that makes the count pass `EscalateAfter` and at no other; and a recovery is announced by a pass
that is shown the service recovered, and by no other. -/
theorem escalation_counts_redispatches (s : Supervisor) (name : String) (ts : List Tick)
    (h : ∀ t ∈ ts, steady s name t = true) :
    redispatchesOf (run (supervise s) .fresh ts) name = callsSince s name (trace s .fresh ts) ∧
      ∀ pre t post, ts = pre ++ t :: post →
        let c := callsSince s name (trace s .fresh pre)
        let effects := (tick s (run (supervise s) .fresh pre) t).2
        notices (episodeKey name) effects =
          if sight s name t = .recovered then
            (if s.opts.escalateAfter < c then [.recovered] else [])
          else announced s.opts.escalateAfter c (callsIn name effects) := by
  refine ⟨(counts_callsSince ts h).1, ?_⟩
  rintro pre t post rfl
  have hcount := counts_callsSince pre fun t' ht' ↦ h t' (List.mem_append_left _ ht')
  obtain ⟨c', -, hpass⟩ := tick_passes hcount (h t (by simp))
  exact hpass.out_eq

/-- A supervisor that escalates after one re-dispatch, with an empty catalogue. -/
def quickSupervisor : Supervisor :=
  ⟨RawOptions.withDefaults ⟨0, 0, 0, 1, ""⟩, fun _ ↦ none, Char.toLower⟩

/-- A pass a second after the instance of `auth` was last written. -/
def authTick (state : String) (generation observedGeneration : Int) : Tick where
  cancelled := false
  swept := []
  offline := some []
  instances := some [⟨9, "system-auth", "Container", state, "", 1, false, 0, generation,
    observedGeneration, 0, []⟩]
  flags := fun _ ↦ none
  visits := some [⟨⟨3, "Auth "⟩, 10 ^ 9, true⟩]

/-- The service is parked three times over. -/
theorem escalation_counts_redispatches_parked :
    let ts := [authTick "failed" 1 0, authTick "failed" 2 0, authTick "failed" 3 0]
    (∀ t ∈ ts, steady quickSupervisor "auth" t = true) ∧
      redispatchesOf (run (supervise quickSupervisor) .fresh ts) "auth" =
        callsSince quickSupervisor "auth" (trace quickSupervisor .fresh ts) := by
  intro ts
  have hts : ∀ t ∈ ts, steady quickSupervisor "auth" t = true := by decide
  exact ⟨hts, (escalation_counts_redispatches quickSupervisor "auth" ts hts).1⟩

/-- **A re-dispatch that has not been answered passes for a recovery.**  Two re-dispatches go
through, the second escalates; the next pass finds the service pending, out of sync and within the
stale window, clears the counter and announces a recovery. -/
theorem forgotten_in_stale_window :
    let ts := [authTick "failed" 1 0, authTick "failed" 2 0, authTick "pending" 3 0]
    let eps := run (supervise quickSupervisor) .fresh ts
    sight quickSupervisor "auth" (authTick "pending" 3 0) = .broken ∧
      callsSince quickSupervisor "auth" (trace quickSupervisor .fresh ts) = 2 ∧
      redispatchesOf eps "auth" = 0 ∧
      (trace quickSupervisor .fresh ts).map (fun x ↦ notices (episodeKey "auth") x.2) =
        [[.redispatched], [.redispatched, .escalated], [.recovered]] := by
  decide

end Maintainerd

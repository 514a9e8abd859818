import Maintainerd.Supervisor.Escalation

/-!
# Missing instances

Keep-alive has nothing to re-dispatch for a service whose instance is not in the snapshot.  It says
so once, with `system.instance_missing`, and keeps quiet until the instance has turned up again.
The flag that remembers the report lives in the `Episode` of the service, beside the escalation
counter, and five places write that record: `reportMissingInstance` sets the flag, `clearMissing`
takes it back, `forget` and `prune` drop the whole record, and `noteRecovered` and `redispatch`
rewrite the rest of it.

What the flag should say can be read off the passes alone: it is up when the last pass that got as
far as keep-alive was shown the service missing.  `tick_flagged` is one pass, `flagged_run` any
number of them, and `missing_reported_once_per_gap` what follows for the reports.
-/

set_option autoImplicit false

namespace Maintainerd

open Machine

/-! ## Gaps -/

/-- The effect is a report that the service of an episode has no instance. -/
def Effect.reportsMissing (key : String) : Effect → Bool
  | .instanceMissing k _ => k == key
  | _ => false

/-- How often a pass reports that a service has no instance. -/
def missingReports (name : String) (effects : List Effect) : ℕ :=
  effects.countP (Effect.reportsMissing (episodeKey name))

/-- What the last pass that got as far as keep-alive was shown of a service. -/
def lastSight (s : Supervisor) (name : String) (ts : List Tick) : Option Sight :=
  ((ts.map (sight s name)).filter fun seen ↦ seen != .unseen).getLast?

/-- After the passes `pre`, the passes `gap` are a maximal stretch in which the service is
registered and supervised but has no instance: the first of them shows it missing, which what came
before did not, and no pass of the stretch shows anything else.  A pass that shows nothing neither
ends a gap nor opens one. -/
structure IsGap (s : Supervisor) (name : String) (pre gap post : List Tick) : Prop where
  opens : gap.head?.map (sight s name) = some .missing
  not_before : lastSight s name pre ≠ some .missing
  stays : ∀ t ∈ gap, sight s name t = .missing ∨ sight s name t = .unseen
  ends : ∀ t ∈ post.head?, sight s name t ≠ .missing ∧ sight s name t ≠ .unseen

theorem lastSight_concat (s : Supervisor) (name : String) (ts : List Tick) (t : Tick) :
    lastSight s name (ts ++ [t]) =
      if sight s name t = .unseen then lastSight s name ts else some (sight s name t) := by
  rw [lastSight, List.map_append, List.filter_append]
  by_cases h : sight s name t = .unseen
  · simp [h, lastSight]
  · simp [h]

/-- A pass that shows the service missing, or nothing, leaves it missing. -/
theorem lastSight_concat_of_missing {s : Supervisor} {name : String} {pre : List Tick} {t : Tick}
    (hpre : lastSight s name pre = some .missing)
    (h : sight s name t = .missing ∨ sight s name t = .unseen) :
    lastSight s name (pre ++ [t]) = some .missing := by
  rw [lastSight_concat]
  rcases h with hseen | hseen
  · rw [hseen]
    rfl
  · rw [if_pos hseen, hpre]

/-! ## One round of the loop -/

/-- The report about the service has been made. -/
def flagged (name : String) (eps : Episodes) : Bool :=
  ((eps (episodeKey name)).getD {}).missingReported

theorem flagged_congr {name : String} {eps eps' : Episodes}
    (h : eps' (episodeKey name) = eps (episodeKey name)) :
    flagged name eps' = flagged name eps := by
  rw [flagged, h]
  rfl

@[simp] theorem flagged_set (name : String) (eps : Episodes) (ep : Option Episode) :
    flagged name (eps.set (episodeKey name) ep) = (ep.getD {}).missingReported := by
  rw [flagged, Episodes.set_self]

theorem flagged_clearMissing (name : String) (eps : Episodes) :
    flagged name (clearMissing eps (episodeKey name)) = false := by
  rw [clearMissing]
  split
  · rename_i hep
    rw [flagged, hep]
    rfl
  · rw [flagged_set]
    rfl

@[simp] theorem missingReports_append (name : String) (a b : List Effect) :
    missingReports name (a ++ b) = missingReports name a + missingReports name b :=
  List.countP_append

/-- A recovery rewrites the counter alone. -/
theorem noteRecovered_flagged (name : String) (eps : Episodes) (inst : SystemInstance) :
    flagged name (noteRecovered eps (episodeKey name) inst).1 = flagged name eps ∧
      ∀ key, missingReports name (noteRecovered eps key inst).2 = 0 := by
  constructor
  · rw [noteRecovered]
    split
    · rfl
    · rename_i ep hep
      rw [flagged_set, flagged, hep]
      rfl
  · intro key
    rw [noteRecovered]
    split
    · rfl
    · dsimp only
      split <;> rfl

/-- A re-dispatch rewrites the counter alone. -/
theorem redispatch_flagged (s : Supervisor) (name : String) (eps : Episodes)
    (inst : SystemInstance) (ok : Bool) :
    flagged name (redispatch s eps (episodeKey name) inst ok).1 = flagged name eps ∧
      ∀ key, missingReports name (redispatch s eps key inst ok).2 = 0 := by
  cases ok with
  | false => exact ⟨rfl, fun _ ↦ rfl⟩
  | true =>
    simp only [redispatch, if_true]
    refine ⟨by rw [flagged_set]; rfl, ?_⟩
    intro key
    split <;> rfl

/-- A report is made if none has been, and the flag is up after it. -/
theorem reportMissingInstance_flagged (name : String) (eps : Episodes) (reg : Registration) :
    flagged name (reportMissingInstance eps (episodeKey name) reg).1 = true ∧
      missingReports name (reportMissingInstance eps (episodeKey name) reg).2 =
        if flagged name eps then 0 else 1 := by
  rw [reportMissingInstance]
  refine ⟨by rw [flagged_set]; rfl, ?_⟩
  dsimp only
  rw [flagged]
  split
  · rfl
  · simp [missingReports, Effect.reportsMissing]

/-- **A round for the service.**  The flag is up after it exactly when there is no instance, and the
round reports that once. -/
theorem visit_flagged {s : Supervisor} (instances : List SystemInstance) (offline : List Agent)
    {name : String} (eps : Episodes) {v : Visit} (hv : serviceOf s v.reg = some name) :
    flagged name (visit s instances offline eps v).1 = (instanceOf instances name).isNone ∧
      missingReports name (visit s instances offline eps v).2 =
        if (instanceOf instances name).isNone && !flagged name eps then 1 else 0 := by
  unfold visit
  simp only [hv]
  rcases hi : instanceOf instances name with _ | inst
  · obtain ⟨hflag, hreports⟩ := reportMissingInstance_flagged name eps v.reg
    refine ⟨hflag, hreports.trans ?_⟩
    cases flagged name eps <;> rfl
  · have hclear := flagged_clearMissing name eps
    simp only [Option.isNone_some, Bool.false_and, Bool.false_eq_true, if_false]
    split
    · exact ⟨by rw [forget, flagged_set]; rfl, rfl⟩
    split
    · exact ⟨hclear, rfl⟩
    split
    · obtain ⟨hflag, hreports⟩ :=
        noteRecovered_flagged name (clearMissing eps (episodeKey name)) inst
      exact ⟨hflag.trans hclear, hreports _⟩
    · obtain ⟨hflag, hreports⟩ :=
        redispatch_flagged s name (clearMissing eps (episodeKey name)) inst v.redispatches
      exact ⟨hflag.trans hclear, hreports _⟩

/-- A round for another service reports nothing about this one. -/
theorem missingReports_visit_of_ne {s : Supervisor} (instances : List SystemInstance)
    (offline : List Agent) {name : String} (eps : Episodes) {v : Visit}
    (hv : serviceOf s v.reg ≠ some name) :
    missingReports name (visit s instances offline eps v).2 = 0 := by
  unfold visit
  split
  · rfl
  rename_i name' hname'
  have hk : episodeKey name' ≠ episodeKey name := by
    intro heq
    rw [hname', episodeKey_injective heq] at hv
    exact hv rfl
  split
  · rw [reportMissingInstance]
    dsimp only
    split
    · rfl
    · simp [missingReports, Effect.reportsMissing, hk]
  dsimp only
  split
  · rfl
  split
  · rfl
  split
  · exact (noteRecovered_flagged name _ _).2 _
  · exact (redispatch_flagged s name _ _ _).2 _

/-! ## One pass -/

/-- The loop of keep-alive: the first round for the service may report, the others find the flag as
the first left it. -/
theorem visitAll_flagged (s : Supervisor) (instances : List SystemInstance)
    (offline : List Agent) (name : String) (eps : Episodes) (vs : List Visit) :
    flagged name (visitAll s instances offline eps vs).1 =
        (if (roundsFor s name vs).isEmpty then flagged name eps
          else (instanceOf instances name).isNone) ∧
      missingReports name (visitAll s instances offline eps vs).2 =
        if !(roundsFor s name vs).isEmpty && (instanceOf instances name).isNone &&
          !flagged name eps then 1 else 0 := by
  induction vs generalizing eps with
  | nil => exact ⟨rfl, rfl⟩
  | cons v vs ih =>
    rw [visitAll]
    dsimp only
    obtain ⟨hflag', hreports'⟩ := ih (visit s instances offline eps v).1
    rw [missingReports_append, hflag', hreports']
    by_cases hv : serviceOf s v.reg = some name
    · obtain ⟨hflag, hreports⟩ := visit_flagged instances offline eps hv
      rw [hflag, hreports, roundsFor_cons_of_eq hv]
      -- the later rounds report nothing: the flag is up whenever there is no instance
      cases (instanceOf instances name).isNone <;> simp
    · rw [flagged_congr (visit_of_ne instances offline eps hv).1,
        missingReports_visit_of_ne instances offline eps hv, roundsFor_cons_of_ne hv]
      exact ⟨rfl, Nat.zero_add _⟩

theorem missingReports_swept (name : String) (agents : List Agent) :
    missingReports name (agents.map fun a ↦ Effect.agentOffline a.agentUuid) = 0 := by
  simp [missingReports, List.countP_map, Function.comp_def, Effect.reportsMissing]

theorem missingReports_flagStranded (name : String) (instances : List SystemInstance)
    (offline : List Agent) (flags : Uuid → Option Bool) :
    missingReports name (flagStranded instances offline flags) = 0 := by
  simp [missingReports, flagStranded, List.countP_map, Function.comp_def, Effect.reportsMissing]

theorem seenOf_eq_missing (i : Option SystemInstance) (gone : Bool) :
    seenOf i gone = .missing ↔ i.isNone = true := by
  cases i with
  | none => simp [seenOf]
  | some i =>
    simp only [seenOf, Option.isNone_some, Bool.false_eq_true, iff_false]
    split_ifs <;> simp

theorem seenOf_ne_unseen (i : Option SystemInstance) (gone : Bool) : seenOf i gone ≠ .unseen := by
  cases i with
  | none => simp [seenOf]
  | some i =>
    simp only [seenOf]
    split_ifs <;> simp

/-- **One pass.**  If it gets as far as keep-alive then the flag says afterwards whether the pass
was shown the service missing, and the pass reports it if the flag was not up before. -/
theorem tick_flagged (s : Supervisor) (name : String) (eps : Episodes) (t : Tick) :
    flagged name (tick s eps t).1 =
        (if sight s name t = .unseen then flagged name eps
          else decide (sight s name t = .missing)) ∧
      missingReports name (tick s eps t).2 =
        if sight s name t = .missing ∧ flagged name eps = false then 1 else 0 := by
  rw [tick]
  split
  · rename_i hcancelled
    rw [sight, if_pos hcancelled]
    exact ⟨rfl, rfl⟩
  rename_i hcancelled
  rcases hinst : t.instances with _ | instances
  · rw [show sight s name t = .unseen by simp [sight, hinst]]
    exact ⟨rfl, missingReports_swept name t.swept⟩
  dsimp only
  rw [missingReports_append, missingReports_append, missingReports_swept,
    missingReports_flagStranded, Nat.zero_add]
  rcases hvs : t.visits with _ | vs
  · rw [show sight s name t = .unseen by simp [sight, hvs]]
    exact ⟨rfl, rfl⟩
  have hseen : sight s name t = shown s name instances (t.offline.getD []) vs := by
    rw [sight, if_neg hcancelled, hinst, hvs]
  obtain ⟨hflag, hreports⟩ := visitAll_flagged s instances (t.offline.getD []) name eps vs
  simp only [keepAlive]
  rw [hreports, flagged, prune_episodeKey]
  by_cases hrounds : (roundsFor s name vs).isEmpty = true
  · rw [shown, if_pos hrounds] at hseen
    simp [hrounds, hseen]
  · rw [shown, if_neg hrounds] at hseen
    rw [if_neg hrounds] at hflag
    rw [if_neg hrounds, hseen, if_neg (seenOf_ne_unseen _ _), ← flagged, hflag]
    refine ⟨by rw [Bool.eq_iff_iff, decide_eq_true_iff, seenOf_eq_missing], ?_⟩
    simp [seenOf_eq_missing, hrounds]

/-! ## Any sequence of passes -/

/-- The flag is up when the last pass that saw anything was shown the service missing. -/
theorem flagged_run (s : Supervisor) (name : String) (ts : List Tick) :
    flagged name (run (supervise s) .fresh ts) =
      decide (lastSight s name ts = some .missing) := by
  induction ts using List.reverseRecOn with
  | nil => rfl
  | append_singleton ts t ih =>
    rw [run_append, lastSight_concat]
    refine (tick_flagged s name _ t).1.trans ?_
    rw [ih]
    by_cases hseen : sight s name t = .unseen
    · rw [if_pos hseen, if_pos hseen]
    · rw [if_neg hseen, if_neg hseen]
      simp

/-- A pass reports when it is the first of a gap, and not otherwise. -/
theorem missingReports_tick (s : Supervisor) (name : String) (pre : List Tick) (t : Tick) :
    missingReports name (tick s (run (supervise s) .fresh pre) t).2 =
      if sight s name t = .missing ∧ lastSight s name pre ≠ some .missing then 1 else 0 := by
  rw [(tick_flagged s name _ t).2, flagged_run]
  simp only [decide_eq_false_iff_not, ne_eq]

/-- The passes that follow the first of a gap keep quiet. -/
theorem quiet_after_first {s : Supervisor} {name : String} {pre gap : List Tick}
    (hpre : lastSight s name pre = some .missing)
    (h : ∀ t ∈ gap, sight s name t = .missing ∨ sight s name t = .unseen) :
    (trace s (run (supervise s) .fresh pre) gap).map (fun x ↦ missingReports name x.2) =
      List.replicate gap.length 0 := by
  induction gap generalizing pre with
  | nil => rfl
  | cons t gap ih =>
    rw [trace, List.map_cons, List.length_cons, List.replicate_succ]
    have hnext := lastSight_concat_of_missing hpre (h t List.mem_cons_self)
    have hrest := ih hnext fun t' ht' ↦ h t' (List.mem_cons_of_mem _ ht')
    rw [run_append] at hrest
    refine congrArg₂ List.cons ?_ hrest
    rw [missingReports_tick, if_neg fun hopens ↦ hopens.2 hpre]

/-- **A missing instance is reported once per gap.**  In every sequence of passes, failed reads
included, a pass reports the service missing exactly when it opens a gap; so of the passes of a gap
the first reports it once and the others do not. -/
theorem missing_reported_once_per_gap (s : Supervisor) (name : String) :
    (∀ pre t, missingReports name (tick s (run (supervise s) .fresh pre) t).2 =
        if sight s name t = .missing ∧ lastSight s name pre ≠ some .missing then 1 else 0) ∧
      ∀ pre gap post, IsGap s name pre gap post →
        (trace s (run (supervise s) .fresh pre) gap).map (fun x ↦ missingReports name x.2) =
          1 :: List.replicate (gap.length - 1) 0 := by
  refine ⟨missingReports_tick s name, ?_⟩
  intro pre gap post h
  have hopens := h.opens
  have hstays := h.stays
  rcases gap with _ | ⟨t, gap⟩
  · cases hopens
  simp only [List.head?_cons, Option.map_some, Option.some.injEq] at hopens
  have hpre : lastSight s name (pre ++ [t]) = some .missing := by
    rw [lastSight_concat, hopens]
    rfl
  have hrest := quiet_after_first hpre fun t' ht' ↦ hstays t' (List.mem_cons_of_mem _ ht')
  rw [run_append] at hrest
  rw [trace, List.map_cons, List.length_cons, Nat.add_sub_cancel]
  refine congrArg₂ List.cons ?_ hrest
  rw [missingReports_tick, if_pos ⟨hopens, h.not_before⟩]

/-- A pass over an empty snapshot with two registrations of one normalised name. -/
def gapTick : Tick where
  cancelled := false
  swept := []
  offline := some []
  instances := some []
  flags := fun _ ↦ none
  visits := some [⟨⟨3, "Auth "⟩, 10 ^ 9, true⟩, ⟨⟨4, "auth"⟩, 10 ^ 9, true⟩]

/-- The instance is re-dispatched and then gone for three passes, one of which cannot read the
registry. -/
theorem missing_reported_once_per_gap_auth :
    let pre := [authTick "failed" 1 0]
    let gap := [gapTick, { gapTick with visits := none }, gapTick]
    IsGap quickSupervisor "auth" pre gap [authTick "running" 1 1] ∧
      (trace quickSupervisor (run (supervise quickSupervisor) .fresh pre) gap).map
        (fun x ↦ missingReports "auth" x.2) = [1, 0, 0] := by
  intro pre gap
  have hgap : IsGap quickSupervisor "auth" pre gap [authTick "running" 1 1] :=
    ⟨by decide, by decide, by decide, by decide⟩
  exact ⟨hgap, (missing_reported_once_per_gap quickSupervisor "auth").2 pre gap _ hgap⟩

end Maintainerd

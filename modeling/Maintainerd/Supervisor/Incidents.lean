import Maintainerd.Supervisor.Escalation

/-!
# The incident log

`Supervisor/Escalation.lean` says what keep-alive announces when every pass is told the plain truth
about a service.  This file is about what an operator may conclude from the log whatever the passes
are told: reads that fail, instances that come and go, rounds inside the stale window, services that
are torn down or dropped from the registry with an escalation still open, and restarts of the
process, which lose the episodes altogether.

All that is left of an episode here is a `Book`, the count and whether an escalation is open.
`visit_entry` says which few things a round can do to it and what it writes into the log as it does;
`Balanced` ties the book to the log, and `alarms_balance` is what follows for every log at every
point of it.
-/

set_option autoImplicit false

namespace Maintainerd

open Machine

/-! ## The log over restarts -/

/-- A pass of the supervisor, or a restart of its process. -/
inductive Shift where
  | pass (t : Tick)
  | restart

/-- The episodes, and everything done so far. -/
def Shift.step (s : Supervisor) (x : Episodes × List Effect) : Shift → Episodes × List Effect
  | .pass t => ((tick s x.1 t).1, x.2 ++ (tick s x.1 t).2)
  | .restart => (.fresh, x.2)

/-- What the log says about a service. -/
def incidentLog (s : Supervisor) (name : String) (shifts : List Shift) : List Notice :=
  notices (episodeKey name) (run (Shift.step s) (.fresh, []) shifts).2

/-! ## What a round does to the book of a service -/

/-- The re-dispatches counted, and whether an escalation is open. -/
structure Book where
  count : ℕ
  raised : Bool

/-- The book of an episode. -/
def Episodes.book (eps : Episodes) (key : String) : Book :=
  ⟨((eps key).getD {}).redispatches, ((eps key).getD {}).escalated⟩

/-- What can happen to a book, and what is logged. -/
inductive Entry (e : Int) : Book → List Notice → Book → Prop where
  | keep (b : Book) : Entry e b [] b
  | drop (b : Book) : Entry e b [] ⟨0, false⟩
  | again (b : Book) : Entry e b [.redispatched] ⟨b.count + 1, b.raised⟩
  | raise (c : ℕ) (h : e ≤ c) : Entry e ⟨c, false⟩ [.redispatched, .escalated] ⟨c + 1, true⟩
  | close (c : ℕ) : Entry e ⟨c, true⟩ [.recovered] ⟨0, false⟩

theorem book_clearMissing (eps : Episodes) (key : String) :
    (clearMissing eps key).book key = eps.book key := by
  rcases hep : eps key with _ | ep
  · simp only [clearMissing, hep]
  · simp only [clearMissing, Episodes.book, hep, Episodes.set_self, Option.getD_some]

theorem entry_noteRecovered (e : Int) (eps : Episodes) (key : String) (i : SystemInstance) :
    Entry e (eps.book key) (notices key (noteRecovered eps key i).2)
      ((noteRecovered eps key i).1.book key) := by
  rcases hep : eps key with _ | ⟨missing, c, raised⟩
  · simp only [noteRecovered, hep]
    exact .keep _
  · simp only [noteRecovered, hep, Episodes.book, Episodes.set_self, Option.getD_some]
    rcases raised with _ | _
    · exact .drop _
    · simp only [notices, if_true, List.filterMap_cons, List.filterMap_nil, Effect.notice]
      exact .close c

theorem entry_redispatch (s : Supervisor) (eps : Episodes) (key : String) (i : SystemInstance)
    (ok : Bool) :
    Entry s.opts.escalateAfter (eps.book key) (notices key (redispatch s eps key i ok).2)
      ((redispatch s eps key i ok).1.book key) := by
  rcases ok with _ | _
  · exact .keep _
  simp only [redispatch, if_true, Episodes.book, Episodes.set_self, Option.getD_some]
  generalize (eps key).getD {} = ep
  obtain ⟨missing, c, raised⟩ := ep
  by_cases hraise : s.opts.escalateAfter < ((c + 1 : ℕ) : Int) ∧ raised = false
  · obtain ⟨hpast, rfl⟩ := hraise
    simp only [hpast, notices, decide_true, Bool.not_false, Bool.and_self, Bool.or_true, if_true,
      List.filterMap_cons, List.filterMap_nil, Effect.notice]
    exact .raise c (by omega)
  · have hnot : (decide (s.opts.escalateAfter < ((c + 1 : ℕ) : Int)) && !raised) = false := by
      rw [← Bool.not_eq_true, Bool.and_eq_true, decide_eq_true_eq, Bool.not_eq_true']
      exact hraise
    simp only [hnot, notices, Bool.or_false, Bool.false_eq_true, if_false, if_true,
      List.filterMap_cons, List.filterMap_nil, Effect.notice]
    exact .again ⟨c, raised⟩

/-- **What a round can do** to the book of a service, whatever it is told. -/
theorem visit_entry (s : Supervisor) (instances : List SystemInstance) (offline : List Agent)
    (name : String) (eps : Episodes) (v : Visit) :
    Entry s.opts.escalateAfter (eps.book (episodeKey name))
      (notices (episodeKey name) (visit s instances offline eps v).2)
      ((visit s instances offline eps v).1.book (episodeKey name)) := by
  by_cases hv : serviceOf s v.reg = some name
  · unfold visit
    rw [hv]
    dsimp only
    split
    · -- a missing instance is reported in the episode, and the book is left as it is
      have hnot : notices (episodeKey name)
          (reportMissingInstance eps (episodeKey name) v.reg).2 = [] := by
        rw [reportMissingInstance]
        dsimp only
        split <;> rfl
      rw [hnot]
      simp only [reportMissingInstance, Episodes.book, Episodes.set_self, Option.getD_some]
      exact .keep _
    rw [← book_clearMissing eps (episodeKey name)]
    split
    · simp only [forget, Episodes.book, Episodes.set_self]
      exact .drop _
    split
    · exact .keep _
    split
    · exact entry_noteRecovered _ _ _ _
    · exact entry_redispatch s _ _ _ _
  · obtain ⟨heps, hnot⟩ := visit_of_ne instances offline eps hv
    rw [hnot]
    simp only [Episodes.book, heps]
    exact .keep _

/-! ## The balance -/

/-- More than `e` re-dispatches stand behind every escalation, and an escalation of its own behind
every recovery. -/
def AlarmsBacked (e : Int) (l : List Notice) : Prop :=
  (e + 1) * (l.count .escalated : ℕ) ≤ (l.count .redispatched : ℕ) ∧
    l.count .recovered ≤ l.count .escalated

/-- The book and the log of a service.  The re-dispatches that are counted but not escalated, and
the escalation that is open, are not used up yet. -/
structure Balanced (e : Int) (b : Book) (l : List Notice) : Prop where
  counted : (e + 1) * (l.count .escalated : ℕ) + (if b.raised then 0 else (b.count : Int)) ≤
    (l.count .redispatched : ℕ)
  opened : l.count .recovered + b.raised.toNat ≤ l.count .escalated
  always : ∀ p, p <+: l → AlarmsBacked e p

theorem balanced_start (e : Int) : Balanced e ⟨0, false⟩ [] where
  counted := by simp
  opened := by simp
  always p hp := by
    rw [List.prefix_nil.mp hp]
    simp [AlarmsBacked]

/-- What a book that is dropped was good for is lost, and nothing else. -/
theorem Balanced.drop {e : Int} {b : Book} {l : List Notice} (h : Balanced e b l) :
    Balanced e ⟨0, false⟩ l := by
  obtain ⟨hcounted, hopened, halways⟩ := h
  refine ⟨?_, ?_, halways⟩
  · simp only [Bool.false_eq_true, if_false, Nat.cast_zero, add_zero]
    split at hcounted <;> omega
  · simp only [Bool.toNat_false, Nat.add_zero]
    omega

/-- A log that is balanced stays so when one more notice is backed. -/
theorem Balanced.concat {e : Int} {b b' : Book} {l : List Notice} {n : Notice}
    (h : Balanced e b l)
    (hcounted : (e + 1) * ((l ++ [n]).count .escalated : ℕ) +
      (if b'.raised then 0 else (b'.count : Int)) ≤ ((l ++ [n]).count .redispatched : ℕ))
    (hopened : (l ++ [n]).count .recovered + b'.raised.toNat ≤ (l ++ [n]).count .escalated) :
    Balanced e b' (l ++ [n]) := by
  refine ⟨hcounted, hopened, fun p hp ↦ ?_⟩
  rcases List.prefix_concat_iff.mp hp with rfl | hp
  · refine ⟨?_, by omega⟩
    split at hcounted <;> omega
  · exact h.always p hp

/-- **One entry keeps the balance.** -/
theorem Balanced.entry {e : Int} {b b' : Book} {l n : List Notice} (h : Balanced e b l)
    (hn : Entry e b n b') : Balanced e b' (l ++ n) := by
  have hcounted := h.counted
  have hopened := h.opened
  induction hn with
  | keep b => rwa [List.append_nil]
  | drop b => rw [List.append_nil]; exact h.drop
  | again b =>
    refine h.concat ?_ (by simpa [List.count_append] using hopened)
    rcases b with ⟨c, _ | _⟩
    · simp [List.count_append] at hcounted ⊢
      omega
    · simp [List.count_append] at hcounted ⊢
      omega
  | raise c hc =>
    -- the re-dispatch is counted before the escalation uses the count up
    have hagain : Balanced e ⟨c + 1, false⟩ (l ++ [.redispatched]) := by
      refine h.concat ?_ (by simpa [List.count_append] using hopened)
      simp [List.count_append] at hcounted ⊢
      omega
    have hcounted' := hagain.counted
    rw [List.append_cons]
    refine hagain.concat ?_ ?_
    · simp [List.count_append] at hcounted' ⊢
      rw [mul_add, mul_one]
      omega
    · simpa [List.count_append] using hopened
  | close c =>
    refine h.concat (by simpa [List.count_append] using hcounted) ?_
    simp [List.count_append] at hopened ⊢
    omega

/-! ## Any passes and restarts -/

theorem Balanced.visitAll {s : Supervisor} {name : String} {eps : Episodes} {l : List Notice}
    (h : Balanced s.opts.escalateAfter (eps.book (episodeKey name)) l)
    (instances : List SystemInstance) (offline : List Agent) (vs : List Visit) :
    Balanced s.opts.escalateAfter
      ((visitAll s instances offline eps vs).1.book (episodeKey name))
      (l ++ notices (episodeKey name) (visitAll s instances offline eps vs).2) := by
  induction vs generalizing eps l with
  | nil =>
    rw [show notices (episodeKey name) (Maintainerd.visitAll s instances offline eps []).2 = []
      from rfl, List.append_nil]
    exact h
  | cons v vs ih =>
    rw [Maintainerd.visitAll]
    dsimp only
    rw [notices_append, ← List.append_assoc]
    exact ih (h.entry (visit_entry s instances offline name eps v))

/-- **One pass keeps the balance.** -/
theorem Balanced.tick {s : Supervisor} {name : String} {eps : Episodes} {l : List Notice}
    (h : Balanced s.opts.escalateAfter (eps.book (episodeKey name)) l) (t : Tick) :
    Balanced s.opts.escalateAfter ((tick s eps t).1.book (episodeKey name))
      (l ++ notices (episodeKey name) (tick s eps t).2) := by
  have hsame : Balanced s.opts.escalateAfter (eps.book (episodeKey name)) (l ++ []) := by
    rwa [List.append_nil]
  rw [Maintainerd.tick]
  split
  · exact hsame
  rcases t.instances with _ | instances
  · dsimp only
    rw [notices_swept]
    exact hsame
  dsimp only
  rw [notices_append, notices_append, notices_swept, notices_flagStranded]
  rcases t.visits with _ | vs
  · exact hsame
  have hwalked := h.visitAll instances (t.offline.getD []) vs
  simp only [keepAlive, List.nil_append, Episodes.book, prune_episodeKey] at hwalked ⊢
  split
  · exact hwalked.drop
  · exact hwalked

/-- **Alarms are backed by re-dispatches, and all-clears by alarms.**  Take any list of passes and
restarts, whatever the passes are told, and the log of any service at any point of it.  The
re-dispatches so far are at least `EscalateAfter + 1` for every escalation, and there are no more
recoveries than escalations: a log never reports the end of an incident that it has not reported the
start of. -/
theorem alarms_balance (s : Supervisor) (name : String) (shifts : List Shift) (n : ℕ) :
    let l := (incidentLog s name shifts).take n
    (s.opts.escalateAfter + 1) * (l.count .escalated : ℕ) ≤ (l.count .redispatched : ℕ) ∧
      l.count .recovered ≤ l.count .escalated := by
  have hbalanced : Balanced s.opts.escalateAfter
      ((run (Shift.step s) (.fresh, []) shifts).1.book (episodeKey name))
      (incidentLog s name shifts) := by
    refine invariant_run (I := fun x : Episodes × List Effect ↦
      Balanced s.opts.escalateAfter (x.1.book (episodeKey name)) (notices (episodeKey name) x.2))
      shifts (balanced_start _) fun x shift h ↦ ?_
    rcases shift with t | _
    · rw [Shift.step]
      dsimp only
      rw [notices_append]
      exact h.tick t
    · exact h.drop
  exact hbalanced.always _ (List.take_prefix n _)

/-- A restart in the middle of an incident: it is escalated again, and closed once. -/
example : incidentLog quickSupervisor "auth" [.pass (authTick "failed" 1 0),
    .pass (authTick "failed" 2 0), .restart, .pass (authTick "failed" 3 0),
    .pass (authTick "failed" 4 0), .pass (authTick "running" 5 5)] =
    [.redispatched, .redispatched, .escalated, .redispatched, .redispatched, .escalated,
      .recovered] := by
  decide

end Maintainerd

import Mathlib.Data.List.Basic

/-!
# Runs of a machine

A machine is a step function `σ → ω → σ`, and a run of it is a list of operations.  This file is
the little of the theory of runs that the rest of the development needs, over arbitrary types.

* `Machine.run step s ops` is the state the run ends in.
* `Machine.Guarded step G s ops` says that every operation of the run meets `G` in the state it is
  applied to.  A guard may look at the state *before* its operation, which is what tells it from a
  condition on the list of operations.
* `Guarded.invariant` is the induction every invariant goes through: an invariant that one guarded
  step keeps, a guarded run keeps.  `Guarded.relates` is the same rule for a preorder between the
  two ends of a run, which is how "never decreases" is stated.
* `Guarded.until` is the rule for *until*: if a step either keeps the invariant or is an exit, then
  a run either keeps it or contains an exit, taken from a state where the invariant still held.
* `forall_points_iff` is the rule for a property that is to hold at every point of a run.
* `Machine.tally step p s ops` counts the operations of the run that are of the kind `p`, and
  `Guarded.tallied` is the invariant rule with that count beside the state.
-/

set_option autoImplicit false

namespace Machine

universe u v

variable {σ : Type u} {ω : Type v} {step : σ → ω → σ} {G : σ → ω → Prop}

/-- The state a run ends in. -/
def run (step : σ → ω → σ) (s : σ) (ops : List ω) : σ := ops.foldl step s

@[simp] theorem run_nil (s : σ) : run step s [] = s := rfl

@[simp] theorem run_cons (s : σ) (o : ω) (ops : List ω) :
    run step s (o :: ops) = run step (step s o) ops := rfl

theorem run_append (s : σ) (ops ops' : List ω) :
    run step s (ops ++ ops') = run step (run step s ops) ops' :=
  List.foldl_append

/-- Every operation of the run meets `G` in the state it is applied to. -/
def Guarded (step : σ → ω → σ) (G : σ → ω → Prop) : σ → List ω → Prop
  | _, [] => True
  | s, o :: ops => G s o ∧ Guarded step G (step s o) ops

instance decidableGuarded [∀ s o, Decidable (G s o)] :
    (s : σ) → (ops : List ω) → Decidable (Guarded step G s ops)
  | _, [] => isTrue trivial
  | s, o :: ops => @instDecidableAnd _ _ _ (decidableGuarded (step s o) ops)

theorem guarded_append {s : σ} {ops ops' : List ω} :
    Guarded step G s (ops ++ ops') ↔
      Guarded step G s ops ∧ Guarded step G (run step s ops) ops' := by
  induction ops generalizing s with
  | nil => simp [Guarded]
  | cons o ops ih => simp [Guarded, ih, and_assoc]

/-- The guard of one operation, read off the guard of the run. -/
theorem Guarded.apply {s : σ} {pre post : List ω} {o : ω}
    (h : Guarded step G s (pre ++ o :: post)) : G (run step s pre) o :=
  (guarded_append.mp h).2.1

/-- A guard that looks at the operation alone holds along the run as soon as it holds of every
operation. -/
theorem guarded_of_forall {s : σ} {ops : List ω} (h : ∀ s, ∀ o ∈ ops, G s o) :
    Guarded step G s ops := by
  induction ops generalizing s with
  | nil => trivial
  | cons o ops ih =>
    exact ⟨h s o List.mem_cons_self, ih fun s o ho ↦ h s o (List.mem_cons_of_mem _ ho)⟩

/-- A run that is not guarded has an operation that does not meet the guard. -/
theorem exists_of_not_guarded {s : σ} {ops : List ω} (h : ¬ Guarded step G s ops) :
    ∃ pre o post, ops = pre ++ o :: post ∧ ¬ G (run step s pre) o := by
  induction ops generalizing s with
  | nil => exact absurd trivial h
  | cons o ops ih =>
    by_cases ho : G s o
    · obtain ⟨pre, o', post, rfl, hnot⟩ := ih fun hrest ↦ h ⟨ho, hrest⟩
      exact ⟨o :: pre, o', post, rfl, hnot⟩
    · exact ⟨[], o, ops, rfl, ho⟩

/-- **The invariant rule.**  What one guarded step keeps, a guarded run keeps. -/
theorem Guarded.invariant {I : σ → Prop} {s : σ} {ops : List ω} (h : Guarded step G s ops)
    (hs : I s) (hstep : ∀ s o, I s → G s o → I (step s o)) : I (run step s ops) := by
  induction ops generalizing s with
  | nil => exact hs
  | cons o ops ih => exact ih h.2 (hstep s o hs h.1)

/-- A run whose steps need no guard. -/
theorem guarded_true (s : σ) (ops : List ω) : Guarded step (fun _ _ ↦ True) s ops :=
  guarded_of_forall fun _ _ _ ↦ trivial

/-- The invariant rule for steps that need no guard. -/
theorem invariant_run {I : σ → Prop} {s : σ} (ops : List ω) (hs : I s)
    (hstep : ∀ s o, I s → I (step s o)) : I (run step s ops) :=
  (guarded_true s ops).invariant hs fun s o h _ ↦ hstep s o h

/-- Along a run that keeps an invariant, a guard may be replaced by what it implies there. -/
theorem Guarded.imp {I : σ → Prop} {G' : σ → ω → Prop} {s : σ} {ops : List ω}
    (h : Guarded step G s ops) (hs : I s) (hinv : ∀ s o, I s → G s o → I (step s o))
    (himp : ∀ s o, I s → G s o → G' s o) : Guarded step G' s ops := by
  induction ops generalizing s with
  | nil => trivial
  | cons o ops ih => exact ⟨himp s o hs h.1, ih h.2 (hinv s o hs h.1)⟩

theorem Guarded.and {G' : σ → ω → Prop} {s : σ} {ops : List ω} (h : Guarded step G s ops)
    (h' : Guarded step G' s ops) : Guarded step (fun s o ↦ G s o ∧ G' s o) s ops := by
  induction ops generalizing s with
  | nil => trivial
  | cons o ops ih => exact ⟨⟨h.1, h'.1⟩, ih h.2 h'.2⟩

/-- **The preorder rule.**  If every guarded step from a state of the invariant moves up in a
preorder, so does the whole run. -/
theorem Guarded.relates {I : σ → Prop} {R : σ → σ → Prop} {s : σ} {ops : List ω}
    (h : Guarded step G s ops) (hs : I s) (hrefl : ∀ s, R s s)
    (htrans : ∀ a b c, R a b → R b c → R a c)
    (hinv : ∀ s o, I s → G s o → I (step s o))
    (hstep : ∀ s o, I s → G s o → R s (step s o)) : R s (run step s ops) := by
  induction ops generalizing s with
  | nil => exact hrefl s
  | cons o ops ih =>
    exact htrans _ _ _ (hstep s o hs h.1) (ih h.2 (hinv s o hs h.1))

/-- **The rule for until.**  If a guarded step either keeps the invariant or is an exit, then a
guarded run keeps the invariant to its end or takes an exit from a state that still had it. -/
theorem Guarded.until {I : σ → Prop} {E : σ → ω → Prop} {s : σ} {ops : List ω}
    (h : Guarded step G s ops) (hs : I s)
    (hstep : ∀ s o, I s → G s o → I (step s o) ∨ E s o) :
    I (run step s ops) ∨
      ∃ pre o post, ops = pre ++ o :: post ∧ I (run step s pre) ∧ E (run step s pre) o := by
  induction ops generalizing s with
  | nil => exact Or.inl hs
  | cons o ops ih =>
    rcases hstep s o hs h.1 with hk | he
    · rcases ih h.2 hk with hr | ⟨pre, o', post, rfl, hi, hx⟩
      · exact Or.inl hr
      · exact Or.inr ⟨o :: pre, o', post, rfl, hi, hx⟩
    · exact Or.inr ⟨[], o, ops, rfl, hs, he⟩

/-- **The rule for every point of a run.**  If a step from a state of the invariant keeps a property
exactly if it meets the guard, then the property holds at every point of a run exactly if it holds
at its start and the run is guarded. -/
theorem forall_points_iff {I J : σ → Prop} {s : σ} {ops : List ω} (hs : J s)
    (hinv : ∀ s, ∀ o ∈ ops, J s → J (step s o))
    (hstep : ∀ s, ∀ o ∈ ops, J s → I s → (I (step s o) ↔ G s o)) :
    (∀ pre post, ops = pre ++ post → I (run step s pre)) ↔ I s ∧ Guarded step G s ops := by
  induction ops generalizing s with
  | nil =>
    refine ⟨fun h ↦ ⟨h [] [] rfl, trivial⟩, fun h pre post heq ↦ ?_⟩
    rw [(List.append_eq_nil_iff.mp heq.symm).1]
    exact h.1
  | cons o ops ih =>
    have hone := hstep s o List.mem_cons_self hs
    have hrest := ih (hinv s o List.mem_cons_self hs)
      (fun s o ho ↦ hinv s o (List.mem_cons_of_mem _ ho))
      fun s o ho ↦ hstep s o (List.mem_cons_of_mem _ ho)
    constructor
    · intro h
      have hnow := h [] (o :: ops) rfl
      have hafter := hrest.mp fun pre post heq ↦ h (o :: pre) post (by rw [heq]; rfl)
      exact ⟨hnow, (hone hnow).mp hafter.1, hafter.2⟩
    · rintro ⟨hnow, hguard, hguarded⟩ pre post heq
      rcases List.cons_eq_append_iff.mp heq with ⟨rfl, -⟩ | ⟨pre', rfl, hops⟩
      · exact hnow
      · exact hrest.mpr ⟨(hone hnow).mpr hguard, hguarded⟩ pre' post hops

/-- What holds at every point of a list of operations can be checked index by index. -/
theorem forall_split {P : List ω → ω → List ω → Prop} {ops : List ω} :
    (∀ pre o post, ops = pre ++ o :: post → P pre o post) ↔
      ∀ i : Fin ops.length, P (ops.take i) (ops.get i) (ops.drop (i + 1)) := by
  constructor
  · intro h i
    refine h _ _ _ ?_
    rw [List.get_eq_getElem, List.getElem_cons_drop, List.take_append_drop]
  · rintro h pre o post rfl
    simpa using h ⟨pre.length, by simp⟩

/-- A log each of whose entries is backed by those before it can be continued by a log each of whose
entries is backed by all that is before it. -/
theorem forall_split_append {P : List ω → ω → Prop} {log more : List ω}
    (h : ∀ pre o post, log = pre ++ o :: post → P pre o)
    (h' : ∀ pre o post, more = pre ++ o :: post → P (log ++ pre) o) :
    ∀ pre o post, log ++ more = pre ++ o :: post → P pre o := by
  intro pre o post heq
  rcases List.append_eq_append_iff.mp heq with ⟨mid, rfl, hmore⟩ | ⟨mid, hlog, hmid⟩
  · exact h' mid o post hmore
  · rcases mid with _ | ⟨o', mid⟩
    · rw [List.append_nil] at hlog
      have := h' [] o post hmid.symm
      rwa [List.append_nil, hlog] at this
    · obtain ⟨rfl, -⟩ := List.cons.inj hmid
      exact h pre o mid hlog

/-! ## Counting along a run -/

/-- How many operations of the run are of a kind, each one judged in the state it is applied to. -/
def tally (step : σ → ω → σ) (p : σ → ω → Bool) : σ → List ω → ℕ
  | _, [] => 0
  | s, o :: ops => (p s o).toNat + tally step p (step s o) ops

theorem tally_append (p : σ → ω → Bool) (s : σ) (ops ops' : List ω) :
    tally step p s (ops ++ ops') = tally step p s ops + tally step p (run step s ops) ops' := by
  induction ops generalizing s with
  | nil => simp [tally]
  | cons o ops ih => simp [tally, ih, Nat.add_assoc]

theorem tally_singleton (p : σ → ω → Bool) (s : σ) (o : ω) :
    tally step p s [o] = (p s o).toNat := rfl

/-- What is counted has happened. -/
theorem exists_of_tally_pos {p : σ → ω → Bool} {s : σ} {ops : List ω}
    (h : 0 < tally step p s ops) : ∃ s', ∃ o ∈ ops, p s' o = true := by
  induction ops generalizing s with
  | nil => exact absurd h (Nat.lt_irrefl 0)
  | cons o ops ih =>
    rcases hp : p s o with _ | _
    · rw [tally, hp, Bool.toNat_false, Nat.zero_add] at h
      obtain ⟨s', o', ho', hp'⟩ := ih h
      exact ⟨s', o', List.mem_cons_of_mem _ ho', hp'⟩
    · exact ⟨s, o, List.mem_cons_self, hp⟩

theorem tally_congr {p q : σ → ω → Bool} {s : σ} {ops : List ω}
    (h : ∀ s, ∀ o ∈ ops, p s o = q s o) : tally step p s ops = tally step q s ops := by
  induction ops generalizing s with
  | nil => rfl
  | cons o ops ih =>
    rw [tally, tally, h s o List.mem_cons_self, ih fun s o ho ↦ h s o (List.mem_cons_of_mem _ ho)]

/-- What is of a narrower kind is counted less often. -/
theorem tally_and_le (p q : σ → ω → Bool) (s : σ) (ops : List ω) :
    tally step (fun s o ↦ p s o && q s o) s ops ≤ tally step p s ops := by
  induction ops generalizing s with
  | nil => exact Nat.le_refl 0
  | cons o ops ih =>
    refine Nat.add_le_add ?_ (ih (step s o))
    rcases hp : p s o with _ | _
    · simp [hp]
    · exact Bool.toNat_le _

/-- A run has as many operations of a narrower kind as of the wider one exactly if each operation of
the wider kind is of the narrower one where it is applied. -/
theorem tally_and_eq_iff (p q : σ → ω → Bool) (s : σ) (ops : List ω) :
    tally step (fun s o ↦ p s o && q s o) s ops = tally step p s ops ↔
      Guarded step (fun s o ↦ p s o = true → q s o = true) s ops := by
  induction ops generalizing s with
  | nil => exact ⟨fun _ ↦ trivial, fun _ ↦ rfl⟩
  | cons o ops ih =>
    have hle : tally step (fun s o ↦ p s o && q s o) (step s o) ops ≤ tally step p (step s o) ops :=
      tally_and_le p q (step s o) ops
    rw [tally, tally, Guarded, ← ih]
    rcases p s o with _ | _
    · simp
    · rcases q s o with _ | _
      · simp
        omega
      · simp

/-- **The invariant rule with a count.**  What one guarded step keeps while it counts, a guarded run
keeps with its tally. -/
theorem Guarded.tallied {I : ℕ → σ → Prop} {p : σ → ω → Bool} {n : ℕ} {s : σ} {ops : List ω}
    (h : Guarded step G s ops) (hs : I n s)
    (hstep : ∀ n s o, I n s → G s o → I (n + (p s o).toNat) (step s o)) :
    I (n + tally step p s ops) (run step s ops) := by
  induction ops generalizing n s with
  | nil => exact hs
  | cons o ops ih =>
    have hrest := ih h.2 (hstep n s o hs h.1)
    rwa [Nat.add_assoc] at hrest

/-- The same for steps that need no guard. -/
theorem invariant_tally {I : ℕ → σ → Prop} {p : σ → ω → Bool} {n : ℕ} {s : σ} (ops : List ω)
    (hs : I n s) (hstep : ∀ n s o, I n s → I (n + (p s o).toNat) (step s o)) :
    I (n + tally step p s ops) (run step s ops) :=
  (guarded_true s ops).tallied hs fun n s o h _ ↦ hstep n s o h

end Machine

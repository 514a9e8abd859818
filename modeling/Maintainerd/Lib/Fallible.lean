import Mathlib.Logic.Basic

/-!
# Programs that fail half-way

A program that works on a state and may fail, over arbitrary types.  What it has done to the state
before it fails stays done: nothing is rolled back, which is the point of reasoning about it.

`Spec P m Q E` is its triple: from a state of `P`, the program ends in a state of `Q` when it
returns and in a state of `E` when it fails.  The rules below follow the program text, one rule for
each way of putting programs together.

`forEach_related` is about two runs of one loop, on two states: it is how "what is secret does not
show" is proved.
-/

set_option autoImplicit false

namespace Fallible

universe u

/-- A program on states `σ` that returns an `α` or fails with an `ε`. -/
def Prog (σ ε α : Type u) : Type u := σ → σ × Except ε α

variable {σ ε α β : Type u}

/-- Return without doing anything. -/
def ret (a : α) : Prog σ ε α := fun s ↦ (s, .ok a)

/-- One program after the other; a failure of the first is the failure of both. -/
def seq (m : Prog σ ε α) (f : α → Prog σ ε β) : Prog σ ε β := fun s ↦
  match m s with
  | (s', .ok a) => f a s'
  | (s', .error e) => (s', .error e)

instance : Monad (Prog σ ε) where
  pure := ret
  bind := seq

/-- Fail. -/
def fail (e : ε) : Prog σ ε α := fun s ↦ (s, .error e)

/-- Fail unless the condition holds. -/
def require (c : Bool) (e : ε) : Prog σ ε PUnit := if c then ret ⟨⟩ else fail e

/-- The state. -/
def get : Prog σ ε σ := fun s ↦ (s, .ok s)

/-- Change the state. -/
def modify (f : σ → σ) : Prog σ ε PUnit := fun s ↦ (f s, .ok ⟨⟩)

/-- Run a program and go on whether it fails or not. -/
def attempt (m : Prog σ ε α) : Prog σ ε (Option α) := fun s ↦
  match m s with
  | (s', .ok a) => (s', .ok (some a))
  | (s', .error _) => (s', .ok none)

/-- Run a program for what it does; whether it fails makes no difference. -/
def passOver (m : Prog σ ε α) : Prog σ ε PUnit := seq (attempt m) fun _ ↦ ret ⟨⟩

/-- Run a program for each element of a list, up to the first that fails. -/
def forEach {ι : Type u} (f : ι → Prog σ ε PUnit) : List ι → Prog σ ε PUnit
  | [] => ret ⟨⟩
  | i :: is => seq (f i) fun _ ↦ forEach f is

/-! ## Triples -/

/-- From a state of `P` the program ends in a state of `Q` when it returns, and in one of `E` when
it fails. -/
def Spec (P : σ → Prop) (m : Prog σ ε α) (Q : α → σ → Prop) (E : σ → Prop) : Prop :=
  ∀ s, P s →
    match m s with
    | (s', .ok a) => Q a s'
    | (s', .error _) => E s'

theorem Spec.mono {P P' : σ → Prop} {m : Prog σ ε α} {Q Q' : α → σ → Prop} {E E' : σ → Prop}
    (h : Spec P m Q E) (hP : ∀ s, P' s → P s) (hQ : ∀ a s, Q a s → Q' a s)
    (hE : ∀ s, E s → E' s) : Spec P' m Q' E' := by
  intro s hs
  have hm := h s (hP s hs)
  rcases hrun : m s with ⟨s', e | a⟩
  · rw [hrun] at hm
    exact hE s' hm
  · rw [hrun] at hm
    exact hQ a s' hm

/-- Where a program that returns ends. -/
theorem Spec.returns {P : σ → Prop} {m : Prog σ ε α} {Q : α → σ → Prop} {E : σ → Prop}
    (h : Spec P m Q E) {s : σ} (hs : P s) {a : α} (hm : (m s).2 = .ok a) : Q a (m s).1 := by
  have hrun := h s hs
  rcases hms : m s with ⟨s', e | b⟩
  · rw [hms] at hm
    cases hm
  · rw [hms] at hm hrun
    cases hm
    exact hrun

/-- Where a program ends, whether it returns or fails. -/
theorem Spec.ends {P : σ → Prop} {m : Prog σ ε α} {Q : α → σ → Prop} {E T : σ → Prop}
    (h : Spec P m Q E) {s : σ} (hs : P s) (hQ : ∀ a s, Q a s → T s) (hE : ∀ s, E s → T s) :
    T (m s).1 := by
  have hrun := h s hs
  rcases hms : m s with ⟨s', e | a⟩
  · rw [hms] at hrun
    exact hE s' hrun
  · rw [hms] at hrun
    exact hQ a s' hrun

/-- A fact of the precondition that is not about the state. -/
theorem spec_fact {F : Prop} {P : σ → Prop} {m : Prog σ ε α} {Q : α → σ → Prop} {E : σ → Prop}
    (h : F → Spec P m Q E) : Spec (fun s ↦ F ∧ P s) m Q E :=
  fun s hs ↦ h hs.1 s hs.2

theorem spec_pure {P : σ → Prop} {a : α} {Q : α → σ → Prop} {E : σ → Prop}
    (h : ∀ s, P s → Q a s) : Spec P (pure a : Prog σ ε α) Q E := h

theorem spec_fail {P : σ → Prop} {e : ε} {Q : α → σ → Prop} {E : σ → Prop}
    (h : ∀ s, P s → E s) : Spec P (fail e : Prog σ ε α) Q E := h

theorem spec_require {P : σ → Prop} {c : Bool} {e : ε} {Q : PUnit → σ → Prop} {E : σ → Prop}
    (h : c = true → ∀ s, P s → Q ⟨⟩ s) (h' : ∀ s, P s → E s) :
    Spec P (require c e : Prog σ ε PUnit) Q E := by
  cases c with
  | true => exact h rfl
  | false => exact h'

/-- A requirement that is met. -/
theorem spec_require_of {P : σ → Prop} {c : Bool} {e : ε} {Q : PUnit → σ → Prop} {E : σ → Prop}
    (hc : c = true) (h : ∀ s, P s → Q ⟨⟩ s) : Spec P (require c e : Prog σ ε PUnit) Q E := by
  subst hc
  exact h

theorem spec_get {P : σ → Prop} {Q : σ → σ → Prop} {E : σ → Prop} (h : ∀ s, P s → Q s s) :
    Spec P (get : Prog σ ε σ) Q E := h

theorem spec_modify {P : σ → Prop} {f : σ → σ} {Q : PUnit → σ → Prop} {E : σ → Prop}
    (h : ∀ s, P s → Q ⟨⟩ (f s)) : Spec P (modify f : Prog σ ε PUnit) Q E := h

/-- The rule for sequencing. -/
theorem Spec.bind {P : σ → Prop} {m : Prog σ ε α} {R : α → σ → Prop} {f : α → Prog σ ε β}
    {Q : β → σ → Prop} {E : σ → Prop} (hm : Spec P m R E) (hf : ∀ a, Spec (R a) (f a) Q E) :
    Spec P (m >>= f) Q E := by
  intro s hs
  have h := hm s hs
  show match seq m f s with
    | (s', .ok b) => Q b s'
    | (s', .error _) => E s'
  rw [seq]
  rcases hrun : m s with ⟨s', e | a⟩
  · rw [hrun] at h
    exact h
  · rw [hrun] at h
    exact hf a s' h

theorem Spec.attempt {P : σ → Prop} {m : Prog σ ε α} {R : α → σ → Prop} {T E : σ → Prop}
    (hm : Spec P m R T) :
    Spec P (attempt m) (fun o s ↦ match o with | some a => R a s | none => T s) E := by
  intro s hs
  have h := hm s hs
  rw [Fallible.attempt]
  rcases hrun : m s with ⟨s', e | a⟩
  · rw [hrun] at h
    exact h
  · rw [hrun] at h
    exact h

/-- A program that is passed over never fails. -/
theorem Spec.passOver {P Q E : σ → Prop} {m : Prog σ ε α} (hm : Spec P m (fun _ ↦ Q) Q) :
    Spec P (passOver m) (fun _ ↦ Q) E := by
  refine hm.attempt.bind fun o ↦ ?_
  rcases o with _ | a
  · exact spec_pure fun _ h ↦ h
  · exact spec_pure fun _ h ↦ h

theorem spec_ite {P : σ → Prop} {c : Prop} [Decidable c] {m m' : Prog σ ε α} {Q : α → σ → Prop}
    {E : σ → Prop} (h : c → Spec P m Q E) (h' : ¬c → Spec P m' Q E) :
    Spec P (if c then m else m') Q E := by
  split
  · rename_i hc
    exact h hc
  · rename_i hc
    exact h' hc

/-- The rule for a loop: every round takes what holds of the list to what holds of the rest. -/
theorem spec_forEach {ι : Type u} {f : ι → Prog σ ε PUnit} {I : List ι → σ → Prop} {E : σ → Prop}
    (h : ∀ i is, Spec (I (i :: is)) (f i) (fun _ ↦ I is) E) (is : List ι) :
    Spec (I is) (forEach f is) (fun _ ↦ I []) E := by
  induction is with
  | nil => exact fun s hs ↦ hs
  | cons i is ih => exact (h i is).bind fun _ ↦ ih

/-- Two triples of one program are one. -/
theorem Spec.and {P P' : σ → Prop} {m : Prog σ ε α} {Q Q' : α → σ → Prop} {E E' : σ → Prop}
    (h : Spec P m Q E) (h' : Spec P' m Q' E') :
    Spec (fun s ↦ P s ∧ P' s) m (fun a s ↦ Q a s ∧ Q' a s) fun s ↦ E s ∧ E' s := by
  intro s hs
  have hm := h s hs.1
  have hm' := h' s hs.2
  rcases hrun : m s with ⟨s', e | a⟩
  · rw [hrun] at hm hm'
    exact ⟨hm, hm'⟩
  · rw [hrun] at hm hm'
    exact ⟨hm, hm'⟩

/-- The rule for a loop that keeps an invariant. -/
theorem spec_forEach_inv {ι : Type u} {f : ι → Prog σ ε PUnit} {P E : σ → Prop} {is : List ι}
    (h : ∀ i ∈ is, Spec P (f i) (fun _ ↦ P) E) : Spec P (forEach f is) (fun _ ↦ P) E := by
  induction is with
  | nil => exact fun s hs ↦ hs
  | cons i is ih =>
    exact (h i List.mem_cons_self).bind fun _ ↦ ih fun j hj ↦ h j (List.mem_cons_of_mem i hj)

/-- The rule for a loop in which every round does the work of its element and none undoes the work
of another. -/
theorem spec_forEach_each {ι : Type u} {f : ι → Prog σ ε PUnit} {P E : σ → Prop}
    {D : ι → σ → Prop} {is : List ι} (h : ∀ i ∈ is, Spec P (f i) (fun _ s ↦ P s ∧ D i s) E)
    (hkeep : ∀ i ∈ is, ∀ j, Spec (fun s ↦ P s ∧ D j s) (f i) (fun _ ↦ D j) E) :
    Spec P (forEach f is) (fun _ s ↦ P s ∧ ∀ i ∈ is, D i s) E := by
  induction is with
  | nil => exact fun s hs ↦ ⟨hs, by simp⟩
  | cons i is ih =>
    have htail : ∀ j ∈ is, j ∈ i :: is := fun j hj ↦ List.mem_cons_of_mem i hj
    have hrest := ih (fun j hj ↦ h j (htail j hj)) fun j hj ↦ hkeep j (htail j hj)
    have hstays : Spec (fun s ↦ P s ∧ D i s) (forEach f is) (fun _ s ↦ P s ∧ D i s) E := by
      refine spec_forEach_inv fun j hj ↦ ?_
      have hj' := h j (htail j hj)
      exact (hj'.and (hkeep j (htail j hj) i)).mono (fun s hs ↦ ⟨hs.1, hs⟩)
        (fun _ _ hs ↦ ⟨hs.1.1, hs.2⟩) fun _ hs ↦ hs.1
    refine (h i List.mem_cons_self).bind fun _ ↦ ?_
    refine (hrest.and hstays).mono (fun s hs ↦ ⟨hs.1, hs⟩) (fun _ s hs ↦ ⟨hs.1.1, ?_⟩)
      fun _ hs ↦ hs.1
    intro j hj
    rcases List.mem_cons.mp hj with rfl | hj
    · exact hs.2.2
    · exact hs.1.2 j hj

/-! ## Two runs -/

/-- A loop that returns has returned from its first round and from the rest. -/
theorem forEach_cons_ok {ι : Type u} {f : ι → Prog σ ε PUnit} {i : ι} {is : List ι} {s s' : σ}
    (h : forEach f (i :: is) s = (s', .ok ⟨⟩)) :
    ∃ t, f i s = (t, .ok ⟨⟩) ∧ forEach f is t = (s', .ok ⟨⟩) := by
  rw [forEach, seq] at h
  rcases hi : f i s with ⟨t, e | ⟨⟩⟩
  · rw [hi] at h
    cases Prod.mk.inj h |>.2
  · rw [hi] at h
    exact ⟨t, rfl, h⟩

/-- **The rule for two runs of a loop.**  If two runs both return, then a relation between their
states, which may depend on the part of the list that is still to come, is kept to the end as soon
as one round of each keeps it. -/
theorem forEach_related {ι : Type u} {f g : ι → Prog σ ε PUnit} {R : List ι → σ → σ → Prop}
    (hstep : ∀ i is s t s' t', R (i :: is) s t → f i s = (s', .ok ⟨⟩) → g i t = (t', .ok ⟨⟩) →
      R is s' t') {is : List ι} {s t s' t' : σ} (h : R is s t)
    (hs : forEach f is s = (s', .ok ⟨⟩)) (ht : forEach g is t = (t', .ok ⟨⟩)) : R [] s' t' := by
  induction is generalizing s t with
  | nil =>
    cases hs
    cases ht
    exact h
  | cons i is ih =>
    obtain ⟨s₁, hs₁, hs⟩ := forEach_cons_ok hs
    obtain ⟨t₁, ht₁, ht⟩ := forEach_cons_ok ht
    exact ih (hstep i is s t s₁ t₁ h hs₁ ht₁) hs ht

end Fallible

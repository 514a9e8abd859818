import Mathlib.Data.List.Basic

/-!
# Programs that talk to the outside

A program whose atomic actions change a state and are each told something from outside at the moment
they run: how a call ends, what a clock shows.  What an action returns decides how the program goes
on.  This is over arbitrary types; `τ` is what an action is told, and `σ` is the state.

* `Dialogue.exec` runs a program on a list of what it is told; when the list is used up, it is told
  the default.
* `Dialogue.wp` is what has to hold now for `Q` to hold in the end, whatever the program is told.
  `wp.bind` takes it through a program, and `exec_of_wp` brings it back to runs.
* `Dialogue.Along` says of a run that each of its actions was admitted by a relation `A` between
  what it was told, the state before it and the state after it; and `Dialogue.wpAlong` is `wp` for
  the runs along `A`.
* `Dialogue.Each` says of a program that each of its actions moves the state along a relation.
-/

set_option autoImplicit false

/-- A program with results in `α`. -/
inductive Dialogue (τ σ α : Type) : Type 1 where
  | ret (a : α)
  /-- An atomic action, and the rest of the program. -/
  | act {β : Type} (f : τ → σ → σ × β) (k : β → Dialogue τ σ α)

namespace Dialogue

variable {τ σ α β : Type}

/-- One program after the other. -/
def bind : Dialogue τ σ α → (α → Dialogue τ σ β) → Dialogue τ σ β
  | .ret a, f => f a
  | .act g k, f => .act g fun b ↦ (k b).bind f

instance : Monad (Dialogue τ σ) where
  pure := .ret
  bind := bind

/-- One action. -/
def once (f : τ → σ → σ × α) : Dialogue τ σ α := .act f .ret

/-- A run: the state it ends in, its result, and what it was not told any more. -/
def exec [Inhabited τ] : Dialogue τ σ α → List τ → σ → σ × α × List τ
  | .ret a, ts, s => (s, a, ts)
  | .act f k, ts, s => (k (f (ts.headD default) s).2).exec ts.tail (f (ts.headD default) s).1

/-! ## Weakest preconditions -/

/-- Whatever the program is told, it ends with `Q`. -/
def wp : Dialogue τ σ α → (α → σ → Prop) → σ → Prop
  | .ret a, Q, s => Q a s
  | .act f k, Q, s => ∀ t, (k (f t s).2).wp Q (f t s).1

@[simp] theorem wp_pure {a : α} {Q : α → σ → Prop} {s : σ} :
    wp (pure a : Dialogue τ σ α) Q s ↔ Q a s := Iff.rfl

@[simp] theorem wp_once {f : τ → σ → σ × α} {Q : α → σ → Prop} {s : σ} :
    (once f).wp Q s ↔ ∀ t, Q (f t s).2 (f t s).1 := Iff.rfl

/-- The rule for sequencing. -/
theorem wp_bind {x : Dialogue τ σ α} {f : α → Dialogue τ σ β} {Q : β → σ → Prop} {s : σ} :
    (x >>= f).wp Q s ↔ x.wp (fun a s' ↦ (f a).wp Q s') s := by
  show (x.bind f).wp Q s ↔ _
  induction x generalizing s with
  | ret a => rfl
  | act g k ih => exact forall_congr' fun t ↦ ih (g t s).2

theorem wp.mono {x : Dialogue τ σ α} {Q Q' : α → σ → Prop} {s : σ} (h : x.wp Q s)
    (hQ : ∀ a s', Q a s' → Q' a s') : x.wp Q' s := by
  induction x generalizing s with
  | ret a => exact hQ a s h
  | act f k ih => exact fun t ↦ ih _ (h t)

/-- The rule for sequencing, with what is known in between. -/
theorem wp.bind {x : Dialogue τ σ α} {f : α → Dialogue τ σ β} {Q : β → σ → Prop}
    {Q' : α → σ → Prop} {s : σ} (h : x.wp Q' s) (hf : ∀ a s', Q' a s' → (f a).wp Q s') :
    (x >>= f).wp Q s :=
  wp_bind.mpr (h.mono hf)

/-- **What holds whatever a program is told holds of its runs.** -/
theorem exec_of_wp [Inhabited τ] {x : Dialogue τ σ α} {Q : α → σ → Prop} {s : σ} (h : x.wp Q s)
    (ts : List τ) : Q (x.exec ts s).2.1 (x.exec ts s).1 := by
  induction x generalizing ts s with
  | ret a => exact h
  | act f k ih => exact ih _ (h _) ts.tail

/-! ## Runs that are told what is admitted -/

/-- Every action of the run is admitted. -/
def Along [Inhabited τ] (A : τ → σ → σ → Prop) : Dialogue τ σ α → List τ → σ → Prop
  | .ret _, _, _ => True
  | .act f k, ts, s =>
    A (ts.headD default) s (f (ts.headD default) s).1 ∧
      (k (f (ts.headD default) s).2).Along A ts.tail (f (ts.headD default) s).1

instance decidableAlong [Inhabited τ] {A : τ → σ → σ → Prop} [∀ t s s', Decidable (A t s s')] :
    (x : Dialogue τ σ α) → (ts : List τ) → (s : σ) → Decidable (x.Along A ts s)
  | .ret _, _, _ => isTrue trivial
  | .act f k, ts, s =>
    @instDecidableAnd _ _ _ (decidableAlong (k (f (ts.headD default) s).2) ts.tail _)

/-- Whatever the program is told that is admitted, it ends with `Q`. -/
def wpAlong (A : τ → σ → σ → Prop) : Dialogue τ σ α → (α → σ → Prop) → σ → Prop
  | .ret a, Q, s => Q a s
  | .act f k, Q, s => ∀ t, A t s (f t s).1 → (k (f t s).2).wpAlong A Q (f t s).1

section Along

variable {A : τ → σ → σ → Prop}

@[simp] theorem wpAlong_pure {a : α} {Q : α → σ → Prop} {s : σ} :
    wpAlong A (pure a : Dialogue τ σ α) Q s ↔ Q a s := Iff.rfl

@[simp] theorem wpAlong_once {f : τ → σ → σ × α} {Q : α → σ → Prop} {s : σ} :
    (once f).wpAlong A Q s ↔ ∀ t, A t s (f t s).1 → Q (f t s).2 (f t s).1 := Iff.rfl

theorem wp.along {x : Dialogue τ σ α} {Q : α → σ → Prop} {s : σ} (h : x.wp Q s) :
    x.wpAlong A Q s := by
  induction x generalizing s with
  | ret a => exact h
  | act f k ih => exact fun t _ ↦ ih _ (h t)

theorem wpAlong.mono {x : Dialogue τ σ α} {Q Q' : α → σ → Prop} {s : σ} (h : x.wpAlong A Q s)
    (hQ : ∀ a s', Q a s' → Q' a s') : x.wpAlong A Q' s := by
  induction x generalizing s with
  | ret a => exact hQ a s h
  | act f k ih => exact fun t ht ↦ ih _ (h t ht)

theorem wpAlong.bind {x : Dialogue τ σ α} {f : α → Dialogue τ σ β} {Q : β → σ → Prop}
    {Q' : α → σ → Prop} {s : σ} (h : x.wpAlong A Q' s)
    (hf : ∀ a s', Q' a s' → (f a).wpAlong A Q s') : (x >>= f).wpAlong A Q s := by
  show (x.bind f).wpAlong A Q s
  induction x generalizing s with
  | ret a => exact hf a s h
  | act g k ih => exact fun t ht ↦ ih _ (h t ht)

theorem exec_of_wpAlong [Inhabited τ] {x : Dialogue τ σ α} {Q : α → σ → Prop} {s : σ}
    (h : x.wpAlong A Q s) {ts : List τ} (hts : x.Along A ts s) :
    Q (x.exec ts s).2.1 (x.exec ts s).1 := by
  induction x generalizing ts s with
  | ret a => exact h
  | act f k ih => exact ih _ (h _ hts.1) hts.2

theorem along_of_forall [Inhabited τ] {P : τ → Prop} {x : Dialogue τ σ α} {ts : List τ} {s : σ}
    (hts : ∀ t ∈ ts, P t) (hdefault : P default) : x.Along (fun t _ _ ↦ P t) ts s := by
  induction x generalizing ts s with
  | ret a => trivial
  | act f k ih =>
    refine ⟨?_, ih _ fun t ht ↦ hts t (List.mem_of_mem_tail ht)⟩
    rcases ts with _ | ⟨t, ts⟩
    · exact hdefault
    · exact hts t List.mem_cons_self

/-- One run after the other. -/
theorem exec_bind [Inhabited τ] (x : Dialogue τ σ α) (f : α → Dialogue τ σ β) (ts : List τ)
    (s : σ) : (x >>= f).exec ts s =
      (f (x.exec ts s).2.1).exec (x.exec ts s).2.2 (x.exec ts s).1 := by
  show (x.bind f).exec ts s = _
  induction x generalizing ts s with
  | ret a => rfl
  | act g k ih => exact ih _ _ _

theorem along_bind [Inhabited τ] {x : Dialogue τ σ α} {f : α → Dialogue τ σ β} {ts : List τ}
    {s : σ} : (x >>= f).Along A ts s ↔ x.Along A ts s ∧
      (f (x.exec ts s).2.1).Along A (x.exec ts s).2.2 (x.exec ts s).1 := by
  show (x.bind f).Along A ts s ↔ _
  induction x generalizing ts s with
  | ret a => exact (iff_of_eq (true_and _)).symm
  | act g k ih => exact (and_congr_right fun _ ↦ ih _).trans and_assoc.symm

end Along

/-! ## Single actions -/

/-- Every action of the program, made in whatever state, moves the state along `A`. -/
def Each (A : σ → σ → Prop) : Dialogue τ σ α → Prop
  | .ret _ => True
  | .act f k => (∀ t s, A s (f t s).1) ∧ ∀ b, (k b).Each A

variable {A : σ → σ → Prop}

theorem each_pure {a : α} : (pure a : Dialogue τ σ α).Each A := trivial

theorem each_once {f : τ → σ → σ × α} (h : ∀ t s, A s (f t s).1) : (once f).Each A :=
  ⟨h, fun _ ↦ trivial⟩

theorem Each.bind {x : Dialogue τ σ α} {f : α → Dialogue τ σ β} (h : x.Each A)
    (hf : ∀ a, (f a).Each A) : (x >>= f).Each A := by
  show (x.bind f).Each A
  induction x with
  | ret a => exact hf a
  | act g k ih => exact ⟨h.1, fun b ↦ ih b (h.2 b)⟩

/-- What is kept along the relation is kept by the program. -/
theorem Each.wp {x : Dialogue τ σ α} {I : σ → Prop} {s : σ} (h : x.Each A) (hs : I s)
    (hA : ∀ s s', I s → A s s' → I s') : x.wp (fun _ ↦ I) s := by
  induction x generalizing s with
  | ret a => exact hs
  | act f k ih => exact fun t ↦ ih _ (h.2 _) (hA _ _ hs (h.1 t s))

-- a goal that is the `wp` of a program is taken apart by the rules, never by running the program
attribute [irreducible] wp wpAlong

end Dialogue

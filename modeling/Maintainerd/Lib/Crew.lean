import Mathlib.Logic.Function.Basic
import Maintainerd.Lib.Dialogue
import Maintainerd.Lib.Run

/-!
# Programs that share a state

A crew is a family of dialogues on one state.  A move lets one member make its next action, so a
list of moves is an interleaving, and whatever a member is told it is told at its own moves.  Beside
the state there is a ghost: `note` says what an action of a member does to it, and nothing a member
does depends on it.  This is over arbitrary types, and the members may be any number.

What holds at every action of every interleaving is proved by rely and guarantee.  A `Pact` is what
each member relies on and what it guarantees, where the guarantee of one is what the others rely on.
`Upholds` says of one program that it keeps its part, with a postcondition, so that it goes through
a program like a weakest precondition; `Sound.guaranteed` puts the members together.
-/

set_option autoImplicit false

/-- The shared state, the ghost, and what is left of each member. -/
structure Crew (ι τ σ γ α : Type) : Type 1 where
  state : σ
  ghost : γ
  members : ι → Dialogue τ σ α

namespace Crew

variable {ι τ σ γ α β : Type}

/-- The member has an action left. -/
def acts (c : Crew ι τ σ γ α) (i : ι) : Bool :=
  match c.members i with
  | .ret _ => false
  | .act _ _ => true

/-- What a move does: the member that makes its next action, and what it is told. -/
def step [DecidableEq ι] (note : ι → σ → σ → γ → γ) (c : Crew ι τ σ γ α) (m : ι × τ) :
    Crew ι τ σ γ α :=
  match c.members m.1 with
  | .ret _ => c
  | .act f k =>
    let done := f m.2 c.state
    { state := done.1
      ghost := note m.1 c.state done.1 c.ghost
      members := Function.update c.members m.1 (k done.2) }

/-! ## Rely and guarantee -/

/-- What the members rely on and what they guarantee, between the state and the ghost before an
action and after it. -/
structure Pact (ι σ γ : Type) where
  note : ι → σ → σ → γ → γ
  rely : ι → σ × γ → σ × γ → Prop
  guarantee : ι → σ × γ → σ × γ → Prop
  refl : ∀ i s, rely i s s
  trans : ∀ i a b c, rely i a b → rely i b c → rely i a c
  /-- The guarantee of one is what the others rely on. -/
  respects : ∀ i j s s', j ≠ i → guarantee i s s' → rely j s s'

/-- The state and the ghost after an action of a member. -/
def Pact.after (P : Pact ι σ γ) (i : ι) (s : σ × γ) (s' : σ) : σ × γ := (s', P.note i s.1 s' s.2)

/-- An action of the member is as it guarantees, and `Q` holds after it. -/
def Pact.Admits (P : Pact ι σ γ) (i : ι) (s : σ × γ) (s' : σ) (Q : σ × γ → Prop) : Prop :=
  P.guarantee i s (P.after i s s') ∧ Q (P.after i s s')

/-- As long as the others keep to what member `i` relies on, all actions of the program are as `i`
guarantees, and it ends with `Q`. -/
def Upholds (P : Pact ι σ γ) (i : ι) : Dialogue τ σ α → (α → σ × γ → Prop) → σ × γ → Prop
  | .ret a, Q, s => Q a s
  | .act f k, Q, s => ∀ s' t, P.rely i s s' →
    P.Admits i s' (f t s'.1).1 fun s'' ↦ Upholds P i (k (f t s'.1).2) Q s''

variable {P : Pact ι σ γ} {i : ι}

theorem upholds_pure {a : α} {Q : α → σ × γ → Prop} {s : σ × γ} (h : Q a s) :
    Upholds P i (pure a : Dialogue τ σ α) Q s := h

theorem upholds_once {f : τ → σ → σ × α} {Q : α → σ × γ → Prop} {s : σ × γ}
    (h : ∀ s' t, P.rely i s s' → P.Admits i s' (f t s'.1).1 (Q (f t s'.1).2)) :
    Upholds P i (Dialogue.once f) Q s := h

/-- The rule for sequencing, with what is known in between. -/
theorem Upholds.bind {x : Dialogue τ σ α} {f : α → Dialogue τ σ β} {Q : β → σ × γ → Prop}
    {Q' : α → σ × γ → Prop} {s : σ × γ} (h : Upholds P i x Q' s)
    (hf : ∀ a s', Q' a s' → Upholds P i (f a) Q s') : Upholds P i (x >>= f) Q s := by
  show Upholds P i (x.bind f) Q s
  induction x generalizing s with
  | ret a => exact hf a s h
  | act g k ih => exact fun s' t hs ↦ ⟨(h s' t hs).1, ih _ (h s' t hs).2⟩

theorem Upholds.mono {x : Dialogue τ σ α} {Q Q' : α → σ × γ → Prop} {s : σ × γ}
    (h : Upholds P i x Q s) (hQ : ∀ a s', Q a s' → Q' a s') : Upholds P i x Q' s := by
  induction x generalizing s with
  | ret a => exact hQ a s h
  | act f k ih => exact fun s' t hs ↦ ⟨(h s' t hs).1, ih _ (h s' t hs).2⟩

/-- A program that is in order stays in order while the others work. -/
theorem Upholds.rely {x : Dialogue τ σ α} {s s' : σ × γ} (h : Upholds P i x (fun _ _ ↦ True) s)
    (hs : P.rely i s s') : Upholds P i x (fun _ _ ↦ True) s' := by
  cases x with
  | ret a => trivial
  | act f k => exact fun s'' t hs' ↦ h s'' t (P.trans i _ _ _ hs hs')

/-- The program keeps its part wherever it starts. -/
def Safe (P : Pact ι σ γ) (i : ι) (x : Dialogue τ σ α) : Prop :=
  ∀ s, Upholds P i x (fun _ _ ↦ True) s

theorem safe_pure {a : α} : Safe P i (pure a : Dialogue τ σ α) := fun _ ↦ trivial

theorem Safe.bind {x : Dialogue τ σ α} {f : α → Dialogue τ σ β} (h : Safe P i x)
    (hf : ∀ a, Safe P i (f a)) : Safe P i (x >>= f) :=
  fun s ↦ (h s).bind fun a s' _ ↦ hf a s'

/-- A program each action of which is as guaranteed, in whatever state it is made. -/
theorem safe_of_each {A : σ → σ → Prop} {x : Dialogue τ σ α} (h : x.Each A)
    (hA : ∀ s s', A s.1 s' → P.guarantee i s (P.after i s s')) : Safe P i x := by
  induction x with
  | ret a => exact fun _ ↦ trivial
  | act f k ih => exact fun _ s' t _ ↦ ⟨hA s' _ (h.1 t s'.1), ih _ (h.2 _) _⟩

/-! ## The members together -/

/-- Every member keeps its part from here on. -/
def Sound (P : Pact ι σ γ) (c : Crew ι τ σ γ α) : Prop :=
  ∀ i, Upholds P i (c.members i) (fun _ _ ↦ True) (c.state, c.ghost)

variable [DecidableEq ι]

/-- **One move.**  If the member has an action left, the action is as the member guarantees; and
every member keeps its part after it. -/
theorem Sound.step {c : Crew ι τ σ γ α} (h : Sound P c) (m : ι × τ) :
    (c.acts m.1 = true → P.guarantee m.1 (c.state, c.ghost)
      ((c.step P.note m).state, (c.step P.note m).ghost)) ∧ Sound P (c.step P.note m) := by
  obtain ⟨i, t⟩ := m
  rcases hi : c.members i with a | ⟨f, k⟩
  · have hstep : c.step P.note (i, t) = c := by simp only [Crew.step, hi]
    rw [hstep]
    refine ⟨fun hacts ↦ ?_, h⟩
    simp only [acts, hi, Bool.false_eq_true] at hacts
  · have hstep : c.step P.note (i, t) = ⟨(f t c.state).1,
        P.note i c.state (f t c.state).1 c.ghost,
        Function.update c.members i (k (f t c.state).2)⟩ := by
      simp only [Crew.step, hi]
    have hact := h i
    rw [hi] at hact
    obtain ⟨hguarantee, hrest⟩ := hact (c.state, c.ghost) t (P.refl i _)
    rw [hstep]
    refine ⟨fun _ ↦ hguarantee, fun j ↦ ?_⟩
    by_cases hj : j = i
    · subst hj
      simp only [Function.update_self]
      exact hrest
    · simp only [Function.update_of_ne hj]
      exact (h j).rely (P.respects i j _ _ hj hguarantee)

/-- **What the members guarantee, every action of every interleaving has.** -/
theorem Sound.guaranteed {c : Crew ι τ σ γ α} (h : Sound P c) (ms : List (ι × τ)) (m : ι × τ) :
    let now := Machine.run (Crew.step P.note) c ms
    now.acts m.1 = true → P.guarantee m.1 (now.state, now.ghost)
      ((now.step P.note m).state, (now.step P.note m).ghost) := by
  have hnow := Machine.invariant_run (I := Sound P) ms h fun c m hc ↦ (hc.step m).2
  exact (hnow.step m).1

-- as for `wp`, a goal that is the `Upholds` of a program is taken apart by the rules
attribute [irreducible] Upholds

end Crew

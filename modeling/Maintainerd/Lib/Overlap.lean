import Maintainerd.Lib.Run

/-!
# Operations that overlap

An operation in two halves reads a store, computes a *plan* from what it read, and later writes the
plan, with nothing held in between: other operations may have written the store by then.  This file
is about many such operations at once, over arbitrary types.

`Overlap.step` is the machine: an action starts an operation, finishes one that is in flight, or
does something that is atomic as a whole.  `Overlap.turn` is the machine on which operations take
turns, each reading and writing without interruption, and `Overlap.history` is the list of turns a
run of the first machine amounts to, in the order of the *writes*.

`run_store_eq` says when the two agree: when every operation that finishes still agrees with the
store it is about to write on what it read.  What "agrees" has to mean is left to the caller, in
the form of a relation `A`; the caller shows that a plan made from a state that agrees with the
present one is as good as one made now.  It may use what every step keeps, a `Frame`, so `A` need
only speak of what can change.
-/

set_option autoImplicit false

namespace Overlap

open Machine

universe u v w x y

/-- A store of states `σ`, and what is done to it: the two halves of an operation `κ`, of which the
first may refuse, and the atomic actions `α`.  Each half is told its time. -/
structure Halves (σ : Type u) (κ : Type v) (π : Type w) (τ : Type x) (α : Type y) where
  read : σ → τ → κ → Option π
  write : σ → τ → π → σ
  act : σ → α → σ

/-- An operation between its halves, with the store it read. -/
structure InFlight (σ : Type u) (κ : Type v) (π : Type w) (τ : Type x) where
  op : κ
  readAt : τ
  seen : σ
  plan : π

/-- The store, and the operations in flight. -/
structure State (σ : Type u) (κ : Type v) (π : Type w) (τ : Type x) where
  store : σ
  inFlight : List (InFlight σ κ π τ)

/-- What can happen next. -/
inductive Act (κ : Type v) (τ : Type x) (α : Type y) where
  | start (t : τ) (k : κ)
  | finish (t : τ) (i : ℕ)
  | whole (a : α)

/-- An operation that runs without interruption, with the times of its halves, or an atomic
action. -/
inductive Turn (κ : Type v) (τ : Type x) (α : Type y) where
  | op (k : κ) (readAt writeAt : τ)
  | whole (a : α)

variable {σ : Type u} {κ : Type v} {π : Type w} {τ : Type x} {α : Type y}

section Machines

variable (H : Halves σ κ π τ α)

/-- The machine on which operations overlap. -/
def step (s : State σ κ π τ) : Act κ τ α → State σ κ π τ
  | .start t k =>
    match H.read s.store t k with
    | none => s
    | some p => { s with inFlight := s.inFlight ++ [⟨k, t, s.store, p⟩] }
  | .finish t i =>
    match s.inFlight[i]? with
    | none => s
    | some o => ⟨H.write s.store t o.plan, s.inFlight.eraseIdx i⟩
  | .whole a => { s with store := H.act s.store a }

/-- The machine on which they take turns. -/
def turn (s : σ) : Turn κ τ α → σ
  | .op k t t' =>
    match H.read s t k with
    | none => s
    | some p => H.write s t' p
  | .whole a => H.act s a

/-- The turn an action completes, if it does. -/
def turns (s : State σ κ π τ) : Act κ τ α → List (Turn κ τ α)
  | .start _ _ => []
  | .finish t i => s.inFlight[i]?.toList.map fun o ↦ .op o.op o.readAt t
  | .whole a => [.whole a]

/-- The turns a run amounts to, in the order of the writes. -/
def history : State σ κ π τ → List (Act κ τ α) → List (Turn κ τ α)
  | _, [] => []
  | s, a :: as => turns s a ++ history (step H s a) as

end Machines

variable {H : Halves σ κ π τ α}

/-! ## What every step keeps -/

/-- A preorder that every write and every atomic action moves along. -/
structure Frame (H : Halves σ κ π τ α) (R : σ → σ → Prop) : Prop where
  refl : ∀ s, R s s
  trans : ∀ {a b c}, R a b → R b c → R a c
  write : ∀ s t p, R s (H.write s t p)
  act : ∀ s a, R s (H.act s a)

/-- Every operation in flight did read what it holds, from a state the store has moved on from. -/
def Sound (H : Halves σ κ π τ α) (R : σ → σ → Prop) (s : State σ κ π τ) : Prop :=
  ∀ o ∈ s.inFlight, H.read o.seen o.readAt o.op = some o.plan ∧ R o.seen s.store

theorem sound_of_none (H : Halves σ κ π τ α) (R : σ → σ → Prop) (s : σ) :
    Sound H R ⟨s, []⟩ := by
  intro o ho
  cases ho

/-- What is in flight after an action was in flight before it, or has just read the store. -/
theorem mem_inFlight_step {s : State σ κ π τ} {a : Act κ τ α} {o : InFlight σ κ π τ}
    (h : o ∈ (step H s a).inFlight) :
    o ∈ s.inFlight ∨
      a = .start o.readAt o.op ∧ o.seen = s.store ∧ H.read o.seen o.readAt o.op = some o.plan := by
  cases a with
  | start t k =>
    rw [step] at h
    split at h
    · exact Or.inl h
    · rename_i p hread
      rcases List.mem_append.mp h with h | h
      · exact Or.inl h
      · rw [List.mem_singleton.mp h]
        exact Or.inr ⟨rfl, rfl, hread⟩
  | finish t i =>
    rw [step] at h
    split at h
    · exact Or.inl h
    · exact Or.inl (List.mem_of_mem_eraseIdx h)
  | whole a => exact Or.inl h

theorem Frame.step {R : σ → σ → Prop} (hR : Frame H R) (s : State σ κ π τ) (a : Act κ τ α) :
    R s.store (step H s a).store := by
  cases a with
  | start t k =>
    rw [Overlap.step]
    split <;> exact hR.refl _
  | finish t i =>
    rw [Overlap.step]
    split
    · exact hR.refl _
    · exact hR.write _ _ _
  | whole a => exact hR.act _ _

theorem Sound.step {R : σ → σ → Prop} (hR : Frame H R) {s : State σ κ π τ} (h : Sound H R s)
    (a : Act κ τ α) : Sound H R (step H s a) := by
  intro o ho
  rcases mem_inFlight_step ho with ho | ⟨-, hseen, hread⟩
  · obtain ⟨hread, hseen⟩ := h o ho
    exact ⟨hread, hR.trans hseen (hR.step s a)⟩
  · refine ⟨hread, ?_⟩
    rw [hseen]
    exact hR.step s a

/-! ## When overlapping makes no difference -/

/-- If the action finishes an operation, the store it read agrees with the present one. -/
def Agrees (A : κ → σ → σ → Prop) (s : State σ κ π τ) : Act κ τ α → Prop
  | .finish _ i => ∀ o, s.inFlight[i]? = some o → A o.op o.seen s.store
  | _ => True

/-- One action is the turns it completes. -/
theorem step_store_eq {R : σ → σ → Prop} {A : κ → σ → σ → Prop}
    (hA : ∀ {k s s' t t' p}, R s s' → A k s s' → H.read s t k = some p →
      H.write s' t' p = turn H s' (.op k t t'))
    {s : State σ κ π τ} {a : Act κ τ α} (hs : Sound H R s) (ha : Agrees A s a) :
    (step H s a).store = run (turn H) s.store (turns s a) := by
  cases a with
  | start t k =>
    rw [step]
    split <;> rfl
  | finish t i =>
    rw [step, turns]
    split
    · rename_i hnone
      rw [hnone]
      rfl
    · rename_i o ho
      obtain ⟨hread, hseen⟩ := hs o (List.mem_of_getElem? ho)
      rw [ho]
      exact hA hseen (ha o ho) hread
  | whole a => rfl

/-- **Serialisability by agreement.**  If every operation that finishes agrees with the store it
is about to write on what it read, the run ends in the store the operations reach when they take
turns in the order of their writes. -/
theorem run_store_eq {R : σ → σ → Prop} (hR : Frame H R) {A : κ → σ → σ → Prop}
    (hA : ∀ {k s s' t t' p}, R s s' → A k s s' → H.read s t k = some p →
      H.write s' t' p = turn H s' (.op k t t'))
    {s : State σ κ π τ} {as : List (Act κ τ α)} (hs : Sound H R s)
    (has : Guarded (step H) (Agrees A) s as) :
    (run (step H) s as).store = run (turn H) s.store (history H s as) := by
  induction as generalizing s with
  | nil => rfl
  | cons a as ih =>
    rw [run_cons, history, run_append, ← step_store_eq hA hs has.1]
    exact ih (hs.step hR a) has.2

end Overlap

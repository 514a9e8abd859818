import Maintainerd.Lib.Dialogue
import Maintainerd.Lib.Fallible
import Maintainerd.Lib.Run

/-!
# Programs behind a flag

A program that must not run twice at once is often put behind a flag: a caller that finds the flag
down raises it and runs, one that finds it up is turned away at once, and whoever ran lowers it when
done.  To look at the flag and to raise it is one action, and so is lowering it; the actions of the
program in between are not protected by anything else.  This file is about any number of callers of
such a program, over arbitrary types, where the program is a `Dialogue` that depends on what the
caller asks for.

`Flight.step` is the machine: a caller arrives, or one of those that are there makes its next
action.  `Flight.turn` is the machine on which the programs take turns, each from its beginning to
its end with nothing in between, and `turns` is a ghost that lists what has been run through so far:
what was asked for, and what the program was told.

`Serial` is the invariant.  While the flag is up exactly one caller is inside, and what is left of
its program, run from the state as it is, ends as its whole program does when run from where the
turns so far have ended.  So whenever the flag is down, the state is the one that the turns leave,
and what each caller was answered is what its program returns when its turn comes.

A program that fails half-way (`Lib.Fallible`) is put behind a flag by cutting it into pieces, each
of which is one action; `Cuts` says that the pieces, run without interruption, are the program.
-/

set_option autoImplicit false

namespace Flight

open Machine

variable {τ σ κ α μ : Type}

/-- What is guarded: the program that a request is answered with, and what is noted of its result as
the flag is lowered. -/
structure Entry (τ σ κ α μ : Type) : Type 1 where
  prog : κ → Dialogue τ σ α
  note : μ → κ → α → μ

/-- Where a caller is. -/
inductive Phase (τ σ κ α : Type) : Type 1 where
  | waiting (k : κ)
  /-- Inside, with what its program was told so far and what is left of it. -/
  | inside (k : κ) (told : List τ) (rest : Dialogue τ σ α)
  /-- Turned away. -/
  | refused (k : κ)
  | done (k : κ) (a : α)

/-- The state of the programs, the flag, what was noted, the callers, and the ghost. -/
structure State (τ σ κ α μ : Type) : Type 1 where
  store : σ
  running : Bool
  memo : μ
  callers : List (Phase τ σ κ α)
  turns : List (κ × List τ)

/-- What can happen next. -/
inductive Move (τ κ : Type) where
  | call (k : κ)
  | go (i : ℕ) (t : τ)

/-- Nobody has called yet. -/
def start (s : σ) (m : μ) : State τ σ κ α μ := ⟨s, false, m, [], []⟩

/-- A caller whose phase is replaced by one that is not inside, or the caller itself. -/
theorem inside_set {callers : List (Phase τ σ κ α)} {i j : ℕ} {p : Phase τ σ κ α} {k : κ}
    {told : List τ} {rest : Dialogue τ σ α}
    (h : (callers.set i p)[j]? = some (Phase.inside k told rest)) :
    j = i ∧ p = .inside k told rest ∨ j ≠ i ∧ callers[j]? = some (Phase.inside k told rest) := by
  rw [List.getElem?_set] at h
  split at h
  · rename_i hij
    split at h
    · exact Or.inl ⟨hij.symm, Option.some.inj h⟩
    · cases h
  · rename_i hij
    exact Or.inr ⟨fun e ↦ hij e.symm, h⟩

theorem done_of_mem_set {callers : List (Phase τ σ κ α)} {i : ℕ} {p : Phase τ σ κ α} {k : κ} {a : α}
    (hp : p ≠ .done k a) (h : .done k a ∈ callers.set i p) : .done k a ∈ callers :=
  (List.mem_or_eq_of_mem_set h).resolve_right fun e ↦ hp e.symm

section Machines

variable (G : Entry τ σ κ α μ)

/-- What a move does. -/
def step (f : State τ σ κ α μ) : Move τ κ → State τ σ κ α μ
  | .call k => { f with callers := f.callers ++ [.waiting k] }
  | .go i t =>
    match f.callers[i]? with
    | some (.waiting k) =>
      if f.running then { f with callers := f.callers.set i (.refused k) }
      else { f with running := true, callers := f.callers.set i (.inside k [] (G.prog k)) }
    | some (.inside k told (.act g rest)) =>
      { f with
        store := (g t f.store).1
        callers := f.callers.set i (.inside k (told ++ [t]) (rest (g t f.store).2)) }
    | some (.inside k told (.ret a)) =>
      { f with
        running := false
        memo := G.note f.memo k a
        callers := f.callers.set i (.done k a)
        turns := f.turns ++ [(k, told)] }
    | _ => f

variable [Inhabited τ]

/-- What a program that runs alone does. -/
def turn (s : σ × μ) (x : κ × List τ) : σ × μ :=
  let ran := (G.prog x.1).exec x.2 s.1
  (ran.1, G.note s.2 x.1 ran.2.1)

/-- **The programs take turns.** -/
structure Serial (s : σ × μ) (f : State τ σ κ α μ) : Prop where
  memo : (run (turn G) s f.turns).2 = f.memo
  idle : f.running = false → (run (turn G) s f.turns).1 = f.store
  /-- The flag is up for somebody. -/
  held : f.running = true → ∃ (i : ℕ) (k : κ) (told : List τ) (rest : Dialogue τ σ α),
    f.callers[i]? = some (Phase.inside k told rest)
  /-- Whoever is inside is alone, and is going on with its turn. -/
  inside : ∀ (i : ℕ) (k : κ) (told : List τ) (rest : Dialogue τ σ α),
    f.callers[i]? = some (Phase.inside k told rest) → f.running = true ∧
      (∀ (j : ℕ) (k' : κ) (told' : List τ) (rest' : Dialogue τ σ α),
        f.callers[j]? = some (Phase.inside k' told' rest') → j = i) ∧
      ∀ us, (G.prog k).exec (told ++ us) (run (turn G) s f.turns).1 = rest.exec us f.store
  /-- What a caller was answered is the result of its turn. -/
  answered : ∀ k a, Phase.done k a ∈ f.callers → ∃ pre told post,
    f.turns = pre ++ (k, told) :: post ∧
      a = ((G.prog k).exec told (run (turn G) s pre).1).2.1

end Machines

variable [Inhabited τ] {G : Entry τ σ κ α μ}

theorem serial_start (s : σ) (m : μ) : Serial G (s, m) (start s m) where
  memo := rfl
  idle _ := rfl
  held h := by cases h
  inside i k told rest h := by cases h
  answered k a h := by cases h

/-- A caller arrives. -/
theorem Serial.call {s : σ × μ} {f : State τ σ κ α μ} (h : Serial G s f) (k : κ) :
    Serial G s (step G f (.call k)) := by
  have hold : ∀ (i : ℕ) (k' : κ) (told : List τ) (rest : Dialogue τ σ α),
      (f.callers ++ [.waiting k])[i]? = some (Phase.inside k' told rest) →
      f.callers[i]? = some (Phase.inside k' told rest) := by
    intro i k' told rest hi
    rw [List.getElem?_append] at hi
    split at hi
    · exact hi
    · have hmem := List.mem_of_getElem? hi
      cases List.mem_singleton.mp hmem
  refine ⟨h.memo, h.idle, fun hrun ↦ ?_, fun i k' told rest hi ↦ ?_, fun k' a ha ↦ ?_⟩
  · obtain ⟨i, k', told, rest, hi⟩ := h.held hrun
    have hlt := (List.getElem?_eq_some_iff.mp hi).1
    exact ⟨i, k', told, rest, (List.getElem?_append_left hlt).trans hi⟩
  · obtain ⟨hrun, halone, hturn⟩ := h.inside i k' told rest (hold i k' told rest hi)
    exact ⟨hrun, fun j k₂ told₂ rest₂ hj ↦ halone j k₂ told₂ rest₂ (hold j k₂ told₂ rest₂ hj),
      hturn⟩
  · rcases List.mem_append.mp ha with ha | ha
    · exact h.answered k' a ha
    · cases List.mem_singleton.mp ha

/-- **One move keeps the turns.** -/
theorem Serial.step {s : σ × μ} {f : State τ σ κ α μ} (h : Serial G s f) (m : Move τ κ) :
    Serial G s (step G f m) := by
  cases m with
  | call k => exact h.call k
  | go i t =>
    rcases hi : f.callers[i]? with _ | p
    · simpa only [Flight.step, hi] using h
    have hlt : i < f.callers.length := (List.getElem?_eq_some_iff.mp hi).1
    cases p with
    | refused k => simpa only [Flight.step, hi] using h
    | done k a => simpa only [Flight.step, hi] using h
    | waiting k =>
      have hne : ∀ (j : ℕ) (k' : κ) (told : List τ) (rest : Dialogue τ σ α),
          f.callers[j]? = some (Phase.inside k' told rest) → j ≠ i := by
        rintro j k' told rest hj rfl
        cases hi.symm.trans hj
      rcases hrun : f.running with _ | _
      · -- the caller raises the flag, and its turn begins
        simp only [Flight.step, hi, hrun, Bool.false_eq_true, if_false]
        have hnobody : ∀ (j : ℕ) (k' : κ) (told : List τ) (rest : Dialogue τ σ α),
            f.callers[j]? ≠ some (Phase.inside k' told rest) := by
          intro j k' told rest hj
          rw [(h.inside j k' told rest hj).1] at hrun
          cases hrun
        refine ⟨h.memo, fun e ↦ (by cases e), fun _ ↦ ⟨i, k, [], G.prog k, ?_⟩, ?_, ?_⟩
        · exact List.getElem?_set_self hlt
        · intro j k' told rest hj
          rcases inside_set hj with ⟨rfl, hp⟩ | ⟨-, hj⟩
          · cases hp
            refine ⟨rfl, fun j' k₂ told₂ rest₂ hj' ↦ ?_, fun us ↦ ?_⟩
            swap
            · rw [List.nil_append, h.idle hrun]
            rcases inside_set hj' with ⟨he, -⟩ | ⟨-, hj'⟩
            · exact he
            · exact absurd hj' (hnobody j' k₂ told₂ rest₂)
          · exact absurd hj (hnobody j k' told rest)
        · intro k' a ha
          exact h.answered k' a (done_of_mem_set (fun e ↦ by cases e) ha)
      · -- the caller is turned away
        simp only [Flight.step, hi, hrun, if_true]
        refine ⟨h.memo, fun e ↦ (by cases e), fun _ ↦ ?_, ?_, ?_⟩
        · obtain ⟨j, k', told, rest, hj⟩ := h.held hrun
          exact ⟨j, k', told, rest, (List.getElem?_set_ne (hne j k' told rest hj).symm).trans hj⟩
        · intro j k' told rest hj
          rcases inside_set hj with ⟨-, hp⟩ | ⟨-, hj⟩
          · cases hp
          obtain ⟨-, halone, hturn⟩ := h.inside j k' told rest hj
          refine ⟨rfl, fun j' k₂ told₂ rest₂ hj' ↦ ?_, hturn⟩
          rcases inside_set hj' with ⟨-, hp⟩ | ⟨-, hj'⟩
          · cases hp
          · exact halone j' k₂ told₂ rest₂ hj'
        · intro k' a ha
          exact h.answered k' a (done_of_mem_set (fun e ↦ by cases e) ha)
    | inside k told rest =>
      obtain ⟨hrun, halone, hturn⟩ := h.inside i k told rest hi
      cases rest with
      | act g next =>
        -- the caller goes on with its turn
        simp only [Flight.step, hi]
        refine ⟨h.memo, fun e ↦ (by cases hrun.symm.trans e), fun _ ↦ ?_, ?_, ?_⟩
        · exact ⟨i, k, _, _, List.getElem?_set_self hlt⟩
        · intro j k' told' rest' hj
          rcases inside_set hj with ⟨rfl, hp⟩ | ⟨hji, hj⟩
          · cases hp
            refine ⟨hrun, fun j' k₂ told₂ rest₂ hj' ↦ ?_, fun us ↦ ?_⟩
            · rcases inside_set hj' with ⟨he, -⟩ | ⟨-, hj'⟩
              · exact he
              · exact halone j' k₂ told₂ rest₂ hj'
            · rw [List.append_assoc]
              exact hturn ([t] ++ us)
          · exact absurd (halone j k' told' rest' hj) hji
        · intro k' a ha
          exact h.answered k' a (done_of_mem_set (fun e ↦ by cases e) ha)
      | ret a =>
        -- the turn is over, and the flag comes down
        simp only [Flight.step, hi]
        have hend : (G.prog k).exec told (run (turn G) s f.turns).1 = (f.store, a, []) := by
          rw [← List.append_nil told]
          exact hturn []
        have hran : run (turn G) s (f.turns ++ [(k, told)]) = (f.store, G.note f.memo k a) := by
          rw [run_append, run_cons, run_nil, turn, hend, h.memo]
        have hnobody : ∀ (j : ℕ) (k' : κ) (told' : List τ) (rest' : Dialogue τ σ α),
            (f.callers.set i (.done k a))[j]? ≠ some (Phase.inside k' told' rest') := by
          intro j k' told' rest' hj
          rcases inside_set hj with ⟨-, hp⟩ | ⟨hji, hj⟩
          · cases hp
          · exact hji (halone j k' told' rest' hj)
        refine ⟨by rw [hran], fun _ ↦ (by rw [hran]), fun e ↦ (by cases e),
          fun j k' told' rest' hj ↦ absurd hj (hnobody j k' told' rest'), fun k' a' ha ↦ ?_⟩
        rcases List.mem_or_eq_of_mem_set ha with ha | ha
        · obtain ⟨pre, told', post, hturns, hres⟩ := h.answered k' a' ha
          exact ⟨pre, told', post ++ [(k, told)], by rw [hturns]; simp, hres⟩
        · cases ha
          exact ⟨f.turns, told, [], rfl, by rw [hend]⟩

/-- **Callers behind a flag take turns**, in every interleaving of their actions. -/
theorem serial_run (G : Entry τ σ κ α μ) (s : σ) (m : μ) (ms : List (Move τ κ)) :
    Serial G (s, m) (run (Flight.step G) (start s m) ms) :=
  invariant_run ms (serial_start s m) fun _ m h ↦ h.step m

/-! ## Fallible programs in pieces -/

open Fallible

variable {ε β : Type}

/-- One piece of a program, and what comes after it unless it fails. -/
def piece (m : Prog σ ε β) (k : β → Dialogue Unit σ (Except ε α)) :
    Dialogue Unit σ (Except ε α) :=
  .act (fun _ s ↦ m s) fun
    | .ok b => k b
    | .error e => .ret (.error e)

/-- The pieces, run without interruption, are the program. -/
def Cuts (x : Dialogue Unit σ (Except ε α)) (m : Prog σ ε α) : Prop :=
  ∀ ts s, ((x.exec ts s).1, (x.exec ts s).2.1) = m s

theorem cuts_ret (a : α) : Cuts (.ret (.ok a)) (pure a : Prog σ ε α) := fun _ _ ↦ rfl

theorem cuts_piece {m : Prog σ ε β} {k : β → Dialogue Unit σ (Except ε α)} {f : β → Prog σ ε α}
    (h : ∀ b, Cuts (k b) (f b)) : Cuts (piece m k) (m >>= f) := by
  intro ts s
  show _ = seq m f s
  rw [seq]
  simp only [piece, Dialogue.exec]
  rcases m s with ⟨s', e | b⟩
  · rfl
  · exact h b ts.tail s'

end Flight

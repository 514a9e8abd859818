import Mathlib.Data.List.Basic

/-!
# Interleaved tasks

Any number of tasks that share one state, over arbitrary types.  A `Task` is what is left of one:
nothing, an atomic action on the state whose result decides how the task goes on, or something the
task has to say before it goes on.  A `Pool` is the state, the tasks, and what was said so far; the
moves are to add a task and to let one task make its next step, so a list of moves is an
interleaving.  The type `τ` is what an action takes from outside at the moment it runs.

What holds in every interleaving is proved by rely and guarantee, in the simplest form: all tasks
rely on one relation `R` between states and guarantee it.  `Task.Ok` says that of one task, and that
what it says is true when it says it; `Pool.Sound.step` puts the tasks together.  `Discipline`
collects what has to be known of the relation: it is a preorder, and what is true stays true along
it.  `Task.Says` is the special case of a fact about what is said that no state enters.

Sometimes a task is in order only if one of its steps is made in the right moment.  `Task.OkIf` is
`Task.Ok` under such a condition, which may depend on the number of the step; in a `Watched` pool
the tasks have labels, to say whose condition it is, and their steps are counted.
-/

set_option autoImplicit false

namespace Interleave

/-- What is left of a task. -/
inductive Task (τ σ ε : Type) : Type 1 where
  | done
  /-- An atomic action: the state after it, and a result that the rest of the task depends on. -/
  | act {α : Type} (f : τ → σ → σ × α) (k : α → Task τ σ ε)
  /-- Something said. -/
  | say (e : ε) (k : Task τ σ ε)

/-- The shared state, the tasks, and what they have said. -/
structure Pool (τ σ ε : Type) : Type 1 where
  store : σ
  tasks : List (Task τ σ ε)
  history : List ε

/-- A move of an interleaving. -/
inductive Move (τ σ ε : Type) : Type 1 where
  /-- A new task. -/
  | spawn (t : Task τ σ ε)
  /-- The next step of one of the tasks. -/
  | resume (i : ℕ) (m : τ)

variable {τ σ ε : Type}

/-- What a move does. -/
def Pool.step (p : Pool τ σ ε) : Move τ σ ε → Pool τ σ ε
  | .spawn t => { p with tasks := p.tasks ++ [t] }
  | .resume i m =>
    match p.tasks[i]? with
    | some (.act f k) =>
      { p with store := (f m p.store).1, tasks := p.tasks.set i (k (f m p.store).2) }
    | some (.say e k) => { p with tasks := p.tasks.set i k, history := p.history ++ [e] }
    | _ => p

/-- A task with nothing else going on, every action of which is told the same: the state after it,
and what it says. -/
def Task.alone (m : τ) : Task τ σ ε → σ → σ × List ε
  | .done, s => (s, [])
  | .act f k, s => (k (f m s).2).alone m (f m s).1
  | .say e k, s => ((k.alone m s).1, e :: (k.alone m s).2)

/-! ## Rely and guarantee -/

/-- The relation the tasks go by is a preorder, and what is true stays true along it. -/
structure Discipline (R : σ → σ → Prop) (V : ε → σ → Prop) : Prop where
  refl : ∀ s, R s s
  trans : ∀ a b c, R a b → R b c → R a c
  stable : ∀ e s s', V e s → R s s' → V e s'

/-- The task is in order from the state `s` on: as long as the others keep to `R`, so does it, and
what it says is true. -/
def Task.Ok (R : σ → σ → Prop) (V : ε → σ → Prop) : Task τ σ ε → σ → Prop
  | .done, _ => True
  | .act f k, s => ∀ s' m, R s s' → R s' (f m s').1 ∧ Task.Ok R V (k (f m s').2) (f m s').1
  | .say e k, s => V e s ∧ Task.Ok R V k s

variable {R : σ → σ → Prop} {V : ε → σ → Prop}

/-- A task that is in order stays in order while the others work. -/
theorem Task.Ok.mono (hd : Discipline R V) {t : Task τ σ ε} {s s' : σ} (h : t.Ok R V s)
    (hs : R s s') : t.Ok R V s' := by
  induction t generalizing s s' with
  | done => trivial
  | act f k ih => exact fun s'' m hs'' ↦ h s'' m (hd.trans _ _ _ hs hs'')
  | say e k ih => exact ⟨hd.stable e s s' h.1 hs, ih h.2 hs⟩

theorem ok_act {α : Type} {f : τ → σ → σ × α} {k : α → Task τ σ ε} {s : σ}
    (h : ∀ s' m, R s s' → R s' (f m s').1 ∧ (k (f m s').2).Ok R V (f m s').1) :
    (Task.act f k).Ok R V s := h

/-- An action that only looks. -/
theorem ok_query (hd : Discipline R V) {α : Type} {g : τ → σ → α} {k : α → Task τ σ ε} {s : σ}
    (h : ∀ s' m, R s s' → (k (g m s')).Ok R V s') :
    (Task.act (fun m s ↦ (s, g m s)) k).Ok R V s :=
  ok_act fun s' m hs ↦ ⟨hd.refl s', h s' m hs⟩

/-! ## The tasks together -/

/-- Every task is in order, and everything said is true. -/
structure Pool.Sound (R : σ → σ → Prop) (V : ε → σ → Prop) (p : Pool τ σ ε) : Prop where
  tasks : ∀ t ∈ p.tasks, t.Ok R V p.store
  history : ∀ e ∈ p.history, V e p.store

theorem Pool.sound_start (s : σ) : Pool.Sound R V (⟨s, [], []⟩ : Pool τ σ ε) :=
  ⟨fun _ h ↦ absurd h List.not_mem_nil, fun _ h ↦ absurd h List.not_mem_nil⟩

/-- **One move.**  It keeps to the relation and leaves everything in order, provided a task that is
added is. -/
theorem Pool.Sound.step (hd : Discipline R V) {p : Pool τ σ ε} (h : p.Sound R V)
    {o : Move τ σ ε} (ho : ∀ t, o = .spawn t → t.Ok R V p.store) :
    R p.store (p.step o).store ∧ (p.step o).Sound R V := by
  cases o with
  | spawn t =>
    refine ⟨hd.refl _, ?_, h.history⟩
    intro t' ht'
    rcases List.mem_append.mp ht' with hold | hnew
    · exact h.tasks t' hold
    · rw [List.mem_singleton.mp hnew]
      exact ho t rfl
  | resume i m =>
    rcases hi : p.tasks[i]? with _ | t
    · have hstep : p.step (.resume i m) = p := by simp only [Pool.step, hi]
      rw [hstep]
      exact ⟨hd.refl _, h⟩
    have hmem : t ∈ p.tasks := List.mem_of_getElem? hi
    cases t with
    | done =>
      have hstep : p.step (.resume i m) = p := by simp only [Pool.step, hi]
      rw [hstep]
      exact ⟨hd.refl _, h⟩
    | act f k =>
      have hstep : p.step (.resume i m) = { p with
          store := (f m p.store).1, tasks := p.tasks.set i (k (f m p.store).2) } := by
        simp only [Pool.step, hi]
      obtain ⟨hr, hk⟩ := h.tasks _ hmem p.store m (hd.refl _)
      rw [hstep]
      refine ⟨hr, fun t' ht' ↦ ?_, fun e he ↦ hd.stable e _ _ (h.history e he) hr⟩
      rcases List.mem_or_eq_of_mem_set ht' with hold | rfl
      · exact (h.tasks t' hold).mono hd hr
      · exact hk
    | say e k =>
      have hstep : p.step (.resume i m) = { p with
          tasks := p.tasks.set i k, history := p.history ++ [e] } := by
        simp only [Pool.step, hi]
      obtain ⟨hv, hk⟩ := h.tasks _ hmem
      rw [hstep]
      refine ⟨hd.refl _, fun t' ht' ↦ ?_, fun e' he' ↦ ?_⟩
      · rcases List.mem_or_eq_of_mem_set ht' with hold | rfl
        · exact h.tasks t' hold
        · exact hk
      · rcases List.mem_append.mp he' with hold | hnew
        · exact h.history e' hold
        · rw [List.mem_singleton.mp hnew]
          exact hv

/-! ## What a task can say at all -/

/-- Everything the task says on any way through it meets `P`, whatever its actions answer. -/
def Task.Says (P : ε → Prop) : Task τ σ ε → Prop
  | .done => True
  | .act _ k => ∀ a, (k a).Says P
  | .say e k => P e ∧ k.Says P

/-- No relation between the states is needed for that. -/
theorem Task.Says.ok {P : ε → Prop} {t : Task τ σ ε} (h : t.Says P) (s : σ) :
    t.Ok (fun _ _ ↦ True) (fun e _ ↦ P e) s := by
  induction t generalizing s with
  | done => trivial
  | act f k ih => exact fun s' m _ ↦ ⟨trivial, ih _ (h _) _⟩
  | say e k ih => exact ⟨h.1, ih h.2 s⟩

/-- The discipline under which the states do not matter. -/
theorem saying_discipline (P : ε → Prop) :
    Discipline (fun _ _ : σ ↦ True) (fun e _ ↦ P e) :=
  ⟨fun _ ↦ trivial, fun _ _ _ _ _ ↦ trivial, fun _ _ _ h _ ↦ h⟩

theorem Task.Ok.strengthen {P : ε → Prop} {V' : ε → σ → Prop} {t : Task τ σ ε} {s : σ}
    (h : t.Ok R V s) (htells : t.Says P) (hV : ∀ e s, V e s → P e → V' e s) : t.Ok R V' s := by
  induction t generalizing s with
  | done => trivial
  | act f k ih =>
    intro s' m hs
    obtain ⟨hr, hk⟩ := h s' m hs
    exact ⟨hr, ih _ hk (htells _)⟩
  | say e k ih => exact ⟨hV e s h.1 htells.1, ih h.2 htells.2⟩

/-! ## Steps under a condition -/

/-- The task is in order from the state `s` on, when it has made `n` steps, provided that it makes
its step number `k` only where `C k` holds. -/
def Task.OkIf (R : σ → σ → Prop) (V : ε → σ → Prop) (C : ℕ → τ → σ → Prop) :
    ℕ → Task τ σ ε → σ → Prop
  | _, .done, _ => True
  | n, .act f k, s => ∀ s' m, R s s' → C n m s' →
    R s' (f m s').1 ∧ Task.OkIf R V C (n + 1) (k (f m s').2) (f m s').1
  | n, .say e k, s => V e s ∧ Task.OkIf R V C (n + 1) k s

section

variable {C : ℕ → τ → σ → Prop} {n : ℕ}

/-- A task that is in order is so under any condition. -/
theorem Task.Ok.okIf {t : Task τ σ ε} {s : σ} (h : t.Ok R V s) : t.OkIf R V C n s := by
  induction t generalizing n s with
  | done => trivial
  | act f k ih =>
    intro s' m hs _
    obtain ⟨hr, hk⟩ := h s' m hs
    exact ⟨hr, ih _ hk⟩
  | say e k ih => exact ⟨h.1, ih h.2⟩

theorem Task.OkIf.mono (hd : Discipline R V) {t : Task τ σ ε} {s s' : σ} (h : t.OkIf R V C n s)
    (hs : R s s') : t.OkIf R V C n s' := by
  induction t generalizing n s s' with
  | done => trivial
  | act f k ih => exact fun s'' m hs'' ↦ h s'' m (hd.trans _ _ _ hs hs'')
  | say e k ih => exact ⟨hd.stable e s s' h.1 hs, ih h.2 hs⟩

theorem okIf_act {α : Type} {f : τ → σ → σ × α} {k : α → Task τ σ ε} {s : σ}
    (h : ∀ s' m, R s s' → C n m s' →
      R s' (f m s').1 ∧ (k (f m s').2).OkIf R V C (n + 1) (f m s').1) :
    (Task.act f k).OkIf R V C n s := h

/-- An action that only looks. -/
theorem okIf_query (hd : Discipline R V) {α : Type} {g : τ → σ → α} {k : α → Task τ σ ε} {s : σ}
    (h : ∀ s' m, R s s' → (k (g m s')).OkIf R V C (n + 1) s') :
    (Task.act (fun m s ↦ (s, g m s)) k).OkIf R V C n s :=
  okIf_act fun s' m hs _ ↦ ⟨hd.refl s', h s' m hs⟩

end

/-- A pool whose tasks have labels, with the number of the steps each of them has made. -/
structure Watched (τ σ ε κ : Type) : Type 1 where
  pool : Pool τ σ ε
  labels : List (κ × ℕ)

namespace Watched

variable {κ : Type}

/-- A new task, under a label. -/
def spawn (w : Watched τ σ ε κ) (l : κ) (t : Task τ σ ε) : Watched τ σ ε κ :=
  ⟨w.pool.step (.spawn t), w.labels ++ [(l, 0)]⟩

/-- The next step of one of the tasks. -/
def resume (w : Watched τ σ ε κ) (i : ℕ) (m : τ) : Watched τ σ ε κ :=
  ⟨w.pool.step (.resume i m), w.labels.modify i fun x ↦ (x.1, x.2 + 1)⟩

/-- Every task is in order under the condition of its label, and everything said is true. -/
structure Sound (R : σ → σ → Prop) (V : ε → σ → Prop) (C : κ → ℕ → τ → σ → Prop)
    (w : Watched τ σ ε κ) : Prop where
  length : w.labels.length = w.pool.tasks.length
  tasks : ∀ (i : ℕ) (t : Task τ σ ε) (l : κ) (n : ℕ), w.pool.tasks[i]? = some t →
    w.labels[i]? = some (l, n) → t.OkIf R V (C l) n w.pool.store
  history : ∀ e ∈ w.pool.history, V e w.pool.store

variable {C : κ → ℕ → τ → σ → Prop} {w : Watched τ σ ε κ}

theorem sound_start (s : σ) : Sound R V C (⟨⟨s, [], []⟩, []⟩ : Watched τ σ ε κ) :=
  ⟨rfl, fun _ _ _ _ h ↦ by simp at h, fun _ h ↦ absurd h List.not_mem_nil⟩

theorem Sound.spawn (h : w.Sound R V C) {l : κ} {t : Task τ σ ε}
    (ht : t.OkIf R V (C l) 0 w.pool.store) : (w.spawn l t).Sound R V C := by
  refine ⟨?_, fun i t' l' n hi hl ↦ ?_, h.history⟩
  · show (w.labels ++ [(l, 0)]).length = (w.pool.tasks ++ [t]).length
    rw [List.length_append, List.length_append, h.length]
    rfl
  · change (w.pool.tasks ++ [t])[i]? = some t' at hi
    change (w.labels ++ [(l, 0)])[i]? = some (l', n) at hl
    rcases Nat.lt_or_ge i w.pool.tasks.length with hlt | hge
    · rw [List.getElem?_append_left hlt] at hi
      rw [List.getElem?_append_left (h.length ▸ hlt)] at hl
      exact h.tasks i t' l' n hi hl
    · rw [List.getElem?_append_right hge, List.getElem?_singleton] at hi
      rw [List.getElem?_append_right (h.length ▸ hge), List.getElem?_singleton] at hl
      split at hi
      · split at hl
        · cases hi
          cases hl
          exact ht
        · cases hl
      · cases hi

theorem Sound.label (h : w.Sound R V C) {i : ℕ} {t : Task τ σ ε}
    (hi : w.pool.tasks[i]? = some t) : ∃ l n, w.labels[i]? = some (l, n) := by
  have hlt : i < w.labels.length := h.length ▸ (List.getElem?_eq_some_iff.mp hi).1
  exact ⟨_, _, List.getElem?_eq_getElem hlt⟩

/-- The task `i` has made a step: what is left of it is in order, and so are the others. -/
theorem Sound.replace (hd : Discipline R V) (h : w.Sound R V C) {i : ℕ} {s' : σ}
    (hs : R w.pool.store s') {rest : Task τ σ ε} {history : List ε} (hhist : ∀ e ∈ history, V e s')
    (hrest : ∀ l n, w.labels[i]? = some (l, n) → rest.OkIf R V (C l) (n + 1) s') :
    Sound R V C ⟨⟨s', w.pool.tasks.set i rest, history⟩,
      w.labels.modify i fun x ↦ (x.1, x.2 + 1)⟩ := by
  refine ⟨?_, fun j t l n hj hl ↦ ?_, hhist⟩
  · rw [List.length_modify, List.length_set, h.length]
  rw [List.getElem?_modify] at hl
  obtain ⟨⟨l₀, n₀⟩, hl₀, heq⟩ := Option.map_eq_some_iff.mp hl
  by_cases hij : i = j
  · subst hij
    rw [if_pos rfl] at heq
    cases heq
    rw [List.getElem?_set_self'] at hj
    obtain ⟨_, -, rfl⟩ := Option.map_eq_some_iff.mp hj
    exact hrest l₀ n₀ hl₀
  · rw [if_neg hij] at heq
    cases heq
    rw [List.getElem?_set_ne hij] at hj
    exact (h.tasks j t l n hj hl₀).mono hd hs

/-- **One step of a task**, made where its condition holds. -/
theorem Sound.resume (hd : Discipline R V) (h : w.Sound R V C) {i : ℕ} {m : τ}
    (hC : ∀ l n, w.labels[i]? = some (l, n) → C l n m w.pool.store) :
    (w.resume i m).Sound R V C := by
  rcases hi : w.pool.tasks[i]? with _ | t
  · have hout : w.labels.length ≤ i := h.length ▸ List.getElem?_eq_none_iff.mp hi
    rw [Watched.resume, Pool.step, hi, List.modify_eq_self hout]
    exact h
  cases t with
  | done =>
    obtain ⟨hlt, hget⟩ := List.getElem?_eq_some_iff.mp hi
    have hkeep : Sound R V C ⟨⟨w.pool.store, w.pool.tasks.set i .done, w.pool.history⟩, _⟩ :=
      h.replace hd (hd.refl _) h.history fun _ _ _ ↦ trivial
    rw [← hget, List.set_getElem_self hlt] at hkeep
    rw [Watched.resume, Pool.step, hi]
    exact hkeep
  | act f k =>
    rw [Watched.resume, Pool.step, hi]
    have hok := fun l n hl ↦ h.tasks i _ l n hi hl w.pool.store m (hd.refl _) (hC l n hl)
    obtain ⟨l, n, hl⟩ := h.label hi
    have hr := (hok l n hl).1
    exact h.replace hd hr (fun e he ↦ hd.stable e _ _ (h.history e he) hr)
      fun l n hl ↦ (hok l n hl).2
  | say e k =>
    rw [Watched.resume, Pool.step, hi]
    have hok := fun l n hl ↦ h.tasks i _ l n hi hl
    obtain ⟨l, n, hl⟩ := h.label hi
    refine h.replace hd (hd.refl _) (fun e' he' ↦ ?_) fun l n hl ↦ (hok l n hl).2
    rcases List.mem_append.mp he' with hold | hnew
    · exact h.history e' hold
    · rw [List.mem_singleton.mp hnew]
      exact (hok l n hl).1

end Watched

end Interleave

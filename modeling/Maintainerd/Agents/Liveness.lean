import Maintainerd.Agents.Pulse
import Mathlib.Data.List.Induction

/-!
# Liveness of agents

The sweep marks an agent offline when it was last seen too long ago, and announces it; an agent that
beats is online again.  The queries keep `status` and `last_seen_at` together where they can: the
heartbeat writes both in one statement.  `Register` does not.  It sets the status and leaves
`last_seen_at` as it was, so

* an agent that has registered and never beaten is online without having been seen, and no sweep
  will ever mark it;
* an agent that registers again after an outage is swept again at once, on the strength of the
  heartbeat before the outage, and announced a second time.

What holds is exact.  `online_backed_iff` says of any history of an agent that being online is
backed by a recent sighting just in case every registration comes after a heartbeat and no sweep
soon after a registration finds the last heartbeat too old; `announced_once_iff` says when an outage
is announced once.
-/

set_option autoImplicit false

namespace Maintainerd

open Machine

/-! ## The history of an agent -/

/-- What an operation meant for the agent, and when. -/
structure Mark where
  now : Int
  touch : Touch
deriving DecidableEq, Repr

/-- `Register` or `Heartbeat`. -/
def Touch.contact : Touch → Bool
  | .registered => true
  | .beaten => true
  | _ => false

/-- What the operations of a run meant for an agent. -/
def Core.log (core : Core) (u : Uuid) : Platform → List FleetOp → List Mark
  | _, [] => []
  | p, o :: ops => ⟨o.now, core.touch u p o⟩ :: core.log u (core.step p o) ops

/-- When the agent last beat. -/
def lastBeat (l : List Mark) : Option Int :=
  ((l.filter fun m ↦ m.touch == .beaten).getLast?).map Mark.now

/-- The last `Register` or `Heartbeat` of the agent. -/
def lastContact (l : List Mark) : Option Mark := (l.filter fun m ↦ m.touch.contact).getLast?

/-- The pulse of the agent after a run. -/
def Core.pulse (core : Core) (u : Uuid) (p : Platform) (ops : List FleetOp) : Option Pulse :=
  pulseOf (run core.step p ops).fleet.db u

theorem log_concat (core : Core) (u : Uuid) (p : Platform) (ops : List FleetOp) (o : FleetOp) :
    core.log u p (ops ++ [o]) =
      core.log u p ops ++ [⟨o.now, core.touch u (run core.step p ops) o⟩] := by
  induction ops generalizing p with
  | nil => rfl
  | cons o' ops ih => rw [List.cons_append, Core.log, ih, Core.log, run_cons, List.cons_append]

theorem lastBeat_concat (l : List Mark) (m : Mark) :
    lastBeat (l ++ [m]) = if m.touch = .beaten then some m.now else lastBeat l := by
  rw [lastBeat, List.filter_append]
  by_cases h : m.touch = .beaten
  · simp [h]
  · simp [h, lastBeat]

theorem lastContact_concat (l : List Mark) (m : Mark) :
    lastContact (l ++ [m]) = if m.touch.contact then some m else lastContact l := by
  rw [lastContact, List.filter_append]
  by_cases h : m.touch.contact = true
  · simp [h]
  · simp [h, lastContact]

/-- If the last contact is a heartbeat, it is the last heartbeat. -/
theorem lastBeat_of_lastContact {l : List Mark} {m : Mark} (h : lastContact l = some m) :
    m.touch = .registered ∨ lastBeat l = some m.now := by
  induction l using List.reverseRecOn with
  | nil => cases h
  | append_singleton l m' ih =>
    rw [lastContact_concat] at h
    rw [lastBeat_concat]
    cases htouch : m'.touch with
    | beaten =>
      rw [htouch] at h
      cases h
      exact .inr (if_pos rfl)
    | registered =>
      rw [htouch] at h
      cases h
      exact .inl htouch
    | _ =>
      rw [htouch] at h
      exact ih h

/-- What the history of an agent says about its pulse: it was last seen when it last beat, it is
online only if it ever made contact, and before it is created it did not. -/
def Tells (l : List Mark) : Option Pulse → Prop
  | none => lastContact l = none ∧ lastBeat l = none
  | some x => x.lastSeenAt = lastBeat l ∧ (x.status = "online" → (lastContact l).isSome = true)

theorem Tells.step {l : List Mark} {x : Option Pulse} (h : Tells l x) (m : Mark)
    (hcreated : ∀ id, m.touch = .created id → x = none)
    (hfound : m.touch.contact = true → x.isSome = true) :
    Tells (l ++ [m]) (m.touch.apply m.now x) := by
  have hcontact := lastContact_concat l m
  have hbeat := lastBeat_concat l m
  cases htouch : m.touch with
  | nothing =>
    simp only [htouch, Touch.contact, Bool.false_eq_true, if_false, reduceCtorEq]
      at hcontact hbeat
    cases x <;> simpa only [Touch.apply, Tells, hcontact, hbeat] using h
  | created id =>
    simp only [htouch, Touch.contact, Bool.false_eq_true, if_false, reduceCtorEq]
      at hcontact hbeat
    rw [hcreated id htouch] at h
    exact ⟨hbeat.trans h.2 |>.symm, fun honline ↦ absurd honline (by simp)⟩
  | registered =>
    obtain ⟨y, rfl⟩ := Option.isSome_iff_exists.mp (hfound (by rw [htouch]; rfl))
    simp only [htouch, Touch.contact, if_true, if_false, reduceCtorEq] at hcontact hbeat
    exact ⟨h.1.trans hbeat.symm, fun _ ↦ by rw [hcontact]; rfl⟩
  | beaten =>
    obtain ⟨y, rfl⟩ := Option.isSome_iff_exists.mp (hfound (by rw [htouch]; rfl))
    simp only [htouch, Touch.contact, if_true] at hcontact hbeat
    exact ⟨hbeat.symm, fun _ ↦ by rw [hcontact]; rfl⟩
  | swept =>
    simp only [htouch, Touch.contact, Bool.false_eq_true, if_false, reduceCtorEq]
      at hcontact hbeat
    cases x with
    | none => exact ⟨hcontact.trans h.1, hbeat.trans h.2⟩
    | some y => exact ⟨h.1.trans hbeat.symm, fun honline ↦ absurd honline (by simp)⟩

section

variable (core : Core) {u : Uuid} {p : Platform}

/-- An agent that is housed is housed after any run. -/
theorem Housed.run (h : Housed p.fleet.db u) (ops : List FleetOp) :
    Housed (run core.step p ops).fleet.db u := by
  induction ops generalizing p with
  | nil => exact h
  | cons o ops ih => exact ih (h.step o)

theorem housed_of_none (h : pulseOf p.fleet.db u = none) : Housed p.fleet.db u := by
  intro x hx
  rw [h] at hx
  cases hx

/-- One operation after a run. -/
theorem touched_run (h : pulseOf p.fleet.db u = none) (ops : List FleetOp) (o : FleetOp) :
    Touched core u (run core.step p ops) o :=
  touched_of_housed core ((housed_of_none h).run core ops) o

theorem pulse_concat (h : pulseOf p.fleet.db u = none) (ops : List FleetOp) (o : FleetOp) :
    core.pulse u p (ops ++ [o]) =
      (core.touch u (run core.step p ops) o).apply o.now (core.pulse u p ops) := by
  rw [Core.pulse, run_append]
  exact (touched_run core h ops o).moves.2

/-- The history of an agent that did not exist at first tells its pulse. -/
theorem tells_log (h : pulseOf p.fleet.db u = none) (ops : List FleetOp) :
    Tells (core.log u p ops) (core.pulse u p ops) := by
  induction ops using List.reverseRecOn with
  | nil =>
    rw [Core.pulse, run_nil, h]
    exact ⟨rfl, rfl⟩
  | append_singleton ops o ih =>
    have ho := touched_run core h ops o
    rw [log_concat, pulse_concat core h]
    refine ih.step ⟨o.now, core.touch u (run core.step p ops) o⟩ (fun id hid ↦ ?_) fun hc ↦ ?_
    · exact (ho.created id hid).1
    · refine ho.found ?_
      dsimp only at hc
      cases htouch : core.touch u (run core.step p ops) o with
      | registered => exact .inl rfl
      | beaten => exact .inr rfl
      | _ => rw [htouch] at hc; cases hc

end

/-! ## Being online is backed by a sighting -/

/-- Being online is backed by a recent sighting, in every state of a run: the agent has been seen;
after a sweep it has been seen within the interval; and a sweep within the interval after its last
contact leaves it alone. -/
structure Backed (core : Core) (u : Uuid) (p : Platform) (ops : List FleetOp) : Prop where
  seen : ∀ pre post, ops = pre ++ post → ∀ x, core.pulse u p pre = some x →
    x.status = "online" → x.lastSeenAt.isSome = true
  recent : ∀ pre o post, ops = pre ++ o :: post → o.sweeps = true →
    ∀ x, core.pulse u p (pre ++ [o]) = some x → x.status = "online" →
      ∃ t, x.lastSeenAt = some t ∧ o.now - core.interval ≤ t
  spared : ∀ pre o post, ops = pre ++ o :: post → o.sweeps = true →
    ∀ m, lastContact (core.log u p pre) = some m → o.now < m.now + core.interval →
      core.touch u (run core.step p pre) o ≠ .swept

/-- The heartbeats of an agent come in time: one before every registration, and after a registration
the next one before a sweep that finds the last one too old. -/
structure BeatsInTime (core : Core) (u : Uuid) (p : Platform) (ops : List FleetOp) : Prop where
  before : ∀ pre o post, ops = pre ++ o :: post →
    core.touch u (run core.step p pre) o = .registered →
      (lastBeat (core.log u p pre)).isSome = true
  after : ∀ pre o post, ops = pre ++ o :: post → o.sweeps = true →
    ∀ m, lastContact (core.log u p pre) = some m → m.touch = .registered →
      o.now < m.now + core.interval →
        ∀ t, lastBeat (core.log u p pre) = some t → o.now - core.interval ≤ t

section

variable {core : Core} {u : Uuid} {p : Platform} {ops : List FleetOp}

/-- After a contact there has been a heartbeat. -/
theorem BeatsInTime.beaten (h : BeatsInTime core u p ops) {pre post : List FleetOp}
    (hops : ops = pre ++ post) (hc : (lastContact (core.log u p pre)).isSome = true) :
    (lastBeat (core.log u p pre)).isSome = true := by
  induction pre using List.reverseRecOn generalizing post with
  | nil => cases hc
  | append_singleton pre o ih =>
    rw [List.append_assoc] at hops
    rw [log_concat, lastContact_concat] at hc
    rw [log_concat, lastBeat_concat]
    by_cases hbeaten : core.touch u (run core.step p pre) o = .beaten
    · rw [if_pos hbeaten]
      rfl
    · rw [if_neg hbeaten]
      by_cases hreg : core.touch u (run core.step p pre) o = .registered
      · exact h.before pre o post hops hreg
      · refine ih hops ?_
        rwa [if_neg] at hc
        cases htouch : core.touch u (run core.step p pre) o <;> simp_all [Touch.contact]

/-- A sweep that leaves an agent alone that is online found it recent. -/
theorem recent_of_not_swept {o : FleetOp} {q : Platform} (ho : Touched core u q o)
    (hsweeps : o.sweeps = true) (hnot : core.touch u q o ≠ .swept) {x : Pulse}
    (hx : pulseOf q.fleet.db u = some x) (hstatus : x.status ≠ "offline") {t : Int}
    (ht : x.lastSeenAt = some t) : o.now - core.interval ≤ t := by
  by_contra hlt
  refine hnot (ho.swept.mpr ⟨hsweeps, ?_⟩)
  rw [hx, Option.any_some, Pulse.stale, ht, Option.any_some]
  simp only [Bool.and_eq_true, bne_iff_ne, ne_eq, hstatus, not_false_eq_true, decide_eq_true_eq,
    true_and]
  omega

/-- Heartbeats that come in time back the agent. -/
theorem BeatsInTime.backed (h : BeatsInTime core u p ops)
    (hnone : pulseOf p.fleet.db u = none) : Backed core u p ops := by
  have hseen : ∀ pre post, ops = pre ++ post → ∀ x, core.pulse u p pre = some x →
      x.status = "online" → x.lastSeenAt.isSome = true := by
    intro pre post hops x hx honline
    have htells := tells_log core hnone pre
    rw [hx] at htells
    rw [htells.1]
    exact h.beaten hops (htells.2 honline)
  refine ⟨hseen, ?_, ?_⟩
  · intro pre o post hops hsweeps x hx honline
    have ho := touched_run core hnone pre o
    rw [pulse_concat core hnone] at hx
    rcases ho.sweeps hsweeps with htouch | htouch
    · rw [htouch, Touch.apply, Option.map_eq_some_iff] at hx
      obtain ⟨y, -, rfl⟩ := hx
      exact absurd honline (by simp)
    · rw [htouch] at hx
      obtain ⟨t, ht⟩ := Option.isSome_iff_exists.mp (hseen pre (o :: post) hops x hx honline)
      refine ⟨t, ht, recent_of_not_swept ho hsweeps (by simp [htouch]) hx ?_ ht⟩
      rw [honline]
      decide
  · intro pre o post hops hsweeps m hm hsoon hswept
    obtain ⟨-, hstale⟩ := (touched_run core hnone pre o).swept.mp hswept
    obtain ⟨x, hx, hstale⟩ := (Option.any_eq_true _ _).mp hstale
    have htells := tells_log core hnone pre
    rw [Core.pulse, hx] at htells
    rw [Pulse.stale, Bool.and_eq_true, htells.1] at hstale
    obtain ⟨t, ht, hlt⟩ := (Option.any_eq_true _ _).mp hstale.2
    rw [decide_eq_true_eq] at hlt
    rcases lastBeat_of_lastContact hm with hreg | hbeat
    · have := h.after pre o post hops hsweeps m hm hreg hsoon t ht
      omega
    · rw [hbeat, Option.some.injEq] at ht
      omega

/-- An agent that is backed is offline only when its interval has passed. -/
theorem Backed.offline (h : Backed core u p ops) (hnone : pulseOf p.fleet.db u = none)
    {pre post : List FleetOp} (hops : ops = pre ++ post) {x : Pulse}
    (hx : core.pulse u p pre = some x) (hoffline : x.status = "offline") {m : Mark}
    (hm : lastContact (core.log u p pre) = some m) :
    ∃ o ∈ pre, m.now + core.interval ≤ o.now := by
  induction pre using List.reverseRecOn generalizing post x with
  | nil => cases hm
  | append_singleton pre o ih =>
    rw [List.append_assoc] at hops
    rw [pulse_concat core hnone] at hx
    rw [log_concat, lastContact_concat] at hm
    cases htouch : core.touch u (run core.step p pre) o with
    | nothing =>
      rw [htouch] at hx hm
      obtain ⟨o', ho', hle⟩ := ih hops hx hoffline hm
      exact ⟨o', List.mem_append_left _ ho', hle⟩
    | created id =>
      rw [htouch] at hx
      cases hx
      exact absurd hoffline (by simp)
    | registered =>
      rw [htouch, Touch.apply, Option.map_eq_some_iff] at hx
      obtain ⟨y, -, rfl⟩ := hx
      exact absurd hoffline (by simp)
    | beaten =>
      rw [htouch, Touch.apply, Option.map_eq_some_iff] at hx
      obtain ⟨y, -, rfl⟩ := hx
      exact absurd hoffline (by simp)
    | swept =>
      rw [htouch] at hm
      have hsweeps := ((touched_run core hnone pre o).swept.mp htouch).1
      refine ⟨o, by simp, ?_⟩
      by_contra hlt
      exact h.spared pre o post hops hsweeps m hm (by omega) htouch

/-- An agent that is backed beats in time. -/
theorem Backed.beatsInTime (h : Backed core u p ops) (hnone : pulseOf p.fleet.db u = none)
    (htimes : (ops.map FleetOp.now).Pairwise (· ≤ ·)) : BeatsInTime core u p ops := by
  refine ⟨?_, ?_⟩
  · intro pre o post hops hreg
    obtain ⟨x, hx⟩ :=
      Option.isSome_iff_exists.mp ((touched_run core hnone pre o).found (.inl hreg))
    have htells := tells_log core hnone pre
    rw [Core.pulse, hx] at htells
    have hafter : core.pulse u p (pre ++ [o]) = some { x with status := "online" } := by
      rw [pulse_concat core hnone, hreg, Core.pulse, hx]
      rfl
    rw [← htells.1]
    exact h.seen (pre ++ [o]) post (by simp [hops]) { x with status := "online" } hafter rfl
  · intro pre o post hops hsweeps m hm _ hsoon t ht
    have htells := tells_log core hnone pre
    rcases hx : core.pulse u p pre with _ | x
    · rw [hx] at htells
      rw [htells.1] at hm
      cases hm
    rw [hx] at htells
    by_cases hoffline : x.status = "offline"
    · obtain ⟨o', ho', hle⟩ := h.offline hnone hops hx hoffline hm
      have : o'.now ≤ o.now := by
        rw [hops, List.map_append, List.pairwise_append] at htimes
        exact htimes.2.2 _ (List.mem_map_of_mem ho') _ (by simp)
      omega
    · exact recent_of_not_swept (touched_run core hnone pre o) hsweeps
        (h.spared pre o post hops hsweeps m hm hsoon) hx hoffline (htells.1.trans ht)

end

/-- **Being online is backed by a recent sighting exactly when the agent beats in time.**  Take any
agent that does not exist yet, and any sequence of creations, enrolments, registrations, heartbeats
and passes of the supervisor at times that do not go back.  In every state of the run an online
agent has been seen, within the interval if it was just swept, and no sweep within the interval
after its last contact marks it offline, just in case every registration comes after a heartbeat,
and no sweep within the interval after a registration comes when the last heartbeat is too old. -/
theorem online_backed_iff (core : Core) (u : Uuid) (p : Platform) (ops : List FleetOp)
    (hnone : pulseOf p.fleet.db u = none) (htimes : (ops.map FleetOp.now).Pairwise (· ≤ ·)) :
    Backed core u p ops ↔ BeatsInTime core u p ops :=
  ⟨fun h ↦ h.beatsInTime hnone htimes, fun h ↦ h.backed hnone⟩

/-- The packages, the gateway and the supervisor of the examples; an agent is offline after ninety
seconds. -/
def plainCore : Core where
  pki := plainPki
  gateway := newAgentGateway ⟨false, 0, 0⟩ (fun text ↦ if text = "web" then some 7 else none)
    (fun _ ↦ none) fun _ ↦ ""
  supervisor := ⟨RawOptions.withDefaults ⟨0, 0, 0, 0, ""⟩, fun _ ↦ none, Char.toLower⟩

/-- The fleet of the examples, in which there is no agent 7 yet. -/
def plainPlatform : Platform := ⟨newFleet, .fresh⟩

/-- Agent 7 is created. -/
def createWeb (now : Int) : FleetOp := ⟨now, .create 7 (some "token") ⟨1, "web", "", "", []⟩⟩

/-- Agent 7 registers. -/
def registerWeb (now : Int) : FleetOp := ⟨now, .register none "web" "" []⟩

/-- Agent 7 beats. -/
def beatWeb (now : Int) : FleetOp := ⟨now, .heartbeat none "web"⟩

/-- A pass of the supervisor. -/
def sweepPass (now : Int) : FleetOp :=
  ⟨now, .pass ⟨false, [], some [], some [], fun _ ↦ none, some []⟩⟩

/-- Agent 7 beats, registers, and is swept when it has been silent for long enough. -/
theorem online_backed_iff_web :
    let ops := [createWeb 0, beatWeb 1, registerWeb 2, sweepPass 3, sweepPass (100 * 10 ^ 6)]
    (plainCore.log 7 plainPlatform ops).map Mark.touch =
        [.created 1, .beaten, .registered, .nothing, .swept] ∧
      Backed plainCore 7 plainPlatform ops := by
  intro ops
  have hafter : ∀ i : Fin ops.length, (ops.get i).sweeps = true →
      (lastContact (plainCore.log 7 plainPlatform (ops.take i))).all (fun m ↦
        decide ((ops.get i).now < m.now + plainCore.interval →
          (lastBeat (plainCore.log 7 plainPlatform (ops.take i))).all fun t ↦
            decide ((ops.get i).now - plainCore.interval ≤ t))) = true := by
    decide
  refine ⟨by decide, (online_backed_iff plainCore 7 plainPlatform ops rfl (by decide)).mpr
    ⟨forall_split.mpr (by decide), forall_split.mpr ?_⟩⟩
  intro i hsweeps m hm _ hsoon t ht
  have hall := (Option.all_eq_true _ _).mp (hafter i hsweeps) m hm
  exact of_decide_eq_true ((Option.all_eq_true _ _).mp (of_decide_eq_true hall hsoon) t ht)

/-- **Registering sets the status and not the sighting.**  An agent that registers before it has
ever beaten is online unseen, and stays so under every sweep; one that registers after an outage is
marked offline a second later. -/
theorem registered_unseen :
    plainCore.pulse 7 plainPlatform
        [createWeb 0, registerWeb 1, sweepPass (500 * 10 ^ 6)] = some ⟨"online", none, 1⟩ ∧
      (plainCore.log 7 plainPlatform
          [createWeb 0, beatWeb 1, sweepPass (200 * 10 ^ 6), registerWeb (300 * 10 ^ 6),
            sweepPass (301 * 10 ^ 6)]).map Mark.touch =
        [.created 1, .beaten, .swept, .registered, .swept] := by
  decide

/-! ## An outage is announced once -/

/-- What the supervisor emits along a run. -/
def Core.emitted (core : Core) : Platform → List FleetOp → List Effect
  | _, [] => []
  | p, o :: ops => core.effects p o ++ core.emitted (core.step p o) ops

/-- The agent is marked offline. -/
def isOffline (u : Uuid) (p : Platform) : Bool :=
  (pulseOf p.fleet.db u).any fun x ↦ x.status == "offline"

/-- The operation marks the agent offline. -/
def Core.sweptAt (core : Core) (u : Uuid) (p : Platform) (o : FleetOp) : Bool :=
  core.touch u p o = .swept

/-- The agent has last beaten at `t`. -/
structure SeenAt (u : Uuid) (t : Int) (p : Platform) : Prop where
  housed : Housed p.fleet.db u
  seen : ∃ x, pulseOf p.fleet.db u = some x ∧ x.lastSeenAt = some t

section

variable {core : Core} {u : Uuid} {t : Int} {p : Platform} {ops : List FleetOp}

/-- Until the agent beats again, it has last beaten then. -/
theorem SeenAt.step (h : SeenAt u t p) {o : FleetOp} (hbeat : core.touch u p o ≠ .beaten) :
    SeenAt u t (core.step p o) := by
  have ho := touched_of_housed core h.housed o
  obtain ⟨x, hx, hseen⟩ := h.seen
  refine ⟨h.housed.step o, ?_⟩
  rw [ho.moves.2]
  cases htouch : core.touch u p o with
  | nothing => exact ⟨x, hx, hseen⟩
  | created id =>
    rw [(ho.created id htouch).1] at hx
    cases hx
  | registered => exact ⟨{ x with status := "online" }, by rw [hx]; rfl, hseen⟩
  | beaten => exact absurd htouch hbeat
  | swept => exact ⟨{ x with status := "offline" }, by rw [hx]; rfl, hseen⟩

/-- The sweep picks the agent if it is not marked yet and its last heartbeat is too old. -/
theorem SeenAt.sweptAt_iff (core : Core) (h : SeenAt u t p) (o : FleetOp) :
    core.sweptAt u p o = true ↔
      o.sweeps = true ∧ isOffline u p = false ∧ t < o.now - core.interval := by
  obtain ⟨x, hx, hseen⟩ := h.seen
  rw [Core.sweptAt, decide_eq_true_eq, (touched_of_housed core h.housed o).swept, isOffline, hx,
    Option.any_some, Option.any_some, Pulse.stale, hseen, Option.any_some]
  simp

/-- Until the agent beats again, it is marked by the sweep that picks it and unmarked when it
registers. -/
theorem SeenAt.isOffline_step (h : SeenAt u t p) {o : FleetOp}
    (hbeat : core.touch u p o ≠ .beaten) :
    isOffline u (core.step p o) =
      (core.sweptAt u p o || isOffline u p && core.touch u p o != .registered) := by
  have ho := touched_of_housed core h.housed o
  obtain ⟨x, hx, -⟩ := h.seen
  rw [isOffline, ho.moves.2, isOffline, Core.sweptAt]
  cases htouch : core.touch u p o with
  | created id =>
    rw [(ho.created id htouch).1] at hx
    cases hx
  | beaten => exact absurd htouch hbeat
  | _ => simp [hx, Touch.apply]

/-- What is emitted for the agent is what the sweeps picked. -/
theorem count_emitted (hh : Housed p.fleet.db u) :
    (core.emitted p ops).count (.agentOffline u) = tally core.step (core.sweptAt u) p ops := by
  induction ops generalizing p with
  | nil => rfl
  | cons o ops ih =>
    rw [Core.emitted, List.count_append, ih (hh.step o), tally,
      (touched_of_housed core hh o).announced, Core.sweptAt]
    by_cases h : core.touch u p o = .swept <;> simp [h]

/-- The agent does not beat. -/
def Silent (core : Core) (u : Uuid) (p : Platform) (ops : List FleetOp) : Prop :=
  Guarded core.step (fun p o ↦ core.touch u p o ≠ .beaten) p ops

instance (core : Core) (u : Uuid) (p : Platform) (ops : List FleetOp) :
    Decidable (Silent core u p ops) :=
  inferInstanceAs (Decidable (Guarded ..))

/-- After a registration that ends an outage, the sweeps stop until the agent beats. -/
def NoSweepAfter (core : Core) (u : Uuid) (p : Platform) (ops : List FleetOp) : Prop :=
  ∀ pre r post, ops = pre ++ r :: post → core.touch u (run core.step p pre) r = .registered →
    isOffline u (run core.step p pre) = true → ∀ o ∈ post, o.sweeps = false

theorem NoSweepAfter.tail {o : FleetOp} (h : NoSweepAfter core u p (o :: ops)) :
    NoSweepAfter core u (core.step p o) ops :=
  fun pre r post hops ↦ h (o :: pre) r post (by rw [hops]; rfl)

/-- Where nothing sweeps, nothing is picked. -/
theorem tally_eq_zero (h : SeenAt u t p) (hsilent : Silent core u p ops)
    (hnone : ∀ o ∈ ops, o.sweeps = false) : tally core.step (core.sweptAt u) p ops = 0 := by
  induction ops generalizing p with
  | nil => rfl
  | cons o ops ih =>
    have hswept : core.sweptAt u p o = false := by
      rw [Bool.eq_false_iff, Ne, h.sweptAt_iff core o, hnone o List.mem_cons_self]
      simp
    rw [tally, hswept,
      ih (h.step hsilent.1) hsilent.2 fun o ho ↦ hnone o (List.mem_cons_of_mem _ ho)]
    rfl

/-- An agent that is marked is not picked again. -/
theorem tally_of_offline (h : SeenAt u t p) (hsilent : Silent core u p ops)
    (hoff : isOffline u p = true) (hno : NoSweepAfter core u p ops) :
    tally core.step (core.sweptAt u) p ops = 0 := by
  induction ops generalizing p with
  | nil => rfl
  | cons o ops ih =>
    have hswept : core.sweptAt u p o = false := by
      rw [Bool.eq_false_iff, Ne, h.sweptAt_iff core o, hoff]
      simp
    have hnext := h.step hsilent.1
    rw [tally, hswept, Bool.toNat_false, Nat.zero_add]
    by_cases hreg : core.touch u p o = .registered
    · exact tally_eq_zero hnext hsilent.2 (hno [] o ops rfl hreg hoff)
    · refine ih hnext hsilent.2 ?_ hno.tail
      rw [h.isOffline_step hsilent.1, hoff]
      simp [hreg]

/-- An agent that is not marked is picked at most once. -/
theorem tally_le_one (h : SeenAt u t p) (hsilent : Silent core u p ops)
    (hno : NoSweepAfter core u p ops) : tally core.step (core.sweptAt u) p ops ≤ 1 := by
  induction ops generalizing p with
  | nil => exact Nat.zero_le _
  | cons o ops ih =>
    have hnext := h.step hsilent.1
    rw [tally]
    by_cases hswept : core.sweptAt u p o = true
    · have hoff : isOffline u (core.step p o) = true := by
        rw [h.isOffline_step hsilent.1, hswept, Bool.true_or]
      rw [hswept, tally_of_offline hnext hsilent.2 hoff hno.tail]
      rfl
    · rw [Bool.eq_false_iff.mpr hswept, Bool.toNat_false, Nat.zero_add]
      exact ih hnext hsilent.2 hno.tail

/-- An agent that is not marked stays so until a sweep picks it. -/
theorem not_offline_until (h : SeenAt u t p) (hsilent : Silent core u p ops)
    (hoff : isOffline u p = false) :
    isOffline u (run core.step p ops) = false ∨
      ∃ o ∈ ops, t < o.now - core.interval ∧ 0 < tally core.step (core.sweptAt u) p ops := by
  have huntil := hsilent.until (I := fun q ↦ SeenAt u t q ∧ isOffline u q = false)
    (E := fun q o ↦ core.sweptAt u q o = true) ⟨h, hoff⟩ ?_
  · rcases huntil with ⟨-, hend⟩ | ⟨pre, o, post, rfl, ⟨hseen, -⟩, hswept⟩
    · exact .inl hend
    · refine .inr ⟨o, by simp, ((hseen.sweptAt_iff core o).mp hswept).2.2, ?_⟩
      rw [tally_append, tally, hswept, Bool.toNat_true]
      omega
  · rintro q o ⟨hseen, hq⟩ hbeat
    by_cases hswept : core.sweptAt u q o = true
    · exact .inr hswept
    · refine .inl ⟨hseen.step hbeat, ?_⟩
      rw [hseen.isOffline_step hbeat, Bool.eq_false_iff.mpr hswept, hq]
      rfl

theorem SeenAt.run (h : SeenAt u t p) (hsilent : Silent core u p ops) :
    SeenAt u t (run core.step p ops) :=
  hsilent.invariant (I := SeenAt u t) h fun _ _ hseen hbeat ↦ hseen.step hbeat

/-- A sweep after a registration that ended an outage picks the agent a second time. -/
theorem NoSweepAfter.of_tally_le_one (h : SeenAt u t p) (hsilent : Silent core u p ops)
    (htimes : (ops.map FleetOp.now).Pairwise (· ≤ ·)) (hoff : isOffline u p = false)
    (hle : tally core.step (core.sweptAt u) p ops ≤ 1) : NoSweepAfter core u p ops := by
  intro pre r post hops hreg hoff' o ho
  by_contra hsweeps
  rw [Bool.not_eq_false] at hsweeps
  obtain ⟨mid, rest, rfl⟩ := List.append_of_mem ho
  subst hops
  obtain ⟨hpre, hr, hpost⟩ := guarded_append.mp hsilent
  obtain ⟨hmid, -⟩ := guarded_append.mp hpost
  -- the outage: a sweep picked the agent before it registered
  rcases not_offline_until h hpre hoff with hend | ⟨o', ho', hold, hfirst⟩
  · rw [hend] at hoff'
    cases hoff'
  have hlater : o'.now ≤ o.now := by
    rw [List.map_append, List.pairwise_append] at htimes
    exact htimes.2.2 _ (List.mem_map_of_mem ho') _ (List.mem_map_of_mem (by simp))
  have hseen := (h.run hpre).step hr
  have hback : isOffline u (core.step (Machine.run core.step p pre) r) = false := by
    have hswept : core.sweptAt u (Machine.run core.step p pre) r = false := by
      simp [Core.sweptAt, hreg]
    rw [(h.run hpre).isOffline_step hr, hswept, hreg]
    simp
  rw [tally_append, tally, tally_append, tally] at hle
  -- and a sweep picks it once more, at the latest here
  rcases not_offline_until hseen hmid hback with hend | ⟨-, -, -, hsecond⟩
  · have hswept := ((hseen.run hmid).sweptAt_iff core o).mpr ⟨hsweeps, hend, by omega⟩
    rw [hswept, Bool.toNat_true] at hle
    omega
  · omega

end

/-- **An outage is announced once exactly when no sweep follows a registration that ended it.**
Take any run from any state of the platform in which an agent's heartbeat `b` was answered, up to
its next heartbeat, at times that do not go back.  The passes emit `agent.offline` for the agent at
most once just in case, after any registration of the agent while it is marked offline, no pass
sweeps. -/
theorem announced_once_iff (core : Core) (u : Uuid) (p : Platform) (b : FleetOp)
    (ops : List FleetOp) (hb : core.touch u p b = .beaten)
    (hsilent : Silent core u (core.step p b) ops)
    (htimes : (ops.map FleetOp.now).Pairwise (· ≤ ·)) :
    (core.emitted (core.step p b) ops).count (.agentOffline u) ≤ 1 ↔
      NoSweepAfter core u (core.step p b) ops := by
  have hh := housed_of_beaten hb
  have hbeat := touched_of_housed core hh b
  obtain ⟨x, hx⟩ := Option.isSome_iff_exists.mp (hbeat.found (.inr hb))
  have hpulse : pulseOf (core.step p b).fleet.db u =
      some { x with status := "online", lastSeenAt := some b.now } := by
    rw [hbeat.moves.2, hb, hx]
    rfl
  have hseen : SeenAt u b.now (core.step p b) := ⟨hh.step b, _, hpulse, rfl⟩
  have honline : isOffline u (core.step p b) = false := by
    rw [isOffline, hpulse]
    rfl
  rw [count_emitted hseen.housed]
  exact ⟨NoSweepAfter.of_tally_le_one hseen hsilent htimes honline,
    tally_le_one hseen hsilent⟩

/-- Agent 7 falls silent, is announced and registers; the next pass is after its heartbeat. -/
theorem announced_once_iff_web :
    let p := run plainCore.step plainPlatform [createWeb 0]
    let ops := [sweepPass 2, sweepPass (200 * 10 ^ 6), registerWeb (300 * 10 ^ 6)]
    plainCore.emitted (plainCore.step p (beatWeb 1)) ops = [.agentOffline 7] ∧
      (plainCore.emitted (plainCore.step p (beatWeb 1)) ops).count (.agentOffline 7) ≤ 1 := by
  intro p ops
  refine ⟨by decide, (announced_once_iff plainCore 7 p (beatWeb 1) ops (by decide) (by decide)
    (by decide)).mpr (forall_split.mpr (by decide))⟩

/-- **An outage is announced twice.**  The agent beats, falls silent and is swept, registers and is
swept again. -/
theorem announced_twice :
    let p := run plainCore.step plainPlatform [createWeb 0]
    let ops := [sweepPass (200 * 10 ^ 6), registerWeb (300 * 10 ^ 6), sweepPass (301 * 10 ^ 6)]
    let p' := plainCore.step p (beatWeb 1)
    plainCore.touch 7 p (beatWeb 1) = .beaten ∧ Silent plainCore 7 p' ops ∧
      plainCore.emitted p' ops = [.agentOffline 7, .agentOffline 7] := by
  decide

end Maintainerd

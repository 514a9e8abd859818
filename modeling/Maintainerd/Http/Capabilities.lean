import Maintainerd.Http.Guard
import Maintainerd.Lib.Run
import Maintainerd.Setup.Identity

/-!
# The capability probe

`internal/server/capabilities.go`: what core tells anybody who asks, before there is a token to
show.  Most of it is known when the process starts; whether setup is complete, and the OAuth client
of the console, is read from the row of `control_plane` and remembered.

The memory has two rules.  That setup is complete is remembered for good, and that it is not for
`capabilitiesCacheTTL`.  The first is right because setup is never undone; the second is the only
thing between an anonymous caller and the database.  `probe_truthful` says what the two come to, for
any probes and any attempts at setup between them.
-/

set_option autoImplicit false

namespace Maintainerd.Http

open Machine

/-! ## The probe -/

/-- `CapabilityInfo`; `hasSetup` says that there is an orchestrator to ask. -/
structure CapabilityInfo where
  version : String
  authIssuer : String
  authAudience : String
  authTokenEndpoint : String
  authAuthorizeEndpoint : String
  hasSetup : Bool

/-- `capabilityAuth`; an empty endpoint is left out of the answer. -/
structure CapabilityAuth where
  issuer : String
  audience : String
  tokenEndpoint : String
  authorizeEndpoint : String
deriving DecidableEq, Repr

/-- `capabilitiesPayload`. -/
structure CapabilitiesPayload where
  service : String
  version : String
  guardTransport : String
  guardMode : String
  setupComplete : Bool
  auth : Option CapabilityAuth
  consoleClientID : Option String
deriving DecidableEq, Repr

/-- `capabilitiesCacheTTL`, in nanoseconds. -/
def capabilitiesCacheTTL : Int := 5 * 10 ^ 9

/-- What a `capabilitiesHandler` remembers. -/
structure ProbeCache where
  complete : Bool := false
  consoleClientID : String := ""
  checkedAt : Option Int := none

/-- What a probe is told: the time when it looks at the clock, the time when it has read the row,
and whether the read succeeds. -/
structure ProbeTold where
  now : Int
  done : Int
  reads : Bool

/-- `ConsoleIdentity`, from the row as it was read. -/
def consoleIdentity (row : Option ControlPlane) : Bool × String :=
  let res := loadPersisted row
  if res.completedAt.isSome then (true, res.consoleOAuthClientID) else (false, "")

/-- What is read of the row. -/
def ProbeTold.seen (t : ProbeTold) (row : Option ControlPlane) : Option ControlPlane :=
  if t.reads then row else none

/-- The handler goes to the database. -/
def ProbeCache.asks (h : ProbeCache) (info : CapabilityInfo) (t : ProbeTold) : Bool :=
  info.hasSetup && !h.complete &&
    h.checkedAt.all fun checked ↦ decide (capabilitiesCacheTTL ≤ t.now - checked)

/-- `setupIdentity`. -/
def ProbeCache.setupIdentity (h : ProbeCache) (info : CapabilityInfo) (t : ProbeTold)
    (row : Option ControlPlane) : ProbeCache × (Bool × String) :=
  if !info.hasSetup then (h, (false, ""))
  else if h.complete then (h, (true, h.consoleClientID))
  else if h.checkedAt.any fun checked ↦ decide (t.now - checked < capabilitiesCacheTTL) then
    (h, (false, ""))
  else
    let found := consoleIdentity (t.seen row)
    (⟨found.1, found.2, some t.done⟩, found)

/-- The answer of `serve`. -/
def payload (info : CapabilityInfo) (g : Guard) (found : Bool × String) : CapabilitiesPayload where
  service := "core"
  version := if info.version = "" then "unknown" else info.version
  guardTransport := "http"
  guardMode := g.mode.name
  setupComplete := found.1
  auth :=
    if g.mode = .enforced then
      some ⟨info.authIssuer, info.authAudience, info.authTokenEndpoint, info.authAuthorizeEndpoint⟩
    else none
  consoleClientID := if found.2 = "" then none else some found.2

/-- What a probe does to the memory of the handler: nothing, or it replaces it by what it reads. -/
theorem ProbeCache.setupIdentity_eq (h : ProbeCache) {info : CapabilityInfo}
    (hsetup : info.hasSetup = true) (t : ProbeTold) (row : Option ControlPlane) :
    h.setupIdentity info t row =
      if h.asks info t then
        (⟨(consoleIdentity (t.seen row)).1, (consoleIdentity (t.seen row)).2, some t.done⟩,
          consoleIdentity (t.seen row))
      else (h, (h.complete, if h.complete then h.consoleClientID else "")) := by
  obtain ⟨complete, id, checked⟩ := h
  rcases complete with _ | _
  · rcases checked with _ | checked
    · simp [setupIdentity, asks, hsetup]
    · by_cases hfresh : t.now - checked < capabilitiesCacheTTL
      · simp [setupIdentity, asks, hsetup, hfresh]
      · simp [setupIdentity, asks, hsetup, hfresh, Int.not_lt.mp hfresh]
  · simp [setupIdentity, asks, hsetup]

/-! ## Probes and attempts -/

/-- The row and Auth, the memory of the handler, the time of the last thing that happened, and the
times at which the row was read for a probe, the latest first. -/
structure ProbedSite where
  world : World
  cache : ProbeCache
  clock : Int
  readAt : List Int

/-- A process that has just started. -/
def ProbedSite.start (w : World) (clock : Int) : ProbedSite := ⟨w, {}, clock, []⟩

/-- A probe, or an attempt at setup that is over at some time. -/
inductive ProbeMove where
  | probe (t : ProbeTold)
  | attempt (now : Int) (x : String × Attempt)

/-- What is answered to a probe. -/
def ProbedSite.answer (s : ProbedSite) (info : CapabilityInfo) (t : ProbeTold) : Bool × String :=
  (s.cache.setupIdentity info t s.world.row).2

/-- What happens. -/
def ProbedSite.step (env : SetupEnv) (info : CapabilityInfo) (s : ProbedSite) :
    ProbeMove → ProbedSite
  | .probe t =>
    { s with
      cache := (s.cache.setupIdentity info t s.world.row).1
      clock := t.done
      readAt := if s.cache.asks info t then t.now :: s.readAt else s.readAt }
  | .attempt now x => { s with world := attempted env s.world x, clock := now }

/-- The clock does not go back. -/
def ProbedSite.inTime (s : ProbedSite) : ProbeMove → Bool
  | .probe t => decide (s.clock ≤ t.now) && decide (t.now ≤ t.done)
  | .attempt now _ => decide (s.clock ≤ now)

/-- A setup that is complete stays so. -/
theorem setupCompleted_attempted {env : SetupEnv} {w : World} (h : setupCompleted w.row = true)
    (x : String × Attempt) : setupCompleted (attempted env w x).row = true := by
  rcases attempted_ended env w x with hend | ⟨-, key, hend⟩ | ⟨-, res, key, hend⟩ | hend
  · rw [hend.row]
    exact h
  · rw [hend.row]
    exact h
  · rw [hend.row]
    exact setupCompleted_upsert hend.completedAt
  · rcases hend.row with ⟨hrow, -⟩ | ⟨-, seen, res, -, -, hres, -, -, hrow⟩
    · rw [hrow]
      exact h
    · rw [hrow]
      exact setupCompleted_upsert hres

theorem consoleIdentity_fst (row : Option ControlPlane) :
    (consoleIdentity row).1 = setupCompleted row := by
  rw [consoleIdentity, setupCompleted]
  split
  · rename_i hcomplete
    exact hcomplete.symm
  · rename_i hopen
    exact (eq_false_of_ne_true hopen).symm

/-- What is read to be complete is complete. -/
theorem setupCompleted_of_seen {t : ProbeTold} {row : Option ControlPlane}
    (h : setupCompleted (t.seen row) = true) : setupCompleted row = true := by
  rw [ProbeTold.seen] at h
  split at h
  · exact h
  · cases h

section Runs

variable {env : SetupEnv} {info : CapabilityInfo} {s : ProbedSite}

/-- What the memory of the handler is worth, and how it came about. -/
structure Remembered (s : ProbedSite) : Prop where
  complete : s.cache.complete = true → setupCompleted s.world.row = true
  /-- The last read was over at the time that is remembered. -/
  last : ∀ r ∈ s.readAt, ∃ checked, s.cache.checkedAt = some checked ∧ r ≤ checked
  spaced : s.readAt.Pairwise fun later earlier ↦ earlier + capabilitiesCacheTTL ≤ later

theorem Remembered.step (hsetup : info.hasSetup = true) (h : Remembered s) {m : ProbeMove}
    (hm : s.inTime m = true) : Remembered (s.step env info m) := by
  rcases m with t | ⟨now, x⟩
  · rw [ProbedSite.inTime, Bool.and_eq_true, decide_eq_true_eq, decide_eq_true_eq] at hm
    rw [ProbedSite.step, ProbeCache.setupIdentity_eq _ hsetup]
    rcases hasks : s.cache.asks info t with _ | _
    · exact ⟨h.complete, h.last, h.spaced⟩
    -- the row is read: whatever was read before was read a whole lifetime ago
    have hold : ∀ r ∈ s.readAt, r + capabilitiesCacheTTL ≤ t.now := by
      intro r hr
      obtain ⟨checked, hchecked, hle⟩ := h.last r hr
      simp only [ProbeCache.asks, hchecked, Option.all_some, Bool.and_eq_true,
        decide_eq_true_eq] at hasks
      omega
    refine ⟨fun hcomplete ↦ ?_, fun r hr ↦ ⟨t.done, rfl, ?_⟩, ?_⟩
    · refine setupCompleted_of_seen (t := t) ?_
      rw [← consoleIdentity_fst]
      exact hcomplete
    · rcases List.mem_cons.mp hr with rfl | hr
      · exact hm.2
      · have hlater := hold r hr
        have hpos : (0 : Int) ≤ capabilitiesCacheTTL := by decide
        omega
    · exact List.pairwise_cons.mpr ⟨hold, h.spaced⟩
  · exact ⟨fun hcomplete ↦ setupCompleted_attempted (h.complete hcomplete) x, h.last, h.spaced⟩

/-- Since the time `since` setup is complete, and the row was not read, or it is remembered. -/
structure Settled (since : Int) (s : ProbedSite) : Prop where
  completed : setupCompleted s.world.row = true
  cached : s.cache.complete = true ∨ ∀ checked, s.cache.checkedAt = some checked → checked ≤ since

/-- The move reads the row, if it does, with success. -/
def ProbeMove.reads : ProbeMove → Bool
  | .probe t => t.reads
  | .attempt _ _ => true

theorem Settled.step (hsetup : info.hasSetup = true) {since : Int} (h : Settled since s)
    {m : ProbeMove} (hm : m.reads = true) : Settled since (s.step env info m) := by
  rcases m with t | ⟨now, x⟩
  · rw [ProbedSite.step, ProbeCache.setupIdentity_eq _ hsetup]
    refine ⟨h.completed, ?_⟩
    rcases hasks : s.cache.asks info t with _ | _
    · exact h.cached
    · refine Or.inl ?_
      rw [if_pos rfl]
      dsimp only
      rw [consoleIdentity_fst, ProbeTold.seen, if_pos (show t.reads = true from hm)]
      exact h.completed
  · exact ⟨setupCompleted_attempted h.completed x, h.cached⟩

/-- A probe a lifetime later says so. -/
theorem Settled.answer (hsetup : info.hasSetup = true) {since : Int} (h : Settled since s)
    {t : ProbeTold} (hreads : t.reads = true) (hlate : since + capabilitiesCacheTTL ≤ t.now) :
    (s.answer info t).1 = true := by
  rw [ProbedSite.answer, ProbeCache.setupIdentity_eq _ hsetup]
  rcases hcomplete : s.cache.complete with _ | _
  · have hasks : s.cache.asks info t = true := by
      have hchecked := h.cached.resolve_left (by rw [hcomplete]; decide)
      rw [ProbeCache.asks, hsetup, hcomplete, Bool.not_false, Bool.and_self, Bool.true_and,
        Option.all_eq_true]
      intro checked hc
      have hle := hchecked checked hc
      exact decide_eq_true (by omega)
    rw [if_pos hasks]
    dsimp only
    rw [consoleIdentity_fst, ProbeTold.seen, if_pos hreads]
    exact h.completed
  · have hasks : s.cache.asks info t = false := by simp [ProbeCache.asks, hcomplete]
    rw [hasks]
    rfl

end Runs

/-- **What the probe says is true, is not long out of date, and is cheap.**  Take any probes, with
reads that succeed or fail, and any attempts at setup, however they end, with a clock that does not
go back.  A probe that answers that setup is complete is right; of any two reads of the row the
later one starts a whole `capabilitiesCacheTTL` after the earlier; and once setup is complete, and
the reads succeed, every probe that comes a `capabilitiesCacheTTL` later says so. -/
theorem probe_truthful (env : SetupEnv) (info : CapabilityInfo) (hsetup : info.hasSetup = true)
    (w : World) (clock : Int) (ms ms' : List ProbeMove)
    (htime : Guarded (ProbedSite.step env info) (fun s m ↦ s.inTime m = true)
      (.start w clock) (ms ++ ms')) :
    let mid := run (ProbedSite.step env info) (.start w clock) ms
    let s := run (ProbedSite.step env info) (.start w clock) (ms ++ ms')
    (∀ t, (s.answer info t).1 = true → setupCompleted s.world.row = true) ∧
      (s.readAt.Pairwise fun later earlier ↦ earlier + capabilitiesCacheTTL ≤ later) ∧
      (setupCompleted mid.world.row = true → (∀ m ∈ ms', m.reads = true) →
        ∀ t, t.reads = true → mid.clock + capabilitiesCacheTTL ≤ t.now →
          (s.answer info t).1 = true) := by
  intro mid s
  have hremembered : Remembered s := by
    refine htime.invariant ⟨fun h ↦ ?_, fun r hr ↦ ?_, List.Pairwise.nil⟩
      fun _ _ h hm ↦ h.step hsetup hm
    · cases h
    · cases hr
  have hclock : ∀ checked, mid.cache.checkedAt = some checked → checked ≤ mid.clock := by
    refine (guarded_append.mp htime).1.invariant (I := fun s : ProbedSite ↦
      ∀ checked, s.cache.checkedAt = some checked → checked ≤ s.clock) (fun _ h ↦ ?_)
      fun s m h hm ↦ ?_
    · cases h
    · rcases m with t | ⟨now, x⟩
      · rw [ProbedSite.inTime, Bool.and_eq_true, decide_eq_true_eq, decide_eq_true_eq] at hm
        rw [ProbedSite.step, ProbeCache.setupIdentity_eq _ hsetup]
        intro checked hchecked
        rcases hasks : s.cache.asks info t with _ | _
        · rw [hasks] at hchecked
          have hle := h checked hchecked
          show checked ≤ t.done
          omega
        · rw [hasks] at hchecked
          exact (Option.some.inj hchecked).symm.le
      · have hm : s.clock ≤ now := of_decide_eq_true hm
        exact fun checked hchecked ↦ (h checked hchecked).trans hm
  refine ⟨fun t ht ↦ ?_, hremembered.spaced, fun hcompleted hreads t ht hlate ↦ ?_⟩
  · rw [ProbedSite.answer, ProbeCache.setupIdentity_eq _ hsetup] at ht
    split at ht
    · refine setupCompleted_of_seen (t := t) ?_
      rw [← consoleIdentity_fst]
      exact ht
    · exact hremembered.complete ht
  · have hsettled : Settled mid.clock s := by
      show Settled mid.clock (run (ProbedSite.step env info) (.start w clock) (ms ++ ms'))
      rw [run_append]
      refine (guarded_of_forall (G := fun _ m ↦ m.reads = true) fun _ m hm ↦ hreads m hm).invariant
        ⟨hcompleted, Or.inr hclock⟩ fun _ _ h hm ↦ h.step hsetup hm
    exact hsettled.answer hsetup ht hlate

/-- A probe, setup, and a probe while the first answer is still remembered. -/
theorem probe_truthful_after_setup :
    let info : CapabilityInfo := ⟨"v1", "", "", "", "", true⟩
    let ms : List ProbeMove := [.probe ⟨0, 1, true⟩, .attempt 2 ("", smooth)]
    let ms' : List ProbeMove := [.probe ⟨3, 3, true⟩]
    let s := run (ProbedSite.step plainSetup info) (.start World.fresh 0) (ms ++ ms')
    (s.answer info ⟨4, 4, true⟩).1 = false ∧
      (s.answer info ⟨2 + capabilitiesCacheTTL, 2 + capabilitiesCacheTTL, true⟩).1 = true := by
  intro info ms ms' s
  exact ⟨by decide, (probe_truthful plainSetup info rfl World.fresh 0 ms ms' (by decide)).2.2
    (by decide) (by decide) _ rfl (by decide)⟩

end Maintainerd.Http

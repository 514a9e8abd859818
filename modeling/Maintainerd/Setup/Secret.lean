import Maintainerd.Setup.Orchestrator
import Maintainerd.Lib.Run
import Mathlib.Data.List.Induction

/-!
# Setting up secret

`SecretOrchestrator` of `internal/setup/secret.go` drives the setup of secret once core has recorded
that Auth is set up.  One pass of `Run` asks core's own record first, dials, asks secret whether it
is set up already, and calls `Setup` and then `CompleteSetup` if it is not; whatever happens it
notes the outcome, which `State` reports to the readiness check.

A pass is told from outside what the record says and how the dial and each call end; everything it
does to the outside goes through `perform`, which keeps the steps of the pass in order.  The log
lines, and the field that makes them announce transitions only, are left out.

`pass_ends` says in one place how a pass can end.  What a pass may send is a prefix of one `script`,
so the order of the calls never has to be argued about again, and `secret_setup_protocol` is the
contract of any number of passes one after another.
-/

set_option autoImplicit false

namespace Maintainerd
namespace SecretSetup

open Fallible Machine

/-! ## What a pass works with -/

/-- The part of the configuration that secret's setup reads. -/
structure Config where
  secretSetupAddr : String
  secretSetupToken : String
  tenantName : String
  tenantDisplayName : String
  secretProject : String
  secretEnvironment : String
  coreServiceName : String

/-- `Enabled`. -/
def enabled (cfg : Config) : Bool := cfg.secretSetupAddr != ""

/-- `controller`. -/
def controller (cfg : Config) : String := firstNonEmpty [cfg.coreServiceName, "maintainerd-core"]

/-- `SetupServiceSetupRequest`. -/
structure SetupRequest where
  tenant : String
  tenantDisplayName : String
  authTenantUuid : String
  project : String
  environment : String
  controller : String
deriving DecidableEq, Repr

/-- The calls of secret's `SetupService`. -/
inductive Rpc where
  | getSetupStatus
  | setup (request : SetupRequest)
  | completeSetup (controller : String)
deriving DecidableEq, Repr

/-- What a pass does to the outside: it dials, or it sends a call with the bootstrap token. -/
inductive Step where
  | dial
  | send (token : String) (rpc : Rpc)
deriving DecidableEq, Repr

/-- The errors a pass ends with, and the one `State` starts with. -/
inductive Failure where
  /-- `ErrSecretSetupNotConfigured`. -/
  | notConfigured
  /-- `ErrAuthSetupIncomplete`. -/
  | authSetupIncomplete
  /-- `ErrSecretSetupPending`. -/
  | pending
  | failed (text : String)
deriving DecidableEq, Repr

/-- What a pass is told: the row of `control_plane` as it is read, `none` when there is none or the
read fails, and how the dial and each call end. -/
structure Pass where
  row : Option ControlPlane
  dial : Except String PUnit
  getSetupStatus : Except String Bool
  setup : Except String PUnit
  completeSetup : Except String PUnit

/-- What the orchestrator remembers, and the steps of the pass so far. -/
structure Memory where
  done : Bool
  last : Option Failure
  steps : List Step
deriving DecidableEq, Repr

/-- `NewSecretOrchestrator`. -/
def Memory.fresh : Memory := ⟨false, some .pending, []⟩

/-- `State`, where `none` is the nil error. -/
def state (cfg : Config) (m : Memory) : Option Failure :=
  if !enabled cfg then none
  else if m.done then none
  else m.last

/-! ## A pass -/

/-- `record`. -/
def record (err : Option Failure) : Prog Memory Failure PUnit :=
  modify fun m ↦ { m with last := err, done := m.done || err.isNone }

/-- Record a failure and return it. -/
def giveUp {α : Type} (err : Failure) : Prog Memory Failure α := do
  record (some err)
  fail err

/-- One step to the outside; its error, wrapped, is the error of the pass. -/
def perform {α : Type} (step : Step) (what : String) (answer : Except String α) :
    Prog Memory Failure α := do
  modify fun m ↦ { m with steps := m.steps ++ [step] }
  match answer with
  | .ok a => pure a
  | .error err => giveUp (.failed (what ++ err))

/-- The request of `Setup`. -/
def setupRequest (cfg : Config) (auth : SetupResult) : SetupRequest where
  tenant := cfg.tenantName
  tenantDisplayName := firstNonEmpty [cfg.tenantDisplayName, cfg.tenantName]
  authTenantUuid := auth.authTenantID
  project := cfg.secretProject
  environment := cfg.secretEnvironment
  controller := controller cfg

/-- `Run`, after the ordering gate. -/
def drive (cfg : Config) (p : Pass) : Prog Memory Failure PUnit := do
  perform .dial "" p.dial
  let completed ← perform (.send cfg.secretSetupToken .getSetupStatus) "secret GetSetupStatus: "
    p.getSetupStatus
  if completed then record none
  else do
    perform (.send cfg.secretSetupToken (.setup (setupRequest cfg (loadPersisted p.row))))
      "secret Setup: " p.setup
    perform (.send cfg.secretSetupToken (.completeSetup (controller cfg)))
      "secret CompleteSetup: " p.completeSetup
    record none

/-- `Run`. -/
def run (cfg : Config) (p : Pass) : Prog Memory Failure PUnit := do
  require (enabled cfg) .notConfigured
  let m ← get
  if m.done then pure ⟨⟩
  else if setupCompleted p.row then drive cfg p
  else giveUp .authSetupIncomplete

/-- A pass, with the steps of the one before it forgotten. -/
def pass (cfg : Config) (m : Memory) (p : Pass) : Memory × Except Failure PUnit :=
  run cfg p { m with steps := [] }

/-- The passes as a machine on what the orchestrator remembers. -/
def step (cfg : Config) (m : Memory) (p : Pass) : Memory := (pass cfg m p).1

/-! ## How a pass ends -/

/-- The steps of a pass that goes through. -/
def script (cfg : Config) (p : Pass) : List Step :=
  [.dial, .send cfg.secretSetupToken .getSetupStatus,
    .send cfg.secretSetupToken (.setup (setupRequest cfg (loadPersisted p.row))),
    .send cfg.secretSetupToken (.completeSetup (controller cfg))]

/-- A pass may take the first `n` steps of the script. -/
structure Reaches (p : Pass) (n : ℕ) : Prop where
  le : n ≤ 4
  auth : 0 < n → setupCompleted p.row = true
  status : 2 < n → p.getSetupStatus = .ok false
  setup : 3 < n → p.setup = .ok ⟨⟩

/-- A pass that takes the first `n` steps finds secret set up, or completes the setup itself. -/
def Settles (p : Pass) (n : ℕ) : Prop :=
  n = 2 ∧ p.getSetupStatus = .ok true ∨ n = 4 ∧ p.completeSetup = .ok ⟨⟩

/-- The ways a pass ends. -/
inductive Ends (cfg : Config) (m : Memory) (p : Pass) : Memory × Except Failure PUnit → Prop where
  | notConfigured (h : enabled cfg = false) :
      Ends cfg m p ({ m with steps := [] }, .error .notConfigured)
  | finished (h : enabled cfg = true) (hdone : m.done = true) :
      Ends cfg m p ({ m with steps := [] }, .ok ⟨⟩)
  | failed (h : enabled cfg = true) (hdone : m.done = false) (n : ℕ) (err : Failure)
      (hreach : Reaches p n) (hnot : ¬Settles p n) :
      Ends cfg m p (⟨false, some err, (script cfg p).take n⟩, .error err)
  | settled (h : enabled cfg = true) (hdone : m.done = false) (n : ℕ) (hreach : Reaches p n)
      (hsettles : Settles p n) :
      Ends cfg m p (⟨true, none, (script cfg p).take n⟩, .ok ⟨⟩)

/-- How a pass ends that comes through the ordering gate. -/
theorem drive_ends {cfg : Config} {m : Memory} {p : Pass} (h : enabled cfg = true)
    (hdone : m.done = false) (hauth : setupCompleted p.row = true) :
    Ends cfg m p (drive cfg p ⟨false, m.last, []⟩) := by
  unfold drive
  rcases hdial : p.dial with err | ⟨⟩
  · exact .failed h hdone 1 (.failed ("" ++ err)) ⟨by decide, fun _ ↦ hauth, by omega, by omega⟩
      (by rintro (⟨hn, -⟩ | ⟨hn, -⟩) <;> omega)
  rcases hstatus : p.getSetupStatus with err | _ | _
  · exact .failed h hdone 2 (.failed ("secret GetSetupStatus: " ++ err))
      ⟨by decide, fun _ ↦ hauth, by omega, by omega⟩
      (by rintro (⟨-, hn⟩ | ⟨hn, -⟩) <;> simp [hstatus] at hn)
  · rcases hsetup : p.setup with err | ⟨⟩
    · exact .failed h hdone 3 (.failed ("secret Setup: " ++ err))
        ⟨by decide, fun _ ↦ hauth, fun _ ↦ hstatus, by omega⟩
        (by rintro (⟨hn, -⟩ | ⟨hn, -⟩) <;> omega)
    have hreach : Reaches p 4 := ⟨by decide, fun _ ↦ hauth, fun _ ↦ hstatus, fun _ ↦ hsetup⟩
    rcases hcomplete : p.completeSetup with err | ⟨⟩
    · exact .failed h hdone 4 (.failed ("secret CompleteSetup: " ++ err)) hreach
        (by rintro (⟨hn, -⟩ | ⟨-, hn⟩) <;> simp [hcomplete] at hn)
    · exact .settled h hdone 4 hreach (.inr ⟨rfl, hcomplete⟩)
  · exact .settled h hdone 2 ⟨by decide, fun _ ↦ hauth, by omega, by omega⟩ (.inl ⟨rfl, hstatus⟩)

/-- **How a pass ends**, however the dial and the calls do. -/
theorem pass_ends (cfg : Config) (m : Memory) (p : Pass) : Ends cfg m p (pass cfg m p) := by
  unfold pass run
  rcases henabled : enabled cfg with _ | _
  · exact .notConfigured henabled
  rcases m with ⟨_ | _, last, steps⟩
  · rcases hauth : setupCompleted p.row with _ | _
    · exact .failed henabled rfl 0 .authSetupIncomplete ⟨by decide, by omega, by omega, by omega⟩
        (by rintro (⟨hn, -⟩ | ⟨hn, -⟩) <;> omega)
    · exact drive_ends henabled rfl hauth
  · exact .finished henabled rfl

/-! ## Any number of passes -/

/-- What is seen of a pass: what it was told, its steps in order, and its result. -/
structure Report where
  told : Pass
  steps : List Step
  result : Except Failure PUnit

/-- The report of a pass. -/
def report (cfg : Config) (m : Memory) (p : Pass) : Report :=
  ⟨p, (pass cfg m p).1.steps, (pass cfg m p).2⟩

/-- The reports of a run. -/
def reports (cfg : Config) : Memory → List Pass → List Report
  | _, [] => []
  | m, p :: ps => report cfg m p :: reports cfg (step cfg m p) ps

theorem reports_concat (cfg : Config) (m : Memory) (ps : List Pass) (p : Pass) :
    reports cfg m (ps ++ [p]) =
      reports cfg m ps ++ [report cfg (Machine.run (step cfg) m ps) p] := by
  induction ps generalizing m with
  | nil => rfl
  | cons q ps ih => rw [List.cons_append, reports, ih, reports, run_cons, List.cons_append]

/-- The pass asked secret and was answered that secret is set up. -/
def Report.FoundComplete (r : Report) : Prop :=
  (∃ token, Step.send token .getSetupStatus ∈ r.steps) ∧ r.told.getSetupStatus = .ok true

/-- The pass sent `CompleteSetup`, and it succeeded. -/
def Report.Completed (r : Report) : Prop :=
  (∃ token c, Step.send token (.completeSetup c) ∈ r.steps) ∧ r.told.completeSetup = .ok ⟨⟩

/-- The steps of a pass that reaches the `n`-th settle secret exactly when the pass does. -/
theorem settles_iff {cfg : Config} {p : Pass} {n : ℕ} (h : Reaches p n)
    (result : Except Failure PUnit) :
    Settles p n ↔ (⟨p, (script cfg p).take n, result⟩ : Report).FoundComplete ∨
      (⟨p, (script cfg p).take n, result⟩ : Report).Completed := by
  obtain ⟨hle, -, hstatus, -⟩ := h
  rw [Settles, Report.FoundComplete, Report.Completed]
  rcases n with _ | _ | _ | _ | _ | n
  · simp
  · simp [script]
  · simp [script]
  · simp [script, hstatus]
  · simp [script, hstatus]
  · omega

/-- What the orchestrator remembers of the passes so far. -/
structure Remembers (m : Memory) (rs : List Report) : Prop where
  done_iff : m.done = true ↔ ∃ r ∈ rs, r.FoundComplete ∨ r.Completed
  last : m.last = none → m.done = true
  result : (∃ r ∈ rs, r.result = .ok ⟨⟩) → m.done = true

theorem exists_mem_concat {P : Report → Prop} {rs : List Report} {r : Report} :
    (∃ q ∈ rs ++ [r], P q) ↔ (∃ q ∈ rs, P q) ∨ P r := by
  simp only [List.mem_append, List.mem_singleton, or_and_right, exists_or, exists_eq_left]

/-- One more pass. -/
theorem Remembers.step {cfg : Config} {m : Memory} {rs : List Report} (h : Remembers m rs)
    (p : Pass) : Remembers (step cfg m p) (rs ++ [report cfg m p]) := by
  have hends := pass_ends cfg m p
  rw [SecretSetup.step, report]
  generalize pass cfg m p = out at hends
  cases hends with
  | notConfigured _ =>
    refine ⟨?_, h.last, ?_⟩
    · rw [exists_mem_concat, ← h.done_iff]
      simp [Report.FoundComplete, Report.Completed]
    · intro hex
      exact h.result ((exists_mem_concat.mp hex).resolve_right (by simp))
  | finished _ hdone =>
    exact ⟨iff_of_true hdone (exists_mem_concat.mpr (.inl (h.done_iff.mp hdone))),
      fun _ ↦ hdone, fun _ ↦ hdone⟩
  | failed _ hdone n err hreach hnot =>
    rw [settles_iff hreach] at hnot
    have hbefore := h.done_iff.not.mp (by simp [hdone])
    refine ⟨iff_of_false (by simp) fun hex ↦ ?_, by simp, fun hex ↦ ?_⟩
    · exact (exists_mem_concat.mp hex).elim hbefore hnot
    · have hdone' := h.result ((exists_mem_concat.mp hex).resolve_right (by simp))
      exact absurd hdone' (by simp [hdone])
  | settled _ _ n hreach hsettles =>
    rw [settles_iff hreach] at hsettles
    exact ⟨iff_of_true rfl (exists_mem_concat.mpr (.inr hsettles)), fun _ ↦ rfl, fun _ ↦ rfl⟩

/-- What the orchestrator remembers after any number of passes. -/
theorem remembers_run (cfg : Config) (ps : List Pass) :
    Remembers (Machine.run (step cfg) .fresh ps) (reports cfg .fresh ps) := by
  induction ps using List.reverseRecOn with
  | nil => exact ⟨by simp [Memory.fresh, reports], by simp [Memory.fresh], by simp [reports]⟩
  | append_singleton ps p ih =>
    rw [run_append, reports_concat]
    exact ih.step p

/-! ## The order of the steps -/

/-- The steps of a pass are the first ones of the script, as far as the pass reaches. -/
theorem report_steps (cfg : Config) (m : Memory) (p : Pass) :
    ∃ n, Reaches p n ∧ (report cfg m p).steps = (script cfg p).take n := by
  have hends := pass_ends cfg m p
  rw [report]
  generalize pass cfg m p = out at hends
  have hnone : Reaches p 0 := ⟨by decide, by omega, by omega, by omega⟩
  cases hends with
  | notConfigured _ => exact ⟨0, hnone, rfl⟩
  | finished _ _ => exact ⟨0, hnone, rfl⟩
  | failed _ _ n err hreach _ => exact ⟨n, hreach, rfl⟩
  | settled _ _ n hreach _ => exact ⟨n, hreach, rfl⟩

/-- Once it is done a pass takes no step. -/
theorem report_steps_of_done {cfg : Config} {m : Memory} (h : m.done = true) (p : Pass) :
    (report cfg m p).steps = [] := by
  have hends := pass_ends cfg m p
  rw [report]
  generalize pass cfg m p = out at hends
  cases hends with
  | notConfigured _ => rfl
  | finished _ _ => rfl
  | failed _ hdone _ _ _ _ => rw [h] at hdone; cases hdone
  | settled _ hdone _ _ _ => rw [h] at hdone; cases hdone

/-- Where a step of a beginning of a list stands, and what stands before it. -/
theorem take_eq_append_cons {α : Type} {l before after : List α} {x : α} {n : ℕ}
    (h : l.take n = before ++ x :: after) :
    before.length < n ∧ l[before.length]? = some x ∧ before = l.take before.length := by
  have hlen : before.length < n := by
    have hle := List.length_take_le n l
    rw [h, List.length_append, List.length_cons] at hle
    omega
  have hx : (l.take n)[before.length]? = some x := by rw [h]; simp
  have hbefore : (l.take n).take before.length = before := by rw [h]; simp
  rw [List.getElem?_take_of_lt hlen] at hx
  rw [List.take_take, Nat.min_eq_left hlen.le] at hbefore
  exact ⟨hlen, hx, hbefore.symm⟩

theorem index_setup {cfg : Config} {p : Pass} {k : ℕ} {token : String} {request : SetupRequest}
    (h : (script cfg p)[k]? = some (.send token (.setup request))) :
    k = 2 ∧ token = cfg.secretSetupToken := by
  rcases k with _ | _ | _ | _ | k <;> simp [script] at h
  exact ⟨rfl, h.1.symm⟩

theorem index_completeSetup {cfg : Config} {p : Pass} {k : ℕ} {token c : String}
    (h : (script cfg p)[k]? = some (.send token (.completeSetup c))) :
    k = 3 ∧ token = cfg.secretSetupToken := by
  rcases k with _ | _ | _ | _ | k <;> simp [script] at h
  exact ⟨rfl, h.1.symm⟩

/-- **The protocol of secret's setup.**  Take any passes one after another, and one more.  The last
one takes a step only if core's record says that Auth is set up; it sends `Setup` only after its own
`GetSetupStatus` was answered that secret is not set up, and `CompleteSetup` only after its own
`Setup` succeeded; and it takes no step if an earlier pass returned without an error.  For an
enabled orchestrator, `State` is nil exactly when one of the passes so far was answered that secret
is set up, or had its `CompleteSetup` succeed. -/
theorem secret_setup_protocol (cfg : Config) (pre : List Pass) (p : Pass) :
    let m := Machine.run (step cfg) .fresh pre
    let r := report cfg m p
    (r.steps ≠ [] → setupCompleted p.row = true) ∧
      (∀ before token request after,
        r.steps = before ++ .send token (.setup request) :: after →
          .send token .getSetupStatus ∈ before ∧ p.getSetupStatus = .ok false) ∧
      (∀ before token c after,
        r.steps = before ++ .send token (.completeSetup c) :: after →
          (∃ request, .send token (.setup request) ∈ before) ∧ p.setup = .ok ⟨⟩) ∧
      ((∃ q ∈ reports cfg .fresh pre, q.result = .ok ⟨⟩) → r.steps = []) ∧
      (enabled cfg = true →
        (state cfg m = none ↔ ∃ q ∈ reports cfg .fresh pre, q.FoundComplete ∨ q.Completed)) := by
  intro m r
  obtain ⟨n, hreach, hsteps⟩ := report_steps cfg m p
  have hm := remembers_run cfg pre
  refine ⟨fun hne ↦ hreach.auth (Nat.pos_of_ne_zero ?_), ?_, ?_, ?_, ?_⟩
  · rintro rfl
    exact hne hsteps
  · intro before token request after h
    obtain ⟨hlt, hx, hbefore⟩ := take_eq_append_cons (hsteps.symm.trans h)
    obtain ⟨hk, rfl⟩ := index_setup hx
    rw [hk] at hlt hbefore
    exact ⟨by rw [hbefore]; simp [script], hreach.status hlt⟩
  · intro before token c after h
    obtain ⟨hlt, hx, hbefore⟩ := take_eq_append_cons (hsteps.symm.trans h)
    obtain ⟨hk, rfl⟩ := index_completeSetup hx
    rw [hk] at hlt hbefore
    exact ⟨⟨_, by rw [hbefore]; simp [script]; rfl⟩, hreach.setup hlt⟩
  · intro hok
    exact report_steps_of_done (hm.result hok) p
  · intro henabled
    rw [← hm.done_iff, state, henabled]
    rcases hdone : m.done with _ | _
    · simp only [Bool.not_true, Bool.false_eq_true, if_false, iff_false]
      intro hlast
      rw [show m.done = true from hm.last hlast] at hdone
      cases hdone
    · simp

/-- A configuration with an address and a token. -/
def retryConfig : Config := ⟨"secret:9090", "token", "acme", "", "default", "prod", ""⟩

/-- A pass that finds Auth set up and secret not, and whose `CompleteSetup` ends as told. -/
def retryPass (complete : Except String PUnit) : Pass :=
  ⟨some ⟨none, {}, "", "docker", some 1⟩, .ok ⟨⟩, .ok false, .ok ⟨⟩, complete⟩

/-- Auth is not set up yet, then `CompleteSetup` fails, then it succeeds: secret is set up, and the
pass after that takes no step. -/
theorem secret_setup_protocol_retry :
    let pre := [{ retryPass (.ok ⟨⟩) with row := none }, retryPass (.error "unavailable"),
      retryPass (.ok ⟨⟩)]
    let m := Machine.run (step retryConfig) .fresh pre
    state retryConfig m = none ∧ (report retryConfig m (retryPass (.ok ⟨⟩))).steps = [] := by
  intro pre m
  obtain ⟨-, -, -, hquiet, hstate⟩ := secret_setup_protocol retryConfig pre (retryPass (.ok ⟨⟩))
  refine ⟨(hstate rfl).mpr ?_, hquiet ?_⟩
  · exact ⟨_, .tail _ (.tail _ (.head _)), .inr ⟨⟨"token", "maintainerd-core", by decide⟩, rfl⟩⟩
  · exact ⟨_, .tail _ (.tail _ (.head _)), rfl⟩

end SecretSetup
end Maintainerd

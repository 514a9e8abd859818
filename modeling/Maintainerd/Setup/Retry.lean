import Maintainerd.Authctrl.Report
import Maintainerd.Lib.Backoff
import Maintainerd.Setup.Attempt
import Maintainerd.Setup.Secret

/-!
# The retry loops of the boot

Core sets up Auth, sets up secret and applies the control catalog in three loops of one shape: an
attempt, a wait, another attempt, and each wait twice the one before up to a maximum.  They are
`RunWithRetry` of `internal/setup/orchestrator.go`, `internal/setup/secret.go` and
`internal/authctrl/runner.go`.

Two of them compare the backoff with the maximum once more after they have doubled it.  The first
does not.  It declares three seconds and thirty, and waits 3, 6, 12, 24 and then 48 seconds, for
ever (`auth_passes_maximum`).

`Backoff.retry` is the loop, by what each attempt meets with.  The attempts are those of the models
of `Run`.  `boot_waits` says what the waits of the three loops are.
-/

set_option autoImplicit false

namespace Maintainerd

namespace Boot

open Backoff

/-! ## Setting up Auth -/

/-- What `Run` of the setup meets with: another run in flight, or a world to work on. -/
abbrev SetupTry : Type := Option (World × Attempt)

/-- `Run` returns no error. -/
def setupSucceeded (env : SetupEnv) : SetupTry → Bool
  | none => false
  | some (w, a) => (attemptSetup env w ("", a)).2.isOk

/-- `backoff`, to begin with. -/
def setupBackoff : Int64 := 3 * second

/-- `maxBackoff` -/
def setupMaxBackoff : Int64 := 30 * second

/-- The update of `Orchestrator.RunWithRetry`. -/
def double (backoff : Int64) : Int64 := if backoff < setupMaxBackoff then backoff * 2 else backoff

/-- `Orchestrator.RunWithRetry`, by its waits. -/
def runSetupWithRetry (env : SetupEnv) (turns : List (Turn SetupTry)) : List Int64 :=
  retry (setupSucceeded env) double setupBackoff turns

/-! ## Setting up secret -/

/-- `Run` of the secret setup returns no error. -/
def secretSucceeded (cfg : SecretSetup.Config) (p : SecretSetup.Memory × SecretSetup.Pass) : Bool :=
  (SecretSetup.pass cfg p.1 p.2).2.isOk

/-- `secretSetupBaseBackoff` -/
def secretSetupBaseBackoff : Int64 := 3 * second

/-- `secretSetupMaxBackoff` -/
def secretSetupMaxBackoff : Int64 := 30 * second

/-- `SecretOrchestrator.RunWithRetry`, by its waits. -/
def runSecretWithRetry (cfg : SecretSetup.Config)
    (turns : List (Turn (SecretSetup.Memory × SecretSetup.Pass))) : List Int64 :=
  if !SecretSetup.enabled cfg then []
  else retry (secretSucceeded cfg) (grow secretSetupMaxBackoff) secretSetupBaseBackoff turns

/-! ## Applying the catalog -/

/-- Why `Run` of the runner fails. -/
inductive RunnerError where
  | noControlIdentity
  | applyRunning
  | failed (text : String)

/-- What `Run` of the runner returns. -/
structure RunnerResult where
  report : Option Authctrl.RunReport
  err : Option RunnerError

/-- The pass went through, and every object of the catalog with it. -/
def RunnerResult.converged (r : RunnerResult) : Bool :=
  r.err.isNone && r.report.any fun report ↦ report.failed == 0

/-- `bootBaseBackoff` -/
def bootBaseBackoff : Int64 := 5 * second

/-- `bootMaxBackoff` -/
def bootMaxBackoff : Int64 := 300 * second

/-- `bootMaxAttempts` -/
def bootMaxAttempts : ℕ := 12

/-- `Runner.RunWithRetry`, by its waits. -/
def runCatalogWithRetry (turns : List (Turn RunnerResult)) : List Int64 :=
  retry RunnerResult.converged (grow bootMaxBackoff) bootBaseBackoff (turns.take bootMaxAttempts)

/-! ## The waits -/

/-- Below its maximum the backoff doubles. -/
theorem toInt_iterate_double :
    ∀ n < 4, (double^[n] setupBackoff).toInt = capped setupBackoff setupMaxBackoff n := by
  decide

/-- Past its maximum the backoff stays where it is. -/
theorem iterate_double (n : ℕ) : double^[n + 4] setupBackoff = 48 * second := by
  induction n with
  | zero => decide
  | succ n ih =>
    rw [Nat.add_right_comm, Function.iterate_succ_apply', ih]
    decide

/-- **The waits of the three loops.**  After `n` others, the secret setup and the catalog wait the
base times `2 ^ n`, or the maximum if that is less.  The setup of Auth does so for its first four
waits and not afterwards. -/
theorem boot_waits (n : ℕ) :
    (∀ env turns, Fails (setupSucceeded env) n turns →
      ((runSetupWithRetry env turns)[n]?.map Int64.toInt =
        some (capped setupBackoff setupMaxBackoff n) ↔ n < 4)) ∧
    (∀ cfg turns, SecretSetup.enabled cfg = true → Fails (secretSucceeded cfg) n turns →
      (runSecretWithRetry cfg turns)[n]?.map Int64.toInt =
        some (capped secretSetupBaseBackoff secretSetupMaxBackoff n)) ∧
    (∀ turns, n < bootMaxAttempts → Fails RunnerResult.converged n turns →
      (runCatalogWithRetry turns)[n]?.map Int64.toInt =
        some (capped bootBaseBackoff bootMaxBackoff n)) := by
  refine ⟨fun env turns h ↦ ?_, fun cfg turns henabled h ↦ ?_, fun turns hlt h ↦ ?_⟩
  · rw [runSetupWithRetry, getElem?_retry h, Option.map_some, Option.some.injEq]
    by_cases hn : n < 4
    · refine iff_of_true ?_ hn
      exact toInt_iterate_double n hn
    · obtain ⟨k, rfl⟩ : ∃ k, n = k + 4 := ⟨n - 4, by omega⟩
      rw [iterate_double]
      refine iff_of_false (fun heq ↦ ?_) hn
      have hle : capped setupBackoff setupMaxBackoff (k + 4) ≤ setupMaxBackoff.toInt :=
        Int.min_le_left _ _
      rw [← heq] at hle
      exact absurd hle (by decide)
  · rw [runSecretWithRetry, henabled]
    exact getElem?_retry_grow h (by decide) (by decide) (by decide)
  · exact getElem?_retry_grow (h.take hlt) (by decide) (by decide) (by decide)

/-- Another run was in flight at each of `n` attempts. -/
def inFlight (n : ℕ) : List (Turn SetupTry) := List.replicate n ⟨none, false⟩

/-- The control identity was not there at each of `n` attempts. -/
def noIdentity (n : ℕ) : List (Turn RunnerResult) :=
  List.replicate n ⟨⟨none, some .noControlIdentity⟩, false⟩

/-- Secret refused to complete its setup at each of `n` attempts. -/
def refused (n : ℕ) : List (Turn (SecretSetup.Memory × SecretSetup.Pass)) :=
  List.replicate n ⟨(.fresh, SecretSetup.retryPass (.error "unavailable")), false⟩

theorem boot_waits_third :
    (runSetupWithRetry plainSetup (inFlight 3))[2]?.map Int64.toInt =
      some (capped setupBackoff setupMaxBackoff 2) ∧
    (runSecretWithRetry SecretSetup.retryConfig (refused 3))[2]?.map Int64.toInt =
      some (capped secretSetupBaseBackoff secretSetupMaxBackoff 2) ∧
    (runCatalogWithRetry (noIdentity 3))[2]?.map Int64.toInt =
      some (capped bootBaseBackoff bootMaxBackoff 2) :=
  ⟨((boot_waits 2).1 plainSetup (inFlight 3) ⟨rfl, rfl, rfl, rfl, rfl⟩).mpr (by decide),
    (boot_waits 2).2.1 SecretSetup.retryConfig (refused 3) (by decide)
      ⟨rfl, rfl, rfl, rfl, rfl⟩,
    (boot_waits 2).2.2 (noIdentity 3) (by decide) ⟨rfl, rfl, rfl, rfl, rfl⟩⟩

/-- The setup of Auth waits 48 seconds, where it declares a maximum of 30. -/
theorem auth_passes_maximum :
    setupMaxBackoff = 30 * second ∧ capped setupBackoff setupMaxBackoff 4 = 30000000000 ∧
    runSetupWithRetry plainSetup (inFlight 6) =
      [3 * second, 6 * second, 12 * second, 24 * second, 48 * second, 48 * second] := by
  decide

end Boot

end Maintainerd

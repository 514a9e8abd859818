import Maintainerd.Authctrl.Custody
import Maintainerd.Authctrl.Report
import Maintainerd.Lib.Flight
import Mathlib.Data.List.Induction

/-!
# The runner of the catalogue

`Runner` of `internal/authctrl/runner.go`: the boot loop and `POST /steward/apply` call `Run` of one
`Runner`, at the same time if they like.  `tryBegin` turns all but one away with `ErrApplyRunning`;
`end`, which is deferred, lowers the flag and remembers the report if there is one, both under the
mutex; and `Last` is what `GET /steward/status` shows.

`Steward/Race.lean` shows what becomes of the key files when passes of different *processes*
interleave.  Within one process they do not, and `concurrent_applies_take_turns` is what is left of
the question then: the files and Auth are as some sequence of passes leaves them.
-/

set_option autoImplicit false

namespace Maintainerd.Authctrl

open Steward Dialogue Flight Machine

/-- `Run` between `tryBegin` and `end`, by the error of `Connect`: the report, if there is one, and
the error.  `end` remembers the report. -/
def runner (env : Steward.Env) (catalog : List Object) : Entry Turnout Steward.World (Option String)
    (Option RunReport × Option String) (Option RunReport) where
  prog
    | some e => pure (none, some e)
    | none => do
      let (report, failed) ← runPass env catalog
      pure (some report, failed)
  note last _ answer := answer.1.or last

/-- What the calls of the passes came to, for the turns that got as far as a pass. -/
def passesOf (turns : List (Option String × List Turnout)) : List (List Turnout) :=
  turns.filterMap fun x ↦ if x.1.isNone then some x.2 else none

/-- The world after passes over the catalogue. -/
def passedAll (env : Steward.Env) (catalog : List Object) (w : Steward.World)
    (ps : List (List Turnout)) : Steward.World :=
  run (passed env) w (ps.map fun ts ↦ (catalog, ts))

/-- The report of the last of the passes. -/
def lastReport (env : Steward.Env) (catalog : List Object) (w : Steward.World)
    (ps : List (List Turnout)) : Option RunReport :=
  ps.getLast?.map fun ts ↦
    ((runPass env catalog).exec ts (passedAll env catalog w ps.dropLast)).2.1.1

theorem exec_runner_none (env : Steward.Env) (catalog : List Object) (ts : List Turnout)
    (w : Steward.World) :
    (((runner env catalog).prog none).exec ts w).1 = passed env w (catalog, ts) ∧
      (((runner env catalog).prog none).exec ts w).2.1.1 =
        some ((runPass env catalog).exec ts w).2.1.1 := by
  have hexec : ((runner env catalog).prog none).exec ts w =
      (((runPass env catalog).exec ts w).1,
        (some ((runPass env catalog).exec ts w).2.1.1, ((runPass env catalog).exec ts w).2.1.2),
        ((runPass env catalog).exec ts w).2.2) := by
    show exec (runPass env catalog >>= _) ts w = _
    rw [exec_bind]
    rfl
  rw [hexec]
  refine ⟨?_, rfl⟩
  show ((runPass env catalog).exec ts w).1 = _
  rw [exec_runPass]
  rfl

/-- What the turns of the runner leave. -/
theorem run_turn_runner (env : Steward.Env) (catalog : List Object) (w : Steward.World)
    (turns : List (Option String × List Turnout)) :
    run (turn (runner env catalog)) (w, none) turns =
      (passedAll env catalog w (passesOf turns), lastReport env catalog w (passesOf turns)) := by
  induction turns using List.reverseRecOn with
  | nil => rfl
  | append_singleton turns x ih =>
    obtain ⟨connect, ts⟩ := x
    rw [run_append, ih, run_cons, run_nil]
    cases connect with
    | some e =>
      have hpasses : passesOf (turns ++ [(some e, ts)]) = passesOf turns := by
        simp [passesOf]
      rw [hpasses]
      rfl
    | none =>
      have hpasses : passesOf (turns ++ [(none, ts)]) = passesOf turns ++ [ts] := by
        simp [passesOf]
      obtain ⟨hworld, hreport⟩ :=
        exec_runner_none env catalog ts (passedAll env catalog w (passesOf turns))
      rw [hpasses, turn, hworld]
      refine Prod.ext ?_ ?_
      · simp [passedAll, run_append]
      · show (_ : Option RunReport).or _ = _
        rw [hreport]
        simp [lastReport]

/-- **Concurrent passes of one process take turns.**  Start with no clients in Auth and no key
files, and let the boot loop and any number of requests call `Run`, in any interleaving of the calls
their passes make.  Whenever no pass is under way, Auth and the files are as some passes leave them
that were made one after the other, and `Last` is the report of the last of these.  So every client
in Auth has its private key on file if and only if no key was discarded after a `CreateClient` that
was committed and whose answer was lost. -/
theorem concurrent_applies_take_turns (env : Steward.Env) (henv : env.wholeWrites = true)
    (catalog : List Object) (ms : List (Flight.Move Turnout (Option String)))
    (hidle : (run (Flight.step (runner env catalog)) (start Steward.World.empty none) ms).running =
      false) :
    let f := run (Flight.step (runner env catalog)) (start Steward.World.empty none) ms
    (∃ ps, f.store = passedAll env catalog Steward.World.empty ps ∧
        f.memo = lastReport env catalog Steward.World.empty ps) ∧
      (KeysHeld env f.store ↔ abandons f.store.calls = false) := by
  intro f
  have hserial : Serial (runner env catalog) (Steward.World.empty, none) f :=
    serial_run (runner env catalog) Steward.World.empty none ms
  have hstore := hserial.idle hidle
  have hmemo := hserial.memo
  rw [run_turn_runner] at hstore hmemo
  refine ⟨⟨passesOf f.turns, hstore.symm, hmemo.symm⟩, ?_⟩
  have hcustody : Custody env f.store := by
    rw [← hstore]
    exact invariant_run _ (custody_empty env) fun _ p h ↦ custody_passed henv h p
  exact hcustody.keysHeld_iff

/-- A request is turned away while the boot loop registers the client of `secret`, and a later one
finds everything there. -/
theorem concurrent_applies_take_turns_requested :
    let ms := [.call none, .call none] ++ List.replicate 5 (.go 0 default) ++ [.go 1 default] ++
      List.replicate 20 (.go 0 default) ++ [.call none] ++ List.replicate 20 (.go 2 default)
    let f := run (Flight.step (runner plainSteward secretCatalog)) (start Steward.World.empty none)
      ms
    f.running = false ∧ f.turns.length = 2 ∧ f.memo.map RunReport.ensured = some 2 ∧
      KeysHeld plainSteward f.store := by
  intro ms f
  have hidle : f.running = false := by decide +kernel
  have hheld := (concurrent_applies_take_turns plainSteward rfl secretCatalog ms hidle).2
  exact ⟨hidle, by decide +kernel, by decide +kernel, hheld.mpr (by decide +kernel)⟩

end Maintainerd.Authctrl

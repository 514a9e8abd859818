import Maintainerd.Lib.Flight
import Maintainerd.Setup.Attempt

/-!
# Attempts at setup do not interleave

The boot loop and the wizard may call `RunWith` of one `Orchestrator` at the same time: `tryBegin`
turns the second away with `ErrSetupRunning`, and `end` is deferred.  Nothing else keeps two
attempts apart, and an attempt is a dozen calls of Auth and the database, any of which may fail.

`runWithPieces` is `RunWith` cut at these calls, and `cuts_runWith` says that it is `runWith` when
nothing comes in between.  `concurrent_setups_take_turns` is then what the flag is for: everything
that is known of attempts made one after the other, as in `Setup/ControlKey.lean` and
`Setup/Survival.lean`, is known of attempts that are started at any time.
-/

set_option autoImplicit false

namespace Maintainerd

open Fallible Flight Machine

/-! ## An attempt in pieces -/

/-- `alreadyComplete`, cut at the read of the row and at the write of it. -/
def alreadyCompletePieces (env : SetupEnv) (a : Attempt) :
    Dialogue Unit World (Except SetupError SetupResult) :=
  piece get fun w ↦
    let res := { loadPersisted (if a.getControlPlane then w.row else none) with
      alreadyComplete := true }
    if res.completedAt.isSome then .ret (.ok res)
    else
      let res := { res with completedAt := some a.now }
      piece (attempt (persist env a res "")) fun _ ↦ .ret (.ok res)

/-- `provision`, cut at its calls. -/
def provisionPieces (env : SetupEnv) (a : Attempt) (status : AuthState) :
    Dialogue Unit World (Except SetupError SetupResult) :=
  piece (createTenant a status) fun res ↦
  piece (registerControlService a res) fun res ↦
  piece (controlKey env a) fun key ↦
  piece (ensureControlClient a key.2) fun client ↦
  let res := bestEffort a { res with
    controlClientID := client.clientID
    controlOAuthClientID := client.oauthClientID
    tokenAuthMethod := client.tokenEndpointAuthMethod
    jwks := key.2 }
  piece (require a.reconcileSteward (.call "auth steward reconcile")) fun _ ↦
  piece (createAdmin a status res) fun res ↦
  piece (completeSetup a) fun _ ↦
  let res := { res with completedAt := some a.now }
  piece (persist env a res key.1) fun _ ↦ .ret (.ok res)

/-- `RunWith` between `tryBegin` and `end`, cut at its calls. -/
def runWithPieces (env : SetupEnv) (adminPassword : String) (a : Attempt) :
    Dialogue Unit World (Except SetupError SetupResult) :=
  piece (require (env.cfg.authAddr != "") .authAddrMissing) fun _ ↦
  piece (require (firstNonEmpty [adminPassword, env.cfg.adminPassword] != "")
    .adminPasswordRequired) fun _ ↦
  piece (require a.dials .dial) fun _ ↦
  piece (require a.getSetupStatus (.call "auth GetSetupStatus")) fun _ ↦
  piece get fun w ↦
    if w.auth.isSetupComplete then alreadyCompletePieces env a else provisionPieces env a w.auth

theorem cuts_alreadyComplete (env : SetupEnv) (a : Attempt) :
    Cuts (alreadyCompletePieces env a) (alreadyComplete env a) := by
  refine cuts_piece fun w ↦ ?_
  generalize (if a.getControlPlane then w.row else none) = row
  dsimp only
  split
  · exact cuts_ret _
  · exact cuts_piece fun _ ↦ cuts_ret _

theorem cuts_provision (env : SetupEnv) (a : Attempt) (status : AuthState) :
    Cuts (provisionPieces env a status) (provision env a status) :=
  cuts_piece fun _ ↦ cuts_piece fun _ ↦ cuts_piece fun _ ↦ cuts_piece fun _ ↦ cuts_piece fun _ ↦
    cuts_piece fun _ ↦ cuts_piece fun _ ↦ cuts_piece fun _ ↦ cuts_ret _

theorem cuts_runWith (env : SetupEnv) (adminPassword : String) (a : Attempt) :
    Cuts (runWithPieces env adminPassword a) (runWith env adminPassword a) := by
  refine cuts_piece fun _ ↦ cuts_piece fun _ ↦ cuts_piece fun _ ↦ cuts_piece fun _ ↦
    cuts_piece fun w ↦ ?_
  split
  · exact cuts_alreadyComplete env a
  · exact cuts_provision env a w.auth

/-! ## The orchestrator -/

/-- `RunWith` behind the flag.  What is noted is what was answered, and the first piece only forgets
the commits of the attempt before it. -/
def orchestrator (env : SetupEnv) : Entry Unit World (String × Attempt)
    (Except SetupError SetupResult)
    (List ((String × Attempt) × Except SetupError SetupResult)) where
  prog x := piece (modify fun w ↦ { w with commits := [] }) fun _ ↦ runWithPieces env x.1 x.2
  note answered x a := answered ++ [(x, a)]

theorem exec_orchestrator (env : SetupEnv) (x : String × Attempt) (ts : List Unit) (w : World) :
    (((orchestrator env).prog x).exec ts w).1 = attempted env w x ∧
      (((orchestrator env).prog x).exec ts w).2.1 = (attemptSetup env w x).2 := by
  have hcuts : Cuts ((orchestrator env).prog x)
      ((modify fun w ↦ { w with commits := [] }) >>= fun _ ↦ runWith env x.1 x.2) :=
    cuts_piece fun _ ↦ cuts_runWith env x.1 x.2
  exact Prod.ext_iff.mp (hcuts ts w)

/-- The answers of attempts made one after the other. -/
def answersInTurn (env : SetupEnv) : World → List (String × Attempt) →
    List (Except SetupError SetupResult)
  | _, [] => []
  | w, x :: xs => (attemptSetup env w x).2 :: answersInTurn env (attempted env w x) xs

/-- What the turns of the orchestrator leave: the world after the attempts, and their answers. -/
theorem run_turn_orchestrator (env : SetupEnv) (w : World)
    (noted : List ((String × Attempt) × Except SetupError SetupResult))
    (turns : List ((String × Attempt) × List Unit)) :
    run (turn (orchestrator env)) (w, noted) turns =
      (run (attempted env) w (turns.map Prod.fst),
        noted ++ (turns.map Prod.fst).zip (answersInTurn env w (turns.map Prod.fst))) := by
  induction turns generalizing w noted with
  | nil => simp
  | cons x turns ih =>
    obtain ⟨hworld, hanswer⟩ := exec_orchestrator env x.1 x.2 w
    rw [run_cons, turn, hworld, hanswer, ih]
    simp [orchestrator, answersInTurn]

theorem length_answersInTurn (env : SetupEnv) (w : World) (xs : List (String × Attempt)) :
    (answersInTurn env w xs).length = xs.length := by
  induction xs generalizing w with
  | nil => rfl
  | cons x xs ih => rw [answersInTurn, List.length_cons, List.length_cons, ih]

theorem answersInTurn_append (env : SetupEnv) (w : World) (xs ys : List (String × Attempt)) :
    answersInTurn env w (xs ++ ys) =
      answersInTurn env w xs ++ answersInTurn env (run (attempted env) w xs) ys := by
  induction xs generalizing w with
  | nil => rfl
  | cons x xs ih => rw [List.cons_append, answersInTurn, ih, answersInTurn, run_cons]; rfl

/-- **Concurrent attempts at setup take turns.**  Any number of callers, and any interleaving of the
calls their attempts make.  What was answered so far are the answers of these attempts made one
after the other, and every caller that was answered by an attempt was answered with its own; the
flag is up exactly while somebody is inside, and there is never more than one inside; and when it is
down, Auth and the database are as those attempts leave them, so that whoever was turned away has
changed nothing. -/
theorem concurrent_setups_take_turns (env : SetupEnv) (w : World)
    (ms : List (Flight.Move Unit (String × Attempt))) :
    let f := run (Flight.step (orchestrator env)) (start w []) ms
    let xs := f.memo.map Prod.fst
    f.memo = xs.zip (answersInTurn env w xs) ∧
      (∀ x a, Phase.done x a ∈ f.callers → (x, a) ∈ f.memo) ∧
      (f.running = true ↔ ∃ (i : ℕ) (x : String × Attempt) (told : List Unit)
        (rest : Dialogue Unit World (Except SetupError SetupResult)),
        f.callers[i]? = some (Phase.inside x told rest)) ∧
      (∀ (i j : ℕ) (x y : String × Attempt) (told told' : List Unit)
        (rest rest' : Dialogue Unit World (Except SetupError SetupResult)),
        f.callers[i]? = some (Phase.inside x told rest) →
        f.callers[j]? = some (Phase.inside y told' rest') → i = j) ∧
      (f.running = false → f.store = run (attempted env) w xs) := by
  intro f xs
  have hserial : Serial (orchestrator env) (w, []) f := serial_run (orchestrator env) w [] ms
  have hmemo : f.memo = (f.turns.map Prod.fst).zip
      (answersInTurn env w (f.turns.map Prod.fst)) := by
    have h := hserial.memo
    rw [run_turn_orchestrator] at h
    exact h.symm
  have hxs : xs = f.turns.map Prod.fst := by
    show f.memo.map Prod.fst = _
    rw [hmemo, List.map_fst_zip (length_answersInTurn env w _).ge]
  refine ⟨hxs ▸ hmemo, fun x a hdone ↦ ?_, ⟨hserial.held, ?_⟩, ?_, fun hidle ↦ ?_⟩
  · obtain ⟨pre, told, post, hturns, rfl⟩ := hserial.answered x a hdone
    have hlen := length_answersInTurn env w (pre.map Prod.fst)
    rw [run_turn_orchestrator, (exec_orchestrator env x told _).2, hmemo, hturns, List.map_append,
      answersInTurn_append, List.zip_append hlen.symm]
    exact List.mem_append_right _ List.mem_cons_self
  · rintro ⟨i, x, told, rest, hi⟩
    exact (hserial.inside i x told rest hi).1
  · intro i j x y told told' rest rest' hi hj
    exact ((hserial.inside i x told rest hi).2.1 j y told' rest' hj).symm
  · have h := hserial.idle hidle
    rw [run_turn_orchestrator] at h
    rw [hxs]
    exact h.symm

/-- The wizard is submitted twice.  The second submission is turned away in the middle of the first,
and a third, made later, finds Auth provisioned. -/
theorem concurrent_setups_take_turns_wizard :
    let ms := [.call ("pw", smooth), .call ("pw", smooth)] ++ List.replicate 6 (.go 0 ()) ++
      [.go 1 ()] ++ List.replicate 10 (.go 0 ()) ++ [.call ("pw", smooth)] ++
      List.replicate 9 (.go 2 ())
    let f := run (Flight.step (orchestrator plainSetup)) (start World.fresh []) ms
    f.running = false ∧ f.memo.length = 2 ∧
      f.store = run (attempted plainSetup) World.fresh (f.memo.map Prod.fst) := by
  intro ms f
  have hidle : f.running = false := by decide
  exact ⟨hidle, by decide, (concurrent_setups_take_turns plainSetup World.fresh ms).2.2.2.2 hidle⟩

end Maintainerd

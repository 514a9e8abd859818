import Maintainerd.Lib.Run
import Maintainerd.Setup.Attempt

/-!
# The deployment mode of an installation

`DEPLOYMENT_MODE` has two readers.  `config.Init` trims it, puts it in lower case and accepts
`docker` and `kubernetes`; `setup.LoadConfig` only trims it, and that is the value setup stamps into
the row of `control_plane`.  At every start `verifyDeploymentMode` compares the stamp with the value
of `Init`, and the process does not come up when they differ.

An `Installation` is Auth and the row, with the setting of the process that is up; a start takes the
place of the process before it.  As long as only processes write the row whose setting is in lower
case, the stamp is written once and every restart under the setting of the process goes through.
The first one to write the row under `Docker` is the last one to come up: its stamp is not a value
`Init` returns, so no setting agrees with it (`deployment_stamp`).
-/

set_option autoImplicit false

namespace Maintainerd

open Machine

/-! ## The two readers -/

/-- What `DEPLOYMENT_MODE` goes through in `Init`; an unset variable is an empty one. -/
def configMode (lower : Char → Char) (quote : String → String) (raw : String) :
    Except String String :=
  let mode := Text.toLower lower (Text.trimSpace (if raw = "" then "docker" else raw))
  if mode ≠ "docker" ∧ mode ≠ "kubernetes" then
    .error ("DEPLOYMENT_MODE must be \"docker\" or \"kubernetes\" (got " ++ quote mode ++ ")")
  else .ok mode

/-- What it goes through in `LoadConfig`. -/
def setupMode (raw : String) : String :=
  if Text.trimSpace raw ≠ "" then Text.trimSpace raw else "docker"

/-- `verifyDeploymentMode`: why the process does not come up, given what is read of the row. -/
def verifyDeploymentMode (quote : String → String) (row : Except String (Option ControlPlane))
    (mode : String) : Option String :=
  match row with
  | .error e => some ("read control plane install record: " ++ e)
  | .ok none => none
  | .ok (some row) =>
    if row.deploymentMode ≠ "" ∧ row.deploymentMode ≠ mode then
      some ("DEPLOYMENT_MODE=" ++ quote mode ++ " conflicts with the immutable install record " ++
        "(stamped " ++ quote row.deploymentMode ++ " at setup); restore the original value — " ++
        "changing substrates requires a migration, not a config change")
    else none

/-! ## An installation -/

/-- Auth and the row, and the `DEPLOYMENT_MODE` of the process that is up. -/
structure Installation where
  world : World
  running : Option String

/-- Nothing is set up, and nothing is up. -/
def Installation.fresh : Installation := ⟨World.fresh, none⟩

/-- What happens to an installation. -/
inductive Life where
  /-- A process is started under a setting; `reads` says what comes of the read of the row. -/
  | start (raw : String) (reads : Except String Unit)
  /-- The process that is up makes an attempt at setup. -/
  | attempt (password : String) (a : Attempt)

section Step

variable (env : SetupEnv) (lower : Char → Char) (quote : String → String)

/-- What setup runs with in a process under a setting. -/
def SetupEnv.under (raw : String) : SetupEnv :=
  { env with cfg := { env.cfg with deploymentMode := setupMode raw } }

/-- The process that is up after a start. -/
def Installation.started (s : Installation) (raw : String) (reads : Except String Unit) :
    Option String :=
  match configMode lower quote raw with
  | .error _ => none
  | .ok mode =>
    match verifyDeploymentMode quote (reads.map fun _ ↦ s.world.row) mode with
    | some _ => none
    | none => some raw

/-- What happens. -/
def Installation.step (s : Installation) : Life → Installation
  | .start raw reads => { s with running := s.started lower quote raw reads }
  | .attempt password a =>
    match s.running with
    | none => s
    | some raw => { s with world := attempted (env.under raw) s.world (password, a) }

/-- If the row is written, then by a process whose setting is in lower case. -/
def Installation.spelled (s : Installation) : Life → Bool
  | .start _ _ => true
  | .attempt password a =>
    match s.running with
    | none => true
    | some raw =>
      !(leaves (setupCalls (env.under raw) s.world (password, a))).contains .upsertControlPlane ||
        Text.toLower lower (setupMode raw) == setupMode raw

end Step

theorem SetupEnv.deploymentMode_under (env : SetupEnv) (raw : String) :
    (env.under raw).cfg.deploymentMode = setupMode raw := by
  rw [SetupEnv.under]

theorem Installation.step_start (env : SetupEnv) (lower : Char → Char) (quote : String → String)
    (s : Installation) (raw : String) (reads : Except String Unit) :
    s.step env lower quote (.start raw reads) = ⟨s.world, s.started lower quote raw reads⟩ := rfl

/-! ## The readers compared -/

section Readers

variable {lower : Char → Char} {quote : String → String} {raw mode : String}

/-- A setting that `Init` accepts is the one setup reads, in lower case. -/
theorem configMode_ok (h : configMode lower quote raw = .ok mode) :
    mode = Text.toLower lower (setupMode raw) ∧ (mode = "docker" ∨ mode = "kubernetes") := by
  simp only [configMode] at h
  generalize hread : Text.toLower lower (Text.trimSpace (if raw = "" then "docker" else raw)) = m
    at h
  split at h
  · cases h
  rename_i hmode
  rw [not_and_or, not_ne_iff, not_ne_iff] at hmode
  cases h
  refine ⟨?_, hmode⟩
  rw [← hread] at hmode ⊢
  by_cases hraw : raw = ""
  · rw [if_pos hraw, hraw]
    rfl
  · rw [if_neg hraw] at hmode ⊢
    rw [setupMode, if_pos]
    -- a blank setting is not accepted
    intro hblank
    rw [hblank, show Text.toLower lower "" = "" from rfl] at hmode
    exact absurd hmode (by decide)

theorem setupMode_ne_empty (raw : String) : setupMode raw ≠ "" := by
  rw [setupMode]
  split
  · assumption
  · decide

/-- Lower case keeps the length, so it does not take one mode to the other. -/
theorem toLower_eq_self (h : configMode lower quote raw = .ok mode)
    (hraw : setupMode raw = "docker" ∨ setupMode raw = "kubernetes") :
    Text.toLower lower (setupMode raw) = setupMode raw := by
  obtain ⟨hmode, hvalid⟩ := configMode_ok h
  have hlength : mode.length = (setupMode raw).length := by
    rw [hmode, Text.toLower]
    simp [String.length_toList]
  rw [← hmode]
  rcases hvalid with rfl | rfl <;> rcases hraw with hraw | hraw <;> rw [hraw] at hlength ⊢
  · exact absurd hlength (by decide)
  · exact absurd hlength (by decide)

end Readers

/-- What an attempt does to the stamp: nothing, or it writes the mode setup was loaded with. -/
theorem attempted_stamp (env : SetupEnv) (w : World) (x : String × Attempt) :
    (attempted env w x).row = w.row ∧
        Commit.upsertControlPlane ∉ leaves (setupCalls env w x) ∨
      Commit.upsertControlPlane ∈ leaves (setupCalls env w x) ∧
        ∃ row, (attempted env w x).row = some row ∧
          row.deploymentMode = env.cfg.deploymentMode := by
  rw [← commits_attempted]
  rcases attempted_ended env w x with h | ⟨-, key, h⟩ | ⟨-, res, key, h⟩ | h
  · exact Or.inl ⟨h.row, h.no_upsert⟩
  · exact Or.inl ⟨h.row, h.no_upsert⟩
  · exact Or.inr ⟨h.upsert, _, h.row, rfl⟩
  · rcases h.row with hkept | ⟨hupsert, seen, res, -, -, -, -, -, hrow⟩
    · exact Or.inl hkept
    · exact Or.inr ⟨hupsert, _, hrow, rfl⟩

/-! ## The two invariants -/

section Invariants

variable {env : SetupEnv} {lower : Char → Char} {quote : String → String} {s : Installation}

/-- The process that is up was accepted, and the stamp, if there is one, is its mode. -/
structure Agreeing (lower : Char → Char) (quote : String → String) (s : Installation) : Prop where
  accepted : ∀ raw, s.running = some raw → ∃ mode, configMode lower quote raw = .ok mode
  stamped : ∀ row, s.world.row = some row → row.deploymentMode ≠ ""
  agrees : ∀ raw row, s.running = some raw → s.world.row = some row →
    row.deploymentMode = Text.toLower lower (setupMode raw)

/-- The stamp is no mode, and the process that is up, if there is one, put it there. -/
structure Bricked (s : Installation) : Prop where
  row : ∃ row, s.world.row = some row ∧ row.deploymentMode ≠ "" ∧
    row.deploymentMode ≠ "docker" ∧ row.deploymentMode ≠ "kubernetes" ∧
    ∀ raw, s.running = some raw → setupMode raw = row.deploymentMode

theorem agreeing_fresh (lower : Char → Char) (quote : String → String) :
    Agreeing lower quote .fresh where
  accepted raw h := by cases h
  stamped row h := by cases h
  agrees raw row h := by cases h

/-- What a start that goes through has checked. -/
theorem started_eq_some {raw raw' : String} {reads : Except String Unit}
    (h : s.started lower quote raw reads = some raw') :
    raw' = raw ∧ ∃ mode, configMode lower quote raw = .ok mode ∧
      ∀ row, s.world.row = some row → row.deploymentMode = "" ∨ row.deploymentMode = mode := by
  unfold Installation.started at h
  split at h
  · cases h
  rename_i mode hmode
  split at h
  · cases h
  rename_i hverify
  cases h
  refine ⟨rfl, mode, hmode, fun row hrow ↦ ?_⟩
  rcases reads with e | _
  · cases hverify
  · rw [hrow] at hverify
    simp only [verifyDeploymentMode, Except.map] at hverify
    split at hverify
    · cases hverify
    rename_i hsame
    rwa [not_and_or, not_ne_iff, not_ne_iff] at hsame

theorem Agreeing.start (h : Agreeing lower quote s) (raw : String) (reads : Except String Unit) :
    Agreeing lower quote (s.step env lower quote (.start raw reads)) := by
  rw [Installation.step_start]
  -- the projections are reduced first, or the start is evaluated to compare it with itself
  refine ⟨fun raw' hraw' ↦ ?_, h.stamped, fun raw' row hraw' hrow ↦ ?_⟩
  · dsimp only at hraw'
    obtain ⟨rfl, mode, hmode, -⟩ := started_eq_some hraw'
    exact ⟨mode, hmode⟩
  · dsimp only at hraw'
    obtain ⟨rfl, mode, hmode, hsame⟩ := started_eq_some hraw'
    rw [← (configMode_ok hmode).1]
    exact (hsame row hrow).resolve_left (h.stamped row hrow)

/-- A step that spells the mode right keeps the first invariant. -/
theorem Agreeing.step (h : Agreeing lower quote s) {l : Life}
    (hl : s.spelled env lower l = true) : Agreeing lower quote (s.step env lower quote l) := by
  rcases l with ⟨raw, reads⟩ | ⟨password, a⟩
  · exact h.start raw reads
  rw [Installation.step]
  rw [Installation.spelled] at hl
  rcases hrunning : s.running with _ | raw
  · exact h
  rw [hrunning] at hl
  dsimp only at hl ⊢
  rcases attempted_stamp (env.under raw) s.world (password, a) with ⟨hrow, -⟩ |
    ⟨hupsert, row, hrow, hmode⟩
  · refine ⟨fun _ hraw ↦ h.accepted _ (hrunning.trans hraw), fun row hrow' ↦ ?_,
      fun raw' row hraw hrow' ↦ ?_⟩
    · exact h.stamped row (hrow ▸ hrow')
    · exact h.agrees raw' row (hrunning.trans hraw) (hrow ▸ hrow')
  · rw [List.contains_iff_mem.mpr hupsert, Bool.not_true, Bool.false_or, beq_iff_eq] at hl
    have hstamp : ∀ row', (attempted (env.under raw) s.world (password, a)).row = some row' →
        row'.deploymentMode = setupMode raw := by
      intro row' hrow'
      rw [hrow] at hrow'
      cases hrow'
      rw [hmode, SetupEnv.deploymentMode_under]
    refine ⟨fun _ hraw ↦ h.accepted _ (hrunning.trans hraw), fun row' hrow' ↦ ?_,
      fun raw' row' hraw hrow' ↦ ?_⟩
    · rw [hstamp row' hrow']
      exact setupMode_ne_empty raw
    · cases hraw
      rw [hstamp row' hrow', hl]

/-- A step that does not leads to the second. -/
theorem Agreeing.bricked (h : Agreeing lower quote s) {l : Life}
    (hl : s.spelled env lower l ≠ true) : Bricked (s.step env lower quote l) := by
  rcases l with ⟨raw, reads⟩ | ⟨password, a⟩
  · exact absurd rfl hl
  rw [Installation.step]
  rw [Installation.spelled] at hl
  rcases hrunning : s.running with _ | raw
  · rw [hrunning] at hl
    exact absurd rfl hl
  rw [hrunning] at hl
  dsimp only at hl ⊢
  rw [Ne, Bool.or_eq_true, not_or, Bool.not_eq_true', Bool.not_eq_false, List.contains_iff_mem,
    beq_iff_eq] at hl
  obtain ⟨hupsert, hspelled⟩ := hl
  rcases attempted_stamp (env.under raw) s.world (password, a) with ⟨-, hkept⟩ |
    ⟨-, row, hrow, hmode⟩
  · exact absurd hupsert hkept
  obtain ⟨mode, hmode'⟩ := h.accepted raw hrunning
  rw [SetupEnv.deploymentMode_under] at hmode
  refine ⟨row, hrow, ?_, ?_, ?_, fun raw' hraw ↦ ?_⟩
  · rw [hmode]
    exact setupMode_ne_empty raw
  · exact fun e ↦ hspelled (toLower_eq_self hmode' (Or.inl (hmode.symm.trans e)))
  · exact fun e ↦ hspelled (toLower_eq_self hmode' (Or.inr (hmode.symm.trans e)))
  · cases hraw
    exact hmode.symm

/-- No setting agrees with a stamp that is no mode. -/
theorem Bricked.started (h : Bricked s) (lower : Char → Char) (quote : String → String)
    (raw : String) (reads : Except String Unit) :
    s.started lower quote raw reads = none := by
  obtain ⟨row, hrow, hne, hdocker, hkubernetes, -⟩ := h.row
  rcases hup : s.started lower quote raw reads with _ | raw'
  · rfl
  obtain ⟨-, mode, hmode, hsame⟩ := started_eq_some hup
  have hmode' := (hsame row hrow).resolve_left hne
  rcases (configMode_ok hmode).2 with rfl | rfl
  · exact absurd hmode' hdocker
  · exact absurd hmode' hkubernetes

/-- There is no way back. -/
theorem Bricked.step (h : Bricked s) (l : Life) : Bricked (s.step env lower quote l) := by
  have hstarted := h.started lower quote
  obtain ⟨row, hrow, hne, hdocker, hkubernetes, hown⟩ := h.row
  rcases l with ⟨raw, reads⟩ | ⟨password, a⟩
  · refine ⟨row, hrow, hne, hdocker, hkubernetes, fun raw' hraw' ↦ ?_⟩
    rw [Installation.step_start, hstarted] at hraw'
    cases hraw'
  rw [Installation.step]
  rcases hrunning : s.running with _ | raw
  · exact h
  dsimp only
  have hraw := hown raw hrunning
  rcases attempted_stamp (env.under raw) s.world (password, a) with ⟨hkept, -⟩ |
    ⟨-, row', hrow', hmode⟩
  · exact ⟨row, hkept.trans hrow, hne, hdocker, hkubernetes,
      fun raw' hraw' ↦ hown raw' (hrunning.trans hraw')⟩
  · -- the process that is up writes what is there
    rw [SetupEnv.deploymentMode_under, hraw] at hmode
    refine ⟨row', hrow', ?_⟩
    rw [hmode]
    exact ⟨hne, hdocker, hkubernetes, fun raw' hraw' ↦ hown raw' (hrunning.trans hraw')⟩

/-- A start under the setting of the process that is up goes through. -/
theorem Agreeing.restarts (h : Agreeing lower quote s) {raw : String}
    (hraw : s.running = some raw) : s.started lower quote raw (.ok ()) = some raw := by
  obtain ⟨mode, hmode⟩ := h.accepted raw hraw
  unfold Installation.started
  rw [hmode]
  rcases hrow : s.world.row with _ | row
  · rfl
  · have hsame : row.deploymentMode = mode := by
      rw [h.agrees raw row hraw hrow, (configMode_ok hmode).1]
    simp [verifyDeploymentMode, Except.map, hsame]

/-- The stamp of one point is the stamp of the other, once there is one. -/
def SameStamp (s s' : Installation) : Prop :=
  ∀ row, s.world.row = some row →
    ∃ row', s'.world.row = some row' ∧ row'.deploymentMode = row.deploymentMode

theorem Agreeing.sameStamp (h : Agreeing lower quote s) {l : Life}
    (hl : s.spelled env lower l = true) : SameStamp s (s.step env lower quote l) := by
  intro row hrow
  have hafter := h.step hl
  rcases l with ⟨raw, reads⟩ | ⟨password, a⟩
  · exact ⟨row, hrow, rfl⟩
  rw [Installation.step] at hafter ⊢
  rcases hrunning : s.running with _ | raw
  · exact ⟨row, hrow, rfl⟩
  rw [hrunning] at hafter
  dsimp only at hafter ⊢
  rcases attempted_stamp (env.under raw) s.world (password, a) with ⟨hkept, -⟩ |
    ⟨-, row', hrow', -⟩
  · exact ⟨row, hkept.trans hrow, rfl⟩
  · -- both are the mode of the process that is up
    exact ⟨row', hrow', (hafter.agrees raw row' rfl hrow').trans
      (h.agrees raw row hrunning hrow).symm⟩

end Invariants

/-! ## The life of an installation -/

/-- **The stamp holds, or the installation is lost.**  Take any sequence of starts under any
settings, with reads of the row that succeed or fail, and attempts at setup, with calls that end in
any way.  If the row was only written by processes whose `DEPLOYMENT_MODE` is in lower case, then at
any two points the stamp is the same once there is one, and a restart under the setting of the
process that is up goes through.  Otherwise no start goes through any more, under any setting. -/
theorem deployment_stamp (env : SetupEnv) (lower : Char → Char) (quote : String → String)
    (ls ls' : List Life) :
    let life := Installation.step env lower quote
    let s := run life .fresh (ls ++ ls')
    (Guarded life (fun s l ↦ s.spelled env lower l = true) .fresh (ls ++ ls') →
      SameStamp (run life .fresh ls) s ∧
        ∀ raw, s.running = some raw → (life s (.start raw (.ok ()))).running = some raw) ∧
    (¬ Guarded life (fun s l ↦ s.spelled env lower l = true) .fresh (ls ++ ls') →
      ∀ raw reads, (life s (.start raw reads)).running = none) := by
  intro life s
  have hstep : ∀ (s : Installation) (l : Life), Agreeing lower quote s →
      s.spelled env lower l = true → Agreeing lower quote (life s l) := fun s l h hl ↦ h.step hl
  refine ⟨fun hguarded ↦ ⟨?_, fun raw hraw ↦ ?_⟩, fun hnot raw reads ↦ ?_⟩
  · obtain ⟨hfirst, hsecond⟩ := guarded_append.mp hguarded
    show SameStamp _ (run life .fresh (ls ++ ls'))
    rw [run_append]
    refine hsecond.relates (hfirst.invariant (agreeing_fresh lower quote) hstep)
      (fun s row hrow ↦ ⟨row, hrow, rfl⟩) (fun a b c hab hbc row hrow ↦ ?_) hstep
      fun s l h hl ↦ h.sameStamp hl
    obtain ⟨row', hrow', hsame⟩ := hab row hrow
    obtain ⟨row'', hrow'', hsame'⟩ := hbc row' hrow'
    exact ⟨row'', hrow'', hsame'.trans hsame⟩
  · have hagreeing : Agreeing lower quote s := hguarded.invariant (agreeing_fresh lower quote) hstep
    rw [show life s (.start raw (.ok ())) = _ from s.step_start env lower quote raw (.ok ())]
    dsimp only
    exact hagreeing.restarts hraw
  · obtain ⟨pre, l, post, hsplit, hbad⟩ := exists_of_not_guarded hnot
    have hbefore : Agreeing lower quote (run life .fresh pre) ∨ Bricked (run life .fresh pre) := by
      refine invariant_run (I := fun s ↦ Agreeing lower quote s ∨ Bricked s) pre
        (Or.inl (agreeing_fresh lower quote)) fun s l h ↦ ?_
      rcases h with h | h
      · by_cases hl : s.spelled env lower l = true
        · exact Or.inl (h.step hl)
        · exact Or.inr (h.bricked hl)
      · exact Or.inr (h.step l)
    have hafter : Bricked (life (run life .fresh pre) l) := by
      rcases hbefore with h | h
      · exact h.bricked hbad
      · exact h.step l
    have hend : Bricked s := by
      show Bricked (run life .fresh (ls ++ ls'))
      rw [hsplit, run_append, run_cons]
      exact invariant_run post hafter fun s l h ↦ h.step l
    rw [show life s (.start raw reads) = _ from s.step_start env lower quote raw reads]
    dsimp only
    exact hend.started lower quote raw reads

theorem deployment_stamp_spelled :
    let life := Installation.step plainSetup Char.toLower id
    let good := run life .fresh [.start " kubernetes" (.ok ()), .attempt "" smooth]
    let bad := run life .fresh [.start "Docker" (.ok ()), .attempt "" smooth]
    good.running = some " kubernetes" ∧
      (life good (.start " kubernetes" (.ok ()))).running = some " kubernetes" ∧
      bad.running = some "Docker" ∧ ∀ raw reads, (life bad (.start raw reads)).running = none :=
  ⟨by decide, ((deployment_stamp plainSetup Char.toLower id [] _).1 (by decide)).2 _ (by decide),
    by decide, (deployment_stamp plainSetup Char.toLower id [] _).2 (by decide)⟩

end Maintainerd

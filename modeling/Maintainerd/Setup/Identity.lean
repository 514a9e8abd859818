import Maintainerd.Setup.ControlKey

/-!
# A recorded setup and a usable one

`Status` calls a setup complete as soon as the row has a completion time, and `LoadIdentity` wants
more of the row: a private key, the OAuth identifier of the control client, and the tenant.  An
attempt records the tenant only if it created it itself, because `CreateTenant` is the only call
whose answer names it; the attempts after a partial failure skip that call and record nothing.

`Tidy` is what every row of every sequence of attempts satisfies, and `Tidy.ended` is what one
attempt does to the row: it leaves it alone, or it writes a completed row, which is usable exactly
if this very attempt created the tenant.  `recorded_setup_usable_iff` is the consequence for whole
sequences.
-/

set_option autoImplicit false

namespace Maintainerd

open Machine

/-! ## What a usable row is -/

/-- `LoadIdentity` does not answer that there is no identity. -/
def Usable (env : SetupEnv) (row : Option ControlPlane) : Prop :=
  loadIdentity env row ≠ .error .noControlIdentity

instance (env : SetupEnv) (row : Option ControlPlane) : Decidable (Usable env row) :=
  inferInstanceAs (Decidable (¬_))

/-- The tenant of a row, as `LoadIdentity` finds it. -/
def tenantOf (env : SetupEnv) (row : ControlPlane) : String :=
  firstNonBlank [row.data.authTenantID, (row.authTenantUuid.map env.uuids.format).getD ""]

theorem usable_some_iff {env : SetupEnv} {row : ControlPlane} :
    Usable env (some row) ↔ Text.trimSpace row.controlPrivateKeyPem ≠ "" ∧
      Text.trimSpace row.data.controlOAuthClientID ≠ "" ∧
      Text.trimSpace (tenantOf env row) ≠ "" := by
  simp only [Usable, loadIdentity, tenantOf]
  split_ifs with hpem hid
  · simp [hpem]
  · simp only [ne_eq, not_true_eq_false, false_iff, not_and_or, not_not]
    exact Or.inr hid
  · rw [not_or] at hid
    refine iff_of_true ?_ ⟨hpem, hid⟩
    split <;> simp

theorem firstNonBlank_cons_of_ne {v : String} (vs : List String) (h : Text.trimSpace v ≠ "") :
    firstNonBlank (v :: vs) = v := by
  rw [firstNonBlank, List.find?_cons_of_pos (by simpa using h)]
  rfl

variable {env : SetupEnv} {a : Attempt} {w s : World}

/-- A row whose tenant is not recorded is not usable: nothing populates the column either. -/
theorem not_usable_of_empty_tenant {row : Option ControlPlane} {p : UpsertControlPlaneParams}
    (hdata : p.data.authTenantID = "") (huuid : p.authTenantUuid = none) :
    ¬Usable env (some (upsertControlPlane row p)) := by
  rw [usable_some_iff]
  rintro ⟨-, -, htenant⟩
  simp only [tenantOf, upsertControlPlane, hdata, huuid, Option.map_none, Option.getD_none]
    at htenant
  exact absurd htenant (by decide)

/-! ## What one attempt does to the row -/

/-- What holds along every sequence of attempts: a row is completed, a stored key is one that was
minted, and Auth has given its client an OAuth identifier. -/
structure Tidy (env : SetupEnv) (w : World) : Prop where
  completed : ∀ row, w.row = some row → row.setupCompletedAt.isSome = true
  key : w.storedKey = "" ∨ ∃ n, w.storedKey = env.keys.pem n
  oauth : ∀ c, w.auth.controlClient = some c → Text.trimSpace c.oauthClientID ≠ ""

theorem Tidy.reopen (h : Tidy env w) : Tidy env { w with commits := [] } :=
  ⟨h.completed, h.key, h.oauth⟩

theorem Tidy.clientFor (h : Tidy env w) (a : Attempt) (jwks : String) :
    Text.trimSpace (clientFor a w jwks).oauthClientID ≠ "" := by
  rw [Maintainerd.clientFor]
  rcases hc : w.auth.controlClient with _ | c
  · exact a.answers.controlOAuthClientID_nonblank
  · exact h.oauth c hc

/-- A world whose row is as it was. -/
theorem Tidy.of_row (h : Tidy env w) (hrow : s.row = w.row)
    (hoauth : ∀ c, s.auth.controlClient = some c → Text.trimSpace c.oauthClientID ≠ "") :
    Tidy env s where
  completed := by
    rw [hrow]
    exact h.completed
  key := by
    rw [storedKey_of_row hrow]
    exact h.key
  oauth := hoauth

/-- The key of an attempt is one that was minted, by this attempt or by an earlier one. -/
theorem Tidy.keyFor (h : Tidy env w) {key : String × String} (hkey : KeyFor env w key s) :
    ∃ n, key.1 = env.keys.pem n := by
  rcases hkey.origin with ⟨n, -, -, hpem⟩ | ⟨hne, row, hrow, hpem⟩
  · exact ⟨n, hpem⟩
  · have hstored : w.storedKey = key.1 := by
      rw [World.storedKey, hrow]
      exact hpem
    rcases h.key with hempty | ⟨n, hn⟩
    · exact absurd (hstored.symm.trans hempty) hne
    · exact ⟨n, hstored.symm.trans hn⟩

theorem completed_of_upsert {row : Option ControlPlane} {p : UpsertControlPlaneParams}
    (hrow : s.row = some (upsertControlPlane row p)) (h : p.setupCompletedAt.isSome = true) :
    ∀ row, s.row = some row → row.setupCompletedAt.isSome = true := by
  intro row' hrow'
  rw [hrow] at hrow'
  rw [← Option.some.inj hrow']
  exact h

theorem setupCompleted_upsert {row : Option ControlPlane} {p : UpsertControlPlaneParams}
    (h : p.setupCompletedAt.isSome = true) :
    setupCompleted (some (upsertControlPlane row p)) = true := by
  simp only [setupCompleted, loadPersisted, upsertControlPlane, Option.isSome_or, h, Bool.true_or]

/-- What an attempt does to the row. -/
def RowEffect (env : SetupEnv) (w s : World) : Prop :=
  Commit.upsertControlPlane ∉ s.commits ∧ s.row = w.row ∨
    Commit.upsertControlPlane ∈ s.commits ∧ setupCompleted s.row = true ∧
      (Usable env s.row ↔ Commit.createTenant ∈ s.commits)

/-- A row that `provision` wrote is usable exactly if the attempt created the tenant. -/
theorem Tidy.usable_iff (h : Tidy env w) {res : SetupResult} {key : String × String}
    (hs : Written env a w s res key) : Usable env s.row ↔ Commit.createTenant ∈ s.commits := by
  rw [hs.row]
  rcases hs.tenant with ⟨hmem, htenant⟩ | ⟨hmem, htenant⟩
  · obtain ⟨n, hpem⟩ := h.keyFor hs.chosen
    refine iff_of_true (usable_some_iff.mpr ⟨?_, ?_, ?_⟩) hmem
    · simp only [upsertControlPlane, hpem, if_neg (env.keys.pem_ne_empty n)]
      exact env.keys.pem_nonblank n
    · show Text.trimSpace res.controlOAuthClientID ≠ ""
      rw [hs.oauth]
      exact h.clientFor a key.2
    · have hname : Text.trimSpace res.authTenantID ≠ "" := by
        rw [htenant]
        exact a.answers.tenantID_nonblank
      rw [tenantOf, upsertControlPlane, firstNonBlank_cons_of_ne _ hname]
      exact hname
  · refine iff_of_false (not_usable_of_empty_tenant htenant ?_) hmem
    rw [htenant]
    exact env.uuids.parse_empty

theorem Tidy.written (h : Tidy env w) {res : SetupResult} {key : String × String}
    (hs : Written env a w s res key) : Tidy env s ∧ RowEffect env w s := by
  obtain ⟨n, hpem⟩ := h.keyFor hs.chosen
  refine ⟨⟨completed_of_upsert hs.row hs.completedAt, Or.inr ⟨n, hs.storedKey hpem⟩, ?_⟩,
    Or.inr ⟨hs.upsert, ?_, h.usable_iff hs⟩⟩
  · intro c hc
    rw [hs.client] at hc
    rw [← Option.some.inj hc]
    exact h.clientFor a key.2
  · rw [hs.row]
    exact setupCompleted_upsert hs.completedAt

/-- The branch for an Auth that is already provisioned writes only what it could not read, and
then it writes a row without an identity. -/
theorem Tidy.recorded (h : Tidy env w) (hs : Recorded env w s) :
    Tidy env s ∧ RowEffect env w s := by
  have hkey : s.storedKey = "" ∨ ∃ n, s.storedKey = env.keys.pem n := by
    rw [hs.storedKey]
    exact h.key
  have hoauth : ∀ c, s.auth.controlClient = some c → Text.trimSpace c.oauthClientID ≠ "" := by
    rw [hs.auth]
    exact h.oauth
  rcases hs.row with ⟨hrow, hmem⟩ | ⟨hmem, seen, res, hseen, hnone, hres, htenant, -, hrow⟩
  · exact ⟨h.of_row hrow hoauth, Or.inl ⟨hmem, hrow⟩⟩
  · have hempty : seen = none := by
      rcases hseen with rfl | hseen
      · rcases hr : w.row with _ | row
        · rfl
        · rw [hr] at hnone
          have hsome := h.completed row hr
          simp only [loadPersisted, Option.or_eq_none_iff] at hnone
          rw [hnone.1] at hsome
          cases hsome
      · exact hseen
    rw [hempty] at htenant
    refine ⟨⟨completed_of_upsert hrow hres, hkey, hoauth⟩,
      Or.inr ⟨hmem, ?_, iff_of_false ?_ hs.no_tenant⟩⟩
    · rw [hrow]
      exact setupCompleted_upsert hres
    · rw [hrow]
      refine not_usable_of_empty_tenant htenant ?_
      rw [htenant]
      exact env.uuids.parse_empty

/-- **One attempt.**  It leaves the row alone, or it writes a completed one, which is usable
exactly if the attempt created the tenant. -/
theorem Tidy.ended (h : Tidy env w) (hend : Ended env a w s) :
    Tidy env s ∧ RowEffect env w s := by
  cases hend with
  | stopped hs =>
    refine ⟨h.of_row hs.row ?_, Or.inl ⟨hs.no_upsert, hs.row⟩⟩
    rw [hs.client]
    exact h.oauth
  | between _ key hs =>
    refine ⟨h.of_row hs.row fun c hc ↦ ?_, Or.inl ⟨hs.no_upsert, hs.row⟩⟩
    rw [hs.client] at hc
    rw [← Option.some.inj hc]
    exact h.clientFor a key.2
  | written _ res key hs => exact h.written hs
  | recorded hs => exact h.recorded hs

/-! ## Sequences of attempts -/

/-- The attempt records a setup only if it created the tenant itself. -/
def RecordsItsTenant (env : SetupEnv) (w : World) (x : String × Attempt) : Prop :=
  Commit.upsertControlPlane ∈ leaves (setupCalls env w x) →
    Commit.createTenant ∈ leaves (setupCalls env w x)

instance (env : SetupEnv) (w : World) (x : String × Attempt) :
    Decidable (RecordsItsTenant env w x) := inferInstanceAs (Decidable (_ → _))

/-- A setup that `Status` calls complete is usable. -/
def UsableOnceCompleted (env : SetupEnv) (w : World) : Prop :=
  setupCompleted w.row = true → Usable env w.row

instance (env : SetupEnv) (w : World) : Decidable (UsableOnceCompleted env w) :=
  inferInstanceAs (Decidable (_ → _))

theorem tidy_fresh (env : SetupEnv) : Tidy env World.fresh := by
  refine ⟨?_, Or.inl rfl, ?_⟩
  · rintro row ⟨⟩
  · rintro c ⟨⟩

theorem Tidy.attempted (h : Tidy env w) (x : String × Attempt) : Tidy env (attempted env w x) :=
  (h.reopen.ended (attempted_ended env w x)).1

/-- From a world that is usable once completed, an attempt leads to one exactly if it records its
tenant. -/
theorem usableOnceCompleted_attempted_iff (htidy : Tidy env w) (h : UsableOnceCompleted env w)
    (x : String × Attempt) :
    UsableOnceCompleted env (attempted env w x) ↔ RecordsItsTenant env w x := by
  rw [RecordsItsTenant, ← commits_attempted]
  rcases (htidy.reopen.ended (attempted_ended env w x)).2 with ⟨hmem, hrow⟩ | ⟨hmem, hdone, hiff⟩
  · refine iff_of_true ?_ fun hup ↦ absurd hup hmem
    rw [UsableOnceCompleted, hrow]
    exact h
  · rw [UsableOnceCompleted, hiff]
    exact ⟨fun hu _ ↦ hu hdone, fun hu _ ↦ hu hmem⟩

/-- **A recorded setup is usable exactly if every attempt that recorded it had created the
tenant.**  Start from an empty row and a fresh Auth, and let setup be attempted any number of
times, however its calls end.  In every state on the way a setup that `Status` reports as complete
has an identity to load, if and only if each attempt that wrote the row also made Auth create the
tenant. -/
theorem recorded_setup_usable_iff (env : SetupEnv) (xs : List (String × Attempt)) :
    (∀ ys, ys <+: xs → UsableOnceCompleted env (run (attempted env) World.fresh ys)) ↔
      Guarded (attempted env) (RecordsItsTenant env) World.fresh xs := by
  have hfresh : UsableOnceCompleted env World.fresh := fun h ↦ absurd h (by decide)
  have hpoints : (∀ pre post, xs = pre ++ post →
      UsableOnceCompleted env (run (attempted env) World.fresh pre)) ↔ _ :=
    forall_points_iff (tidy_fresh env) (fun w x _ h ↦ h.attempted x)
      fun w x _ htidy h ↦ usableOnceCompleted_attempted_iff htidy h x
  rw [and_iff_right hfresh] at hpoints
  rw [← hpoints]
  constructor
  · intro h pre post heq
    exact h pre ⟨post, heq.symm⟩
  · rintro h ys ⟨post, heq⟩
    exact h ys post heq.symm

/-- The first attempt creates the tenant and fails at the next call; the second one goes through,
records a completed setup, and nothing that names the tenant.  And a setup that was usable loses
its identity when a later attempt cannot read the row. -/
theorem recorded_setup_unusable :
    (∃ w, w = run (attempted plainSetup) World.fresh
        [("", { smooth with registerControlService := .refused }), ("", smooth)] ∧
      setupCompleted w.row = true ∧ loadIdentity plainSetup w.row = .error .noControlIdentity) ∧
    ∃ w, w = run (attempted plainSetup) World.fresh [("", smooth)] ∧
      loadIdentity plainSetup w.row = .ok ⟨"oauth", "tenant", "k"⟩ ∧
      loadIdentity plainSetup
        (attempted plainSetup w ("", { smooth with getControlPlane := false })).row =
          .error .noControlIdentity :=
  ⟨⟨_, rfl, by decide⟩, _, rfl, by decide⟩

end Maintainerd

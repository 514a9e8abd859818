import Maintainerd.Lib.Run
import Maintainerd.Setup.Attempt
import Mathlib.Data.List.Induction

/-!
# The control key and what Auth holds

Core signs with a private key and Auth verifies with the key set it was given when it created the
control client.  Setup mints the key before it asks for the client and stores it at the very end,
so an attempt that fails in between leaves a client whose private key is gone.

`InStep` and `OutOfStep` are the two kinds of world that attempts at setup go through, and
`InStep.ended` and `OutOfStep.ended` say how an attempt moves between them: an attempt that orphans
the client, and no other, takes the first kind to the second, and nothing leads back.  For whole
sequences this gives `control_key_matches_iff`: after an attempt that returns, the stored key is
the one Auth knows if and only if no attempt of the sequence orphaned the client.
-/

set_option autoImplicit false

namespace Maintainerd

open Machine

/-! ## The stored key -/

/-- The stored key.  No row and an empty column are both no key. -/
def World.storedKey (w : World) : String := (w.row.map ControlPlane.controlPrivateKeyPem).getD ""

/-- The private key in the row is the one whose key set Auth holds for the control client. -/
def ControlKeyMatches (env : SetupEnv) (w : World) : Prop :=
  ∃ row ∈ w.row, ∃ client ∈ w.auth.controlClient,
    env.keys.jwksFromPrivatePEM row.controlPrivateKeyPem = some client.jwks

instance (env : SetupEnv) (w : World) : Decidable (ControlKeyMatches env w) :=
  inferInstanceAs (Decidable (∃ row ∈ w.row, ∃ client ∈ w.auth.controlClient, _))

variable {env : SetupEnv} {a : Attempt} {w s : World}

/-- An empty key leaves the stored one alone. -/
theorem storedKey_upsert {p : UpsertControlPlaneParams}
    (h : s.row = some (upsertControlPlane w.row p)) :
    s.storedKey = if p.controlPrivateKeyPem = "" then w.storedKey else p.controlPrivateKeyPem := by
  rw [World.storedKey, h]
  rfl

/-- Where no key is stored, the key of the attempt is one it has minted. -/
theorem KeyFor.fresh {key : String × String} (h : KeyFor env w key s) (hkey : w.storedKey = "") :
    ∃ n, w.minted ≤ n ∧ n < s.minted ∧ key.1 = env.keys.pem n ∧ key.2 = env.keys.jwks n := by
  rcases h.origin with ⟨n, hle, hlt, hpem⟩ | ⟨hne, row, hrow, hpem⟩
  · refine ⟨n, hle, hlt, hpem, ?_⟩
    have hjwks := h.jwks
    rw [hpem, env.keys.jwks_pem] at hjwks
    exact (Option.some.inj hjwks).symm
  · rw [World.storedKey, hrow] at hkey
    exact absurd (hpem.symm.trans hkey) hne

theorem storedKey_of_row (h : s.row = w.row) : s.storedKey = w.storedKey := by
  rw [World.storedKey, h, World.storedKey]

theorem Written.storedKey {res : SetupResult} {key : String × String} {n : ℕ}
    (h : Written env a w s res key) (hpem : key.1 = env.keys.pem n) :
    s.storedKey = env.keys.pem n := by
  rw [storedKey_upsert h.row, hpem, if_neg (env.keys.pem_ne_empty n)]

theorem Recorded.storedKey (h : Recorded env w s) : s.storedKey = w.storedKey := by
  rcases h.row with ⟨hrow, -⟩ | ⟨-, seen, res, -, -, -, -, -, hrow⟩
  · exact storedKey_of_row hrow
  · rw [storedKey_upsert hrow, if_pos rfl]

/-! ## The two kinds of world -/

/-- Nothing is registered yet, or what is registered is what is stored. -/
inductive InStep (env : SetupEnv) (w : World) : Prop where
  | unused (hclient : w.auth.controlClient = none) (hopen : w.auth.isSetupComplete = false)
      (hkey : w.storedKey = "")
  | matched (n : ℕ) (c : ControlClient) (hclient : w.auth.controlClient = some c)
      (hjwks : c.jwks = env.keys.jwks n) (hcomplete : w.auth.isSetupComplete = true)
      (hkey : w.storedKey = env.keys.pem n)

/-- Auth holds a key set whose private key is not stored, and another one may be. -/
inductive OutOfStep (env : SetupEnv) (w : World) : Prop where
  | orphaned (n : ℕ) (c : ControlClient) (hclient : w.auth.controlClient = some c)
      (hjwks : c.jwks = env.keys.jwks n) (hn : n < w.minted) (hkey : w.storedKey = "")
  | mismatched (n m : ℕ) (c : ControlClient) (hclient : w.auth.controlClient = some c)
      (hjwks : c.jwks = env.keys.jwks n) (hne : m ≠ n) (hcomplete : w.auth.isSetupComplete = true)
      (hkey : w.storedKey = env.keys.pem m)

/-- The attempt that ended here made Auth create the client and did not write the row. -/
def OrphansClient (s : World) : Prop :=
  Commit.createControlClient ∈ s.commits ∧ Commit.upsertControlPlane ∉ s.commits

instance : Decidable (OrphansClient s) := inferInstanceAs (Decidable (_ ∧ _))

theorem InStep.reopen (h : InStep env w) : InStep env { w with commits := [] } := by
  cases h with
  | unused hclient hopen hkey => exact .unused hclient hopen hkey
  | matched n c hclient hjwks hcomplete hkey => exact .matched n c hclient hjwks hcomplete hkey

theorem OutOfStep.reopen (h : OutOfStep env w) : OutOfStep env { w with commits := [] } := by
  cases h with
  | orphaned n c hclient hjwks hn hkey => exact .orphaned n c hclient hjwks hn hkey
  | mismatched n m c hclient hjwks hne hcomplete hkey =>
    exact .mismatched n m c hclient hjwks hne hcomplete hkey

/-- An attempt leaves the first kind of world exactly when it orphans the client. -/
theorem InStep.ended (h : InStep env w) (hend : Ended env a w s) :
    OrphansClient s ∧ OutOfStep env s ∨ ¬OrphansClient s ∧ InStep env s := by
  cases h with
  | unused hclient hopen hkey =>
    cases hend with
    | stopped hs =>
      exact Or.inr ⟨fun ho ↦ hs.no_create ho.1, .unused (hs.client.trans hclient)
        (hs.complete.trans hopen) ((storedKey_of_row hs.row).trans hkey)⟩
    | between _ key hs =>
      obtain ⟨n, -, hlt, -, hjwks⟩ := hs.chosen.fresh hkey
      exact Or.inl ⟨⟨hs.create.mpr hclient, hs.no_upsert⟩, .orphaned n _ hs.client
        ((jwks_clientFor_of_none hclient a key.2).trans hjwks) hlt
        ((storedKey_of_row hs.row).trans hkey)⟩
    | written _ res key hs =>
      obtain ⟨n, -, -, hpem, hjwks⟩ := hs.chosen.fresh hkey
      exact Or.inr ⟨fun ho ↦ ho.2 hs.upsert, .matched n _ hs.client
        ((jwks_clientFor_of_none hclient a key.2).trans hjwks) hs.complete (hs.storedKey hpem)⟩
    | recorded hs => exact absurd hs.complete (by rw [hopen]; decide)
  | matched n c hclient hjwks hcomplete hkey =>
    cases hend with
    | stopped hs =>
      exact Or.inr ⟨fun ho ↦ hs.no_create ho.1, .matched n c (hs.client.trans hclient) hjwks
        (hs.complete.trans hcomplete) ((storedKey_of_row hs.row).trans hkey)⟩
    | between hopen => exact absurd hcomplete (by rw [hopen]; decide)
    | written hopen => exact absurd hcomplete (by rw [hopen]; decide)
    | recorded hs =>
      exact Or.inr ⟨fun ho ↦ hs.no_create ho.1, .matched n c (by rw [hs.auth, hclient]) hjwks
        (by rw [hs.auth, hcomplete]) (hs.storedKey.trans hkey)⟩

/-- No attempt leaves the second kind of world. -/
theorem OutOfStep.ended (h : OutOfStep env w) (hend : Ended env a w s) : OutOfStep env s := by
  cases h with
  | orphaned n c hclient hjwks hn hkey =>
    cases hend with
    | stopped hs =>
      exact .orphaned n c (hs.client.trans hclient) hjwks
        (Nat.lt_of_lt_of_le hn hs.minted) ((storedKey_of_row hs.row).trans hkey)
    | between _ key hs =>
      refine .orphaned n c ?_ hjwks (Nat.lt_of_lt_of_le hn hs.chosen.minted)
        ((storedKey_of_row hs.row).trans hkey)
      rw [hs.client, clientFor_of_some hclient]
    | written _ res key hs =>
      -- the key is minted now, and the key set Auth holds was minted before
      obtain ⟨m, hle, -, hpem, -⟩ := hs.chosen.fresh hkey
      refine .mismatched n m c ?_ hjwks (by omega) hs.complete (hs.storedKey hpem)
      rw [hs.client, clientFor_of_some hclient]
    | recorded hs =>
      exact .orphaned n c (by rw [hs.auth, hclient]) hjwks (by rw [hs.minted]; exact hn)
        (hs.storedKey.trans hkey)
  | mismatched n m c hclient hjwks hne hcomplete hkey =>
    cases hend with
    | stopped hs =>
      exact .mismatched n m c (hs.client.trans hclient) hjwks hne (hs.complete.trans hcomplete)
        ((storedKey_of_row hs.row).trans hkey)
    | between hopen => exact absurd hcomplete (by rw [hopen]; decide)
    | written hopen => exact absurd hcomplete (by rw [hopen]; decide)
    | recorded hs =>
      exact .mismatched n m c (by rw [hs.auth, hclient]) hjwks hne (by rw [hs.auth, hcomplete])
        (hs.storedKey.trans hkey)

/-! ## What the two kinds say about the key -/

theorem InStep.matches (h : InStep env w) (hcomplete : w.auth.isSetupComplete = true) :
    ControlKeyMatches env w := by
  cases h with
  | unused _ hopen _ => exact absurd hcomplete (by rw [hopen]; decide)
  | matched n c hclient hjwks _ hkey =>
    rcases hrow : w.row with _ | row
    · rw [World.storedKey, hrow] at hkey
      exact absurd hkey.symm (env.keys.pem_ne_empty n)
    · rw [World.storedKey, hrow] at hkey
      refine ⟨row, hrow, c, hclient, ?_⟩
      rw [show row.controlPrivateKeyPem = env.keys.pem n from hkey, env.keys.jwks_pem, hjwks]

theorem OutOfStep.not_matches (h : OutOfStep env w) : ¬ControlKeyMatches env w := by
  rintro ⟨row, hrow, client, hclient', hjwks'⟩
  have hstored : w.storedKey = row.controlPrivateKeyPem := by
    rw [World.storedKey, hrow]
    rfl
  rw [← hstored] at hjwks'
  cases h with
  | orphaned n c hclient hjwks hn hkey =>
    rw [hkey, env.keys.jwks_empty] at hjwks'
    cases hjwks'
  | mismatched n m c hclient hjwks hne hcomplete hkey =>
    rw [hclient] at hclient'
    rw [hkey, env.keys.jwks_pem, ← Option.some.inj hclient', hjwks] at hjwks'
    exact hne (env.keys.jwks_injective (Option.some.inj hjwks'))

/-! ## Sequences of attempts -/

/-- The attempt does not orphan the client: if it makes Auth create it, it also writes the row. -/
def StoresItsKey (env : SetupEnv) (w : World) (x : String × Attempt) : Prop :=
  Commit.createControlClient ∈ leaves (setupCalls env w x) →
    Commit.upsertControlPlane ∈ leaves (setupCalls env w x)

instance (env : SetupEnv) (w : World) (x : String × Attempt) : Decidable (StoresItsKey env w x) :=
  inferInstanceAs (Decidable (_ → _))

theorem storesItsKey_iff {x : String × Attempt} :
    StoresItsKey env w x ↔ ¬OrphansClient (attempted env w x) := by
  rw [StoresItsKey, OrphansClient, commits_attempted, not_and, not_not]

/-- A sequence of attempts ends in step if no attempt orphaned the client, and out of step
otherwise. -/
theorem inStep_or_outOfStep (env : SetupEnv) (xs : List (String × Attempt)) :
    Guarded (attempted env) (StoresItsKey env) World.fresh xs ∧
        InStep env (run (attempted env) World.fresh xs) ∨
      ¬Guarded (attempted env) (StoresItsKey env) World.fresh xs ∧
        OutOfStep env (run (attempted env) World.fresh xs) := by
  induction xs using List.reverseRecOn with
  | nil => exact Or.inl ⟨trivial, .unused rfl rfl rfl⟩
  | append_singleton xs x ih =>
    rw [guarded_append, run_append, run_cons, run_nil]
    have hend := attempted_ended env (run (attempted env) World.fresh xs) x
    rcases ih with ⟨hg, hin⟩ | ⟨hg, hout⟩
    · rcases hin.reopen.ended hend with ⟨ho, hout⟩ | ⟨ho, hin⟩
      · exact Or.inr ⟨fun h ↦ storesItsKey_iff.mp h.2.1 ho, hout⟩
      · exact Or.inl ⟨⟨hg, storesItsKey_iff.mpr ho, trivial⟩, hin⟩
    · exact Or.inr ⟨fun h ↦ hg h.1, hout.reopen.ended hend⟩

/-- **The control key is Auth's, exactly when no attempt orphaned the client.**  Start from an
empty row and a fresh Auth, and let setup be attempted any number of times, however its calls end.
When the last attempt returns, the stored key is the one whose key set Auth holds if and only if
every attempt that made Auth create the control client also wrote the row. -/
theorem control_key_matches_iff (env : SetupEnv) (xs : List (String × Attempt))
    (x : String × Attempt) (res : SetupResult)
    (hok : (attemptSetup env (run (attempted env) World.fresh xs) x).2 = .ok res) :
    ControlKeyMatches env (run (attempted env) World.fresh (xs ++ [x])) ↔
      Guarded (attempted env) (StoresItsKey env) World.fresh (xs ++ [x]) := by
  have hcomplete : (run (attempted env) World.fresh (xs ++ [x])).auth.isSetupComplete = true := by
    rw [run_append]
    exact attempted_complete hok
  rcases inStep_or_outOfStep env (xs ++ [x]) with ⟨hg, hin⟩ | ⟨hg, hout⟩
  · exact iff_of_true (hin.matches hcomplete) hg
  · exact iff_of_false hout.not_matches hg

/-- A first attempt that fails at once, and a second one that goes through. -/
theorem control_key_matches_iff_second_attempt :
    StoresItsKey plainSetup World.fresh ("", { smooth with createTenant := .refused }) ∧
      ControlKeyMatches plainSetup (run (attempted plainSetup) World.fresh
        [("", { smooth with createTenant := .refused }), ("", smooth)]) :=
  ⟨by decide, (control_key_matches_iff plainSetup
    [("", { smooth with createTenant := .refused })] ("", smooth) _ rfl).mpr (by decide)⟩

/-- The first attempt fails at the steward, after Auth has created the client.  The second one
finds no key, mints another, is answered with the old client, and returns. -/
theorem control_key_lost :
    (attemptSetup plainSetup World.fresh ("", { smooth with reconcileSteward := false })).2 =
        .error (.call "auth steward reconcile") ∧
      ((attemptSetup plainSetup (attempted plainSetup World.fresh
        ("", { smooth with reconcileSteward := false })) ("", smooth)).2.isOk) = true ∧
      ¬ControlKeyMatches plainSetup (run (attempted plainSetup) World.fresh
        [("", { smooth with reconcileSteward := false }), ("", smooth)]) := by
  decide

end Maintainerd

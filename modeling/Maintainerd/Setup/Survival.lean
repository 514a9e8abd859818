import Maintainerd.Setup.ControlKey

/-!
# What is recorded of an install, and failing reads

Once setup is recorded, later attempts are to leave the record alone: the private key for good, and
everything else for as long as Auth reports that it is provisioned.  Attempts go on after setup,
because every boot makes one, and Auth may be reset in between and be open again.

Each branch of an attempt reads the row once, to find the key or the completion time in it, and
takes a read that failed for a row that is not there.  So an attempt can write what it could not
read (`blindWrite`).  `RowAfter` is what an attempt does to the row in terms of what it read, and
`keeps_of_not_blindWrite` and `not_keeps_of_blindWrite` are the two directions for one event: the
record survives it if it is not a blind write, and does not survive a blind write.
`install_state_survives` is the consequence for whole histories.
-/

set_option autoImplicit false

namespace Maintainerd

open Fallible Machine

/-! ## What an attempt does to the row -/

/-- The key the provisioning branch goes on with: the one it has read, or the next one minted. -/
def chosenKey (env : SetupEnv) (a : Attempt) (w : World) : String :=
  let stored := ((w.seen a).map ControlPlane.controlPrivateKeyPem).getD ""
  if stored = "" then env.keys.pem w.minted else stored

/-- The row is not written. -/
structure RowKept (w s : World) : Prop where
  row : s.row = w.row
  no_upsert : Commit.upsertControlPlane ∉ s.commits

/-- The row is overwritten by the attempt, with a key that may be empty. -/
structure RowWritten (a : Attempt) (w s : World) (key : String) : Prop where
  upsert : Commit.upsertControlPlane ∈ s.commits
  row : ∃ p : UpsertControlPlaneParams, s.row = some (upsertControlPlane w.row p) ∧
    p.controlPrivateKeyPem = key ∧ p.setupCompletedAt = some a.now

/-- What an attempt does to the row. -/
inductive RowAfter (env : SetupEnv) (a : Attempt) (w s : World) : Prop where
  | kept (h : RowKept w s)
  /-- Auth is provisioned, and what was read does not say that core has recorded it. -/
  | recorded (hcomplete : w.auth.isSetupComplete = true)
      (hread : (loadPersisted (w.seen a)).completedAt = none) (h : RowWritten a w s "")
  /-- Auth was open, and the attempt went through to its last call. -/
  | provisioned (hopen : w.auth.isSetupComplete = false)
      (h : RowWritten a w s (chosenKey env a w))

variable {env : SetupEnv} {a : Attempt} {w s : World}

/-- Nothing is minted or written yet. -/
def Untouched (w s : World) : Prop := s.minted = w.minted ∧ RowKept w s

/-- A call whose effect keeps what holds. -/
theorem spec_call_keeps {what : String} {o : Outcome} {effect : World → World} {P E : World → Prop}
    (heffect : ∀ s, P s → P (effect s)) (hE : ∀ s, P s → E s) :
    Spec P (call what o effect) (fun _ ↦ P) E :=
  spec_call heffect (fun s hs ↦ hE _ (heffect s hs)) hE

theorem RowKept.commit (h : RowKept w s) {c : Commit} (hc : c ≠ .upsertControlPlane)
    (auth : AuthState) : RowKept w (s.commit c auth) :=
  ⟨h.row, by simp [World.commit, h.no_upsert, hc.symm]⟩

theorem createTenant_keeps {status : AuthState} :
    Spec (Untouched w) (createTenant a status) (fun _ ↦ Untouched w) (RowKept w) :=
  spec_ite (fun _ ↦ spec_pure fun _ hs ↦ hs) fun _ ↦
    (spec_call_keeps (fun _ hs ↦ ⟨hs.1, hs.2.commit (by decide) _⟩) fun _ hs ↦ hs.2).bind
      fun _ ↦ spec_pure fun _ hs ↦ hs

theorem registerControlService_keeps {res : SetupResult} :
    Spec (Untouched w) (registerControlService a res) (fun _ ↦ Untouched w) (RowKept w) :=
  (spec_call_keeps (fun _ hs ↦ ⟨hs.1, hs.2.commit (by decide) _⟩) fun _ hs ↦ hs.2).bind
    fun _ ↦ spec_pure fun _ hs ↦ hs

theorem generateControlKey_key :
    Spec (Untouched w) (generateControlKey env a)
      (fun key s ↦ key.1 = env.keys.pem w.minted ∧ RowKept w s) (RowKept w) := by
  refine spec_ite (fun _ ↦ ?_) fun _ ↦ spec_fail fun s hs ↦ hs.2
  refine Spec.bind (R := fun (w' : World) s ↦ w'.minted = w.minted ∧ RowKept w s)
    (spec_get fun s hs ↦ hs) fun w' ↦ spec_fact fun hminted ↦ ?_
  refine Spec.bind (R := fun _ ↦ RowKept w) (spec_modify fun s hs ↦ ⟨hs.row, hs.no_upsert⟩)
    fun _ ↦ spec_pure fun s hs ↦ ⟨?_, hs⟩
  rw [hminted]

/-- **Which key an attempt goes on with.** -/
theorem controlKey_key :
    Spec (Untouched w) (controlKey env a)
      (fun key s ↦ key.1 = chosenKey env a w ∧ RowKept w s) (RowKept w) := by
  refine Spec.bind (R := fun w' s ↦ (if a.getControlPlane then w'.row else none) = w.seen a ∧
    Untouched w s) (spec_get fun s hs ↦ ⟨?_, hs⟩) fun w' ↦ spec_fact fun hseen ↦ ?_
  · rw [hs.2.row, World.seen]
  rw [hseen, chosenKey]
  rcases w.seen a with _ | row
  · exact generateControlKey_key
  · refine spec_ite (fun hempty ↦ ?_) fun hpem ↦ ?_
    · rw [Option.map_some, Option.getD_some, if_pos hempty]
      exact generateControlKey_key
    · rw [Option.map_some, Option.getD_some, if_neg hpem]
      split
      · exact spec_fail fun s hs ↦ hs.2
      · exact spec_pure fun s hs ↦ ⟨rfl, hs.2⟩

theorem ensureControlClient_keeps {jwks : String} :
    Spec (RowKept w) (ensureControlClient a jwks) (fun _ ↦ RowKept w) (RowKept w) := by
  refine Spec.bind (R := fun _ ↦ RowKept w) (spec_get fun s hs ↦ hs) fun _ ↦
    (spec_call_keeps (fun s hs ↦ ?_) fun s hs ↦ hs).bind fun _ ↦ spec_pure fun s hs ↦ hs
  split
  · exact hs
  · exact hs.commit (by decide) _

theorem createAdmin_keeps {status : AuthState} {res : SetupResult} :
    Spec (RowKept w) (createAdmin a status res) (fun _ ↦ RowKept w) (RowKept w) :=
  spec_ite (fun _ ↦ spec_pure fun _ hs ↦ hs) fun _ ↦
    (spec_call_keeps (fun _ hs ↦ hs.commit (by decide) _) fun _ hs ↦ hs).bind
      fun _ ↦ spec_pure fun _ hs ↦ hs

/-- The write of the row, which may be committed and its answer lost. -/
theorem persist_row {res : SetupResult} {key : String} (hres : res.completedAt = some a.now) :
    Spec (RowKept w) (persist env a res key) (fun _ s ↦ RowWritten a w s key)
      (fun s ↦ RowKept w s ∨ RowWritten a w s key) := by
  have hwrite : ∀ s, RowKept w s → RowWritten a w { s with
      row := some (upsertControlPlane s.row ⟨env.uuids.parse res.authTenantID, res, key,
        env.cfg.deploymentMode, res.completedAt⟩)
      commits := s.commits ++ [.upsertControlPlane] } key := by
    intro s hs
    rw [hs.row]
    exact ⟨by simp, _, rfl, rfl, hres⟩
  exact spec_call hwrite (fun s hs ↦ Or.inr (hwrite s hs)) fun s hs ↦ Or.inl hs

theorem provision_row {status : AuthState} :
    Spec (Untouched w) (provision env a status)
      (fun _ s ↦ RowWritten a w s (chosenKey env a w))
      (fun s ↦ RowKept w s ∨ RowWritten a w s (chosenKey env a w)) := by
  -- up to the last call a failure leaves the row alone
  have hweaken : ∀ {α : Type} {P : World → Prop} {m : Setup α} {Q : α → World → Prop},
      Spec P m Q (RowKept w) →
        Spec P m Q (fun s ↦ RowKept w s ∨ RowWritten a w s (chosenKey env a w)) :=
    fun h ↦ h.mono (fun _ hs ↦ hs) (fun _ _ hs ↦ hs) fun _ hs ↦ Or.inl hs
  refine (hweaken createTenant_keeps).bind fun res ↦ ?_
  refine (hweaken registerControlService_keeps).bind fun res ↦ ?_
  refine (hweaken controlKey_key).bind fun key ↦ spec_fact fun hkey ↦ ?_
  refine (hweaken ensureControlClient_keeps).bind fun client ↦ ?_
  refine Spec.bind (R := fun _ ↦ RowKept w)
    (spec_require (fun _ s hs ↦ hs) fun s hs ↦ Or.inl hs) fun _ ↦ ?_
  refine (hweaken createAdmin_keeps).bind fun res ↦ ?_
  refine Spec.bind (R := fun _ ↦ RowKept w)
    (spec_call_keeps (fun s hs ↦ hs.commit (by decide) _) fun s hs ↦ Or.inl hs) fun _ ↦ ?_
  rw [← hkey]
  exact (persist_row rfl).bind fun _ ↦ spec_pure fun s hs ↦ hs

theorem alreadyComplete_row (hw : w.commits = []) (hcomplete : w.auth.isSetupComplete = true) :
    Spec (fun s ↦ s = w) (alreadyComplete env a) (fun _ ↦ RowAfter env a w)
      (RowAfter env a w) := by
  have hkept : ∀ s, s = w → RowKept w s := by
    rintro s rfl
    exact ⟨rfl, by simp [hw]⟩
  refine Spec.bind (R := fun w' s ↦ w' = w ∧ s = w) (spec_get fun s hs ↦ ⟨hs, hs⟩) fun w' ↦
    spec_fact fun hw' ↦ ?_
  rw [hw']
  refine spec_ite (fun _ ↦ spec_pure fun s hs ↦ .kept (hkept s hs)) fun hnone ↦ ?_
  have hread : (loadPersisted (w.seen a)).completedAt = none :=
    Option.not_isSome_iff_eq_none.mp hnone
  refine Spec.bind (Spec.attempt ((persist_row rfl).mono hkept (fun _ _ h ↦ h)
    fun _ h ↦ h)) fun o ↦ spec_pure fun s hs ↦ ?_
  rcases o with _ | _
  · rcases hs with hs | hs
    · exact .kept hs
    · exact .recorded hcomplete hread hs
  · exact .recorded hcomplete hread hs

theorem runWith_row {adminPassword : String} (hw : w.commits = []) :
    Spec (fun s ↦ s = w) (runWith env adminPassword a) (fun _ ↦ RowAfter env a w)
      (RowAfter env a w) := by
  have hkept : ∀ s, s = w → RowKept w s := by
    rintro s rfl
    exact ⟨rfl, by simp [hw]⟩
  refine spec_runWith (.kept (hkept w rfl)) (alreadyComplete_row hw) fun hopen ↦ ?_
  refine provision_row.mono (fun s hs ↦ ⟨by rw [hs], hkept s hs⟩)
    (fun _ s hs ↦ .provisioned hopen hs) ?_
  rintro s (hs | hs)
  · exact .kept hs
  · exact .provisioned hopen hs

/-- **What an attempt does to the row.** -/
theorem attempted_row (env : SetupEnv) (w : World) (x : String × Attempt) :
    RowAfter env x.2 w (attempted env w x) := by
  have hend : RowAfter env x.2 { w with commits := [] } (attempted env w x) :=
    (runWith_row rfl).ends rfl (fun _ _ h ↦ h) fun _ h ↦ h
  cases hend with
  | kept h => exact .kept ⟨h.row, h.no_upsert⟩
  | recorded hcomplete hread h => exact .recorded hcomplete hread ⟨h.upsert, h.row⟩
  | provisioned hopen h => exact .provisioned hopen ⟨h.upsert, h.row⟩

theorem RowWritten.storedKey {key : String} (h : RowWritten a w s key) :
    s.storedKey = if key = "" then w.storedKey else key := by
  obtain ⟨p, hrow, rfl, -⟩ := h.row
  exact storedKey_upsert hrow

theorem RowWritten.completedAt {key : String} (h : RowWritten a w s key) :
    s.row.bind ControlPlane.setupCompletedAt = some a.now := by
  obtain ⟨p, hrow, -, hnow⟩ := h.row
  rw [hrow]
  exact hnow

theorem chosenKey_of_read (hread : a.getControlPlane = true) (h : w.storedKey ≠ "") :
    chosenKey env a w = w.storedKey := by
  rw [chosenKey, World.seen, if_pos hread]
  exact if_neg h

theorem chosenKey_of_blind (hread : a.getControlPlane = false) :
    chosenKey env a w = env.keys.pem w.minted := by
  rw [chosenKey, World.seen, hread]
  rfl

theorem chosenKey_ne_empty (env : SetupEnv) (a : Attempt) (w : World) :
    chosenKey env a w ≠ "" := by
  rw [chosenKey]
  split
  · exact env.keys.pem_ne_empty w.minted
  · assumption

/-! ## Histories -/

/-- What happens to an install: an attempt at setup, or Auth comes back in another state. -/
inductive SetupEvent where
  | attempt (adminPassword : String) (a : Attempt)
  | resetAuth (auth : AuthState)

/-- The world after an event. -/
def happen (env : SetupEnv) (w : World) : SetupEvent → World
  | .attempt adminPassword a => attempted env w (adminPassword, a)
  | .resetAuth auth => { w with auth := auth }

/-- The row is there, with a private key and a completion time. -/
structure Installed (w : World) : Prop where
  key : w.storedKey ≠ ""
  completedAt : (w.row.bind ControlPlane.setupCompletedAt).isSome = true

/-- What the row records beside the key. -/
def ControlPlane.record (row : ControlPlane) : SetupResult × Option Uuid × Option Int :=
  (row.data, row.authTenantUuid, row.setupCompletedAt)

/-- The key is as it was, and so is everything else if Auth was provisioned. -/
structure Keeps (w s : World) : Prop where
  key : s.storedKey = w.storedKey
  record : w.auth.isSetupComplete = true →
    s.row.map ControlPlane.record = w.row.map ControlPlane.record

/-- The event is an attempt that writes the row and could not read it. -/
def blindWrite (env : SetupEnv) (w : World) : SetupEvent → Bool
  | .attempt adminPassword a => !a.getControlPlane &&
      (leaves (setupCalls env w (adminPassword, a))).contains .upsertControlPlane
  | .resetAuth _ => false

/-- The clock of an attempt shows another time than the recorded one, and the next key minted is not
the stored one. -/
def novel (env : SetupEnv) (w : World) : SetupEvent → Bool
  | .attempt _ a => w.row.bind ControlPlane.setupCompletedAt != some a.now &&
      env.keys.pem w.minted != w.storedKey
  | .resetAuth _ => true

theorem completedAt_of_record {row row' : Option ControlPlane}
    (h : row.map ControlPlane.record = row'.map ControlPlane.record) :
    row.bind ControlPlane.setupCompletedAt = row'.bind ControlPlane.setupCompletedAt := by
  have hat := congrArg (Option.bind · fun x ↦ x.2.2) h
  simpa [Option.bind_map, Function.comp_def, ControlPlane.record] using hat

theorem RowKept.keeps (h : RowKept w s) : Keeps w s :=
  ⟨storedKey_of_row h.row, fun _ ↦ by rw [h.row]⟩

/-- An install stays one. -/
theorem Installed.happen (h : Installed w) (e : SetupEvent) : Installed (happen env w e) := by
  cases e with
  | resetAuth auth => exact ⟨h.key, h.completedAt⟩
  | attempt adminPassword a =>
    cases attempted_row env w (adminPassword, a) with
    | kept hs =>
      refine ⟨?_, ?_⟩
      · rw [Maintainerd.happen, storedKey_of_row hs.row]
        exact h.key
      · rw [Maintainerd.happen, hs.row]
        exact h.completedAt
    | recorded _ _ hs =>
      refine ⟨?_, by rw [Maintainerd.happen, hs.completedAt]; rfl⟩
      rw [Maintainerd.happen, hs.storedKey, if_pos rfl]
      exact h.key
    | provisioned _ hs =>
      refine ⟨?_, by rw [Maintainerd.happen, hs.completedAt]; rfl⟩
      rw [Maintainerd.happen, hs.storedKey, if_neg (chosenKey_ne_empty env a w)]
      exact chosenKey_ne_empty env a w

/-- What was read of an install says that it is complete. -/
theorem Installed.read (h : Installed w) (hread : a.getControlPlane = true) :
    (loadPersisted (w.seen a)).completedAt ≠ none := by
  rw [World.seen, if_pos hread]
  obtain ⟨t, ht⟩ := Option.isSome_iff_exists.mp h.completedAt
  obtain ⟨row, hrow, hat⟩ := Option.bind_eq_some_iff.mp ht
  simp [hrow, loadPersisted, hat]

/-- **What is recorded survives an event that is no blind write.** -/
theorem keeps_of_not_blindWrite (h : Installed w) {e : SetupEvent}
    (he : blindWrite env w e = false) : Keeps w (happen env w e) := by
  cases e with
  | resetAuth auth => exact ⟨rfl, fun _ ↦ rfl⟩
  | attempt adminPassword a =>
    -- an attempt that writes has read
    have hread : Commit.upsertControlPlane ∈ (attempted env w (adminPassword, a)).commits →
        a.getControlPlane = true := by
      intro hmem
      rw [commits_attempted] at hmem
      simpa [blindWrite, hmem] using he
    cases attempted_row env w (adminPassword, a) with
    | kept hs => exact hs.keeps
    | recorded _ hnone hs => exact absurd hnone (h.read (hread hs.upsert))
    | provisioned hopen hs =>
      refine ⟨?_, fun hcomplete ↦ absurd hcomplete (by rw [hopen]; decide)⟩
      rw [happen, hs.storedKey, if_neg (chosenKey_ne_empty env a w),
        chosenKey_of_read (hread hs.upsert) h.key]

/-- **What is recorded does not survive a blind write.** -/
theorem not_keeps_of_blindWrite {e : SetupEvent} (hnovel : novel env w e = true)
    (he : blindWrite env w e = true) : ¬Keeps w (happen env w e) := by
  cases e with
  | resetAuth auth => cases he
  | attempt adminPassword a =>
    simp only [blindWrite, ← commits_attempted, Bool.and_eq_true, Bool.not_eq_true',
      List.contains_iff_mem] at he
    simp only [novel, Bool.and_eq_true, bne_iff_ne] at hnovel
    intro hkeeps
    cases attempted_row env w (adminPassword, a) with
    | kept hs => exact hs.no_upsert he.2
    | recorded hcomplete _ hs =>
      have hat := completedAt_of_record (hkeeps.record hcomplete)
      rw [happen, hs.completedAt] at hat
      exact hnovel.1 hat.symm
    | provisioned _ hs =>
      have hkey := hkeeps.key
      rw [happen, hs.storedKey, if_neg (chosenKey_ne_empty env a w),
        chosenKey_of_blind he.1] at hkey
      exact hnovel.2 hkey

/-- What is recorded survives a history: the private key throughout, and the rest of the record at
every event that finds Auth provisioned. -/
def Survives (env : SetupEnv) (w : World) (es : List SetupEvent) : Prop :=
  (∀ es', es' <+: es → (run (happen env) w es').storedKey = w.storedKey) ∧
    Guarded (happen env) (fun w e ↦ w.auth.isSetupComplete = true →
      (happen env w e).row.map ControlPlane.record = w.row.map ControlPlane.record) w es

/-- A history is survived one event at a time. -/
theorem survives_iff (env : SetupEnv) (w : World) (es : List SetupEvent) :
    Survives env w es ↔ Guarded (happen env) (fun w e ↦ Keeps w (happen env w e)) w es := by
  constructor
  · rintro ⟨hkey, hrecord⟩
    induction es generalizing w with
    | nil => trivial
    | cons e es ih =>
      have hfirst : (happen env w e).storedKey = w.storedKey := hkey [e] (by simp)
      refine ⟨⟨hfirst, hrecord.1⟩, ih _ (fun es' hes' ↦ ?_) hrecord.2⟩
      rw [hfirst]
      exact hkey (e :: es') (List.cons_prefix_cons.mpr ⟨rfl, hes'⟩)
  · intro h
    refine ⟨?_, h.imp (I := fun _ ↦ True) trivial (fun _ _ _ _ ↦ trivial)
      fun _ _ _ hk ↦ hk.record⟩
    rintro es' ⟨rest, rfl⟩
    exact (guarded_append.mp h).1.relates (I := fun _ ↦ True)
      (R := fun w s : World ↦ s.storedKey = w.storedKey) trivial (fun _ ↦ rfl)
      (fun _ _ _ hab hbc ↦ hbc.trans hab) (fun _ _ _ _ ↦ trivial) fun _ _ _ hk ↦ hk.key

/-- **The recorded state of an install survives, if no attempt writes what it could not read.**
Start from any row with a private key and a completion time and from any Auth, and let setup be
attempted any number of times, with calls and reads failing in any way and Auth reset in between.
The private key never changes, and no attempt to which Auth reports complete changes the rest of the
record, if every attempt that wrote the row had read it.  And if clocks and minted keys are new each
time, this is the only case. -/
theorem install_state_survives (env : SetupEnv) (w : World) (es : List SetupEvent)
    (hw : Installed w) :
    (Guarded (happen env) (fun w e ↦ blindWrite env w e = false) w es → Survives env w es) ∧
      (Guarded (happen env) (fun w e ↦ novel env w e = true) w es → Survives env w es →
        Guarded (happen env) (fun w e ↦ blindWrite env w e = false) w es) := by
  simp only [survives_iff]
  refine ⟨fun h ↦ h.imp hw (fun _ e hw _ ↦ hw.happen e) fun w e hw he ↦
    keeps_of_not_blindWrite hw he, fun hnovel h ↦ ?_⟩
  refine (hnovel.and h).imp (I := fun _ ↦ True) trivial (fun _ _ _ _ ↦ trivial) ?_
  rintro w e - ⟨hn, hk⟩
  by_contra hblind
  exact not_keeps_of_blindWrite hn (eq_true_of_ne_false hblind) hk

/-- The world after a setup that went through. -/
def installedOnce : World := attempted plainSetup World.fresh ("", smooth)

/-- Two more attempts, one of them after Auth was reset. -/
theorem install_state_survives_reset :
    Survives plainSetup installedOnce [.attempt "" { smooth with now := 2 },
      .resetAuth World.fresh.auth, .attempt "" { smooth with now := 3 }] :=
  (install_state_survives plainSetup installedOnce _ ⟨by decide, by decide⟩).1 (by decide)

/-- **An install that loses its record, and one that loses its key.**  An attempt finds Auth
provisioned and cannot read the row, and overwrites the tenant and the completion time.  And after
Auth was reset, an attempt that cannot read the row stores another key. -/
theorem install_state_overwritten :
    let lost := happen plainSetup installedOnce
      (.attempt "" { smooth with now := 2, getControlPlane := false })
    let rekeyed := run (happen plainSetup) installedOnce [.resetAuth World.fresh.auth,
      .attempt "" { smooth with now := 2, getControlPlane := false }]
    installedOnce.auth.isSetupComplete = true ∧
      installedOnce.row.map (fun row ↦ (row.data.authTenantID, row.authTenantUuid,
        row.setupCompletedAt)) = some ("tenant", some 1, some 1) ∧
      lost.row.map (fun row ↦ (row.data.authTenantID, row.authTenantUuid,
        row.setupCompletedAt)) = some ("", none, some 2) ∧
      installedOnce.storedKey = "k" ∧ rekeyed.storedKey = "kk" := by
  decide

end Maintainerd

import Maintainerd.Setup.Orchestrator

/-!
# How an attempt at setup can end

`runWith_spec` says in one place everything an attempt can leave behind, however its calls end.
From a world `w` it ends

* `Stopped`: before Auth was asked for the control client, with the row and the client untouched;
* `Between`: after Auth committed the control client and before the row was written;
* `Written`: with the row written by the branch that provisions Auth; or
* `Recorded`: in the branch for an Auth that is already provisioned, which leaves Auth alone and
  may record completion.

It returns only in the last two.  The invariants of whole sequences of attempts are derived from
this theorem and never look at the program again.

What an attempt does is decided before it is made, by the world it finds and by how its calls end.
`setupCalls` is the list of its calls, and `commits_attempted` says that what the list leaves behind
is what the attempt does.  Conditions on sequences of attempts are stated over that list.
-/

set_option autoImplicit false

namespace Maintainerd

open Fallible

/-! ## The rule for a call -/

theorem spec_call {what : String} {o : Outcome} {effect : World → World} {P : World → Prop}
    {Q : PUnit → World → Prop} {E : World → Prop}
    (hanswered : ∀ s, P s → Q ⟨⟩ (effect s)) (hlost : ∀ s, P s → E (effect s))
    (hrefused : ∀ s, P s → E s) : Spec P (call what o effect) Q E := by
  intro s hs
  cases o with
  | answered => exact hanswered s hs
  | lost => exact hlost s hs
  | refused => exact hrefused s hs

/-! ## The ends of an attempt -/

/-- The control client is not asked for yet, and the row is not written. -/
structure Stopped (w s : World) : Prop where
  row : s.row = w.row
  client : s.auth.controlClient = w.auth.controlClient
  complete : s.auth.isSetupComplete = w.auth.isSetupComplete
  minted : w.minted ≤ s.minted
  no_create : Commit.createControlClient ∉ s.commits
  no_upsert : Commit.upsertControlPlane ∉ s.commits

/-- What setup has recorded of the tenant: its name, if this attempt created it, and nothing
otherwise. -/
def TenantRecorded (a : Attempt) (res : SetupResult) (s : World) : Prop :=
  Commit.createTenant ∈ s.commits ∧ res.authTenantID = a.answers.tenantID ∨
    Commit.createTenant ∉ s.commits ∧ res.authTenantID = ""

/-- The key an attempt goes on with, and its key set: one that it minted itself, or the stored
one. -/
structure KeyFor (env : SetupEnv) (w : World) (key : String × String) (s : World) : Prop where
  jwks : env.keys.jwksFromPrivatePEM key.1 = some key.2
  minted : w.minted ≤ s.minted
  origin : (∃ n, w.minted ≤ n ∧ n < s.minted ∧ key.1 = env.keys.pem n) ∨
    key.1 ≠ "" ∧ ∃ row, w.row = some row ∧ row.controlPrivateKeyPem = key.1

/-- Only what was minted matters to where a key comes from. -/
theorem KeyFor.of_minted {env : SetupEnv} {w s s' : World} {key : String × String}
    (h : KeyFor env w key s) (hs : s'.minted = s.minted) : KeyFor env w key s' :=
  ⟨h.jwks, by rw [hs]; exact h.minted, by rw [hs]; exact h.origin⟩

/-- The control client Auth answers with. -/
def clientFor (a : Attempt) (w : World) (jwks : String) : ControlClient :=
  w.auth.controlClient.getD ⟨a.answers.controlClientID, a.answers.controlOAuthClientID,
    a.answers.tokenEndpointAuthMethod, jwks⟩

theorem clientFor_of_some {w : World} {c : ControlClient} (h : w.auth.controlClient = some c)
    (a : Attempt) (jwks : String) : clientFor a w jwks = c := by
  rw [clientFor, h, Option.getD_some]

/-- A client that is created keeps the key set of the request. -/
theorem jwks_clientFor_of_none {w : World} (h : w.auth.controlClient = none) (a : Attempt)
    (jwks : String) : (clientFor a w jwks).jwks = jwks := by
  rw [clientFor, h, Option.getD_none]

/-- Auth holds the control client, and the row is not written yet. -/
structure Between (env : SetupEnv) (a : Attempt) (w : World) (key : String × String) (s : World) :
    Prop where
  chosen : KeyFor env w key s
  row : s.row = w.row
  client : s.auth.controlClient = some (clientFor a w key.2)
  create : Commit.createControlClient ∈ s.commits ↔ w.auth.controlClient = none
  no_upsert : Commit.upsertControlPlane ∉ s.commits

/-- The row is written, with the result and the key of the attempt, and Auth is locked. -/
structure Written (env : SetupEnv) (a : Attempt) (w s : World) (res : SetupResult)
    (key : String × String) : Prop where
  chosen : KeyFor env w key s
  row : s.row = some (upsertControlPlane w.row ⟨env.uuids.parse res.authTenantID, res, key.1,
    env.cfg.deploymentMode, res.completedAt⟩)
  client : s.auth.controlClient = some (clientFor a w key.2)
  complete : s.auth.isSetupComplete = true
  upsert : Commit.upsertControlPlane ∈ s.commits
  tenant : TenantRecorded a res s
  oauth : res.controlOAuthClientID = (clientFor a w key.2).oauthClientID
  completedAt : res.completedAt.isSome = true

/-- Auth was already provisioned and is as it was.  The row is, too, or completion was recorded in
it, because what was read of it did not say so. -/
structure Recorded (env : SetupEnv) (w s : World) : Prop where
  auth : s.auth = w.auth
  complete : w.auth.isSetupComplete = true
  minted : s.minted = w.minted
  no_tenant : Commit.createTenant ∉ s.commits
  no_create : Commit.createControlClient ∉ s.commits
  row : s.row = w.row ∧ Commit.upsertControlPlane ∉ s.commits ∨
    Commit.upsertControlPlane ∈ s.commits ∧ ∃ seen res, (seen = w.row ∨ seen = none) ∧
      (loadPersisted seen).completedAt = none ∧
      res.completedAt.isSome = true ∧
      res.authTenantID = (loadPersisted seen).authTenantID ∧
      res.controlOAuthClientID = (loadPersisted seen).controlOAuthClientID ∧
      s.row = some (upsertControlPlane w.row ⟨env.uuids.parse res.authTenantID, res, "",
        env.cfg.deploymentMode, res.completedAt⟩)

/-- What an attempt that fails leaves behind. -/
def Failed (env : SetupEnv) (a : Attempt) (w s : World) : Prop :=
  Stopped w s ∨ (∃ key, Between env a w key s) ∨ ∃ res key, Written env a w s res key

/-! ## The steps -/

variable {env : SetupEnv} {a : Attempt} {w : World}

theorem Stopped.start (h : w.commits = []) : Stopped w w :=
  ⟨rfl, rfl, rfl, Nat.le_refl _, by rw [h]; exact List.not_mem_nil,
    by rw [h]; exact List.not_mem_nil⟩

theorem Stopped.commit {s : World} (h : Stopped w s) {c : Commit} {auth : AuthState}
    (hclient : auth.controlClient = s.auth.controlClient)
    (hcomplete : auth.isSetupComplete = s.auth.isSetupComplete)
    (hc : c ≠ .createControlClient ∧ c ≠ .upsertControlPlane) : Stopped w (s.commit c auth) where
  row := h.row
  client := hclient.trans h.client
  complete := hcomplete.trans h.complete
  minted := h.minted
  no_create := by simp [World.commit, h.no_create, hc.1.symm]
  no_upsert := by simp [World.commit, h.no_upsert, hc.2.symm]

theorem createTenant_spec (hw : w.commits = []) :
    Spec (fun s ↦ s = w) (createTenant a w.auth)
      (fun res s ↦ Stopped w s ∧ TenantRecorded a res s) (Failed env a w) := by
  have hstart := Stopped.start hw
  have hcommit : Stopped w (w.commit .createTenant { w.auth with isTenantSetup := true }) :=
    hstart.commit rfl rfl (by decide)
  refine spec_ite (fun _ ↦ spec_pure ?_) fun _ ↦ Spec.bind
    (R := fun _ s ↦ Stopped w s ∧ Commit.createTenant ∈ s.commits) (spec_call ?_ ?_ ?_) fun _ ↦
    spec_pure ?_
  · rintro s rfl
    exact ⟨hstart, Or.inr ⟨by rw [hw]; exact List.not_mem_nil, rfl⟩⟩
  · rintro s rfl
    exact ⟨hcommit, by simp [World.commit]⟩
  · rintro s rfl
    exact Or.inl hcommit
  · rintro s rfl
    exact Or.inl hstart
  · rintro s ⟨hs, hmem⟩
    exact ⟨hs, Or.inl ⟨hmem, rfl⟩⟩

theorem registerControlService_spec {res : SetupResult} :
    Spec (fun s ↦ Stopped w s ∧ TenantRecorded a res s) (registerControlService a res)
      (fun res' s ↦ Stopped w s ∧ TenantRecorded a res' s) (Failed env a w) := by
  have hcommit : ∀ s, Stopped w s → Stopped w (s.commit .registerControlService s.auth) :=
    fun s hs ↦ hs.commit rfl rfl (by decide)
  refine Spec.bind (R := fun _ s ↦ Stopped w s ∧ TenantRecorded a res s) (spec_call ?_ ?_ ?_)
    fun _ ↦ spec_pure fun s hs ↦ hs
  · rintro s ⟨hs, htenant⟩
    refine ⟨hcommit s hs, ?_⟩
    simpa [TenantRecorded, World.commit] using htenant
  · rintro s ⟨hs, -⟩
    exact Or.inl (hcommit s hs)
  · rintro s ⟨hs, -⟩
    exact Or.inl hs

theorem generateControlKey_spec {res : SetupResult} :
    Spec (fun s ↦ Stopped w s ∧ TenantRecorded a res s) (generateControlKey env a)
      (fun key s ↦ KeyFor env w key s ∧ Stopped w s ∧ TenantRecorded a res s)
      (Failed env a w) := by
  refine spec_ite (fun _ ↦ ?_) fun _ ↦ spec_fail fun s hs ↦ Or.inl hs.1
  refine Spec.bind (R := fun w' s ↦ w' = s ∧ Stopped w s ∧ TenantRecorded a res s)
    (spec_get fun s hs ↦ ⟨rfl, hs⟩) fun w' ↦ ?_
  refine Spec.bind (R := fun _ s ↦ s.minted = w'.minted + 1 ∧ w.minted ≤ w'.minted ∧
    Stopped w s ∧ TenantRecorded a res s) (spec_modify ?_) fun _ ↦ spec_pure ?_
  · rintro s ⟨rfl, hs, htenant⟩
    exact ⟨rfl, hs.minted, ⟨hs.row, hs.client, hs.complete, Nat.le_succ_of_le hs.minted,
      hs.no_create, hs.no_upsert⟩, htenant⟩
  · rintro s ⟨hminted, hle, hs⟩
    exact ⟨⟨env.keys.jwks_pem _, hs.1.minted, Or.inl ⟨w'.minted, hle, by omega, rfl⟩⟩, hs⟩

theorem controlKey_spec {res : SetupResult} :
    Spec (fun s ↦ Stopped w s ∧ TenantRecorded a res s) (controlKey env a)
      (fun key s ↦ KeyFor env w key s ∧ Stopped w s ∧ TenantRecorded a res s)
      (Failed env a w) := by
  refine Spec.bind (R := fun w' s ↦ w' = s ∧ Stopped w s ∧ TenantRecorded a res s)
    (spec_get fun s hs ↦ ⟨rfl, hs⟩) fun w' ↦ ?_
  have hgen : Spec (fun s ↦ w' = s ∧ Stopped w s ∧ TenantRecorded a res s)
      (generateControlKey env a)
      (fun key s ↦ KeyFor env w key s ∧ Stopped w s ∧ TenantRecorded a res s)
      (Failed env a w) :=
    generateControlKey_spec.mono (fun s hs ↦ hs.2) (fun _ _ h ↦ h) fun _ h ↦ h
  split
  · exact hgen
  rename_i row hrow
  split
  · exact hgen
  rename_i hpem
  split
  · exact spec_fail fun s hs ↦ Or.inl hs.2.1
  · rename_i jwks hjwks
    refine spec_pure ?_
    rintro s ⟨rfl, hs, htenant⟩
    have hread : w.row = some row := by
      rw [← hs.row]
      split at hrow
      · exact hrow
      · cases hrow
    exact ⟨⟨hjwks, hs.minted, Or.inr ⟨hpem, row, hread, rfl⟩⟩, hs, htenant⟩

/-- Asking for the control client takes the attempt from `Stopped` to `Between`. -/
theorem Stopped.ensure {s : World} (hs : Stopped w s) {key : String × String}
    (hkey : KeyFor env w key s) :
    Between env a w key (if s.auth.controlClient.isSome then s
      else s.commit .createControlClient { s.auth with
        controlClient := some ⟨a.answers.controlClientID, a.answers.controlOAuthClientID,
          a.answers.tokenEndpointAuthMethod, key.2⟩ }) := by
  rcases hc : w.auth.controlClient with _ | c
  · rw [hs.client, hc, if_neg (by decide)]
    refine ⟨hkey.of_minted rfl, hs.row, ?_, ?_, ?_⟩
    · rw [clientFor, hc]
      rfl
    · simp [World.commit, hc]
    · simp [World.commit, hs.no_upsert]
  · rw [hs.client, hc, if_pos Option.isSome_some]
    refine ⟨hkey, hs.row, ?_, ?_, hs.no_upsert⟩
    · rw [hs.client, clientFor_of_some hc, hc]
    · simp [hs.no_create, hc]

theorem ensureControlClient_spec {res : SetupResult} {key : String × String} :
    Spec (fun s ↦ KeyFor env w key s ∧ Stopped w s ∧ TenantRecorded a res s)
      (ensureControlClient a key.2)
      (fun client s ↦ client = clientFor a w key.2 ∧ Between env a w key s ∧
        TenantRecorded a res s) (Failed env a w) := by
  refine Spec.bind (R := fun w' s ↦ w'.auth.controlClient = w.auth.controlClient ∧
    KeyFor env w key s ∧ Stopped w s ∧ TenantRecorded a res s)
    (spec_get fun s hs ↦ ⟨hs.2.1.client, hs⟩) fun w' ↦ ?_
  refine Spec.bind (R := fun _ s ↦ w'.auth.controlClient = w.auth.controlClient ∧
    Between env a w key s ∧ TenantRecorded a res s) (spec_call ?_ ?_ ?_) fun _ ↦ spec_pure ?_
  · rintro s ⟨hw', hkey, hs, htenant⟩
    refine ⟨hw', hs.ensure hkey, ?_⟩
    split
    · exact htenant
    · simpa [TenantRecorded, World.commit] using htenant
  · rintro s ⟨-, hkey, hs, -⟩
    exact Or.inr (Or.inl ⟨key, hs.ensure hkey⟩)
  · rintro s ⟨-, -, hs, -⟩
    exact Or.inl hs
  · rintro s ⟨hw', hs, htenant⟩
    exact ⟨by rw [clientFor, hw'], hs, htenant⟩

/-- What holds of the result between the control client and the write of the row. -/
structure Pending (env : SetupEnv) (a : Attempt) (w : World) (key : String × String)
    (res : SetupResult) (s : World) : Prop extends Between env a w key s where
  tenant : TenantRecorded a res s
  oauth : res.controlOAuthClientID = (clientFor a w key.2).oauthClientID

theorem Pending.failed {key : String × String} {res : SetupResult} {s : World}
    (h : Pending env a w key res s) : Failed env a w s := Or.inr (Or.inl ⟨key, h.toBetween⟩)

theorem Pending.commit {key : String × String} {res res' : SetupResult} {s : World}
    (h : Pending env a w key res s) {c : Commit} {auth : AuthState}
    (hauth : auth.controlClient = s.auth.controlClient)
    (hc : c = .createAdmin ∨ c = .completeSetup)
    (hres : res'.authTenantID = res.authTenantID ∧
      res'.controlOAuthClientID = res.controlOAuthClientID) :
    Pending env a w key res' (s.commit c auth) := by
  refine ⟨⟨h.chosen.of_minted rfl, h.row, hauth.trans h.client, ?_, ?_⟩, ?_,
    hres.2.trans h.oauth⟩
  · rcases hc with rfl | rfl <;> simpa [World.commit] using h.create
  · rcases hc with rfl | rfl <;> simpa [World.commit] using h.no_upsert
  · have := h.tenant
    rcases hc with rfl | rfl <;> simpa [TenantRecorded, World.commit, hres.1] using this

theorem createAdmin_spec {key : String × String} {res : SetupResult} {status : AuthState} :
    Spec (Pending env a w key res) (createAdmin a status res) (Pending env a w key)
      (Failed env a w) := by
  have hcommit : ∀ s res', Pending env a w key res s → res'.authTenantID = res.authTenantID ∧
      res'.controlOAuthClientID = res.controlOAuthClientID → Pending env a w key res'
        (s.commit .createAdmin { s.auth with isAdminSetup := true, isSetupComplete := true }) :=
    fun s res' hs hres ↦ hs.commit rfl (Or.inl rfl) hres
  refine spec_ite (fun _ ↦ spec_pure fun s hs ↦ hs) fun _ ↦ Spec.bind
    (R := fun _ ↦ Pending env a w key { res with authAdminUserID := a.answers.userID })
    (spec_call ?_ ?_ ?_) fun _ ↦ spec_pure fun s hs ↦ hs
  · exact fun s hs ↦ hcommit s _ hs ⟨rfl, rfl⟩
  · exact fun s hs ↦ (hcommit s res hs ⟨rfl, rfl⟩).failed
  · exact fun s hs ↦ hs.failed

theorem completeSetup_spec {key : String × String} {res : SetupResult} :
    Spec (Pending env a w key res) (completeSetup a)
      (fun _ s ↦ Pending env a w key res s ∧ s.auth.isSetupComplete = true)
      (Failed env a w) := by
  have hcommit : ∀ s, Pending env a w key res s → Pending env a w key res
      (s.commit .completeSetup { s.auth with isSetupComplete := true }) :=
    fun s hs ↦ hs.commit rfl (Or.inr rfl) ⟨rfl, rfl⟩
  exact spec_call (fun s hs ↦ ⟨hcommit s hs, rfl⟩) (fun s hs ↦ (hcommit s hs).failed)
    fun s hs ↦ hs.failed

theorem persist_spec (res : SetupResult) (key : String × String)
    (hres : res.completedAt.isSome = true) :
    Spec (fun s ↦ Pending env a w key res s ∧ s.auth.isSetupComplete = true)
      (persist env a res key.1) (fun _ s ↦ Written env a w s res key) (Failed env a w) := by
  have hwrite : ∀ s, Pending env a w key res s → s.auth.isSetupComplete = true →
      Written env a w { s with
        row := some (upsertControlPlane s.row ⟨env.uuids.parse res.authTenantID, res, key.1,
          env.cfg.deploymentMode, res.completedAt⟩)
        commits := s.commits ++ [.upsertControlPlane] } res key := by
    intro s hs hcomplete
    refine ⟨hs.chosen.of_minted rfl, by rw [hs.row], hs.client, hcomplete, by simp, ?_, hs.oauth,
      hres⟩
    have := hs.tenant
    simpa [TenantRecorded] using this
  exact spec_call (fun s hs ↦ hwrite s hs.1 hs.2)
    (fun s hs ↦ Or.inr (Or.inr ⟨res, key, hwrite s hs.1 hs.2⟩)) fun s hs ↦ hs.1.failed

/-! ## The attempt -/

/-- The best-effort calls leave alone what the control identity is made of. -/
theorem bestEffort_eq (a : Attempt) (res : SetupResult) :
    (bestEffort a res).authTenantID = res.authTenantID ∧
      (bestEffort a res).controlOAuthClientID = res.controlOAuthClientID := by
  simp only [bestEffort]
  split_ifs <;> exact ⟨rfl, rfl⟩

theorem provision_spec (hw : w.commits = []) :
    Spec (fun s ↦ s = w) (provision env a w.auth)
      (fun _ s ↦ ∃ res key, Written env a w s res key) (Failed env a w) := by
  refine (createTenant_spec hw).bind fun res ↦ ?_
  refine registerControlService_spec.bind fun res ↦ ?_
  refine controlKey_spec.bind fun key ↦ ?_
  refine ensureControlClient_spec.bind fun client ↦ spec_fact fun hclient ↦ ?_
  obtain ⟨htenant, hoauth⟩ := bestEffort_eq a { res with
    controlClientID := client.clientID
    controlOAuthClientID := client.oauthClientID
    tokenAuthMethod := client.tokenEndpointAuthMethod
    jwks := key.2 }
  generalize bestEffort a { res with
    controlClientID := client.clientID
    controlOAuthClientID := client.oauthClientID
    tokenAuthMethod := client.tokenEndpointAuthMethod
    jwks := key.2 } = best at htenant hoauth ⊢
  refine Spec.bind (R := fun _ ↦ Pending env a w key best)
    (spec_require (fun _ s hs ↦ ⟨hs.1, ?_, hoauth.trans (by rw [hclient])⟩)
      fun s hs ↦ Or.inr (Or.inl ⟨key, hs.1⟩)) fun _ ↦ ?_
  · rw [TenantRecorded, htenant]
    exact hs.2
  refine createAdmin_spec.bind fun res ↦ completeSetup_spec.bind fun _ ↦ ?_
  refine Spec.bind ((persist_spec { res with completedAt := some a.now } key rfl).mono
    (fun s hs ↦ ?_) (fun _ _ h ↦ h) fun _ h ↦ h) fun _ ↦ spec_pure fun s hs ↦ ⟨_, _, hs⟩
  exact ⟨⟨hs.1.toBetween, hs.1.tenant, hs.1.oauth⟩, hs.2⟩

theorem alreadyComplete_spec {E : World → Prop} (hw : w.commits = [])
    (hcomplete : w.auth.isSetupComplete = true) :
    Spec (fun s ↦ s = w) (alreadyComplete env a) (fun _ s ↦ Recorded env w s) E := by
  have hsame : Recorded env w w :=
    ⟨rfl, hcomplete, rfl, by simp [hw], by simp [hw], Or.inl ⟨rfl, by simp [hw]⟩⟩
  refine Spec.bind (R := fun w' s ↦ w' = w ∧ s = w) (spec_get fun s hs ↦ ⟨hs, hs⟩) fun w' ↦
    spec_fact fun hw' ↦ ?_
  rw [hw']
  generalize hread : (if a.getControlPlane then w.row else none) = seen
  have hseen : seen = w.row ∨ seen = none := by
    split at hread
    · exact Or.inl hread.symm
    · exact Or.inr hread.symm
  refine spec_ite (fun _ ↦ spec_pure fun s hs ↦ hs ▸ hsame) fun hnone ↦ ?_
  have hwrite : ∀ res : SetupResult, res.completedAt.isSome = true →
      res.authTenantID = (loadPersisted seen).authTenantID →
      res.controlOAuthClientID = (loadPersisted seen).controlOAuthClientID →
      Recorded env w { w with
        row := some (upsertControlPlane w.row ⟨env.uuids.parse res.authTenantID, res, "",
          env.cfg.deploymentMode, res.completedAt⟩)
        commits := w.commits ++ [.upsertControlPlane] } := by
    intro res hres htenant hoauth
    refine ⟨rfl, hcomplete, rfl, by simp [hw], by simp [hw], Or.inr ⟨by simp, seen, res, hseen, ?_,
      hres, htenant, hoauth, rfl⟩⟩
    exact Option.not_isSome_iff_eq_none.mp hnone
  refine Spec.bind (Spec.attempt (R := fun _ s ↦ Recorded env w s)
    (T := fun s ↦ Recorded env w s) (spec_call ?_ ?_ ?_)) fun o ↦ spec_pure fun s hs ↦ ?_
  · rintro s rfl
    exact hwrite _ rfl rfl rfl
  · rintro s rfl
    exact hwrite _ rfl rfl rfl
  · rintro s rfl
    exact hsame
  · cases o <;> exact hs

/-- The four ends of an attempt. -/
inductive Ended (env : SetupEnv) (a : Attempt) (w s : World) : Prop where
  | stopped (h : Stopped w s)
  | between (hopen : w.auth.isSetupComplete = false) (key : String × String)
      (h : Between env a w key s)
  | written (hopen : w.auth.isSetupComplete = false) (res : SetupResult) (key : String × String)
      (h : Written env a w s res key)
  | recorded (h : Recorded env w s)

/-- The rule for an attempt: it stops before it has done anything, or it goes on by what Auth says
of itself. -/
theorem spec_runWith {adminPassword : String} {Q : SetupResult → World → Prop} {E : World → Prop}
    (hstop : E w)
    (hcomplete : w.auth.isSetupComplete = true →
      Spec (fun s ↦ s = w) (alreadyComplete env a) Q E)
    (hopen : w.auth.isSetupComplete = false →
      Spec (fun s ↦ s = w) (provision env a w.auth) Q E) :
    Spec (fun s ↦ s = w) (runWith env adminPassword a) Q E := by
  have hrequire : ∀ (c : Bool) (e : SetupError), Spec (fun s ↦ s = w) (require c e)
      (fun _ s ↦ s = w) E :=
    fun c e ↦ spec_require (fun _ s hs ↦ hs) fun s hs ↦ hs.symm ▸ hstop
  refine (hrequire _ _).bind fun _ ↦ (hrequire _ _).bind fun _ ↦ (hrequire _ _).bind fun _ ↦
    (hrequire _ _).bind fun _ ↦ ?_
  refine Spec.bind (R := fun w' s ↦ w' = w ∧ s = w) (spec_get fun s hs ↦ ⟨hs, hs⟩) fun w' ↦
    spec_fact fun hw' ↦ ?_
  rw [hw']
  exact spec_ite hcomplete fun h ↦ hopen (eq_false_of_ne_true h)

/-- **The specification of an attempt.**  It ends in one of the four ways, and it returns only
when Auth is provisioned. -/
theorem runWith_spec {adminPassword : String} (hw : w.commits = []) :
    Spec (fun s ↦ s = w) (runWith env adminPassword a)
      (fun _ s ↦ Ended env a w s ∧ s.auth.isSetupComplete = true) (Ended env a w) := by
  refine spec_runWith (.stopped (Stopped.start hw)) (fun hcomplete ↦ ?_) fun hopen ↦ ?_
  · exact (alreadyComplete_spec hw hcomplete).mono (fun _ h ↦ h)
      (fun _ s h ↦ ⟨.recorded h, by rw [h.auth]; exact hcomplete⟩) fun _ h ↦ h
  · refine (provision_spec hw).mono (fun _ h ↦ h) ?_ ?_
    · rintro - s ⟨res, key, h⟩
      exact ⟨.written hopen res key h, h.complete⟩
    · rintro s (h | ⟨key, h⟩ | ⟨res, key, h⟩)
      · exact .stopped h
      · exact .between hopen key h
      · exact .written hopen res key h

/-- The world after one attempt. -/
def attempted (env : SetupEnv) (w : World) (x : String × Attempt) : World :=
  (attemptSetup env w x).1

theorem attempted_ended (env : SetupEnv) (w : World) (x : String × Attempt) :
    Ended env x.2 { w with commits := [] } (attempted env w x) :=
  (runWith_spec rfl).ends rfl (fun _ _ h ↦ h.1) fun _ h ↦ h

/-- An attempt that returns leaves Auth provisioned. -/
theorem attempted_complete {env : SetupEnv} {w : World} {x : String × Attempt} {res : SetupResult}
    (hok : (attemptSetup env w x).2 = .ok res) :
    (attempted env w x).auth.isSetupComplete = true :=
  ((runWith_spec rfl).returns rfl hok).2

/-! ## What the outcomes tell -/

/-- A call of an attempt: what it leaves behind when it is committed, and how it ends. -/
structure SetupCall where
  commit : Option Commit
  outcome : Outcome

/-- A condition of an attempt, which leaves nothing behind. -/
def SetupCall.check (holds : Bool) : SetupCall := ⟨none, if holds then .answered else .refused⟩

/-- What calls leave behind, of which each is made only if the one before it was answered. -/
def leaves : List SetupCall → List Commit
  | [] => []
  | ⟨c, .answered⟩ :: calls => c.toList ++ leaves calls
  | ⟨c, .lost⟩ :: _ => c.toList
  | ⟨_, .refused⟩ :: _ => []

/-- The row, as the one read of the attempt finds it. -/
def World.seen (w : World) (a : Attempt) : Option ControlPlane :=
  if a.getControlPlane then w.row else none

/-- There is a key to go on with: a stored one that can be used, or a new one. -/
def Attempt.findsKey (a : Attempt) (env : SetupEnv) (w : World) : Bool :=
  match w.seen a with
  | none => a.generateControlKey
  | some row =>
    if row.controlPrivateKeyPem = "" then a.generateControlKey
    else (env.keys.jwksFromPrivatePEM row.controlPrivateKeyPem).isSome

/-- The calls for an Auth that is not provisioned, in their order. -/
def provisionCalls (env : SetupEnv) (w : World) (a : Attempt) : List SetupCall :=
  (if w.auth.isTenantSetup then [] else [⟨some .createTenant, a.createTenant⟩]) ++
    ⟨some .registerControlService, a.registerControlService⟩ :: .check (a.findsKey env w) ::
    ⟨if w.auth.controlClient.isSome then none else some .createControlClient,
      a.ensureControlClient⟩ ::
    .check a.reconcileSteward ::
    ((if w.auth.isAdminSetup then [] else [⟨some .createAdmin, a.createAdmin⟩]) ++
      [⟨some .completeSetup, a.completeSetup⟩, ⟨some .upsertControlPlane, a.upsertControlPlane⟩])

/-- The calls for an Auth that is provisioned. -/
def recordCalls (w : World) (a : Attempt) : List SetupCall :=
  if (loadPersisted (w.seen a)).completedAt.isSome then []
  else [⟨some .upsertControlPlane, a.upsertControlPlane⟩]

/-- The calls of an attempt, as they follow from the world before it. -/
def setupCalls (env : SetupEnv) (w : World) (x : String × Attempt) : List SetupCall :=
  .check (env.cfg.authAddr != "") ::
  .check (firstNonEmpty [x.1, env.cfg.adminPassword] != "") ::
  .check x.2.dials :: .check x.2.getSetupStatus ::
    if w.auth.isSetupComplete then recordCalls w x.2 else provisionCalls env w x.2

section Leaves

variable {cs : List Commit} {calls : List SetupCall} {P Q : World → Prop}

/-- What is committed, with what the calls to come leave behind, makes up all of it. -/
def Leaving (P : World → Prop) (cs : List Commit) (calls : List SetupCall) (s : World) : Prop :=
  P s ∧ s.commits ++ leaves calls = cs

/-- An attempt that stops here has left all of it behind. -/
def HasLeft (cs : List Commit) (s : World) : Prop := s.commits = cs

theorem Leaving.done {s : World} (h : Leaving P cs [] s) : HasLeft cs s := by
  have hall := h.2
  rwa [leaves, List.append_nil] at hall

/-- A call that is refused is the last one, and leaves nothing behind. -/
theorem Leaving.refused {s : World} {c : Option Commit}
    (h : Leaving P cs (⟨c, .refused⟩ :: calls) s) : HasLeft cs s := by
  have hall := h.2
  rwa [leaves, List.append_nil] at hall

theorem spec_call_leaves {what : String} {o : Outcome} {effect : World → World}
    {c : Option Commit} (hcommit : ∀ s, P s → (effect s).commits = s.commits ++ c.toList)
    (heffect : ∀ s, P s → Q (effect s)) :
    Spec (Leaving P cs (⟨c, o⟩ :: calls)) (call what o effect) (fun _ ↦ Leaving Q cs calls)
      (HasLeft cs) := by
  intro s hs
  cases o with
  | answered =>
    refine ⟨heffect s hs.1, ?_⟩
    rw [hcommit s hs.1, List.append_assoc]
    exact hs.2
  | lost => exact (hcommit s hs.1).trans hs.2
  | refused => exact hs.refused

/-- A call after which nothing more is asked about the state. -/
theorem spec_commit_leaves {what : String} {o : Outcome} {effect : World → World} {c : Commit}
    (hcommit : ∀ s, (effect s).commits = s.commits ++ [c]) :
    Spec (Leaving P cs (⟨some c, o⟩ :: calls)) (call what o effect)
      (fun _ ↦ Leaving (fun _ ↦ True) cs calls) (HasLeft cs) :=
  spec_call_leaves (fun s _ ↦ hcommit s) fun _ _ ↦ trivial

theorem spec_require_leaves {c : Bool} {e : SetupError} :
    Spec (Leaving P cs (.check c :: calls)) (require c e) (fun _ ↦ Leaving P cs calls)
      (HasLeft cs) := by
  intro s hs
  cases c with
  | true => exact hs
  | false => exact hs.refused

/-- The row and the control client are those of `w`. -/
def Asking (w s : World) : Prop :=
  s.row = w.row ∧ s.auth.controlClient = w.auth.controlClient

theorem createTenant_leaves :
    Spec (Leaving (Asking w) cs
        ((if w.auth.isTenantSetup then [] else [⟨some .createTenant, a.createTenant⟩]) ++ calls))
      (createTenant a w.auth) (fun _ ↦ Leaving (Asking w) cs calls) (HasLeft cs) := by
  refine spec_ite (fun h ↦ ?_) fun h ↦ ?_
  · rw [if_pos h]
    exact spec_pure fun _ hs ↦ hs
  · rw [if_neg h]
    refine Spec.bind (R := fun _ ↦ Leaving (Asking w) cs calls) (spec_call_leaves ?_ ?_) fun _ ↦
      spec_pure fun _ hs ↦ hs
    · exact fun _ _ ↦ rfl
    · exact fun _ hs ↦ hs

theorem registerControlService_leaves {res : SetupResult} :
    Spec (Leaving (Asking w) cs
        (⟨some .registerControlService, a.registerControlService⟩ :: calls))
      (registerControlService a res) (fun _ ↦ Leaving (Asking w) cs calls) (HasLeft cs) := by
  refine Spec.bind (R := fun _ ↦ Leaving (Asking w) cs calls) (spec_call_leaves ?_ ?_) fun _ ↦
    spec_pure fun _ hs ↦ hs
  · exact fun _ _ ↦ rfl
  · exact fun _ hs ↦ hs

theorem generateControlKey_leaves :
    Spec (Leaving (Asking w) cs (.check a.generateControlKey :: calls)) (generateControlKey env a)
      (fun _ ↦ Leaving (Asking w) cs calls) (HasLeft cs) := by
  rw [generateControlKey]
  cases a.generateControlKey with
  | true => exact fun _ hs ↦ hs
  | false => exact fun _ hs ↦ hs.refused

/-- The one read of the row, in an attempt that has not written it. -/
theorem spec_get_seen (a : Attempt) :
    Spec (Leaving (Asking w) cs calls) (get : Prog World SetupError World)
      (fun w' s ↦ (if a.getControlPlane then w'.row else none) = w.seen a ∧
        Leaving (Asking w) cs calls s) (HasLeft cs) :=
  spec_get fun _ hs ↦ ⟨by rw [hs.1.1, World.seen], hs⟩

theorem controlKey_leaves :
    Spec (Leaving (Asking w) cs (.check (a.findsKey env w) :: calls)) (controlKey env a)
      (fun _ ↦ Leaving (Asking w) cs calls) (HasLeft cs) := by
  refine (spec_get_seen a).bind fun w' ↦ spec_fact fun hseen ↦ ?_
  rw [hseen, Attempt.findsKey]
  rcases w.seen a with _ | row
  · exact generateControlKey_leaves
  · refine spec_ite (fun hempty ↦ ?_) fun hpem ↦ ?_
    · simp only [if_pos hempty]
      exact generateControlKey_leaves
    · simp only [if_neg hpem]
      rcases env.keys.jwksFromPrivatePEM row.controlPrivateKeyPem with _ | jwks
      · exact spec_fail fun _ hs ↦ hs.refused
      · exact spec_pure fun _ hs ↦ hs

theorem ensureControlClient_leaves {jwks : String} :
    Spec (Leaving (Asking w) cs
        (⟨if w.auth.controlClient.isSome then none else some .createControlClient,
          a.ensureControlClient⟩ :: calls))
      (ensureControlClient a jwks) (fun _ ↦ Leaving (fun _ ↦ True) cs calls) (HasLeft cs) := by
  refine Spec.bind (spec_get fun s hs ↦ hs) fun _ ↦
    (spec_call_leaves (fun s hs ↦ ?_) fun _ _ ↦ trivial).bind fun _ ↦ spec_pure fun _ hs ↦ hs
  rw [hs.2]
  rcases w.auth.controlClient with _ | c
  · rfl
  · exact (List.append_nil _).symm

theorem createAdmin_leaves {status : AuthState} {res : SetupResult} :
    Spec (Leaving P cs
        ((if status.isAdminSetup then [] else [⟨some .createAdmin, a.createAdmin⟩]) ++ calls))
      (createAdmin a status res) (fun _ ↦ Leaving (fun _ ↦ True) cs calls) (HasLeft cs) := by
  refine spec_ite (fun h ↦ ?_) fun h ↦ ?_
  · rw [if_pos h]
    exact spec_pure fun _ hs ↦ ⟨trivial, hs.2⟩
  · rw [if_neg h]
    exact (spec_commit_leaves fun _ ↦ rfl).bind fun _ ↦ spec_pure fun _ hs ↦ hs

theorem provision_leaves :
    Spec (Leaving (Asking w) cs (provisionCalls env w a)) (provision env a w.auth)
      (fun _ ↦ HasLeft cs) (HasLeft cs) := by
  refine createTenant_leaves.bind fun res ↦ registerControlService_leaves.bind fun res ↦ ?_
  refine controlKey_leaves.bind fun key ↦ ensureControlClient_leaves.bind fun client ↦ ?_
  refine spec_require_leaves.bind fun _ ↦ createAdmin_leaves.bind fun res ↦ ?_
  refine (spec_commit_leaves fun _ ↦ rfl).bind fun _ ↦ ?_
  exact (spec_commit_leaves fun _ ↦ rfl).bind fun _ ↦ spec_pure fun _ hs ↦ hs.done

theorem alreadyComplete_leaves :
    Spec (Leaving (Asking w) cs (recordCalls w a)) (alreadyComplete env a) (fun _ ↦ HasLeft cs)
      (HasLeft cs) := by
  refine (spec_get_seen a).bind fun w' ↦ spec_fact fun hseen ↦ ?_
  rw [hseen, recordCalls]
  refine spec_ite (fun h ↦ ?_) fun h ↦ ?_
  · rw [if_pos h]
    exact spec_pure fun _ hs ↦ hs.done
  · rw [if_neg h]
    refine (spec_commit_leaves fun _ ↦ rfl).attempt.bind fun o ↦ spec_pure fun s hs ↦ ?_
    rcases o with _ | _
    · exact hs
    · exact hs.done

theorem runWith_leaves {adminPassword : String} :
    Spec (Leaving (fun s ↦ s = w) cs (setupCalls env w (adminPassword, a)))
      (runWith env adminPassword a) (fun _ ↦ HasLeft cs) (HasLeft cs) := by
  refine spec_require_leaves.bind fun _ ↦ spec_require_leaves.bind fun _ ↦
    spec_require_leaves.bind fun _ ↦ spec_require_leaves.bind fun _ ↦ ?_
  refine Spec.bind (R := fun w' s ↦ w' = w ∧ Leaving (fun s ↦ s = w) cs
    (if w.auth.isSetupComplete then recordCalls w a else provisionCalls env w a) s)
    (spec_get fun s hs ↦ ⟨hs.1, hs⟩) fun w' ↦ spec_fact fun hw' ↦ ?_
  have hasking : ∀ calls s, Leaving (fun s ↦ s = w) cs calls s → Leaving (Asking w) cs calls s :=
    fun _ s hs ↦ ⟨by rw [hs.1]; exact ⟨rfl, rfl⟩, hs.2⟩
  rw [hw']
  refine spec_ite (fun h ↦ ?_) fun h ↦ ?_
  · rw [if_pos h]
    exact alreadyComplete_leaves.mono (hasking _) (fun _ _ hs ↦ hs) fun _ hs ↦ hs
  · rw [if_neg h]
    exact provision_leaves.mono (hasking _) (fun _ _ hs ↦ hs) fun _ hs ↦ hs

end Leaves

/-- **What an attempt leaves behind follows from the world before it and from the outcomes of its
calls.** -/
theorem commits_attempted (env : SetupEnv) (w : World) (x : String × Attempt) :
    (attempted env w x).commits = leaves (setupCalls env w x) := by
  have hstart : Leaving (fun s ↦ s = { w with commits := [] }) (leaves (setupCalls env w x))
      (setupCalls env { w with commits := [] } x) { w with commits := [] } :=
    ⟨rfl, List.nil_append _⟩
  exact runWith_leaves.ends hstart (fun _ _ h ↦ h) fun _ h ↦ h

/-! ## A small installation -/

/-- Keys that are their own key sets. -/
def plainKeys : KeyGen where
  pem n := String.ofList (List.replicate (n + 1) 'k')
  jwks n := String.ofList (List.replicate (n + 1) 'k')
  jwksFromPrivatePEM text := if text = "" then none else some text
  pem_nonblank n := by
    have hdrop : (List.replicate (n + 1) 'k').dropWhile Text.isSpace =
        List.replicate (n + 1) 'k' := by
      rw [List.replicate_succ, List.dropWhile_cons_of_neg (by decide)]
    rw [Text.trimSpace, String.toList_ofList, hdrop, List.reverse_replicate, hdrop]
    simp
  jwks_pem n := by simp
  jwks_empty := rfl
  jwks_injective n m h := by
    have hlen := congrArg String.length h
    simpa using hlen

def plainSetup : SetupEnv where
  cfg := ⟨"auth:9090", "secret", "standalone"⟩
  keys := plainKeys
  uuids :=
    { parse := fun text ↦ if text = "" then none else some 1
      format := fun _ ↦ "uuid"
      parse_empty := rfl
      format_nonblank := fun _ ↦ by decide }

/-- An attempt at which every call is answered. -/
def smooth : Attempt where
  now := 1
  dials := true
  getSetupStatus := true
  createTenant := .answered
  registerControlService := .answered
  getControlPlane := true
  generateControlKey := true
  ensureControlClient := .answered
  ensureResourceAPI := .answered
  ensureRole := .answered
  ensureConsoleClient := .answered
  reconcileSteward := true
  createAdmin := .answered
  completeSetup := .answered
  upsertControlPlane := .answered
  answers :=
    { tenantID := "tenant", defaultClientID := "", defaultProviderID := "", serviceID := "core"
      policyID := "", policyName := "", controlClientID := "client"
      controlOAuthClientID := "oauth", tokenEndpointAuthMethod := "private_key_jwt", apiID := ""
      apiIdentifier := "", roleID := "", consoleClientID := "", consoleOAuthClientID := ""
      userID := "admin", tenantID_nonblank := by decide
      controlOAuthClientID_nonblank := by decide }

end Maintainerd

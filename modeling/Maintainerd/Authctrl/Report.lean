import Maintainerd.Authctrl.Applier
import Maintainerd.Steward.Custody

/-!
# What a pass reports

`Run` of `internal/authctrl/runner.go` makes a pass over the catalogue and reports the outcome of
every object, with a count for each status.  An object that fails is put down and the pass goes on,
so a report is only worth something if nothing is missing from it and nothing in it is there without
a reason.

`visits` is a pass, object by object: who was applied, from which state and into which, and so which
calls were made for it.  `report_conserved` says of every catalogue that is in order, and of every
way the calls may end, that the pass goes through, that the report has one outcome for each object
in the order of the catalogue, that the counts add up, that an object is reported as failed only for
a reason of its own (`Excuse`, or a call of its own that was not answered), and that no call is made
for an object whose service is not resolved.

`Reconcile` records a generated key a second time.  That must not be refused, or the pass ends
there; `Rerecords` is this one assumption.
-/

set_option autoImplicit false

namespace Maintainerd.Authctrl

open Steward Dialogue

/-! ## The report -/

/-- `Report`, without the transport and the times. -/
structure RunReport where
  totals : Steward.Report
  outcomes : List Outcome
  created : ℕ
  ensured : ℕ
  failed : ℕ
deriving DecidableEq, Repr

/-- The outcomes of a status. -/
def countStatus (status : Status) (outcomes : List Outcome) : ℕ :=
  outcomes.countP fun o ↦ o.status = status

/-- What `Run` reports of a pass. -/
def runReport (a : Applier) (totals : Steward.Report) : Option String → RunReport
  | none =>
    { totals := totals
      outcomes := a.outcomes
      created := countStatus .created a.outcomes
      ensured := countStatus .ensured a.outcomes
      failed := countStatus .failed a.outcomes }
  | some e =>
    { totals := totals
      outcomes := a.outcomes ++ [⟨"Catalog", "reconcile", .failed, e⟩]
      created := countStatus .created a.outcomes
      ensured := countStatus .ensured a.outcomes
      failed := countStatus .failed a.outcomes + 1 }

/-- `Run`, once core is connected: the report, and the error it returns with it. -/
def runPass (env : Steward.Env) (catalog : List Object) : Script (RunReport × Option String) := do
  let (a, totals, failed) ← pass env catalog
  pure (runReport a totals failed, failed)

theorem exec_runPass (env : Steward.Env) (catalog : List Object) (ts : List Turnout)
    (w : Steward.World) :
    let run := (pass env catalog).exec ts w
    (runPass env catalog).exec ts w =
      (run.1, (runReport run.2.1.1 run.2.1.2.1 run.2.1.2.2, run.2.1.2.2), run.2.2) := by
  rw [runPass, exec_bind]
  rfl

theorem countStatus_add (outcomes : List Outcome) :
    countStatus .created outcomes + countStatus .ensured outcomes + countStatus .failed outcomes =
      outcomes.length := by
  induction outcomes with
  | nil => rfl
  | cons o outcomes ih =>
    simp only [countStatus, List.countP_cons, List.length_cons] at ih ⊢
    rcases hs : o.status with _ | _ | _ <;> simp <;> omega

/-- The counts of a report add up. -/
theorem runReport_add (a : Applier) (totals : Steward.Report) (failed : Option String) :
    (runReport a totals failed).created + (runReport a totals failed).ensured +
      (runReport a totals failed).failed = (runReport a totals failed).outcomes.length := by
  have hadd := countStatus_add a.outcomes
  rcases failed with _ | e
  · exact hadd
  · simp only [runReport, List.length_append, List.length_singleton]
    omega

/-! ## Reasons to fail -/

/-- The object refers to a service that is not resolved. -/
def Applier.Lacks (a : Applier) (spec : Spec) : Prop :=
  ∃ service, spec.refersTo = some service ∧ a.serviceIDs.lookup service = none

/-- The key that a new client is registered with: the one on record, unless it is empty, and
otherwise a new one. -/
def keyFor (env : Steward.Env) (w : Steward.World) (path : String) : String :=
  let stored := (w.files path).getD ""
  if stored ≠ "" then stored else env.keys.pem w.minted

/-- Why an object may fail although all its calls are answered, told from the state it is applied
in: its service is not resolved, its key has no place in the key store, there is no key for a client
that exists, or the request for a new one cannot be built from its key, or that for a policy from
its actions. -/
def Excuse (env : Steward.Env) (a : Applier) (w : Steward.World) (name : String) (spec : Spec) :
    Prop :=
  a.Lacks spec ∨
    match spec with
    | .service _ => False
    | .resourceAPI _ => False
    | .serviceClient spec =>
      (∃ e, keyPath env spec.service = .error e) ∨
        ∃ path, keyPath env spec.service = .ok path ∧
          ((findNamed AuthClient.name name w.auth.clients).isSome = true ∧ w.files path = none ∨
            (findNamed AuthClient.name name w.auth.clients).isSome = false ∧
              ∃ e, clientRequest env spec (keyFor env w path) = .error e)
    | .servicePolicy spec => ∃ e, env.structError spec.allowedActions = some e

/-! ## One object -/

/-- One outcome was put down for an object, and if it says that the object failed, a call was not
answered or there is an excuse. -/
def Reported (a : Applier) (w : Steward.World) (kind name : String) (excuse : Prop) (a' : Applier)
    (w' : Steward.World) : Prop :=
  ∃ o : Outcome, a'.outcomes = a.outcomes ++ [o] ∧ o.kind = kind ∧ o.name = name ∧ Since w w' ∧
    (o.status = .failed → Erred w w' ∨ excuse)

section Reported

variable {env : Steward.Env} {a a' : Applier} {w w' : Steward.World}
variable {kind name : String} {excuse : Prop}

theorem reported_fail (ha : a'.outcomes = a.outcomes) (hsince : Since w w')
    (h : Erred w w' ∨ excuse) (error : String) :
    Reported a w kind name excuse (a'.fail kind name error) w' := by
  refine ⟨⟨kind, name, .failed, error⟩, ?_, rfl, rfl, hsince, fun _ ↦ h⟩
  rw [Applier.fail, Applier.record, ha]

theorem reported_record (ha : a'.outcomes = a.outcomes) (hsince : Since w w') {status : Status}
    (hstatus : status ≠ .failed) :
    Reported a w kind name excuse (a'.record kind name status "") w' := by
  refine ⟨⟨kind, name, status, ""⟩, ?_, rfl, rfl, hsince, fun h ↦ absurd h hstatus⟩
  rw [Applier.record, ha]

theorem wp_serviceApplied_reported (hsince : Since w w') (spec : ServiceSpec)
    (service : AuthService) {status : Status} (hstatus : status ≠ .failed) :
    (serviceApplied env a name spec service status).wp (Reported a w "Service" name excuse) w' := by
  have hconverge : (converge env name spec).wp
      (fun r w₁ ↦ Since w w₁ ∧ ∀ e, r = .error e → Erred w w₁) w' := by
    rw [converge]
    split
    · exact wp_pure.mpr ⟨hsince, of_ok_eq_error⟩
    · exact wp_look hsince
  refine hconverge.bind ?_
  rintro (e | _) w₁ ⟨hsince, herred⟩
  · exact wp_pure.mpr (reported_fail rfl hsince (Or.inl (herred e rfl)) e)
  · exact wp_pure.mpr (reported_record rfl hsince hstatus)

theorem wp_ensureService_reported (a : Applier) (w : Steward.World) (name : String)
    (spec : ServiceSpec) :
    (ensureService env a name spec).wp
      (Reported a w "Service" name (Excuse env a w name (.service spec))) w := by
  refine (wp_look (Since.refl w)).bind ?_
  rintro (e | _ | service) w₁ ⟨hsince, herred⟩
  · exact wp_pure.mpr (reported_fail rfl hsince (Or.inl (herred e rfl)) e)
  · refine (wp_call hsince fun _ _ ↦ rfl).bind ?_
    rintro (e | service) w₂ ⟨hsince, herred⟩
    · exact wp_pure.mpr (reported_fail rfl hsince (Or.inl (herred e rfl)) e)
    · exact wp_serviceApplied_reported hsince spec service (by decide)
  · exact wp_serviceApplied_reported hsince spec service (by decide)

theorem wp_createMissing_reported (hsince : Since w w') (apiID : ℕ) (present want : List String)
    (created : ℕ) : (createMissing env apiID present want created).wp
      (fun r w₁ ↦ Since w w₁ ∧ ∀ e, r = .error e → Erred w w₁) w' := by
  induction want generalizing created w' with
  | nil => exact wp_pure.mpr ⟨hsince, of_ok_eq_error⟩
  | cons name want ih =>
    rw [createMissing]
    split
    · exact ih hsince created
    · refine (wp_call hsince fun _ _ ↦ rfl).bind ?_
      rintro (e | _) w₁ ⟨hsince, herred⟩
      · exact wp_pure.mpr ⟨hsince, fun _ _ ↦ herred e rfl⟩
      · exact ih hsince (created + 1)

theorem wp_apiApplied_reported (hsince : Since w w') (spec : ResourceAPISpec) (api : AuthAPI)
    {status : Status} (hstatus : status ≠ .failed) :
    (apiApplied env a name spec api status).wp (Reported a w "ResourceAPI" name excuse) w' := by
  have hpermissions : (ensurePermissions env api.apiID spec.permissions).wp
      (fun r w₁ ↦ Since w w₁ ∧ ∀ e, r = .error e → Erred w w₁) w' := by
    rw [ensurePermissions]
    split
    · exact wp_pure.mpr ⟨hsince, of_ok_eq_error⟩
    · refine (wp_look hsince).bind ?_
      rintro (e | present) w₁ ⟨hsince, herred⟩
      · exact wp_pure.mpr ⟨hsince, fun _ _ ↦ herred e rfl⟩
      · exact wp_createMissing_reported hsince api.apiID present spec.permissions 0
  refine hpermissions.bind ?_
  rintro (e | created) w₁ ⟨hsince, herred⟩
  · exact wp_pure.mpr (reported_fail rfl hsince (Or.inl (herred e rfl)) e)
  · refine wp_pure.mpr (reported_record rfl hsince ?_)
    split
    · decide
    · exact hstatus

/-- For an object whose service is resolved there is one thing to show. -/
theorem wp_resolved {α : Type} {x : Script α} {Q P : α → Steward.World → Prop} (spec : Spec)
    {service : String} {id : ℕ} (hspec : spec.refersTo = some service)
    (hid : a.serviceIDs.lookup service = some id) (h : x.wp Q w) :
    x.wp (fun r w' ↦ Q r w' ∧ (a.Lacks spec → P r w')) w := by
  refine h.mono fun _ _ hQ ↦ ⟨hQ, ?_⟩
  rintro ⟨service', hspec', hnone⟩
  obtain rfl := Option.some.inj (hspec.symm.trans hspec')
  rw [hid] at hnone
  cases hnone

theorem wp_ensureResourceAPI_reported (a : Applier) (w : Steward.World) (name : String)
    (spec : ResourceAPISpec) :
    (ensureResourceAPI env a name spec).wp
      (fun a' w' ↦ Reported a w "ResourceAPI" name (Excuse env a w name (.resourceAPI spec)) a' w' ∧
        (a.Lacks (.resourceAPI spec) → w' = w)) w := by
  rw [ensureResourceAPI]
  rcases hid : a.serviceIDs.lookup spec.service with _ | serviceID
  · have hlacks : a.Lacks (.resourceAPI spec) := ⟨spec.service, rfl, hid⟩
    exact wp_pure.mpr
      ⟨reported_fail rfl (Since.refl w) (Or.inr (Or.inl hlacks)) _, fun _ ↦ rfl⟩
  refine wp_resolved (.resourceAPI spec) rfl hid ?_
  refine (wp_look (Since.refl w)).bind ?_
  rintro (e | _ | api) w₁ ⟨hsince, herred⟩
  · exact wp_pure.mpr (reported_fail rfl hsince (Or.inl (herred e rfl)) e)
  · refine (wp_call hsince fun _ _ ↦ rfl).bind ?_
    rintro (e | api) w₂ ⟨hsince, herred⟩
    · exact wp_pure.mpr (reported_fail rfl hsince (Or.inl (herred e rfl)) e)
    · exact wp_apiApplied_reported hsince spec api (by decide)
  · exact wp_apiApplied_reported hsince spec api (by decide)

theorem wp_policyApplied_reported (hsince : Since w w') (serviceID : ℕ) (policy : AuthPolicy)
    {status : Status} (hstatus : status ≠ .failed) :
    (policyApplied a name serviceID policy status).wp
      (Reported a w "ServicePolicy" name excuse) w' := by
  refine (wp_call hsince fun _ _ ↦ rfl).bind ?_
  rintro (e | _) w₁ ⟨hsince, herred⟩
  · exact wp_pure.mpr (reported_fail rfl hsince (Or.inl (herred e rfl)) e)
  · exact wp_pure.mpr (reported_record rfl hsince hstatus)

theorem wp_ensureServicePolicy_reported (a : Applier) (w : Steward.World) (name : String)
    (spec : ServicePolicySpec) :
    (ensureServicePolicy env a name spec).wp
      (fun a' w' ↦
        Reported a w "ServicePolicy" name (Excuse env a w name (.servicePolicy spec)) a' w' ∧
          (a.Lacks (.servicePolicy spec) → w' = w)) w := by
  rw [ensureServicePolicy]
  split
  · exact wp_pure.mpr ⟨reported_record rfl (Since.refl w) (by decide), fun _ ↦ rfl⟩
  rcases hid : a.serviceIDs.lookup spec.service with _ | serviceID
  · have hlacks : a.Lacks (.servicePolicy spec) := ⟨spec.service, rfl, hid⟩
    exact wp_pure.mpr
      ⟨reported_fail rfl (Since.refl w) (Or.inr (Or.inl hlacks)) _, fun _ ↦ rfl⟩
  refine wp_resolved (.servicePolicy spec) rfl hid ?_
  refine (wp_look (Since.refl w)).bind ?_
  rintro (e | _ | policy) w₁ ⟨hsince, herred⟩
  · exact wp_pure.mpr (reported_fail rfl hsince (Or.inl (herred e rfl)) e)
  · rcases hdocument : env.structError spec.allowedActions with _ | e
    · refine (wp_call hsince fun _ _ ↦ rfl).bind ?_
      rintro (e | policy) w₂ ⟨hsince, herred⟩
      · exact wp_pure.mpr (reported_fail rfl hsince (Or.inl (herred e rfl)) e)
      · exact wp_policyApplied_reported hsince serviceID policy (by decide)
    · exact wp_pure.mpr (reported_fail rfl hsince (Or.inr (Or.inr ⟨e, hdocument⟩)) e)
  · exact wp_policyApplied_reported hsince serviceID policy (by decide)

/-! ## Service clients -/

/-- A key that is recorded without an error is on record. -/
theorem wp_record_reported {path service : String} (hpath : keyPath env service = .ok path)
    (hsince : Since w w') (pem : String) :
    (Steward.record env service pem).wp (fun r w₁ ↦ Since w w₁ ∧
      (∀ e, r = .error e → Erred w w₁) ∧ ∀ u, r = .ok u → OnRecord env service w₁) w' := by
  rw [Steward.record, hpath]
  refine wp_once.mpr fun t ↦ ?_
  have hsent : ∀ o, Since w (w'.sent (.recordKey service) o) := hsince.sent _
  have hfailed : ∀ o, o ≠ .answered → Erred w (w'.sent (.recordKey service) o) :=
    fun o ↦ hsince.erred _
  have hnew : ∀ (w₁ : Steward.World) text,
      OnRecord env service { w₁ with files := Function.update w₁.files path (some text) } :=
    fun w₁ text ↦ ⟨path, text, hpath, Function.update_self ..⟩
  rcases hfile : w'.files path with _ | old
  · have hnone : ∀ o, (w'.sent (.recordKey service) o).files path = none := fun _ ↦ hfile
    rcases t.outcome with _ | _ | _ <;> simp only [hnone]
    · exact ⟨hsent _, of_ok_eq_error, fun _ _ ↦ hnew _ pem⟩
    · split
      · exact ⟨hsent _, fun _ _ ↦ hfailed _ (by decide), of_error_eq_ok⟩
      · exact ⟨hsent _, fun _ _ ↦ hfailed _ (by decide), of_error_eq_ok⟩
    · exact ⟨hsent _, fun _ _ ↦ hfailed _ (by decide), of_error_eq_ok⟩
  · have hsome : ∀ o, (w'.sent (.recordKey service) o).files path = some old := fun _ ↦ hfile
    rcases t.outcome with _ | _ | _ <;> simp only [hsome]
    · exact ⟨hsent _, of_ok_eq_error, fun _ _ ↦ ⟨path, old, hpath, hfile⟩⟩
    · exact ⟨hsent _, of_ok_eq_error, fun _ _ ↦ ⟨path, old, hpath, hfile⟩⟩
    · exact ⟨hsent _, fun _ _ ↦ hfailed _ (by decide), of_error_eq_ok⟩

/-- The key of a new client: it is the one on record or a new one, and a new one is on record. -/
theorem wp_clientKey_reported {path pem : String} {hadKey : Bool} {service : String}
    (hpath : keyPath env service = .ok path) (hsince : Since w w') (hfiles : w'.files = w.files)
    (hminted : w'.minted = w.minted)
    (hpem : w.files path = if hadKey then some pem else none) (hnone : hadKey = false → pem = "") :
    (clientKey env service pem).wp (fun r w₁ ↦ Since w w₁ ∧ (∀ e, r = .error e → Erred w w₁) ∧
      ∀ key generated, r = .ok (key, generated) →
        key = keyFor env w path ∧ (generated = true → OnRecord env service w₁)) w' := by
  rw [clientKey]
  split
  · rename_i hne
    have hhad : hadKey = true := by
      rcases hadKey with _ | _
      · exact absurd (hnone rfl) hne
      · rfl
    refine wp_pure.mpr ⟨hsince, of_ok_eq_error, ?_⟩
    rintro _ _ ⟨⟩
    refine ⟨?_, fun h ↦ absurd h (by decide)⟩
    rw [keyFor, hpem, if_pos hhad]
    exact (if_pos hne).symm
  rename_i hempty
  have hnew : keyFor env w path = env.keys.pem w.minted := by
    rw [keyFor, hpem]
    refine if_neg (fun hne ↦ hempty ?_)
    cases hadKey with
    | false => exact absurd rfl hne
    | true => exact hne
  have hgenerate : (generateClientKey env).wp (fun r w₁ ↦ Since w w₁ ∧
      (∀ e, r = .error e → Erred w w₁) ∧ w₁.files = w.files ∧
      ∀ key, r = .ok key → key = env.keys.pem w.minted) w' := by
    refine wp_perform (fun _ ↦ ⟨?_, of_ok_eq_error, hfiles, ?_⟩)
      (fun _ ↦ ⟨?_, fun _ _ ↦ ?_, hfiles, of_error_eq_ok⟩)
      fun e ↦ ⟨?_, fun _ _ ↦ ?_, hfiles, of_error_eq_ok⟩
    · exact hsince.sent _ _
    · rintro _ ⟨⟩
      exact congrArg env.keys.pem hminted
    · exact hsince.sent _ _
    · exact hsince.erred _ (by decide)
    · exact hsince.sent _ _
    · exact hsince.erred _ (by decide)
  refine hgenerate.bind ?_
  rintro (e | key) w₁ ⟨hsince, herred, hfiles, hkey⟩
  · exact wp_pure.mpr ⟨hsince, fun _ _ ↦ herred e rfl, by rintro _ _ ⟨⟩⟩
  refine (wp_record_reported hpath hsince key).bind ?_
  rintro (e | _) w₂ ⟨hsince, herred, hrecorded⟩
  · exact wp_pure.mpr ⟨hsince, fun _ _ ↦ herred e rfl, by rintro _ _ ⟨⟩⟩
  · refine wp_pure.mpr ⟨hsince, of_ok_eq_error, ?_⟩
    rintro _ _ ⟨⟩
    exact ⟨(hkey key rfl).trans hnew.symm, fun _ ↦ hrecorded ⟨⟩ rfl⟩

/-- What is put down for a client, and that a new key is on record. -/
def ClientReported (env : Steward.Env) (a : Applier) (w : Steward.World) (name : String)
    (spec : ServiceClientSpec) (r : Applier × Option GeneratedClient) (w' : Steward.World) : Prop :=
  Reported a w "ServiceClient" name (Excuse env a w name (.serviceClient spec)) r.1 w' ∧
    ∀ gc, r.2 = some gc → gc.privateKeyPEM ≠ "" → OnRecord env spec.service w'

theorem clientReported_none {spec : ServiceClientSpec} {a' : Applier}
    (h : Reported a w "ServiceClient" name (Excuse env a w name (.serviceClient spec)) a' w') :
    ClientReported env a w name spec (a', none) w' :=
  ⟨h, by rintro _ ⟨⟩⟩

/-- A registration that failed, and its key. -/
theorem wp_rollBack_reported (spec : ServiceClientSpec) (herred : Erred w w') (generated : Bool)
    (error : String) : (rollBack env a name spec.service generated error).wp
      (ClientReported env a w name spec) w' := by
  rw [rollBack]
  split
  · have hdiscard : (Steward.discard env spec.service).wp (fun _ w₁ ↦ Erred w w₁) w' := by
      rw [Steward.discard]
      split
      · exact wp_pure.mpr herred
      · refine wp_perform (fun _ ↦ ?_) (fun _ ↦ ?_) fun _ ↦ ?_ <;> exact herred.sent _ _
    refine hdiscard.bind fun _ w₁ herred ↦ ?_
    exact wp_pure.mpr (clientReported_none (reported_fail rfl herred.since (Or.inl herred) error))
  · exact wp_pure.mpr (clientReported_none (reported_fail rfl herred.since (Or.inl herred) error))

theorem wp_registerClient_reported {spec : ServiceClientSpec} {path key : String}
    {generated : Bool} (hpath : keyPath env spec.service = .ok path) (hsince : Since w w')
    (hclient : (findNamed AuthClient.name name w.auth.clients).isSome = false)
    (hkey : key = keyFor env w path)
    (hrecorded : generated = true → OnRecord env spec.service w') :
    (registerClient env a name spec key generated).wp (ClientReported env a w name spec) w' := by
  rw [registerClient]
  split
  · rename_i e hrequest
    have hexcuse : Excuse env a w name (.serviceClient spec) :=
      Or.inr (Or.inr ⟨path, hpath, Or.inr ⟨hclient, e, hkey ▸ hrequest⟩⟩)
    exact wp_pure.mpr (clientReported_none (reported_fail rfl hsince (Or.inr hexcuse) e))
  rename_i cfg _
  have hcreate : (createClient name spec.service cfg).wp (fun r w₁ ↦ Since w w₁ ∧
      (∀ e, r = .error e → Erred w w₁) ∧ w₁.files = w'.files) w' :=
    wp_perform (fun _ ↦ ⟨hsince.sent _ _, of_ok_eq_error, rfl⟩)
      (fun _ ↦ ⟨hsince.sent _ _, fun _ _ ↦ hsince.erred _ (by decide), rfl⟩)
      fun _ ↦ ⟨hsince.sent _ _, fun _ _ ↦ hsince.erred _ (by decide), rfl⟩
  refine hcreate.bind ?_
  rintro (e | client) w₁ ⟨hsince, herred, hfiles⟩
  · exact wp_rollBack_reported spec (herred e rfl) generated e
  · refine wp_pure.mpr ⟨reported_record rfl hsince (by decide), ?_⟩
    rintro _ ⟨⟩ hpem
    obtain ⟨path, pem, hpath, hfile⟩ := hrecorded (by
      rcases generated with _ | _
      · exact absurd rfl hpem
      · rfl)
    exact ⟨path, pem, hpath, by rw [hfiles]; exact hfile⟩

/-- The key that is on record, if there is one. -/
theorem wp_privateKey_reported {path service : String} (hpath : keyPath env service = .ok path)
    (hsince : Since w w') : (privateKey env service).wp (fun r w₁ ↦ Since w w₁ ∧
      (∀ e, r = .error e → Erred w w₁) ∧ w₁.files = w'.files ∧ w₁.minted = w'.minted ∧
      ∀ pem hadKey, r = .ok (pem, hadKey) →
        w'.files path = (if hadKey then some pem else none) ∧ (hadKey = false → pem = "")) w' := by
  rw [privateKey, hpath]
  refine wp_looked.bind ?_
  rintro (e | _ | pem) _ ⟨o, rfl, hread, hfailed⟩
  · refine wp_pure.mpr ⟨hsince.sent _ o, fun _ _ ↦ hsince.erred _ (hfailed e rfl), rfl, rfl, ?_⟩
    rintro _ _ ⟨⟩
  · refine wp_pure.mpr ⟨hsince.sent _ o, of_ok_eq_error, rfl, rfl, ?_⟩
    rintro _ _ ⟨⟩
    exact ⟨(hread _ rfl).symm, fun _ ↦ rfl⟩
  · refine wp_pure.mpr ⟨hsince.sent _ o, of_ok_eq_error, rfl, rfl, ?_⟩
    rintro _ _ ⟨⟩
    exact ⟨(hread _ rfl).symm, fun h ↦ absurd h (by decide)⟩

theorem wp_ensureServiceClient_reported (a : Applier) (w : Steward.World) (name : String)
    (spec : ServiceClientSpec) :
    (ensureServiceClient env a name spec).wp (fun r w' ↦ ClientReported env a w name spec r w' ∧
      (a.Lacks (.serviceClient spec) → r.2 = none ∧ w' = w)) w := by
  rw [ensureServiceClient]
  rcases hid : a.serviceIDs.lookup spec.service with _ | serviceID
  · have hlacks : a.Lacks (.serviceClient spec) := ⟨spec.service, rfl, hid⟩
    refine wp_pure.mpr ⟨clientReported_none ?_, fun _ ↦ ⟨rfl, rfl⟩⟩
    exact reported_fail rfl (Since.refl w) (Or.inr (Or.inl hlacks)) _
  refine wp_resolved (.serviceClient spec) rfl hid ?_
  refine wp_looked.bind ?_
  rintro (e | existing) _ ⟨o, rfl, hfound, hfailed⟩
  · have herred : Erred w (w.sent (.listClients name) o) :=
      (Since.refl w).erred _ (hfailed e rfl)
    exact wp_pure.mpr
      (clientReported_none (reported_fail rfl herred.since (Or.inl herred) e))
  have hsince : Since w (w.sent (.listClients name) o) := (Since.refl w).sent _ o
  rcases hpath : keyPath env spec.service with e | path
  · have hexcuse : Excuse env a w name (.serviceClient spec) := Or.inr (Or.inl ⟨e, hpath⟩)
    rw [privateKey, hpath]
    exact wp_pure.mpr (clientReported_none (reported_fail rfl hsince (Or.inr hexcuse) e))
  refine (wp_privateKey_reported hpath hsince).bind ?_
  rintro (e | ⟨pem, hadKey⟩) w₁ ⟨hsince, herred, hfiles, hminted, hread⟩
  · exact wp_pure.mpr
      (clientReported_none (reported_fail rfl hsince (Or.inl (herred e rfl)) e))
  obtain ⟨hfile, hnone⟩ := hread pem hadKey rfl
  rcases existing with _ | client
  · refine (wp_clientKey_reported hpath hsince hfiles hminted hfile hnone).bind ?_
    rintro (e | ⟨key, generated⟩) w₂ ⟨hsince, herred, hkey⟩
    · exact wp_pure.mpr
        (clientReported_none (reported_fail rfl hsince (Or.inl (herred e rfl)) e))
    · obtain ⟨hkey, hrecorded⟩ := hkey key generated rfl
      have hclient := congrArg Option.isSome (hfound none rfl).symm
      exact wp_registerClient_reported hpath hsince hclient hkey hrecorded
  · rcases hadKey with _ | _
    · have hexcuse : Excuse env a w name (.serviceClient spec) := by
        refine Or.inr (Or.inr ⟨path, hpath, Or.inl ⟨?_, hfile⟩⟩)
        exact congrArg Option.isSome (hfound (some client) rfl).symm
      exact wp_pure.mpr (clientReported_none (reported_fail rfl hsince (Or.inr hexcuse) _))
    · refine wp_pure.mpr ⟨reported_record rfl hsince (by decide), ?_⟩
      rintro _ ⟨⟩ hpem
      exact absurd rfl hpem

end Reported

/-! ## Recording again -/

/-- The call was the recording of a key that was on record, and was refused. -/
def refusesRecorded (env : Steward.Env) (w : Steward.World) (s : Sent) : Bool :=
  match s.call, s.outcome with
  | .recordKey service, .refused =>
    match keyPath env service with
    | .error _ => false
    | .ok path => (w.files path).isSome
  | _, _ => false

/-- A key that is on record can be recorded again. -/
def Rerecords (env : Steward.Env) (_ : Turnout) (w w' : Steward.World) : Prop :=
  w'.calls.head?.any (refusesRecorded env w) = false

instance (env : Steward.Env) (t : Turnout) (w w' : Steward.World) :
    Decidable (Rerecords env t w w') :=
  inferInstanceAs (Decidable (_ = false))

section Pass

variable {env : Steward.Env} {a : Applier} {w w' : Steward.World} {name : String}

theorem wpAlong_record {service pem : String} (h : OnRecord env service w) :
    (Steward.record env service pem).wpAlong (Rerecords env)
      (fun r w' ↦ (∃ o, w' = w.sent (.recordKey service) o) ∧ ∃ u, r = .ok u) w := by
  obtain ⟨path, old, hpath, hfile⟩ := h
  rw [Steward.record, hpath]
  refine wpAlong_once.mpr fun t ht ↦ ?_
  have hsome : ∀ o, (w.sent (.recordKey service) o).files path = some old := fun _ ↦ hfile
  rcases hout : t.outcome with _ | _ | _ <;> simp only [hout, hsome] at ht ⊢
  · exact ⟨⟨_, rfl⟩, ⟨⟩, trivial⟩
  · exact ⟨⟨_, rfl⟩, ⟨⟩, trivial⟩
  · have hrefused : refusesRecorded env w ⟨.recordKey service, .refused⟩ = true := by
      simp only [refusesRecorded, hpath, hfile, Option.isSome_some]
    rw [Rerecords, World.sent, List.head?_cons, Option.any_some, hrefused] at ht
    cases ht

theorem Reported.sent {kind : String} {excuse : Prop} {a' : Applier}
    (h : Reported a w kind name excuse a' w') (c : Steward.Call) (o : Maintainerd.Outcome) :
    Reported a w kind name excuse a' (w'.sent c o) := by
  obtain ⟨out, hout, hkind, hname, hsince, hfailed⟩ := h
  exact ⟨out, hout, hkind, hname, hsince.sent c o, fun h ↦ (hfailed h).imp_left (·.sent c o)⟩

/-! ## The pass, object by object -/

/-- What an object leaves behind, in a pass that goes on. -/
structure Applied (env : Steward.Env) (a : Applier) (w : Steward.World) (name : String)
    (spec : Spec) (r : Applier × Steward.Report × Option String) (w' : Steward.World) : Prop where
  reported : Reported a w spec.kind name (Excuse env a w name spec) r.1 w'
  untouched : a.Lacks spec → w' = w
  goesOn : r.2.2 = none

/-- The applier returns no error to the pass. -/
theorem wpAlong_swallowed {A : Turnout → Steward.World → Steward.World → Prop} {x : Script Applier}
    {P : Applier → Steward.World → Prop} (h : x.wpAlong A P w) :
    Dialogue.wpAlong A (do
      let a ← x
      pure (a, (.ok ⟨⟩ : Except String PUnit)) : Script (Applier × Except String PUnit))
      (fun r w' ↦ P r.1 w' ∧ r.2 = .ok ⟨⟩) w :=
  h.bind fun _ _ h ↦ wpAlong_pure.mpr ⟨h, rfl⟩

/-- The second recording of a new key goes through. -/
theorem wpAlong_recordGenerated {spec : ServiceClientSpec} (rep : Steward.Report)
    {gc : Option GeneratedClient}
    (h : ∀ x, gc = some x → x.privateKeyPEM ≠ "" → OnRecord env spec.service w) :
    (recordGenerated env spec rep gc).wpAlong (Rerecords env)
      (fun r w' ↦ r.2 = none ∧ (w' = w ∨
        gc ≠ none ∧ ∃ o, w' = w.sent (.recordKey spec.service) o)) w := by
  rcases gc with _ | gc
  · exact wpAlong_pure.mpr ⟨rfl, Or.inl rfl⟩
  rw [recordGenerated]
  split
  · exact wpAlong_pure.mpr ⟨rfl, Or.inl rfl⟩
  · rename_i hpem
    refine (wpAlong_record (h gc rfl hpem)).bind ?_
    rintro _ w' ⟨⟨o, rfl⟩, u, rfl⟩
    exact wpAlong_pure.mpr ⟨rfl, Or.inr ⟨Option.some_ne_none gc, o, rfl⟩⟩

theorem wpAlong_applyObject (a : Applier) (rep : Steward.Report) (name : String) {spec : Spec}
    (hactions : ∀ policy, spec = .servicePolicy policy →
      validatePolicyActions policy.allowedActions = none) (w : Steward.World) :
    (applyObject env (applier env) a rep name spec).wpAlong (Rerecords env)
      (Applied env a w name spec) w := by
  cases spec with
  | service spec =>
    refine (wpAlong_swallowed (wp_ensureService_reported a w name spec).along).bind ?_
    rintro ⟨a', _⟩ w' ⟨hreported, rfl⟩
    refine wpAlong_pure.mpr ⟨hreported, ?_, rfl⟩
    rintro ⟨service, ⟨⟩, -⟩
  | resourceAPI spec =>
    refine (wpAlong_swallowed (wp_ensureResourceAPI_reported a w name spec).along).bind ?_
    rintro ⟨a', _⟩ w' ⟨⟨hreported, huntouched⟩, rfl⟩
    exact wpAlong_pure.mpr ⟨hreported, huntouched, rfl⟩
  | serviceClient spec =>
    have hclient : ((applier env).ensureServiceClient a name spec).wp
        (fun r w' ↦ ∃ gc, r.2 = .ok gc ∧ ClientReported env a w name spec (r.1, gc) w' ∧
          (a.Lacks (.serviceClient spec) → gc = none ∧ w' = w)) w := by
      refine (wp_ensureServiceClient_reported a w name spec).bind ?_
      rintro ⟨a', gc⟩ w' h
      exact wp_pure.mpr ⟨gc, rfl, h⟩
    refine hclient.along.bind ?_
    rintro ⟨a', _⟩ w₁ ⟨gc, rfl, ⟨hreported, hrecorded⟩, huntouched⟩
    refine (wpAlong_recordGenerated _ hrecorded).bind ?_
    rintro ⟨rep', _⟩ w₂ ⟨rfl, rfl | ⟨hgc, o, rfl⟩⟩
    · exact wpAlong_pure.mpr ⟨hreported, fun hlacks ↦ (huntouched hlacks).2, rfl⟩
    · refine wpAlong_pure.mpr ⟨hreported.sent _ o, fun hlacks ↦ ?_, rfl⟩
      exact absurd (huntouched hlacks).1 hgc
  | servicePolicy spec =>
    rw [applyObject, hactions spec rfl]
    refine (wpAlong_swallowed (wp_ensureServicePolicy_reported a w name spec).along).bind ?_
    rintro ⟨a', _⟩ w' ⟨⟨hreported, huntouched⟩, rfl⟩
    exact wpAlong_pure.mpr ⟨hreported, huntouched, rfl⟩

/-- What the pass does for one object. -/
structure Visit where
  object : Object
  spec : Spec
  before : Applier
  worldBefore : Steward.World
  worldAfter : Steward.World

/-- The calls made for the object, the latest first. -/
def Visit.sent (v : Visit) : List Sent :=
  v.worldAfter.calls.take (v.worldAfter.calls.length - v.worldBefore.calls.length)

/-- A run of the loop of `Reconcile`, object by object. -/
def visits (env : Steward.Env) :
    List Object → Applier → Steward.Report → List Turnout → Steward.World → List Visit
  | [], _, _, _, _ => []
  | obj :: objs, a, rep, ts, w =>
    match obj.spec with
    | none => []
    | some spec =>
      let (w', (a', rep', _), ts') := (applyObject env (applier env) a rep obj.name spec).exec ts w
      ⟨obj, spec, a, w, w'⟩ :: visits env objs a' rep' ts' w'

/-- The outcome tells what happened to the object: it has its kind and name, it is a failure only if
one of the calls made for the object was not answered or there is an excuse, and no call was made if
the object's service was not resolved. -/
structure Visit.Accounts (env : Steward.Env) (v : Visit) (o : Outcome) : Prop where
  kind : o.kind = v.object.kind
  name : o.name = v.object.name
  failed : o.status = .failed →
    (∃ s ∈ v.sent, s.outcome ≠ .answered) ∨ Excuse env v.before v.worldBefore v.object.name v.spec
  untouched : v.before.Lacks v.spec → v.sent = []

theorem Visit.sent_of_calls {v : Visit} {sent : List Sent}
    (h : v.worldAfter.calls = sent ++ v.worldBefore.calls) : v.sent = sent := by
  rw [Visit.sent, h, List.length_append, Nat.add_sub_cancel, List.take_left]

/-- The outcome of an object accounts for it. -/
theorem Applied.accounts {obj : Object} {spec : Spec} (hobj : obj.InOrder spec)
    {r : Applier × Steward.Report × Option String} (h : Applied env a w obj.name spec r w') :
    ∃ o, r.1.outcomes = a.outcomes ++ [o] ∧
      w'.calls = Visit.sent ⟨obj, spec, a, w, w'⟩ ++ w.calls ∧
      Visit.Accounts env ⟨obj, spec, a, w, w'⟩ o := by
  obtain ⟨o, hout, hkind, hname, ⟨sent, hsent⟩, hfailed⟩ := h.reported
  have hown : Visit.sent ⟨obj, spec, a, w, w'⟩ = sent := Visit.sent_of_calls hsent
  refine ⟨o, hout, by rw [hown]; exact hsent, hkind.trans hobj.kind.symm, hname, ?_, ?_⟩
  · intro hstatus
    rcases hfailed hstatus with ⟨sent', hsent', s, hs, herred⟩ | hexcuse
    · rw [Visit.sent_of_calls hsent']
      exact Or.inl ⟨s, hs, herred⟩
    · exact Or.inr hexcuse
  · intro hlacks
    obtain rfl := h.untouched hlacks
    exact Visit.sent_of_calls rfl

/-- **The loop, object by object.** -/
theorem exec_reconcileFrom (objs : List Object) (hobjs : ∀ obj ∈ objs, ∃ spec, obj.InOrder spec)
    (i : ℕ) (a : Applier) (rep : Steward.Report) (ts : List Turnout) (w : Steward.World)
    (hts : (reconcileFrom env (applier env) i objs a rep).Along (Rerecords env) ts w) :
    let run := (reconcileFrom env (applier env) i objs a rep).exec ts w
    let vs := visits env objs a rep ts w
    run.2.1.2.2 = none ∧ vs.map Visit.object = objs ∧
      run.1.calls = vs.reverse.flatMap Visit.sent ++ w.calls ∧
      ∃ os, run.2.1.1.outcomes = a.outcomes ++ os ∧ List.Forall₂ (Visit.Accounts env) vs os := by
  induction objs generalizing i a rep ts w with
  | nil => exact ⟨rfl, rfl, rfl, [], (List.append_nil _).symm, .nil⟩
  | cons obj objs ih =>
    obtain ⟨spec, hobj⟩ := hobjs obj List.mem_cons_self
    rw [reconcileFrom, hobj.check env i] at hts ⊢
    rw [visits, hobj.specified]
    obtain ⟨hfirst, hrest⟩ := along_bind.mp hts
    have happlied := exec_of_wpAlong
      (wpAlong_applyObject a rep obj.name hobj.actions w) hfirst
    dsimp only
    rw [exec_bind]
    rcases hexec : (applyObject env (applier env) a rep obj.name spec).exec ts w with
      ⟨w', ⟨a', rep', failed⟩, ts'⟩
    rw [hexec] at happlied hrest
    obtain ⟨o, hout, hcalls, haccounts⟩ := happlied.accounts hobj
    obtain rfl : failed = none := happlied.goesOn
    obtain ⟨hgoesOn, hobjects, hall, os, houts, haccount⟩ :=
      ih (fun obj hobj ↦ hobjs obj (List.mem_cons_of_mem _ hobj)) (i + 1) a' rep' ts' w' hrest
    refine ⟨hgoesOn, ?_, ?_, o :: os, ?_, .cons haccounts haccount⟩
    · rw [List.map_cons, hobjects]
    · rw [List.reverse_cons, List.flatMap_append, List.append_assoc, List.flatMap_singleton]
      exact hall.trans (congrArg _ hcalls)
    · rw [List.append_cons, ← hout]
      exact houts

end Pass

theorem forall₂_names {env : Steward.Env} {vs : List Visit} {os : List Outcome}
    (h : List.Forall₂ (Visit.Accounts env) vs os) :
    os.map (fun o ↦ (o.kind, o.name)) =
      (vs.map Visit.object).map fun obj ↦ (obj.kind, obj.name) := by
  induction h with
  | nil => rfl
  | cons haccounts _ ih => rw [List.map_cons, List.map_cons, List.map_cons, ih, haccounts.kind,
      haccounts.name]

/-- **Nothing is missing from a report, and nothing is in it without a reason.**  Take a pass over
any catalogue whose objects pass the checks of `Reconcile`, with calls that end in any way, except
that a key on record can be recorded again.  The pass goes through.  Its report has one outcome for
each object, in the order of the catalogue and with the object's kind and name, and its counts add
up.  Every call of the pass was made for one of the objects; an object is reported as failed only if
a call made for it was not answered or there is an excuse; and none is made for an object whose
service was not resolved before it. -/
theorem report_conserved (env : Steward.Env) (catalog : List Object)
    (hcatalog : ∀ obj ∈ catalog, ∃ spec, obj.InOrder spec) (ts : List Turnout) (w : Steward.World)
    (hts : (runPass env catalog).Along (Rerecords env) ts w) :
    let run := (runPass env catalog).exec ts w
    let report := run.2.1.1
    let vs := visits env catalog {} {} ts w
    run.2.1.2 = none ∧
      report.outcomes.map (fun o ↦ (o.kind, o.name)) =
        catalog.map (fun obj ↦ (obj.kind, obj.name)) ∧
      report.created + report.ensured + report.failed = report.outcomes.length ∧
      vs.map Visit.object = catalog ∧ run.1.calls = vs.reverse.flatMap Visit.sent ++ w.calls ∧
      List.Forall₂ (Visit.Accounts env) vs report.outcomes := by
  intro run report vs
  obtain ⟨hpass, -⟩ := along_bind.mp hts
  obtain ⟨hgoesOn, hobjects, hcalls, os, houts, haccount⟩ :=
    exec_reconcileFrom catalog hcatalog 0 {} {} ts w hpass
  have hrun : run = _ := exec_runPass env catalog ts w
  have houtcomes : report.outcomes = os := by
    show run.2.1.1.outcomes = os
    rw [hrun, ← List.nil_append os, ← houts]
    dsimp only [pass, reconcile]
    rw [hgoesOn]
    rfl
  refine ⟨?_, ?_, ?_, hobjects, ?_, ?_⟩
  · rw [hrun]
    exact hgoesOn
  · rw [houtcomes, forall₂_names haccount, hobjects]
  · show run.2.1.1.created + run.2.1.1.ensured + run.2.1.1.failed = run.2.1.1.outcomes.length
    rw [hrun]
    exact runReport_add _ _ _
  · rw [hrun]
    exact hcalls
  · rw [houtcomes]
    exact haccount

/-- The catalogue with an API of a service that it does not have. -/
def strayCatalog : List Object :=
  secretCatalog ++ [⟨apiVersion, "ResourceAPI", "stray-api", some (.resourceAPI ⟨"stray", []⟩)⟩]

/-- The client is refused: it is reported as failed, and so is the API, for which no call is
made. -/
theorem report_conserved_refused :
    let run := (runPass plainSteward strayCatalog).exec (failingAt 7 .refused) .empty
    let vs := visits plainSteward strayCatalog {} {} (failingAt 7 .refused) .empty
    run.2.1.1.outcomes.map Outcome.status = [.created, .failed, .failed] ∧
      run.2.1.1.failed = 2 ∧ (vs.map fun v ↦ v.sent.length) = [3, 6, 0] ∧
      List.Forall₂ (Visit.Accounts plainSteward) vs run.2.1.1.outcomes := by
  intro run vs
  have hcatalog : ∀ obj ∈ strayCatalog, ∃ spec, obj.InOrder spec := by
    simp only [strayCatalog, secretCatalog, List.cons_append, List.nil_append, List.forall_mem_cons]
    refine ⟨⟨_, rfl, by decide, rfl, rfl, ?_⟩, ⟨_, rfl, by decide, rfl, rfl, ?_⟩,
      ⟨_, rfl, by decide, rfl, rfl, ?_⟩, List.forall_mem_nil _⟩
    all_goals rintro _ ⟨⟩
  obtain ⟨-, -, -, -, -, haccount⟩ := report_conserved plainSteward strayCatalog hcatalog
    (failingAt 7 .refused) .empty (by decide)
  exact ⟨by decide, by decide, by decide, haccount⟩

end Maintainerd.Authctrl

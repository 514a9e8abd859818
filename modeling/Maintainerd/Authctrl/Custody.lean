import Maintainerd.Authctrl.Applier
import Maintainerd.Lib.Run
import Maintainerd.Steward.Custody

/-!
# The keys of the clients registered after setup

A pass of the applier of `internal/authctrl` keeps the invariant `Custody`, whatever its calls come
to.  Only `EnsureServiceClient` touches clients and keys, and of its steps only the last one is
delicate: when `CreateClient` fails, a key that was generated for the client is discarded, on the
assumption that Auth has not accepted the client.  The error does not say that.  If the client was
created and only the answer was lost, its key is gone.

`keys_held_iff` says that this is the only way to lose a key, and `registered_key_discarded` is the
pass that does.
-/

set_option autoImplicit false

namespace Maintainerd.Authctrl

open Steward Dialogue Machine

variable {env : Steward.Env} {w : Steward.World}

/-! ## Services, APIs and policies

None of their calls is about clients or keys. -/

theorem each_converge (name : String) (spec : ServiceSpec) :
    (converge env name spec).Each Aside := by
  rw [converge]
  split
  · exact each_pure
  · exact each_look rfl

theorem each_serviceApplied (a : Applier) (name : String) (spec : ServiceSpec)
    (service : AuthService) (status : Status) :
    (serviceApplied env a name spec service status).Each Aside := by
  refine (each_converge name spec).bind ?_
  rintro (e | _)
  · exact each_pure
  · exact each_pure

theorem each_ensureService (a : Applier) (name : String) (spec : ServiceSpec) :
    (ensureService env a name spec).Each Aside := by
  refine (each_look rfl).bind ?_
  rintro (e | _ | service)
  · exact each_pure
  · refine (each_aside rfl fun _ _ ↦ ⟨rfl, rfl⟩).bind ?_
    rintro (e | service)
    · exact each_pure
    · exact each_serviceApplied a name spec service .created
  · exact each_serviceApplied a name spec service .ensured

theorem each_createMissing (apiID : ℕ) (present want : List String) (created : ℕ) :
    (createMissing env apiID present want created).Each Aside := by
  induction want generalizing created with
  | nil => exact each_pure
  | cons name want ih =>
    rw [createMissing]
    split
    · exact ih created
    · refine (each_aside rfl fun _ _ ↦ ⟨rfl, rfl⟩).bind ?_
      rintro (e | _)
      · exact each_pure
      · exact ih (created + 1)

theorem each_apiApplied (a : Applier) (name : String) (spec : ResourceAPISpec) (api : AuthAPI)
    (status : Status) : (apiApplied env a name spec api status).Each Aside := by
  have hpermissions : (ensurePermissions env api.apiID spec.permissions).Each Aside := by
    rw [ensurePermissions]
    split
    · exact each_pure
    · refine (each_look rfl).bind ?_
      rintro (e | present)
      · exact each_pure
      · exact each_createMissing api.apiID present spec.permissions 0
  refine hpermissions.bind ?_
  rintro (e | created)
  · exact each_pure
  · exact each_pure

theorem each_ensureResourceAPI (a : Applier) (name : String) (spec : ResourceAPISpec) :
    (ensureResourceAPI env a name spec).Each Aside := by
  rw [ensureResourceAPI]
  split
  · exact each_pure
  refine (each_look rfl).bind ?_
  rintro (e | _ | api)
  · exact each_pure
  · refine (each_aside rfl fun _ _ ↦ ⟨rfl, rfl⟩).bind ?_
    rintro (e | api)
    · exact each_pure
    · exact each_apiApplied a name spec api .created
  · exact each_apiApplied a name spec api .ensured

theorem each_policyApplied (a : Applier) (name : String) (serviceID : ℕ) (policy : AuthPolicy)
    (status : Status) : (policyApplied a name serviceID policy status).Each Aside := by
  refine (each_aside rfl fun _ _ ↦ ⟨rfl, rfl⟩).bind ?_
  rintro (e | _)
  · exact each_pure
  · exact each_pure

theorem each_ensureServicePolicy (a : Applier) (name : String) (spec : ServicePolicySpec) :
    (ensureServicePolicy env a name spec).Each Aside := by
  rw [ensureServicePolicy]
  split
  · exact each_pure
  split
  · exact each_pure
  refine (each_look rfl).bind ?_
  rintro (e | _ | policy)
  · exact each_pure
  · simp only
    split
    · exact each_pure
    · refine (each_aside rfl fun _ _ ↦ ⟨rfl, rfl⟩).bind ?_
      rintro (e | policy)
      · exact each_pure
      · exact each_policyApplied a name _ policy .created
  · exact each_policyApplied a name _ policy .ensured

/-! ## Service clients -/

/-- A request carries the key set of the private key. -/
theorem clientRequest_jwks {spec : ServiceClientSpec} {pem : String} {cfg : ClientConfig}
    (h : clientRequest env spec pem = .ok cfg) :
    env.keys.jwksFromPrivatePEM pem = some cfg.jwks := by
  rw [clientRequest] at h
  split at h
  · cases h
  · rename_i jwks hjwks
    rw [clientConfig] at h
    split at h
    · cases h
    simp only at h
    split at h
    · cases h
    · cases h
      exact hjwks

/-- No key is handed back. -/
theorem wp_noClient {P : GeneratedClient → Steward.World → Prop} (h : Custody env w)
    (a : Applier) : Dialogue.wp (pure (a, none) : Script (Applier × Option GeneratedClient))
      (fun r w' ↦ Custody env w' ∧ ∀ gc, r.2 = some gc → P gc w') w := by
  refine wp_pure.mpr ⟨h, ?_⟩
  rintro gc ⟨⟩

/-- The rollback after a `CreateClient` that failed. -/
theorem wp_rollBack {P : GeneratedClient → Steward.World → Prop} (h : Custody env w) (a : Applier)
    (name : String) {service path : String} {generated : Bool} {error : String}
    (hpath : keyPath env service = .ok path)
    (hremoved : generated = true → ∀ o, o ≠ .refused →
      Custody env { w.sent (.discardKey service) o with
        files := Function.update w.files path none }) :
    (rollBack env a name service generated error).wp
      (fun r w' ↦ Custody env w' ∧ ∀ gc, r.2 = some gc → P gc w') w := by
  rw [rollBack]
  split
  · rename_i hgenerated
    have hremoved := hremoved hgenerated
    rw [Steward.discard, hpath]
    exact wp_bind.mpr (wp_perform (fun _ ↦ wp_noClient (hremoved .answered (by decide)) _)
      (fun _ ↦ wp_noClient (hremoved .lost (by decide)) _) fun _ ↦ wp_noClient (h.sent rfl) _)
  · exact wp_noClient h _

/-- **Registering a client keeps the invariant**, and a key that comes back is on record. -/
theorem wp_registerClient (h : Custody env w) (a : Applier) (name : String)
    (spec : ServiceClientSpec) {pem : String} {generated : Bool}
    (hkey : KeyChosen env w spec.service pem generated) :
    (registerClient env a name spec pem generated).wp (fun r w' ↦ Custody env w' ∧
      ∀ gc, r.2 = some gc → OnRecord env spec.service w') w := by
  rw [registerClient]
  split
  · exact wp_noClient h _
  rename_i cfg hcfg
  obtain ⟨path, hpath, hfile⟩ := hkey.onFile
  have hcommitted : ∀ (t : Turnout) o, Custody env
      ((w.sent (.createClient name spec.service cfg.jwks) o).addClient t.place name spec.service
        cfg.jwks).1 := fun t o ↦
    (h.sent rfl).register t.place name ⟨path, pem, hpath, hfile, clientRequest_jwks hcfg⟩
  refine wp_bind.mpr (wp_perform (fun t ↦ ?_) (fun t ↦ ?_) fun e ↦ ?_)
  · exact wp_pure.mpr ⟨hcommitted t .answered, fun gc _ ↦ ⟨path, pem, hpath, hfile⟩⟩
  · -- the client is there, and core does not know
    refine wp_rollBack (hcommitted t .lost) a name hpath fun _ o ho ↦ ?_
    exact (hcommitted t .lost).abandon (mem_insertAt.mpr (Or.inl rfl)) hpath ho rfl
  · have hrefused : Custody env (w.sent (.createClient name spec.service cfg.jwks) .refused) :=
      h.sent rfl
    refine wp_rollBack hrefused a name hpath fun hgenerated o _ ↦ ?_
    obtain ⟨n, rfl, hnew⟩ := hkey.fresh hgenerated
    exact hrefused.free hfile hnew rfl

theorem wp_ensureServiceClient (h : Custody env w) (henv : env.wholeWrites = true) (a : Applier)
    (name : String) (spec : ServiceClientSpec) :
    (ensureServiceClient env a name spec).wp (fun r w' ↦ Custody env w' ∧
      ∀ gc, r.2 = some gc → gc.privateKeyPEM ≠ "" → OnRecord env spec.service w') w := by
  rw [ensureServiceClient]
  split
  · exact wp_noClient h _
  refine (wp_of_each (each_look rfl) h).bind ?_
  rintro (e | existing) w hw
  · exact wp_noClient hw _
  refine (wp_privateKey hw spec.service).bind ?_
  rintro (e | ⟨pem, hadKey⟩) w ⟨⟨hw, -⟩, hread⟩
  · exact wp_noClient hw _
  rcases existing with _ | client
  · refine (wp_clientKey hw henv (hread _ rfl)).bind ?_
    rintro (e | ⟨pem, generated⟩) w ⟨⟨hw, -⟩, hchosen⟩
    · exact wp_noClient hw _
    · exact (wp_registerClient hw a name spec (hchosen _ rfl)).mono
        fun r w hr ↦ ⟨hr.1, fun gc hgc _ ↦ hr.2 gc hgc⟩
  · simp only
    split
    · exact wp_noClient hw _
    · refine wp_pure.mpr ⟨hw, ?_⟩
      rintro gc ⟨⟩ hne
      exact absurd rfl hne

/-! ## Passes -/

theorem applier_keeps (henv : env.wholeWrites = true) :
    (applier env).Keeps env (Custody env) where
  service a name spec w hw :=
    (wp_of_each (each_ensureService a name spec) hw).bind fun _ _ h ↦ wp_pure.mpr h
  resourceAPI a name spec w hw :=
    (wp_of_each (each_ensureResourceAPI a name spec) hw).bind fun _ _ h ↦ wp_pure.mpr h
  serviceClient a name spec w hw := by
    refine (wp_ensureServiceClient hw henv a name spec).bind ?_
    rintro ⟨a, gc⟩ w ⟨hw, hrecord⟩
    exact wp_pure.mpr ⟨hw, fun x hx ↦ hrecord x (Except.ok.inj hx)⟩
  servicePolicy a name spec w hw :=
    (wp_of_each (each_ensureServicePolicy a name spec) hw).bind fun _ _ h ↦ wp_pure.mpr h

/-- The world after a pass: the catalogue it reconciles, and what its calls come to. -/
def passed (env : Steward.Env) (w : Steward.World) (p : List Object × List Turnout) :
    Steward.World :=
  ((pass env p.1).exec p.2 w).1

theorem custody_passed (henv : env.wholeWrites = true) (h : Custody env w)
    (p : List Object × List Turnout) : Custody env (passed env w p) :=
  exec_of_wp (reconcile_keeps (applier_keeps henv) (fun _ _ _ hw ↦ hw.sent rfl) {} p.1 h) p.2

/-- **A key is lost only by discarding it after its client was created.**  Start with no clients in
Auth and no key files, and let any number of passes be made, over any catalogues and with calls that
fail before or after they are committed.  Between the passes every client in Auth has its private
key on file if and only if no key was discarded after a `CreateClient` that was committed and whose
answer was lost. -/
theorem keys_held_iff (env : Steward.Env) (henv : env.wholeWrites = true)
    (ps : List (List Object × List Turnout)) :
    KeysHeld env (run (passed env) Steward.World.empty ps) ↔
      abandons (run (passed env) Steward.World.empty ps).calls = false :=
  (invariant_run ps (custody_empty env) fun _ p h ↦ custody_passed henv h p).keysHeld_iff

/-- The client is refused in the first pass and created in the second. -/
theorem keys_held_iff_refused :
    let w := run (passed plainSteward) Steward.World.empty
      [(secretCatalog, failingAt 7 .refused), (secretCatalog, [])]
    w.auth.clients = [⟨1, "secret-control", "secret", "kk"⟩] ∧ KeysHeld plainSteward w := by
  intro w
  exact ⟨by decide, (keys_held_iff plainSteward rfl _).mpr (by decide)⟩

/-- **A client whose key is discarded.**  `CreateClient` is committed and its answer is lost.  The
client is in Auth, its private key is not on file, and the next pass cannot do anything about it. -/
theorem registered_key_discarded :
    let w := passed plainSteward Steward.World.empty (secretCatalog, failingAt 7 .lost)
    w.auth.clients = [⟨1, "secret-control", "secret", "k"⟩] ∧ w.files "secret.pem" = none ∧
      ¬KeysHeld plainSteward w ∧
      ((pass plainSteward secretCatalog).exec [] w).2.1.1.outcomes.map Outcome.status =
        [.ensured, .failed] := by
  intro w
  have hclients : w.auth.clients = [⟨1, "secret-control", "secret", "k"⟩] := by decide
  have hfile : w.files "secret.pem" = none := by decide
  have hpath : keyPath plainSteward "secret" = .ok "secret.pem" := by decide
  refine ⟨hclients, hfile, fun h ↦ ?_, by decide⟩
  obtain ⟨path, pem, hpath', hpem, -⟩ := h _ (hclients ▸ List.mem_singleton_self _)
  obtain rfl : "secret.pem" = path := Except.ok.inj (hpath.symm.trans hpath')
  rw [hfile] at hpem
  cases hpem

end Maintainerd.Authctrl

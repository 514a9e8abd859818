import Maintainerd.Lib.Run
import Maintainerd.Steward.Custody

/-!
# The applier for the setup window

`authStewardApplier` of `internal/setup/steward.go` applies the catalogue while Auth's setup is
open.  Its clients are registered with `EnsureControlClient`, which gets or creates: Auth keeps the
key set of the first request it commits for a name, and says whether the client was there.

This applier rolls back on another ground than the one for the time after setup.  A failed call is
no reason to discard the key; only when Auth *answers* that the client was there, and no key was on
record when the call began, the key that was generated for it is discarded.  So the key of a client
that this applier registered is never discarded, whatever its calls come to
(`setup_window_keys_held`): when the file was missing, no client of this service was registered.

The display names and descriptions of the requests, and with them the specs of the services that are
remembered for them, are not here; nor is what Auth does for `EnsureResourceAPI` and
`RegisterControlService`, of which core looks at the error only.
-/

set_option autoImplicit false

namespace Maintainerd.SetupWindow

open Steward Dialogue Machine

/-! ## The applier -/

/-- `EnsureControlClient`: the client, and whether it was there. -/
def ensureControlClient (name service jwks : String) :
    Script (Except String (AuthClient × Bool)) :=
  perform (.ensureControlClient name service jwks) fun t w ↦
    match w.auth.clients.find? fun c ↦ c.name == name with
    | some client => (w, client, true)
    | none =>
      let added := w.addClient t.place name service jwks
      (added.1, added.2, false)

/-- `EnsureServiceClient` when Auth had the client and core had no key for it. -/
def clientWithoutKey (env : Steward.Env) (name service : String) (generated : Bool) :
    Script (Except String (Option GeneratedClient)) :=
  let error := "auth client " ++ env.quote name ++
    " already exists but no local private key was found for service " ++ env.quote service
  if generated then do
    let _ ← Steward.discard env service
    pure (.error error)
  else pure (.error error)

/-- `EnsureServiceClient`. -/
def ensureServiceClient (env : Steward.Env) (name : String) (spec : ServiceClientSpec) :
    Script (Except String (Option GeneratedClient)) := do
  match ← privateKey env spec.service with
  | .error e => pure (.error e)
  | .ok (pem, existed) =>
    match ← clientKey env spec.service pem with
    | .error e => pure (.error e)
    | .ok (pem, generated) =>
      match env.keys.jwksFromPrivatePEM pem with
      | none => pure (.error (env.keyError pem))
      | some jwks =>
        match ← ensureControlClient name spec.service jwks with
        | .error e => pure (.error e)
        | .ok (client, alreadyExisted) =>
          if alreadyExisted && !existed then clientWithoutKey env name spec.service generated
          else
            pure (.ok (some ⟨client.clientID,
              if !alreadyExisted && generated then pem else "", alreadyExisted⟩))

/-- The `steward.Applier` it implements. -/
def applier (env : Steward.Env) : Steward.Applier PUnit where
  ensureService a _ _ := pure (a, .ok ⟨⟩)
  ensureResourceAPI a name spec := do
    let done ← inquire (.ensureResourceAPI name spec.service) fun _ ↦ ⟨⟩
    pure (a, done)
  ensureServiceClient a name spec := do
    let done ← ensureServiceClient env name spec
    pure (a, done)
  ensureServicePolicy a name spec :=
    if spec.allowedActions.isEmpty then pure (a, .ok ⟨⟩)
    else do
      let done ← inquire (.registerControlService spec.service
        (firstNonEmpty [spec.policyName, name])) fun _ ↦ ⟨⟩
      pure (a, done)

/-- `reconcileSteward`, on a catalogue. -/
def reconcileSteward (env : Steward.Env) (catalog : List Object) :
    Script (PUnit × Report × Option String) :=
  reconcile env (applier env) ⟨⟩ catalog

/-! ## Custody -/

/-- The invariant of the setup window: no key is abandoned. -/
def InCustody (env : Steward.Env) (w : Steward.World) : Prop :=
  Custody env w ∧ abandons w.calls = false

variable {env : Steward.Env} {w w' : Steward.World}

theorem InCustody.kept (h : InCustody env w) (hk : Kept env w w') : InCustody env w' :=
  ⟨hk.custody, hk.calls.trans h.2⟩

theorem InCustody.sent (h : InCustody env w) {c : Steward.Call} {o : Outcome}
    (hc : Sent.discards ⟨c, o⟩ = false) : InCustody env (w.sent c o) :=
  h.kept (h.1.kept hc)

/-- Discarding a key after Auth has answered that the client was there. -/
theorem wp_clientWithoutKey {P : Option GeneratedClient → Steward.World → Prop}
    {service pem : String} {generated : Bool} (h : InCustody env w)
    (hkey : KeyChosen env w service pem generated)
    (hcalls : w.calls.head?.any Sent.lostClient = false) (name : String) :
    (clientWithoutKey env name service generated).wp
      (fun r w' ↦ InCustody env w' ∧ ∀ gc, r = .ok gc → P gc w') w := by
  rw [clientWithoutKey]
  split
  · rename_i hgenerated
    obtain ⟨path, hpath, hfile⟩ := hkey.onFile
    obtain ⟨n, rfl, hnew⟩ := hkey.fresh hgenerated
    have hremoved : ∀ o, InCustody env { w.sent (.discardKey service) o with
        files := Function.update w.files path none } := by
      intro o
      refine ⟨h.1.free hfile hnew hcalls, ?_⟩
      simp [Steward.World.sent, abandons, hcalls, h.2]
    rw [Steward.discard, hpath]
    exact wp_bind.mpr (wp_perform (fun _ ↦ wp_error (hremoved _)) (fun _ ↦ wp_error (hremoved _))
      fun _ ↦ wp_error (h.sent rfl))
  · exact wp_error h

/-- What `EnsureControlClient` does, whether core hears of it or not. -/
theorem wp_ensureControlClient {service pem jwks : String} {generated : Bool}
    (h : InCustody env w) (hkey : KeyChosen env w service pem generated)
    (hjwks : env.keys.jwksFromPrivatePEM pem = some jwks) (name : String) :
    (ensureControlClient name service jwks).wp (fun r w' ↦ InCustody env w' ∧
      OnRecord env service w' ∧ ∀ client, r = .ok (client, true) →
        KeyChosen env w' service pem generated ∧
          w'.calls.head?.any Sent.lostClient = false) w := by
  obtain ⟨path, hpath, hfile⟩ := hkey.onFile
  have hrecord : OnRecord env service w := ⟨path, pem, hpath, hfile⟩
  have hregistered : ∀ (t : Turnout) o, InCustody env
      ((w.sent (.ensureControlClient name service jwks) o).addClient t.place name service
        jwks).1 := fun t o ↦
    ⟨(h.sent rfl).1.register t.place name ⟨path, pem, hpath, hfile, hjwks⟩, (h.sent rfl).2⟩
  rw [ensureControlClient]
  rcases hfind : w.auth.clients.find? fun c ↦ c.name == name with _ | client
  all_goals
    have hfind' : ∀ o, ((w.sent (.ensureControlClient name service jwks) o).auth.clients.find?
        fun c ↦ c.name == name) = _ := fun _ ↦ hfind
    refine wp_perform (fun t ↦ ?_) (fun t ↦ ?_) fun e ↦ ⟨h.sent rfl, hrecord, by rintro c ⟨⟩⟩
  · simp only [hfind']
    exact ⟨hregistered t _, hrecord, by rintro c ⟨⟩⟩
  · simp only [hfind']
    exact ⟨hregistered t _, hrecord, by rintro c ⟨⟩⟩
  · simp only [hfind']
    exact ⟨h.sent rfl, hrecord, fun _ _ ↦ ⟨⟨hkey.onFile, hkey.fresh⟩, rfl⟩⟩
  · simp only [hfind']
    exact ⟨h.sent rfl, hrecord, by rintro c ⟨⟩⟩

theorem wp_ensureServiceClient (h : InCustody env w) (henv : env.wholeWrites = true)
    (name : String) (spec : ServiceClientSpec) :
    (ensureServiceClient env name spec).wp (fun r w' ↦ InCustody env w' ∧
      ∀ gc, r = .ok gc → OnRecord env spec.service w') w := by
  refine (wp_privateKey h.1 spec.service).bind ?_
  rintro (e | ⟨pem, existed⟩) w ⟨hw, hread⟩
  · exact wp_error (h.kept hw)
  have h := h.kept hw
  refine (wp_clientKey h.1 henv (hread _ rfl)).bind ?_
  rintro (e | ⟨pem, generated⟩) w ⟨hw, hchosen⟩
  · exact wp_error (h.kept hw)
  have h := h.kept hw
  have hkey := hchosen _ rfl
  simp only
  split
  · exact wp_error h
  rename_i jwks hjwks
  refine (wp_ensureControlClient h hkey hjwks name).bind ?_
  rintro (e | ⟨client, alreadyExisted⟩) w ⟨hw, hrecord, hexisted⟩
  · exact wp_error hw
  simp only
  split
  · rename_i hmissing
    obtain ⟨rfl, -⟩ := (Bool.and_eq_true _ _).mp hmissing
    obtain ⟨hkey, hcalls⟩ := hexisted client rfl
    exact wp_clientWithoutKey hw hkey hcalls name
  · exact wp_pure.mpr ⟨hw, fun _ _ ↦ hrecord⟩

theorem applier_keeps (henv : env.wholeWrites = true) :
    (applier env).Keeps env (InCustody env) where
  service a name spec w hw := wp_pure.mpr hw
  resourceAPI a name spec w hw :=
    wp_bind.mpr (wp_inquire (wp_pure.mpr (hw.sent rfl)) fun _ _ ↦ wp_pure.mpr (hw.sent rfl))
  serviceClient a name spec w hw := by
    refine (wp_ensureServiceClient hw henv name spec).bind ?_
    rintro done w ⟨hw, hrecord⟩
    exact wp_pure.mpr ⟨hw, fun gc hgc _ ↦ hrecord (some gc) hgc⟩
  servicePolicy a name spec w hw := by
    show Dialogue.wp (if spec.allowedActions.isEmpty then _ else _) _ w
    split
    · exact wp_pure.mpr hw
    · exact wp_bind.mpr
        (wp_inquire (wp_pure.mpr (hw.sent rfl)) fun _ _ ↦ wp_pure.mpr (hw.sent rfl))

/-! ## Passes -/

/-- The world after a pass: the catalogue it reconciles, and what its calls come to. -/
def reconciled (env : Steward.Env) (w : Steward.World) (p : List Object × List Turnout) :
    Steward.World :=
  ((reconcileSteward env p.1).exec p.2 w).1

theorem inCustody_reconciled (henv : env.wholeWrites = true) (h : InCustody env w)
    (p : List Object × List Turnout) : InCustody env (reconciled env w p) :=
  exec_of_wp (reconcile_keeps (applier_keeps henv) (fun _ _ _ hw ↦ hw.sent rfl) ⟨⟩ p.1 h) p.2

/-- **The setup window never loses the key of a client.**  Start with no clients in Auth and no key
files, where a key file is written whole or not at all, and let any number of passes be made, over
any catalogues and with calls that fail before or after they are committed.  Between the passes
every client in Auth has its private key on file. -/
theorem setup_window_keys_held (env : Steward.Env) (henv : env.wholeWrites = true)
    (ps : List (List Object × List Turnout)) :
    KeysHeld env (run (reconciled env) Steward.World.empty ps) := by
  have hend := invariant_run (I := InCustody env) ps ⟨custody_empty env, rfl⟩
    fun w p h ↦ inCustody_reconciled henv h p
  exact hend.1.keysHeld_iff.mpr hend.2

/-- The client is created and the answer is lost in the first pass, and found in the second. -/
theorem setup_window_keys_held_lost :
    let ps := [(secretCatalog, failingAt 3 .lost), (secretCatalog, [])]
    (run (reconciled plainSteward) Steward.World.empty ps).auth.clients =
        [⟨0, "secret-control", "secret", "k"⟩] ∧
      KeysHeld plainSteward (run (reconciled plainSteward) Steward.World.empty ps) := by
  intro ps
  exact ⟨by decide, setup_window_keys_held plainSteward rfl ps⟩

end Maintainerd.SetupWindow

import Maintainerd.Authctrl.Report

/-!
# What an object leaves behind

Every method of the applier of `internal/authctrl` looks an object up and creates it if it is not
there.  A lookup reads one page of a listing that matches names in part.  This file says what it
comes to that one object is applied with every call answered, the first time and again.

`Settled` is what is left of an object, so that it is not created again: it is in Auth under its
name, with its permissions, or no request for it can be built.  `Complete` is what is left of one
that is not reported as failed.  `Grows` is what happens to the rest: nothing is taken away.  If
what is listed for the object fits on a page (`Roomy`), it is settled afterwards, and if it was
settled before, then nothing is created (`Quiet`).  `Settles` has both, and there is one lemma for
each method.
-/

set_option autoImplicit false

namespace Maintainerd.Authctrl

open Steward Dialogue

/-! ## The objects -/

/-- The service the object declares, if it is one. -/
def declared (name : String) : Spec → List String
  | .service _ => [name]
  | _ => []

/-- The name a policy goes by in Auth. -/
def policyKey (name : String) (spec : ServicePolicySpec) : String :=
  firstNonBlank [spec.policyName, name]

/-- The services are resolved. -/
def Applier.Resolves (a : Applier) (services : List String) : Prop :=
  ∀ service ∈ services, ∃ serviceID, a.serviceIDs.lookup service = some serviceID

/-! ## Pages -/

/-- The objects with the text in their names fit on a page. -/
def Fits {α : Type} (name : α → String) (text : String) (xs : List α) : Prop :=
  (xs.filter fun x ↦ Text.contains (name x) text).length ≤ listPageSize

theorem Fits.of_sublist {α : Type} {name : α → String} {text : String} {xs ys : List α}
    (h : Fits name text ys) (hsub : xs.Sublist ys) : Fits name text xs :=
  (hsub.filter _).length_le.trans h

/-- What is there and fits on a page is found. -/
theorem Fits.found {α : Type} {name : α → String} {text : String} {xs : List α}
    (h : Fits name text xs) (hthere : ∃ x ∈ xs, name x = text) : findNamed name text xs ≠ none := by
  obtain ⟨x, hx, rfl⟩ := hthere
  rw [findNamed_of_fits h, ← Option.isSome_iff_ne_none]
  exact isSome_firstNamed hx

/-- What was created is there. -/
theorem exists_insertAt {α : Type} {name : α → String} {text : String} {x : α} (hx : name x = text)
    (n : ℕ) (xs : List α) : ∃ y ∈ insertAt n x xs, name y = text :=
  ⟨x, mem_insertAt.mpr (Or.inl rfl), hx⟩

/-- What is listed for an object fits on a page. -/
def Roomy (w : Steward.World) (name : String) : Spec → Prop
  | .service _ => Fits AuthService.name name w.auth.services
  | .resourceAPI _ => Fits AuthAPI.name name w.auth.apis ∧ ∀ api ∈ w.auth.apis, api.name = name →
      (w.auth.permissions.filter fun p ↦ p.apiID == api.apiID).length ≤ listPageSize
  | .serviceClient _ => Fits AuthClient.name name w.auth.clients
  | .servicePolicy spec => Fits AuthPolicy.name (policyKey name spec) w.auth.policies

/-! ## What stays as it was -/

/-- Nothing is taken away. -/
structure Grows (w w' : Steward.World) : Prop where
  services : w.auth.services.Sublist w'.auth.services
  apis : w.auth.apis.Sublist w'.auth.apis
  permissions : w.auth.permissions.Sublist w'.auth.permissions
  policies : w.auth.policies.Sublist w'.auth.policies
  clients : w.auth.clients.Sublist w'.auth.clients
  files : ∀ path pem, w.files path = some pem → w'.files path = some pem

theorem Grows.refl (w : Steward.World) : Grows w w :=
  ⟨.refl _, .refl _, .refl _, .refl _, .refl _, fun _ _ ↦ id⟩

theorem Grows.trans {w w' w'' : Steward.World} (h : Grows w w') (h' : Grows w' w'') :
    Grows w w'' where
  services := h.services.trans h'.services
  apis := h.apis.trans h'.apis
  permissions := h.permissions.trans h'.permissions
  policies := h.policies.trans h'.policies
  clients := h.clients.trans h'.clients
  files path pem hpath := h'.files path pem (h.files path pem hpath)

theorem Roomy.of_grows {w w' : Steward.World} {name : String} {spec : Spec}
    (h : Roomy w' name spec) (hgrows : Grows w w') : Roomy w name spec := by
  cases spec with
  | service spec => exact Fits.of_sublist h hgrows.services
  | resourceAPI spec =>
    refine ⟨h.1.of_sublist hgrows.apis, fun api hapi hname ↦ ?_⟩
    exact ((hgrows.permissions.filter _).length_le).trans (h.2 api (hgrows.apis.subset hapi) hname)
  | serviceClient spec => exact Fits.of_sublist h hgrows.clients
  | servicePolicy spec => exact Fits.of_sublist h hgrows.policies

/-- The first API of each name is still the first. -/
def KeepsFirst (w w' : Steward.World) : Prop :=
  ∀ name api, firstNamed AuthAPI.name name w.auth.apis = some api →
    firstNamed AuthAPI.name name w'.auth.apis = some api

theorem keepsFirst_of_eq {w w' : Steward.World} (h : w'.auth.apis = w.auth.apis) :
    KeepsFirst w w' := by
  intro name api hapi
  rw [h, hapi]

theorem KeepsFirst.trans {w w' w'' : Steward.World} (h : KeepsFirst w w')
    (h' : KeepsFirst w' w'') : KeepsFirst w w'' :=
  fun name api hapi ↦ h' name api (h name api hapi)

/-- An API whose name is new takes no other's place. -/
theorem keepsFirst_insertAt {w w' : Steward.World} {name : String} {api : AuthAPI} {n : ℕ}
    (hnew : firstNamed AuthAPI.name name w.auth.apis = none) (hname : api.name = name)
    (hapis : w'.auth.apis = insertAt n api w.auth.apis) : KeepsFirst w w' := by
  intro other found hfound
  have hne : api.name ≠ other := by
    rintro rfl
    rw [hname, hnew] at hfound
    cases hfound
  rw [hapis, firstNamed_insertAt_of_ne hne, hfound]

/-- Nothing was created, and Auth and the key files are as they were, up to the assignments. -/
structure Quiet (w w' : Steward.World) : Prop where
  services : w'.auth.services = w.auth.services
  apis : w'.auth.apis = w.auth.apis
  permissions : w'.auth.permissions = w.auth.permissions
  policies : w'.auth.policies = w.auth.policies
  clients : w'.auth.clients = w.auth.clients
  files : w'.files = w.files
  calls : ∃ sent, w'.calls = sent ++ w.calls ∧ ∀ s ∈ sent, s.call.creates = false

theorem Quiet.refl (w : Steward.World) : Quiet w w :=
  ⟨rfl, rfl, rfl, rfl, rfl, rfl, [], rfl, List.forall_mem_nil _⟩

theorem Quiet.trans {w w' w'' : Steward.World} (h : Quiet w w') (h' : Quiet w' w'') :
    Quiet w w'' := by
  obtain ⟨sent, hsent, hquiet⟩ := h.calls
  obtain ⟨sent', hsent', hquiet'⟩ := h'.calls
  refine ⟨h'.services.trans h.services, h'.apis.trans h.apis, h'.permissions.trans h.permissions,
    h'.policies.trans h.policies, h'.clients.trans h.clients, h'.files.trans h.files,
    sent' ++ sent, by rw [hsent', hsent, List.append_assoc], ?_⟩
  intro s hs
  rcases List.mem_append.mp hs with hs | hs
  · exact hquiet' s hs
  · exact hquiet s hs

/-- A call that creates nothing, and may assign a policy or mint a key. -/
theorem quiet_call (w : Steward.World) {c : Steward.Call} (hc : c.creates = false)
    (o : Maintainerd.Outcome) (assigned : List (ℕ × ℕ)) (minted : ℕ) :
    Quiet w { w.sent c o with auth := { w.auth with assigned := assigned }, minted := minted } := by
  refine ⟨rfl, rfl, rfl, rfl, rfl, rfl, [⟨c, o⟩], rfl, fun s hs ↦ ?_⟩
  rw [List.mem_singleton.mp hs]
  exact hc

theorem quiet_sent (w : Steward.World) {c : Steward.Call} (hc : c.creates = false)
    (o : Maintainerd.Outcome) : Quiet w (w.sent c o) :=
  quiet_call w hc o w.auth.assigned w.minted

theorem Quiet.grows {w w' : Steward.World} (h : Quiet w w') : Grows w w' where
  services := by rw [h.services]
  apis := by rw [h.apis]
  permissions := by rw [h.permissions]
  policies := by rw [h.policies]
  clients := by rw [h.clients]
  files path pem hpath := by rw [h.files, hpath]

theorem Quiet.shrinks {w w' : Steward.World} (h : Quiet w w') : Grows w' w where
  services := by rw [h.services]
  apis := by rw [h.apis]
  permissions := by rw [h.permissions]
  policies := by rw [h.policies]
  clients := by rw [h.clients]
  files path pem hpath := by rw [← h.files, hpath]

theorem Quiet.keepsFirst {w w' : Steward.World} (h : Quiet w w') : KeepsFirst w w' :=
  keepsFirst_of_eq h.apis

/-! ## What is left of an object -/

/-- A key that a client may be registered with when a key file is there: the one in the file, or any
new one if the file is empty. -/
def Usable (env : Steward.Env) (file key : String) : Prop :=
  if file = "" then ∃ n, key = env.keys.pem n else key = file

/-- No request can be built for the client. -/
def Unregistrable (env : Steward.Env) (w : Steward.World) (spec : ServiceClientSpec) : Prop :=
  (∃ e, keyPath env spec.service = .error e) ∨
    ∃ path file, keyPath env spec.service = .ok path ∧ w.files path = some file ∧
      ∀ key, Usable env file key → ∃ e, clientRequest env spec key = .error e

/-- The object is there, with its permissions, or cannot be created. -/
def Settled (env : Steward.Env) (w : Steward.World) (name : String) : Spec → Prop
  | .service _ => ∃ service ∈ w.auth.services, service.name = name
  | .resourceAPI spec => ∃ api, firstNamed AuthAPI.name name w.auth.apis = some api ∧
      ∀ p ∈ spec.permissions, ⟨api.apiID, p⟩ ∈ w.auth.permissions
  | .serviceClient spec =>
    (∃ client ∈ w.auth.clients, client.name = name) ∨ Unregistrable env w spec
  | .servicePolicy spec => spec.allowedActions = [] ∨
      (∃ policy ∈ w.auth.policies, policy.name = policyKey name spec) ∨
        ∃ e, env.structError spec.allowedActions = some e

/-- A client is there with its key, and a policy is there or is not wanted. -/
def Complete (env : Steward.Env) (w : Steward.World) (name : String) : Spec → Prop
  | .service _ => True
  | .resourceAPI _ => True
  | .serviceClient spec =>
    (∃ client ∈ w.auth.clients, client.name = name) ∧ OnRecord env spec.service w
  | .servicePolicy spec => spec.allowedActions = [] ∨
      ∃ policy ∈ w.auth.policies, policy.name = policyKey name spec

theorem Settled.of_grows {env : Steward.Env} {w w' : Steward.World} {name : String} {spec : Spec}
    (h : Settled env w name spec) (hgrows : Grows w w') (hfirst : KeepsFirst w w') :
    Settled env w' name spec := by
  cases spec with
  | service spec =>
    obtain ⟨service, hservice, hname⟩ := h
    exact ⟨service, hgrows.services.subset hservice, hname⟩
  | resourceAPI spec =>
    obtain ⟨api, hapi, hpermissions⟩ := h
    exact ⟨api, hfirst name api hapi, fun p hp ↦ hgrows.permissions.subset (hpermissions p hp)⟩
  | serviceClient spec =>
    rcases h with ⟨client, hclient, hname⟩ | hpath | ⟨path, file, hpath, hfile, hkeys⟩
    · exact Or.inl ⟨client, hgrows.clients.subset hclient, hname⟩
    · exact Or.inr (Or.inl hpath)
    · exact Or.inr (Or.inr ⟨path, file, hpath, hgrows.files path file hfile, hkeys⟩)
  | servicePolicy spec =>
    rcases h with hnone | ⟨policy, hpolicy, hname⟩ | hunbuilt
    · exact Or.inl hnone
    · exact Or.inr (Or.inl ⟨policy, hgrows.policies.subset hpolicy, hname⟩)
    · exact Or.inr (Or.inr hunbuilt)

theorem Complete.of_grows {env : Steward.Env} {w w' : Steward.World} {name : String} {spec : Spec}
    (h : Complete env w name spec) (hgrows : Grows w w') : Complete env w' name spec := by
  cases spec with
  | service spec => trivial
  | resourceAPI spec => trivial
  | serviceClient spec =>
    obtain ⟨⟨client, hclient, hname⟩, path, pem, hpath, hfile⟩ := h
    exact ⟨⟨client, hgrows.clients.subset hclient, hname⟩, path, pem, hpath,
      hgrows.files path pem hfile⟩
  | servicePolicy spec =>
    rcases h with hnone | ⟨policy, hpolicy, hname⟩
    · exact Or.inl hnone
    · exact Or.inr ⟨policy, hgrows.policies.subset hpolicy, hname⟩

/-- The outcome of an object that is settled already: nothing is created, and if it fails it was not
complete. -/
structure Repeats (env : Steward.Env) (w : Steward.World) (name : String) (spec : Spec)
    (status : Status) (w' : Steward.World) : Prop where
  quiet : Quiet w w'
  status : status = .ensured ∨ status = .failed ∧ ¬ Complete env w name spec

/-- What it comes to that an object is applied: if all fits on a page it is settled afterwards, and
if it was settled before, it is applied again. -/
structure Settles (env : Steward.Env) (a : Applier) (w : Steward.World) (name : String)
    (spec : Spec) (a' : Applier) (w' : Steward.World) : Prop where
  grows : Grows w w'
  keepsFirst : Roomy w' name spec → KeepsFirst w w'
  resolves : ∀ known, a.Resolves known → a'.Resolves (declared name spec ++ known)
  settled : Roomy w' name spec → Settled env w' name spec
  outcome : ∃ status error, a'.outcomes = a.outcomes ++ [⟨spec.kind, name, status, error⟩] ∧
    (status ≠ .failed → Complete env w' name spec) ∧
    (Settled env w name spec → Roomy w name spec → Repeats env w name spec status w')

/-- Calls that create nothing may follow. -/
theorem Settles.quiet {env : Steward.Env} {a a' : Applier} {w w' w'' : Steward.World}
    {name : String} {spec : Spec} (h : Settles env a w name spec a' w') (hquiet : Quiet w' w'') :
    Settles env a w name spec a' w'' := by
  have hroomy : Roomy w'' name spec → Roomy w' name spec := fun h ↦ h.of_grows hquiet.grows
  obtain ⟨status, error, houtcomes, hcomplete, hrepeats⟩ := h.outcome
  refine ⟨h.grows.trans hquiet.grows, fun h' ↦ (h.keepsFirst (hroomy h')).trans hquiet.keepsFirst,
    h.resolves, fun h' ↦ (h.settled (hroomy h')).of_grows hquiet.grows hquiet.keepsFirst,
    status, error, houtcomes, fun hstatus ↦ (hcomplete hstatus).of_grows hquiet.grows, ?_⟩
  intro hsettled hfits
  exact ⟨(hrepeats hsettled hfits).quiet.trans hquiet, (hrepeats hsettled hfits).status⟩

/-- The applier before the outcome is put down: if the object is a service, it is resolved. -/
structure Resolving (a : Applier) (name : String) (spec : Spec) (a' : Applier) : Prop where
  outcomes : a'.outcomes = a.outcomes
  resolves : ∀ known, a.Resolves known → a'.Resolves (declared name spec ++ known)

theorem Resolving.refl (a : Applier) (name : String) {spec : Spec} (h : declared name spec = []) :
    Resolving a name spec a := by
  refine ⟨rfl, fun known hknown ↦ ?_⟩
  rw [h]
  exact hknown

theorem resolving_service (a : Applier) (name : String) (spec : ServiceSpec) (serviceID : ℕ) :
    Resolving a name (.service spec)
      { a with serviceIDs := (name, serviceID) :: a.serviceIDs } := by
  refine ⟨rfl, fun known hknown service hservice ↦ ?_⟩
  by_cases hname : service = name
  · subst hname
    exact ⟨serviceID, List.lookup_cons_self⟩
  · obtain ⟨found, hfound⟩ := hknown service ((List.mem_cons.mp hservice).resolve_left hname)
    refine ⟨found, ?_⟩
    rw [List.lookup_cons, beq_false_of_ne hname]
    exact hfound

section Answered

variable {env : Steward.Env} {a a' : Applier} {w w' w₁ : Steward.World}
variable {name : String} {spec : Spec}

/-- Nothing was created. -/
theorem settles_quiet (ha : Resolving a name spec a') (hquiet : Quiet w w') {status : Status}
    (hsettled : Roomy w name spec → Settled env w name spec)
    (hstatus : status = .ensured ∧ Complete env w name spec ∨
      status = .failed ∧ (Roomy w name spec → ¬ Complete env w name spec)) (error : String) :
    Settles env a w name spec (a'.record spec.kind name status error) w' := by
  have hhere : Settles env a w name spec (a'.record spec.kind name status error) w := by
    refine ⟨.refl w, fun _ ↦ keepsFirst_of_eq rfl, ha.resolves, hsettled, status, error, ?_, ?_, ?_⟩
    · rw [Applier.record, ha.outcomes]
    · rcases hstatus with ⟨-, hcomplete⟩ | ⟨rfl, -⟩
      · exact fun _ ↦ hcomplete
      · exact fun h ↦ absurd rfl h
    · intro _ hroomy
      refine ⟨.refl w, ?_⟩
      rcases hstatus with ⟨rfl, -⟩ | ⟨rfl, hincomplete⟩
      · exact Or.inl rfl
      · exact Or.inr ⟨rfl, hincomplete hroomy⟩
  exact hhere.quiet hquiet

/-- The object was created. -/
theorem settles_created (ha : Resolving a name spec a') (hgrows : Grows w w')
    (hnew : Settled env w name spec → Roomy w name spec → False)
    (hfirst : Roomy w' name spec → KeepsFirst w w') (hsettled : Settled env w' name spec)
    (hcomplete : Complete env w' name spec) (status : Status) :
    Settles env a w name spec (a'.record spec.kind name status "") w' := by
  refine ⟨hgrows, hfirst, ha.resolves, fun _ ↦ hsettled, status, "", ?_, fun _ ↦ hcomplete, ?_⟩
  · rw [Applier.record, ha.outcomes]
  · exact fun hsettled hroomy ↦ (hnew hsettled hroomy).elim

/-! ## Services -/

/-- The end of `EnsureService`. -/
theorem wpAlong_serviceApplied (a : Applier) (w : Steward.World) (name : String)
    (spec : ServiceSpec) (service : AuthService) (status : Status) :
    (serviceApplied env a name spec service status).wpAlong Answered (fun a' w' ↦
      a' = Applier.record { a with serviceIDs := (name, service.serviceID) :: a.serviceIDs }
        "Service" name status "" ∧ Quiet w w') w := by
  have hconverge : (converge env name spec).wpAlong Answered
      (fun r w₁ ↦ r = .ok ⟨⟩ ∧ Quiet w w₁) w := by
    rw [converge]
    split
    · exact wpAlong_pure.mpr ⟨rfl, .refl w⟩
    · refine wpAlong_inquire.mono ?_
      rintro _ _ ⟨rfl, rfl⟩
      exact ⟨rfl, quiet_sent w rfl .answered⟩
  refine hconverge.bind ?_
  rintro _ w₁ ⟨rfl, hquiet⟩
  exact wpAlong_pure.mpr ⟨rfl, hquiet⟩

theorem settles_ensureService (a : Applier) (w : Steward.World) (name : String)
    (spec : ServiceSpec) :
    (ensureService env a name spec).wpAlong Answered (Settles env a w name (.service spec)) w := by
  refine wpAlong_inquire.bind ?_
  rintro _ _ ⟨rfl, rfl⟩
  have hlisted : Quiet w (w.sent (.listServices name) .answered) := quiet_sent w rfl .answered
  rcases hfound : findNamed AuthService.name name
    (w.sent (.listServices name) .answered).auth.services with _ | service
  · refine wpAlong_perform.bind ?_
    rintro _ _ ⟨t, rfl, rfl⟩
    refine (wpAlong_serviceApplied a _ name spec _ .created).mono ?_
    rintro a' w' ⟨rfl, hquiet⟩
    refine Settles.quiet (settles_created (resolving_service a name spec _) ?_ ?_ (fun _ ↦ ?_) ?_
      trivial _) hquiet
    · exact ⟨sublist_insertAt .., .refl _, .refl _, .refl _, .refl _, fun _ _ ↦ id⟩
    · exact fun hthere hroomy ↦ Fits.found hroomy hthere hfound
    · exact keepsFirst_of_eq rfl
    · exact exists_insertAt rfl _ _
  · refine (wpAlong_serviceApplied a _ name spec service .ensured).mono ?_
    rintro a' w' ⟨rfl, hquiet⟩
    exact settles_quiet (resolving_service a name spec _) (hlisted.trans hquiet)
      (fun _ ↦ ⟨service, findNamed_eq_some hfound⟩) (Or.inl ⟨rfl, trivial⟩) _

/-! ## Resource APIs -/

/-- The permissions that are missing are created, and nothing else. -/
theorem wpAlong_createMissing (apiID : ℕ) (present want : List String) (created : ℕ)
    (w : Steward.World) : (createMissing env apiID present want created).wpAlong Answered
      (fun r w' ↦ ∃ n, r = .ok n ∧ Grows w w' ∧ w'.auth.apis = w.auth.apis ∧
        (∀ p ∈ want, p ∈ present ∨ ⟨apiID, p⟩ ∈ w'.auth.permissions) ∧
        ((∀ p ∈ want, p ∈ present) → n = created ∧ Quiet w w')) w := by
  induction want generalizing created w with
  | nil =>
    exact wpAlong_pure.mpr ⟨created, rfl, .refl w, rfl, List.forall_mem_nil _,
      fun _ ↦ ⟨rfl, .refl w⟩⟩
  | cons p want ih =>
    rw [createMissing]
    by_cases hp : present.contains p = true
    · rw [if_pos hp]
      refine (ih created w).mono ?_
      rintro r w' ⟨n, hn, hgrows, hapis, hwant, hnone⟩
      refine ⟨n, hn, hgrows, hapis, List.forall_mem_cons.mpr ⟨Or.inl ?_, hwant⟩, fun h ↦ hnone ?_⟩
      · exact List.contains_iff_mem.mp hp
      · exact (List.forall_mem_cons.mp h).2
    · rw [if_neg hp]
      refine wpAlong_perform.bind ?_
      rintro _ _ ⟨t, rfl, rfl⟩
      refine (ih (created + 1) _).mono ?_
      rintro r w' ⟨n, hn, hgrows, hapis, hwant, -⟩
      refine ⟨n, hn, Grows.trans ?_ hgrows, hapis, List.forall_mem_cons.mpr ⟨Or.inr ?_, hwant⟩,
        fun h ↦ ?_⟩
      · exact ⟨.refl _, .refl _, sublist_insertAt .., .refl _, .refl _, fun _ _ ↦ id⟩
      · exact hgrows.permissions.subset (mem_insertAt.mpr (Or.inl rfl))
      · exact absurd (List.contains_iff_mem.mpr (List.forall_mem_cons.mp h).1) hp

theorem wpAlong_ensurePermissions (apiID : ℕ) (want : List String) (w : Steward.World) :
    (ensurePermissions env apiID want).wpAlong Answered
      (fun r w' ↦ ∃ n, r = .ok n ∧ Grows w w' ∧ w'.auth.apis = w.auth.apis ∧
        (∀ p ∈ want, ⟨apiID, p⟩ ∈ w'.auth.permissions) ∧
        ((∀ p ∈ want, ⟨apiID, p⟩ ∈ w.auth.permissions) →
          (w.auth.permissions.filter fun p ↦ p.apiID == apiID).length ≤ listPageSize →
          n = 0 ∧ Quiet w w')) w := by
  rw [ensurePermissions]
  split
  · rename_i hnone
    rw [List.isEmpty_iff] at hnone
    subst hnone
    exact wpAlong_pure.mpr ⟨0, rfl, .refl w, rfl, List.forall_mem_nil _,
      fun _ _ ↦ ⟨rfl, .refl w⟩⟩
  · refine wpAlong_inquire.bind ?_
    rintro _ _ ⟨rfl, rfl⟩
    have hlisted : Quiet w (w.sent (.listPermissions apiID) .answered) := quiet_sent w rfl .answered
    refine (wpAlong_createMissing apiID _ want 0 _).mono ?_
    rintro r w' ⟨n, hn, hgrows, hapis, hwant, hnone⟩
    refine ⟨n, hn, hlisted.grows.trans hgrows, hapis, fun p hp ↦ ?_, fun hthere hfits ↦ ?_⟩
    · rcases hwant p hp with hpresent | hcreated
      · obtain ⟨q, hq, rfl⟩ := List.mem_map.mp hpresent
        obtain ⟨hmem, hid⟩ := List.mem_filter.mp (List.mem_of_mem_take hq)
        obtain rfl : q.apiID = apiID := eq_of_beq hid
        exact hgrows.permissions.subset hmem
      · exact hcreated
    · -- all permissions of the API are on the page
      have hpage := List.take_of_length_le hfits
      have hpresent : ∀ p ∈ want, ⟨apiID, p⟩ ∈
          (w.auth.permissions.filter fun p ↦ p.apiID == apiID).take listPageSize := by
        intro p hp
        rw [hpage]
        exact List.mem_filter.mpr ⟨hthere p hp, beq_self_eq_true apiID⟩
      obtain ⟨rfl, hquiet⟩ := hnone fun p hp ↦ List.mem_map.mpr ⟨_, hpresent p hp, rfl⟩
      exact ⟨rfl, hlisted.trans hquiet⟩

/-- The end of `EnsureResourceAPI`, for the first API of its name. -/
theorem settles_apiApplied {spec : ResourceAPISpec} {api : AuthAPI} {status : Status}
    (hgrows : Grows w w₁) (hkeeps : Roomy w₁ name (.resourceAPI spec) → KeepsFirst w w₁)
    (hfirst : Roomy w₁ name (.resourceAPI spec) →
      firstNamed AuthAPI.name name w₁.auth.apis = some api)
    (hfound : Settled env w name (.resourceAPI spec) → Roomy w name (.resourceAPI spec) →
      status = .ensured ∧ Quiet w w₁) :
    (apiApplied env a name spec api status).wpAlong Answered
      (Settles env a w name (.resourceAPI spec)) w₁ := by
  refine (wpAlong_ensurePermissions api.apiID spec.permissions w₁).bind ?_
  rintro _ w' ⟨n, rfl, hgrows', hapis, hwant, hnone⟩
  have hroomy : Roomy w' name (.resourceAPI spec) → Roomy w₁ name (.resourceAPI spec) :=
    fun h ↦ h.of_grows hgrows'
  refine wpAlong_pure.mpr ⟨hgrows.trans hgrows', fun h ↦ ?_, fun known h ↦ h, fun h ↦ ?_,
    _, "", rfl, fun _ ↦ trivial, fun hsettled hroomy ↦ ?_⟩
  · exact (hkeeps (hroomy h)).trans (keepsFirst_of_eq hapis)
  · exact ⟨api, by rw [hapis]; exact hfirst (hroomy h), hwant⟩
  · obtain ⟨rfl, hquiet⟩ := hfound hsettled hroomy
    have hroomy₁ : Roomy w₁ name (.resourceAPI spec) := hroomy.of_grows hquiet.shrinks
    obtain ⟨found, hfound, hpermissions⟩ := hsettled.of_grows hquiet.grows hquiet.keepsFirst
    obtain rfl : found = api := Option.some.inj (hfound.symm.trans (hfirst hroomy₁))
    obtain ⟨hmem, hname⟩ := firstNamed_eq_some hfound
    obtain ⟨rfl, hquiet'⟩ := hnone hpermissions (hroomy₁.2 found hmem hname)
    exact ⟨hquiet.trans hquiet', Or.inl rfl⟩

theorem settles_ensureResourceAPI (w : Steward.World) (name : String) {spec : ResourceAPISpec}
    (hservice : a.Resolves [spec.service]) :
    (ensureResourceAPI env a name spec).wpAlong Answered
      (Settles env a w name (.resourceAPI spec)) w := by
  obtain ⟨serviceID, hservice⟩ := hservice spec.service List.mem_cons_self
  rw [ensureResourceAPI, hservice]
  refine wpAlong_inquire.bind ?_
  rintro _ _ ⟨rfl, rfl⟩
  have hlisted : Quiet w (w.sent (.listAPIs name) .answered) := quiet_sent w rfl .answered
  rcases hfound : findNamed AuthAPI.name name (w.sent (.listAPIs name) .answered).auth.apis
    with _ | api
  · -- there is no API of the name, or it would have been on the page
    have hnew : Roomy w name (.resourceAPI spec) →
        firstNamed AuthAPI.name name w.auth.apis = none :=
      fun hroomy ↦ (findNamed_of_fits hroomy.1).symm.trans hfound
    refine wpAlong_perform.bind ?_
    rintro _ _ ⟨t, rfl, rfl⟩
    have hgrows : Grows w { w.sent (.listAPIs name) .answered with
        auth := { w.auth with
          apis := insertAt t.place ⟨w.auth.nextID, name, serviceID⟩ w.auth.apis
          nextID := w.auth.nextID + 1 }
        calls := ⟨.createAPI name serviceID, .answered⟩ ::
          ⟨.listAPIs name, .answered⟩ :: w.calls } :=
      ⟨.refl _, sublist_insertAt .., .refl _, .refl _, .refl _, fun _ _ ↦ id⟩
    refine settles_apiApplied (w := w) hgrows (fun h ↦ ?_) (fun h ↦ ?_) (fun hsettled h ↦ ?_)
    · exact keepsFirst_insertAt (hnew (h.of_grows hgrows)) rfl rfl
    · exact firstNamed_insertAt_self (hnew (h.of_grows hgrows)) rfl _
    · obtain ⟨api, hapi, -⟩ := hsettled
      rw [hnew h] at hapi
      cases hapi
  · refine settles_apiApplied (w := w) hlisted.grows (fun _ ↦ keepsFirst_of_eq rfl) (fun h ↦ ?_)
      (fun _ _ ↦ ⟨rfl, hlisted⟩)
    exact (findNamed_of_fits h.1).symm.trans hfound

/-! ## Service policies -/

theorem wpAlong_policyApplied (a : Applier) (w : Steward.World) (name : String) (serviceID : ℕ)
    (policy : AuthPolicy) (status : Status) :
    (policyApplied a name serviceID policy status).wpAlong Answered (fun a' w' ↦
      a' = a.record "ServicePolicy" name status "" ∧ Quiet w w') w := by
  refine wpAlong_perform.bind ?_
  rintro _ w₁ ⟨t, rfl, rfl⟩
  exact wpAlong_pure.mpr ⟨rfl, quiet_call w rfl .answered _ w.minted⟩

theorem settles_ensureServicePolicy (w : Steward.World) (name : String) {spec : ServicePolicySpec}
    (hservice : a.Resolves [spec.service]) :
    (ensureServicePolicy env a name spec).wpAlong Answered
      (Settles env a w name (.servicePolicy spec)) w := by
  have ha : Resolving a name (.servicePolicy spec) a := .refl a name rfl
  rw [ensureServicePolicy]
  split
  · rename_i hnone
    have hnone : spec.allowedActions = [] := List.isEmpty_iff.mp hnone
    exact wpAlong_pure.mpr (settles_quiet ha (.refl w) (fun _ ↦ Or.inl hnone)
      (Or.inl ⟨rfl, Or.inl hnone⟩) _)
  rename_i hwanted
  obtain ⟨serviceID, hservice⟩ := hservice spec.service List.mem_cons_self
  rw [hservice]
  obtain ⟨key, hkey⟩ : ∃ key, policyKey name spec = key := ⟨_, rfl⟩
  rw [policyKey] at hkey
  simp only [hkey]
  refine wpAlong_inquire.bind ?_
  rintro _ _ ⟨rfl, rfl⟩
  have hlisted : Quiet w (w.sent (.listPolicies key) .answered) := quiet_sent w rfl .answered
  rcases hfound : findNamed AuthPolicy.name key (w.sent (.listPolicies key) .answered).auth.policies
    with _ | policy
  · -- the policy is not on the page
    have hnew : Roomy w name (.servicePolicy spec) →
        ¬ Complete env w name (.servicePolicy spec) := by
      rw [Roomy, Complete, policyKey, hkey]
      rintro hroomy (hnone | hthere)
      · exact hwanted (List.isEmpty_iff.mpr hnone)
      · exact Fits.found hroomy hthere hfound
    rcases hbuilt : env.structError spec.allowedActions with _ | e
    · refine wpAlong_perform.bind ?_
      rintro _ _ ⟨t, rfl, rfl⟩
      have hcreated : ∃ policy ∈ insertAt t.place
          (⟨w.auth.nextID, key, spec.allowedActions⟩ : AuthPolicy) w.auth.policies,
          policy.name = policyKey name spec := exists_insertAt hkey.symm _ _
      refine (wpAlong_policyApplied a _ name serviceID _ .created).mono ?_
      rintro a' w' ⟨rfl, hquiet⟩
      refine Settles.quiet (settles_created ha ?_ ?_ (fun _ ↦ ?_) ?_ ?_ _) hquiet
      · exact ⟨.refl _, .refl _, .refl _, sublist_insertAt .., .refl _, fun _ _ ↦ id⟩
      · rintro (hnone | hthere | ⟨e, hunbuilt⟩) hroomy
        · exact hnew hroomy (Or.inl hnone)
        · exact hnew hroomy (Or.inr hthere)
        · rw [hbuilt] at hunbuilt
          cases hunbuilt
      · exact keepsFirst_of_eq rfl
      · exact Or.inr (Or.inl hcreated)
      · exact Or.inr hcreated
    · exact wpAlong_pure.mpr (settles_quiet ha hlisted (fun _ ↦ Or.inr (Or.inr ⟨e, hbuilt⟩))
        (Or.inr ⟨rfl, hnew⟩) e)
  · obtain ⟨hpolicy, hname⟩ := findNamed_eq_some hfound
    have hthere : ∃ policy ∈ w.auth.policies, policy.name = policyKey name spec :=
      ⟨policy, hpolicy, hname.trans hkey.symm⟩
    refine (wpAlong_policyApplied a _ name serviceID policy .ensured).mono ?_
    rintro a' w' ⟨rfl, hquiet⟩
    exact settles_quiet ha (hlisted.trans hquiet) (fun _ ↦ Or.inr (Or.inl hthere))
      (Or.inl ⟨rfl, Or.inr hthere⟩) _

/-! ## Service clients -/

/-- A key set that is generated decodes. -/
def Decodes (env : Steward.Env) : Prop := ∀ n, env.unmarshalError (env.keys.jwks n) = none

/-- Whether a request can be built is the same for all keys that may be used. -/
theorem clientRequest_usable (hdecodes : Decodes env) {spec : ServiceClientSpec}
    {file key key' e : String} (hkey : Usable env file key) (hkey' : Usable env file key')
    (herror : clientRequest env spec key = .error e) :
    ∃ e', clientRequest env spec key' = .error e' := by
  rw [Usable] at hkey hkey'
  split_ifs at hkey hkey' with hfile
  · obtain ⟨n, rfl⟩ := hkey
    obtain ⟨m, rfl⟩ := hkey'
    refine ⟨e, ?_⟩
    rw [clientRequest, env.keys.jwks_pem] at herror ⊢
    simp only [clientConfig, hdecodes n] at herror
    simp only [clientConfig, hdecodes m]
    split at herror
    · exact herror
    · cases herror
  · rw [hkey', ← hkey]
    exact ⟨e, herror⟩

theorem wpAlong_privateKey {path service : String} (hpath : keyPath env service = .ok path) :
    (privateKey env service).wpAlong Answered (fun r w' ↦ Quiet w w' ∧
      (w.files path = none ∧ r = .ok ("", false) ∨
        ∃ pem, w.files path = some pem ∧ r = .ok (pem, true))) w := by
  rw [privateKey, hpath]
  refine wpAlong_inquire.bind ?_
  rintro _ _ ⟨rfl, rfl⟩
  have hquiet : Quiet w (w.sent (.readKey service) .answered) := quiet_sent w rfl .answered
  rcases hfile : (w.sent (.readKey service) .answered).files path with _ | pem
  · exact wpAlong_pure.mpr ⟨hquiet, Or.inl ⟨hfile, rfl⟩⟩
  · exact wpAlong_pure.mpr ⟨hquiet, Or.inr ⟨pem, hfile, rfl⟩⟩

/-- A key is recorded unless one is on record. -/
theorem wpAlong_record_answered {path service : String} (hpath : keyPath env service = .ok path)
    (pem : String) : (Steward.record env service pem).wpAlong Answered (fun r w' ↦ r = .ok ⟨⟩ ∧
      Grows w w' ∧ w'.auth = w.auth ∧ (w.files path = none ∧ w'.files path = some pem ∨
        (w.files path).isSome = true ∧ Quiet w w')) w := by
  rw [Steward.record, hpath]
  refine wpAlong_once.mpr fun t ht ↦ ?_
  have hanswered : t.outcome = .answered := ht
  have hsent : Quiet w (w.sent (.recordKey service) .answered) := quiet_sent w rfl .answered
  rcases hfile : w.files path with _ | old
  · have hnone : (w.sent (.recordKey service) .answered).files path = none := hfile
    simp only [hanswered, hnone]
    refine ⟨trivial, ⟨.refl _, .refl _, .refl _, .refl _, .refl _, fun other pem' hother ↦ ?_⟩, rfl,
      Or.inl ⟨trivial, Function.update_self ..⟩⟩
    have hne : other ≠ path := by
      rintro rfl
      rw [hfile] at hother
      cases hother
    exact (Function.update_of_ne hne ..).trans hother
  · have hsome : (w.sent (.recordKey service) .answered).files path = some old := hfile
    simp only [hanswered, hsome]
    exact ⟨trivial, hsent.grows, rfl, Or.inr ⟨rfl, hsent⟩⟩

/-- The key that a client is registered with is in its file, unless the file is empty. -/
theorem wpAlong_clientKey {path service pem : String} (hpath : keyPath env service = .ok path)
    (hpem : w.files path = none ∧ pem = "" ∨ w.files path = some pem) :
    (clientKey env service pem).wpAlong Answered (fun r w' ↦ ∃ key generated file,
      r = .ok (key, generated) ∧ Grows w w' ∧ w'.auth = w.auth ∧ w'.files path = some file ∧
        Usable env file key ∧ ((w.files path).isSome = true → Quiet w w')) w := by
  rw [clientKey]
  split
  · rename_i hne
    have hfile : w.files path = some pem := hpem.resolve_left fun h ↦ hne h.2
    refine wpAlong_pure.mpr ⟨pem, false, pem, rfl, .refl w, rfl, hfile, ?_, fun _ ↦ .refl w⟩
    rw [Usable, if_neg hne]
  rename_i hempty
  have hempty : pem = "" := not_not.mp hempty
  subst hempty
  refine wpAlong_perform.bind ?_
  rintro _ _ ⟨t, rfl, rfl⟩
  have hminted :=
    quiet_call w (c := .generateClientKey) rfl .answered w.auth.assigned (w.minted + 1)
  refine (wpAlong_record_answered hpath _).bind ?_
  rintro _ w' ⟨rfl, hgrows, hauth, ⟨hnone, hfile⟩ | ⟨hsome, hquiet⟩⟩
  · refine wpAlong_pure.mpr ⟨_, true, _, rfl, hminted.grows.trans hgrows, hauth, hfile, ?_,
      fun h ↦ ?_⟩
    · rw [Usable, if_neg (env.keys.pem_ne_empty _)]
    · rw [show w.files path = none from hnone] at h
      cases h
  · have hsome : (w.files path).isSome = true := hsome
    have hfile : w.files path = some "" := by
      rcases hpem with ⟨hnone, -⟩ | hfile
      · rw [hnone] at hsome
        cases hsome
      · exact hfile
    refine wpAlong_pure.mpr ⟨_, true, "", rfl, hminted.grows.trans hgrows, hauth,
      (congrFun (hminted.trans hquiet).files path).trans hfile, ?_, fun _ ↦ hminted.trans hquiet⟩
    rw [Usable, if_pos rfl]
    exact ⟨_, rfl⟩

/-- What a client leaves behind: also, a key comes back only if it is new and on record. -/
structure ClientSettles (env : Steward.Env) (a : Applier) (w : Steward.World) (name : String)
    (spec : ServiceClientSpec) (r : Applier × Option GeneratedClient) (w' : Steward.World) :
    Prop where
  settles : Settles env a w name (.serviceClient spec) r.1 w'
  generated : ∀ gc, r.2 = some gc → gc.privateKeyPEM ≠ "" → OnRecord env spec.service w' ∧
    (Settled env w name (.serviceClient spec) → Roomy w name (.serviceClient spec) → False)

theorem settles_registerClient (hdecodes : Decodes env) {spec : ServiceClientSpec}
    {path file key : String} (hgrows : Grows w w₁) (hapis : w₁.auth.apis = w.auth.apis)
    (hnew : Roomy w name (.serviceClient spec) → ¬ ∃ client ∈ w.auth.clients, client.name = name)
    (hpath : keyPath env spec.service = .ok path) (hfile : w₁.files path = some file)
    (hkey : Usable env file key) (hquiet : (w.files path).isSome = true → Quiet w w₁)
    (generated : Bool) :
    (registerClient env a name spec key generated).wpAlong Answered
      (ClientSettles env a w name spec) w₁ := by
  have ha : Resolving a name (.serviceClient spec) a := .refl a name rfl
  -- if the client is settled already, it is for the key file, which then stays as it is
  have hstuck : Settled env w name (.serviceClient spec) → Roomy w name (.serviceClient spec) →
      Quiet w w₁ ∧ ∃ e, clientRequest env spec key = .error e := by
    rintro (hthere | ⟨e, hunnamed⟩ | ⟨path', file', hpath', hfile', hkeys⟩) hroomy
    · exact (hnew hroomy hthere).elim
    · rw [hpath] at hunnamed
      cases hunnamed
    · obtain rfl : path = path' := Except.ok.inj (hpath.symm.trans hpath')
      obtain rfl : file = file' := Option.some.inj (hfile.symm.trans (hgrows.files _ _ hfile'))
      exact ⟨hquiet (Option.isSome_of_eq_some hfile'), hkeys key hkey⟩
  rw [registerClient]
  rcases hrequest : clientRequest env spec key with e | cfg
  · refine wpAlong_pure.mpr ⟨⟨hgrows, fun _ ↦ keepsFirst_of_eq hapis, fun _ h ↦ h, fun _ ↦ ?_,
      .failed, e, rfl, fun h ↦ absurd rfl h, fun hsettled hroomy ↦ ?_⟩, by rintro _ ⟨⟩⟩
    · refine Or.inr (Or.inr ⟨path, file, hpath, hfile, fun other hother ↦ ?_⟩)
      exact clientRequest_usable hdecodes hkey hother hrequest
    · exact ⟨(hstuck hsettled hroomy).1, Or.inr ⟨rfl, fun h ↦ hnew hroomy h.1⟩⟩
  · have hunsettled : Settled env w name (.serviceClient spec) →
        Roomy w name (.serviceClient spec) → False := by
      intro hsettled hroomy
      obtain ⟨e, herror⟩ := (hstuck hsettled hroomy).2
      rw [hrequest] at herror
      cases herror
    refine wpAlong_perform.bind ?_
    rintro _ _ ⟨t, rfl, rfl⟩
    refine wpAlong_pure.mpr ⟨settles_created ha (hgrows.trans ?_) hunsettled (fun _ ↦ ?_) ?_ ?_ _,
      fun _ _ _ ↦ ⟨⟨path, file, hpath, hfile⟩, hunsettled⟩⟩
    · exact ⟨.refl _, .refl _, .refl _, .refl _, sublist_insertAt .., fun _ _ ↦ id⟩
    · exact keepsFirst_of_eq hapis
    · exact Or.inl (exists_insertAt rfl _ _)
    · exact ⟨exists_insertAt rfl _ _, path, file, hpath, hfile⟩

theorem settles_ensureServiceClient (hdecodes : Decodes env) (w : Steward.World) (name : String)
    {spec : ServiceClientSpec} (hservice : a.Resolves [spec.service]) :
    (ensureServiceClient env a name spec).wpAlong Answered
      (ClientSettles env a w name spec) w := by
  have ha : Resolving a name (.serviceClient spec) a := .refl a name rfl
  obtain ⟨serviceID, hservice⟩ := hservice spec.service List.mem_cons_self
  rw [ensureServiceClient, hservice]
  refine wpAlong_inquire.bind ?_
  rintro _ _ ⟨rfl, rfl⟩
  have hlisted : Quiet w (w.sent (.listClients name) .answered) := quiet_sent w rfl .answered
  rcases hpath : keyPath env spec.service with e | path
  · rw [privateKey, hpath]
    refine wpAlong_pure.mpr ⟨settles_quiet ha hlisted (fun _ ↦ Or.inr (Or.inl ⟨e, hpath⟩))
      (Or.inr ⟨rfl, ?_⟩) e, by rintro _ ⟨⟩⟩
    rintro - ⟨-, path, pem, hpath', -⟩
    rw [hpath] at hpath'
    cases hpath'
  refine (wpAlong_privateKey hpath).bind ?_
  intro r w₁ hread
  have hquiet : Quiet w w₁ := hlisted.trans hread.1
  have hread : w.files path = none ∧ r = .ok ("", false) ∨
      ∃ pem, w.files path = some pem ∧ r = .ok (pem, true) := hread.2
  rcases hfound : findNamed AuthClient.name name (w.sent (.listClients name) .answered).auth.clients
    with _ | client
  · have hnew : Roomy w name (.serviceClient spec) →
        ¬ ∃ client ∈ w.auth.clients, client.name = name :=
      fun hroomy hthere ↦ Fits.found hroomy hthere hfound
    obtain ⟨pem, hadKey, rfl, hpem⟩ : ∃ pem hadKey, r = .ok (pem, hadKey) ∧
        (w₁.files path = none ∧ pem = "" ∨ w₁.files path = some pem) := by
      rw [hquiet.files]
      rcases hread with ⟨hfile, rfl⟩ | ⟨pem, hfile, rfl⟩
      · exact ⟨"", false, rfl, Or.inl ⟨hfile, rfl⟩⟩
      · exact ⟨pem, true, rfl, Or.inr hfile⟩
    refine (wpAlong_clientKey hpath hpem).bind ?_
    rintro _ w₂ ⟨key, generated, file, rfl, hgrows, hauth, hfile, hkey, hsame⟩
    refine settles_registerClient hdecodes (hquiet.grows.trans hgrows) ?_ hnew hpath hfile hkey ?_ _
    · rw [hauth, hquiet.apis]
    · intro hsome
      refine hquiet.trans (hsame ?_)
      rw [hquiet.files]
      exact hsome
  · have hthere : ∃ client ∈ w.auth.clients, client.name = name :=
      ⟨client, findNamed_eq_some hfound⟩
    rcases hread with ⟨hfile, rfl⟩ | ⟨pem, hfile, rfl⟩
    · refine wpAlong_pure.mpr ⟨settles_quiet ha hquiet (fun _ ↦ Or.inl hthere) (Or.inr ⟨rfl, ?_⟩) _,
        by rintro _ ⟨⟩⟩
      rintro - ⟨-, path', pem, hpath', hfile'⟩
      obtain rfl : path = path' := Except.ok.inj (hpath.symm.trans hpath')
      rw [hfile] at hfile'
      cases hfile'
    · refine wpAlong_pure.mpr ⟨settles_quiet ha hquiet (fun _ ↦ Or.inl hthere)
        (Or.inl ⟨rfl, hthere, path, pem, hpath, hfile⟩) _, ?_⟩
      rintro _ ⟨⟩ hpem
      exact absurd rfl hpem

/-! ## One round of a pass -/

/-- `Reconcile` records a new key once more, which is on record by then. -/
theorem wpAlong_recordGenerated_answered {spec : ServiceClientSpec} (rep : Steward.Report)
    {gc : Option GeneratedClient}
    (h : ∀ x, gc = some x → x.privateKeyPEM ≠ "" → OnRecord env spec.service w) :
    (recordGenerated env spec rep gc).wpAlong Answered (fun r w' ↦ Quiet w w' ∧ r.2 = none ∧
      ((∀ x, gc = some x → x.privateKeyPEM = "") → r.1.newKeys = rep.newKeys)) w := by
  rcases gc with _ | gc
  · exact wpAlong_pure.mpr ⟨.refl w, rfl, fun _ ↦ rfl⟩
  rw [recordGenerated]
  split
  · exact wpAlong_pure.mpr ⟨.refl w, rfl, fun _ ↦ rfl⟩
  rename_i hpem
  obtain ⟨path, pem, hpath, hfile⟩ := h gc rfl hpem
  refine (wpAlong_record_answered hpath _).bind ?_
  rintro _ w' ⟨rfl, -, -, ⟨hnone, -⟩ | ⟨-, hquiet⟩⟩
  · rw [hfile] at hnone
    cases hnone
  · exact wpAlong_pure.mpr ⟨hquiet, rfl, fun hnone ↦ absurd (hnone gc rfl) hpem⟩

/-- One round of the pass. -/
theorem settles_applyObject (hdecodes : Decodes env) (rep : Steward.Report) (w : Steward.World)
    (name : String) (hservice : ∀ service ∈ spec.refersTo, a.Resolves [service])
    (hactions : ∀ policy, spec = .servicePolicy policy →
      validatePolicyActions policy.allowedActions = none) :
    (applyObject env (applier env) a rep name spec).wpAlong Answered
      (fun r w' ↦ Settles env a w name spec r.1 w' ∧ r.2.2 = none ∧
        (Settled env w name spec → Roomy w name spec → r.2.1.newKeys = rep.newKeys)) w := by
  cases spec with
  | service spec =>
    refine (wpAlong_swallowed (settles_ensureService a w name spec)).bind ?_
    rintro ⟨a', _⟩ w' ⟨h, rfl⟩
    exact wpAlong_pure.mpr ⟨h, rfl, fun _ _ ↦ rfl⟩
  | resourceAPI spec =>
    refine (wpAlong_swallowed (settles_ensureResourceAPI w name (hservice _ rfl))).bind ?_
    rintro ⟨a', _⟩ w' ⟨h, rfl⟩
    exact wpAlong_pure.mpr ⟨h, rfl, fun _ _ ↦ rfl⟩
  | serviceClient spec =>
    have hclient : ((applier env).ensureServiceClient a name spec).wpAlong Answered
        (fun r w' ↦ ∃ gc, r.2 = .ok gc ∧ ClientSettles env a w name spec (r.1, gc) w') w := by
      refine (settles_ensureServiceClient hdecodes w name (hservice _ rfl)).bind ?_
      rintro ⟨a', gc⟩ w' h
      exact wpAlong_pure.mpr ⟨gc, rfl, h⟩
    refine hclient.bind ?_
    rintro ⟨a', _⟩ w' ⟨gc, rfl, h⟩
    refine (wpAlong_recordGenerated_answered _ fun x hx hpem ↦ (h.generated x hx hpem).1).bind ?_
    rintro ⟨rep', _⟩ w'' ⟨hquiet, rfl, hkeys⟩
    refine wpAlong_pure.mpr ⟨h.settles.quiet hquiet, rfl, fun hsettled hroomy ↦ hkeys ?_⟩
    intro x hx
    exact not_not.mp fun hpem ↦ (h.generated x hx hpem).2 hsettled hroomy
  | servicePolicy spec =>
    rw [applyObject, hactions spec rfl]
    refine (wpAlong_swallowed (settles_ensureServicePolicy w name (hservice _ rfl))).bind ?_
    rintro ⟨a', _⟩ w' ⟨h, rfl⟩
    exact wpAlong_pure.mpr ⟨h, rfl, fun _ _ ↦ rfl⟩

end Answered

end Maintainerd.Authctrl

import Maintainerd.Authctrl.Settle

/-!
# A second pass over the same catalogue

Every method of the applier creates only what its lookup does not find, so a second pass over an
unchanged catalogue is meant to write nothing.  `PassSettles` is what a pass comes to, the first
time and again, put together from its objects: each is settled when the pass is over, and if they
all were settled before it, nothing is created.

With every listing on one page, the second pass finds everything (`second_pass_idle`).
`second_pass_busy` has the two things that come in between: a client that Auth has and whose key
core does not have fails in both passes, and a permission that does not fit on a page is created
again.
-/

set_option autoImplicit false

namespace Maintainerd.Authctrl

open Steward Dialogue

/-! ## The catalogue -/

/-- Every object comes after the service it refers to; some services are known already. -/
def Ordered : List String → List Object → Prop
  | _, [] => True
  | known, obj :: objs =>
    (∀ spec ∈ obj.spec, ∀ service ∈ spec.refersTo, service ∈ known) ∧
      Ordered (obj.spec.elim [] (declared obj.name) ++ known) objs

/-- The objects pass the checks of `Reconcile` and are in the order the applier relies on. -/
structure WellFormed (catalog : List Object) : Prop where
  inOrder : ∀ obj ∈ catalog, ∃ spec, obj.InOrder spec
  ordered : Ordered [] catalog

/-! ## One pass -/

/-- Every object of the list has the property, by its name and its spec. -/
def AllObjects (P : String → Spec → Prop) (objs : List Object) : Prop :=
  ∀ obj ∈ objs, ∀ spec ∈ obj.spec, P obj.name spec

theorem AllObjects.mono {P P' : String → Spec → Prop} {objs : List Object} (h : AllObjects P objs)
    (hP : ∀ name spec, P name spec → P' name spec) : AllObjects P' objs :=
  fun obj hobj spec hspec ↦ hP _ _ (h obj hobj spec hspec)

/-- The outcome of an object: it has its kind and name, and if the object did not fail it is
complete. -/
structure Completes (env : Steward.Env) (w : Steward.World) (obj : Object) (o : Outcome) :
    Prop where
  kind : o.kind = obj.kind
  name : o.name = obj.name
  complete : o.status ≠ .failed → ∀ spec ∈ obj.spec, Complete env w obj.name spec

/-- The outcome of an object that was settled before: if it failed, it was not complete. -/
structure Remains (env : Steward.Env) (w : Steward.World) (obj : Object) (o : Outcome) : Prop where
  kind : o.kind = obj.kind
  name : o.name = obj.name
  status : o.status = .ensured ∨
    o.status = .failed ∧ ∃ spec ∈ obj.spec, ¬ Complete env w obj.name spec

/-- What a pass comes to, and what it comes to if all its objects are settled before. -/
structure PassSettles (env : Steward.Env) (a : Applier) (rep : Steward.Report) (w : Steward.World)
    (objs : List Object) (r : Applier × Steward.Report × Option String) (w' : Steward.World) :
    Prop where
  grows : Grows w w'
  keepsFirst : AllObjects (Roomy w') objs → KeepsFirst w w'
  settled : AllObjects (Roomy w') objs → AllObjects (Settled env w') objs
  goesOn : r.2.2 = none
  outcomes : ∃ os, r.1.outcomes = a.outcomes ++ os ∧ List.Forall₂ (Completes env w') objs os ∧
    (AllObjects (Settled env w) objs → AllObjects (Roomy w) objs →
      Quiet w w' ∧ r.2.1.newKeys = rep.newKeys ∧ List.Forall₂ (Remains env w) objs os)

section Pass

variable {env : Steward.Env} {a a₁ : Applier} {rep rep₁ : Steward.Report} {w w₁ w' : Steward.World}
variable {r : Applier × Steward.Report × Option String}

theorem allObjects_cons {P : String → Spec → Prop} {obj : Object} {objs : List Object} {spec : Spec}
    (hobj : obj.InOrder spec) :
    AllObjects P (obj :: objs) ↔ P obj.name spec ∧ AllObjects P objs := by
  rw [AllObjects, List.forall_mem_cons, hobj.specified]
  exact and_congr_left fun _ ↦ ⟨fun h ↦ h spec rfl, by rintro h _ ⟨⟩; exact h⟩

/-- A pass is a round and the pass over the rest. -/
theorem PassSettles.cons {obj : Object} {objs : List Object} {spec : Spec}
    (hobj : obj.InOrder spec) (hone : Settles env a w obj.name spec a₁ w₁)
    (hkeys : Settled env w obj.name spec → Roomy w obj.name spec → rep₁.newKeys = rep.newKeys)
    (hrest : PassSettles env a₁ rep₁ w₁ objs r w') :
    PassSettles env a rep w (obj :: objs) r w' := by
  obtain ⟨status, error, houtcome, hcomplete, hrepeats⟩ := hone.outcome
  obtain ⟨os, houtcomes, hcompletes, hremain⟩ := hrest.outcomes
  refine ⟨hone.grows.trans hrest.grows, fun hroomy ↦ ?_, fun hroomy ↦ ?_, hrest.goesOn,
    ⟨spec.kind, obj.name, status, error⟩ :: os, ?_, .cons ⟨hobj.kind.symm, rfl, ?_⟩ hcompletes, ?_⟩
  · obtain ⟨hfirst, hroomy⟩ := (allObjects_cons hobj).mp hroomy
    exact (hone.keepsFirst (hfirst.of_grows hrest.grows)).trans (hrest.keepsFirst hroomy)
  · obtain ⟨hfirst, hroomy⟩ := (allObjects_cons hobj).mp hroomy
    refine (allObjects_cons hobj).mpr ⟨?_, hrest.settled hroomy⟩
    have hthere : Settled env w₁ obj.name spec := hone.settled (hfirst.of_grows hrest.grows)
    exact hthere.of_grows hrest.grows (hrest.keepsFirst hroomy)
  · rw [houtcomes, houtcome, List.append_assoc, List.singleton_append]
  · intro hstatus spec' hspec'
    obtain rfl : spec = spec' := Option.some.inj (hobj.specified.symm.trans hspec')
    exact (hcomplete hstatus).of_grows hrest.grows
  · intro hsettled hroomy
    obtain ⟨hsettled₁, hsettled⟩ := (allObjects_cons hobj).mp hsettled
    obtain ⟨hroomy₁, hroomy⟩ := (allObjects_cons hobj).mp hroomy
    obtain ⟨hquiet₁, hstatus⟩ := hrepeats hsettled₁ hroomy₁
    obtain ⟨hquiet, hnew, hrests⟩ := hremain
      (hsettled.mono fun _ _ h ↦ h.of_grows hquiet₁.grows hquiet₁.keepsFirst)
      (hroomy.mono fun _ _ h ↦ h.of_grows hquiet₁.shrinks)
    refine ⟨hquiet₁.trans hquiet, hnew.trans (hkeys hsettled₁ hroomy₁), .cons ?_ (hrests.imp ?_)⟩
    · exact ⟨hobj.kind.symm, rfl, hstatus.imp_right fun h ↦ ⟨h.1, spec, hobj.specified, h.2⟩⟩
    · rintro other o ⟨hkind, hname, hensured | ⟨hfailed, spec', hspec', hincomplete⟩⟩
      · exact ⟨hkind, hname, Or.inl hensured⟩
      · refine ⟨hkind, hname, Or.inr ⟨hfailed, spec', hspec', fun h ↦ ?_⟩⟩
        exact hincomplete (h.of_grows hquiet₁.grows)

/-- A pass with every call answered, from services that are resolved. -/
theorem settles_reconcileFrom (hdecodes : Decodes env) (objs : List Object)
    (hobjs : ∀ obj ∈ objs, ∃ spec, obj.InOrder spec) {known : List String}
    (hordered : Ordered known objs) (i : ℕ) (a : Applier) (hknown : a.Resolves known)
    (rep : Steward.Report) (w : Steward.World) :
    (reconcileFrom env (applier env) i objs a rep).wpAlong Answered
      (PassSettles env a rep w objs) w := by
  induction objs generalizing known i a rep w with
  | nil =>
    refine wpAlong_pure.mpr ⟨.refl w, fun _ ↦ keepsFirst_of_eq rfl,
      fun _ ↦ List.forall_mem_nil _, rfl, [], (List.append_nil _).symm, .nil,
      fun _ _ ↦ ⟨.refl w, rfl, .nil⟩⟩
  | cons obj objs ih =>
    obtain ⟨⟨spec, hobj⟩, hobjs⟩ := List.forall_mem_cons.mp hobjs
    obtain ⟨hrefers, hordered⟩ := hordered
    rw [hobj.specified] at hrefers hordered
    have hservice : ∀ service ∈ spec.refersTo, a.Resolves [service] := by
      intro service hservice other hother
      rw [List.mem_singleton.mp hother]
      exact hknown service (hrefers spec rfl service hservice)
    rw [reconcileFrom, hobj.check]
    refine (settles_applyObject hdecodes rep w obj.name hservice hobj.actions).bind ?_
    rintro ⟨a₁, rep₁, _⟩ w₁ ⟨hone, rfl, hkeys⟩
    refine (ih hobjs hordered (i + 1) a₁ (hone.resolves known hknown) rep₁ w₁).mono ?_
    exact fun r w' hrest ↦ .cons hobj hone hkeys hrest

/-- `Run` with every call answered. -/
theorem settles_runPass (hdecodes : Decodes env) {catalog : List Object} (h : WellFormed catalog)
    {ts : List Turnout} (hts : ∀ t ∈ ts, t.outcome = .answered) (w : Steward.World) :
    let run := (runPass env catalog).exec ts w
    run.2.1.2 = none ∧ PassSettles env {} {} w catalog
      ({ outcomes := run.2.1.1.outcomes }, run.2.1.1.totals, none) run.1 := by
  have hpass : (pass env catalog).wpAlong Answered (PassSettles env {} {} w catalog) w :=
    settles_reconcileFrom hdecodes catalog h.inOrder h.ordered 0 {} (List.forall_mem_nil _) {} w
  have hsettles := exec_of_wpAlong hpass (along_of_forall hts rfl)
  have hgoesOn := hsettles.goesOn
  intro run
  have hrun : run = _ := exec_runPass env catalog ts w
  rw [hrun, hgoesOn]
  exact ⟨rfl, hsettles.grows, hsettles.keepsFirst, hsettles.settled, rfl, hsettles.outcomes⟩

end Pass

/-! ## Two passes -/

theorem forall₂_join {α β γ : Type} {R : α → β → Prop} {S : α → γ → Prop} {T : β → γ → Prop}
    (hT : ∀ x y z, R x y → S x z → T y z) {xs : List α} {ys : List β} {zs : List γ}
    (hR : List.Forall₂ R xs ys) (hS : List.Forall₂ S xs zs) : List.Forall₂ T ys zs := by
  induction hR generalizing zs with
  | nil =>
    cases hS
    exact .nil
  | cons hxy _ ih =>
    rcases hS with _ | ⟨hxz, hS⟩
    exact .cons (hT _ _ _ hxy hxz) (ih hS)

/-- **A second pass over the same catalogue creates nothing.**  Take any catalogue in order, any
state of Auth and of the key files, and two passes in which every call succeeds.  If after the first
pass every listing that the catalogue asks for fits on one page, then the second pass sends no call
that creates something in Auth, returns no error and reports no new key, and it reports every object
as ensured, except that an object the first pass reported as failed may fail again. -/
theorem second_pass_idle (env : Steward.Env) (hdecodes : Decodes env) (catalog : List Object)
    (hcatalog : WellFormed catalog) (w : Steward.World) (ts ts' : List Turnout)
    (hts : ∀ t ∈ ts, t.outcome = .answered) (hts' : ∀ t ∈ ts', t.outcome = .answered) :
    let first := (runPass env catalog).exec ts w
    let second := (runPass env catalog).exec ts' first.1
    AllObjects (Roomy first.1) catalog →
      (∃ sent, second.1.calls = sent ++ first.1.calls ∧ ∀ s ∈ sent, s.call.creates = false) ∧
        second.2.1.2 = none ∧ second.2.1.1.totals.newKeys = 0 ∧
        second.2.1.1.outcomes.length = catalog.length ∧
        List.Forall₂ (fun before after : Outcome ↦
          after.kind = before.kind ∧ after.name = before.name ∧
            (after.status = .ensured ∨ after.status = .failed ∧ before.status = .failed))
          first.2.1.1.outcomes second.2.1.1.outcomes := by
  intro first second hroomy
  obtain ⟨-, hfirst⟩ := settles_runPass hdecodes hcatalog hts w
  obtain ⟨hreturns, hsecond⟩ := settles_runPass hdecodes hcatalog hts' first.1
  obtain ⟨os, hos, hcompletes, -⟩ := hfirst.outcomes
  obtain ⟨os', hos', -, hagain⟩ := hsecond.outcomes
  obtain ⟨hquiet, hkeys, hremain⟩ := hagain (hfirst.settled hroomy) hroomy
  have hos : first.2.1.1.outcomes = os := hos
  have hos' : second.2.1.1.outcomes = os' := hos'
  rw [hos, hos']
  refine ⟨hquiet.calls, hreturns, hkeys, hremain.length_eq.symm, ?_⟩
  refine forall₂_join ?_ hcompletes hremain
  intro obj before after hbefore hafter
  refine ⟨hafter.kind.trans hbefore.kind.symm, hafter.name.trans hbefore.name.symm, ?_⟩
  refine hafter.status.imp_right ?_
  rintro ⟨hfailed, spec, hspec, hincomplete⟩
  refine ⟨hfailed, ?_⟩
  by_contra hstatus
  exact hincomplete (hbefore.complete hstatus spec hspec)

/-- Auth has the client of the small catalogue, and its key is not on record. -/
def keylessWorld : Steward.World :=
  { Steward.World.empty with
    auth := { Steward.World.empty.auth with clients := [⟨7, "secret-control", "secret", "lost"⟩] } }

/-- A service and an object that refers to it are in order. -/
theorem wellFormed_pair {service obj : Object} {serviceSpec : ServiceSpec} {spec : Spec}
    (hservice : service.InOrder (.service serviceSpec)) (hobj : obj.InOrder spec)
    (hrefers : spec.refersTo = some service.name) : WellFormed [service, obj] := by
  refine ⟨?_, ?_, ?_, trivial⟩
  · simp only [List.forall_mem_cons]
    exact ⟨⟨_, hservice⟩, ⟨_, hobj⟩, List.forall_mem_nil _⟩
  · rw [hservice.specified]
    rintro _ ⟨⟩ _ ⟨⟩
  · rw [hservice.specified, hobj.specified]
    rintro _ ⟨⟩ other hother
    obtain rfl : service.name = other := Option.some.inj (hrefers.symm.trans hother)
    exact List.mem_cons_self

theorem wellFormed_secretCatalog : WellFormed secretCatalog := by
  refine wellFormed_pair ⟨rfl, by decide, rfl, rfl, ?_⟩ ⟨rfl, by decide, rfl, rfl, ?_⟩ rfl
  all_goals rintro _ ⟨⟩

/-- The service is there after the first pass, and the client fails again. -/
theorem second_pass_idle_keyless :
    let first := (runPass plainSteward secretCatalog).exec [] keylessWorld
    let second := (runPass plainSteward secretCatalog).exec [] first.1
    first.2.1.1.outcomes.map Outcome.status = [.created, .failed] ∧
      second.2.1.1.outcomes.map Outcome.status = [.ensured, .failed] ∧
      second.2.1.1.totals.newKeys = 0 := by
  intro first second
  have hroomy : AllObjects (Roomy first.1) secretCatalog := by
    intro obj hobj
    simp only [secretCatalog, List.mem_cons, List.not_mem_nil, or_false] at hobj
    rcases hobj with rfl | rfl
    · rintro _ ⟨⟩
      rw [Roomy, Fits]
      decide
    · rintro _ ⟨⟩
      rw [Roomy, Fits]
      decide
  obtain ⟨-, -, hkeys, -⟩ := second_pass_idle plainSteward (fun _ ↦ rfl) secretCatalog
    wellFormed_secretCatalog keylessWorld [] [] (List.forall_mem_nil _) (List.forall_mem_nil _)
    hroomy
  exact ⟨by decide, by decide, hkeys⟩

/-- A service with an API that has one permission. -/
def apiCatalog : List Object :=
  [⟨apiVersion, "Service", "deploy", some (.service ⟨"Deploy", "system"⟩)⟩,
    ⟨apiVersion, "ResourceAPI", "deploy-api", some (.resourceAPI ⟨"deploy", ["deploy:run"]⟩)⟩]

theorem wellFormed_apiCatalog : WellFormed apiCatalog := by
  refine wellFormed_pair ⟨rfl, by decide, rfl, rfl, ?_⟩ ⟨rfl, by decide, rfl, rfl, ?_⟩ rfl
  all_goals rintro _ ⟨⟩

/-- The API has a page of other permissions. -/
def crowdedWorld : Steward.World :=
  { Steward.World.empty with
    auth := { Steward.World.empty.auth with
      services := [⟨1, "deploy"⟩]
      apis := [⟨2, "deploy-api", 1⟩]
      permissions := List.replicate 200 ⟨2, "old"⟩ } }

/-- All calls are answered, and what is created is listed last. -/
def listedLast : List Turnout := List.replicate 5 { place := 200 }

/-- The two ways a second pass is not idle although all calls succeed: a client whose key is not on
record is reported as failed, and a permission that is not on the page is created again. -/
theorem second_pass_busy :
    (let first := (runPass plainSteward secretCatalog).exec [] keylessWorld
      let second := (runPass plainSteward secretCatalog).exec [] first.1
      WellFormed secretCatalog ∧
        second.2.1.1.outcomes.map Outcome.status = [.ensured, .failed]) ∧
      let first := (runPass plainSteward apiCatalog).exec listedLast crowdedWorld
      let second := (runPass plainSteward apiCatalog).exec listedLast first.1
      WellFormed apiCatalog ∧ (∀ t ∈ listedLast, t.outcome = .answered) ∧
        first.1.calls.map Sent.call =
          [.createPermission 2 "deploy:run", .listPermissions 2, .listAPIs "deploy-api",
            .ensureRegistered "deploy" "Deploy" true, .listServices "deploy"] ∧
        (second.1.calls.take 5).map Sent.call = first.1.calls.map Sent.call ∧
        second.2.1.1.outcomes.map Outcome.status = [.ensured, .created] :=
  ⟨⟨wellFormed_secretCatalog, by decide⟩, wellFormed_apiCatalog, by decide, by decide, by decide,
    by decide⟩

end Maintainerd.Authctrl

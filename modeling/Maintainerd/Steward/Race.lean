import Maintainerd.Authctrl.Custody
import Maintainerd.Lib.Crew
import Maintainerd.Setup.Steward

/-!
# Passes that share a key directory

Both appliers put a key on record before they send its key set to Auth, and `Record` never
overwrites a file.  That is not enough for the key that is *sent* to be the one in the file.
`PrivateKey` tells by the content whether there is a key, `Record` tells by the file, and the two
are separate steps: over an empty file, or after another process has made the file in between,
`Record` does nothing and says that all is well.  And `Discard` removes whatever file is there.

Here any number of passes are made by processes of their own, over one Auth and one key directory.
A process makes one call at a time, and the calls of the passes interleave in any way
(`Lib.Crew`).  To make a key file and to write it is one call, as in `Steward.World`; a process
that looks in between finds an empty file, which is one of the contents a run may start with.  A
process that has crashed is one that makes no more calls.

The ghost of a run is who has the key of a file *in hand* (`handOver`): the process has read it from
the file, or has made the file with it, and the file was not removed since.
`sent_key_on_file` says that a process that has the key in hand sends the key set of the key in the
file, however the passes interleave, and `unrecorded_key_sent` is what happens to those that do not.
-/

set_option autoImplicit false

namespace Maintainerd.Steward

open Crew Machine

/-! ## Passes together -/

/-- A pass: which of the appliers makes it, and over which catalogue. -/
inductive Pass where
  | setupWindow (catalog : List Object)
  | postSetup (catalog : List Object)
deriving DecidableEq, Repr

/-- What a pass does. -/
def Pass.script (env : Env) : Pass → Script (Report × Option String)
  | .setupWindow catalog => do
    let (_, report) ← SetupWindow.reconcileSteward env catalog
    pure report
  | .postSetup catalog => do
    let (_, report) ← Authctrl.pass env catalog
    pure report

/-- The key set a call sends to Auth, and the service it is for. -/
def Call.keySent : Call → Option (String × String)
  | .createClient _ service jwks => some (service, jwks)
  | .ensureControlClient _ service jwks => some (service, jwks)
  | _ => none

section Race

variable {ι : Type}

/-- Who has the key of a file in hand after a call of process `i`, with the world before it and
after it.  A process that reads the file has its key in hand if there is one; a file that was not
there is in nobody's hand but the one's who has made it; and a file that is removed is in nobody's
hand. -/
def handOver [DecidableEq ι] (env : Env) (i : ι) (w w' : World) (hands : ι → String → Bool)
    (j : ι) (path : String) : Bool :=
  match w'.calls.head? with
  | some ⟨.readKey service, .answered⟩ =>
    if j = i ∧ keyPath env service = .ok path then (w.files path).any (· != "")
    else hands j path
  | some ⟨.recordKey service, o⟩ =>
    if keyPath env service = .ok path ∧ w.files path = none then decide (j = i ∧ o = .answered)
    else hands j path
  | some ⟨.discardKey service, o⟩ =>
    if keyPath env service = .ok path ∧ o ≠ .refused then false else hands j path
  | _ => hands j path

/-- Processes in the middle of their passes. -/
abbrev Race (ι : Type) : Type 1 := Crew ι Turnout World (ι → String → Bool) (Report × Option String)

/-- Every process is about to begin. -/
def together (env : Env) (passes : ι → Pass) (w : World) : Race ι :=
  ⟨w, fun _ _ ↦ false, fun i ↦ (passes i).script env⟩

/-- The processes after an interleaving of their calls. -/
def raced [DecidableEq ι] (env : Env) (passes : ι → Pass) (w : World) (ms : List (ι × Turnout)) :
    Race ι :=
  run (Crew.step (handOver env)) (together env passes w) ms

/-- The key set that the next call of a process sends, and the service it is for. -/
def sends [DecidableEq ι] (env : Env) (r : Race ι) (m : ι × Turnout) :
    Option (String × String) :=
  if r.acts m.1 then
    (r.step (handOver env) m).state.calls.head?.bind fun sent ↦ sent.call.keySent
  else none

/-- The process has the key of the service in hand. -/
def HasInHand (env : Env) (r : Race ι) (i : ι) (service : String) : Prop :=
  ∃ path, keyPath env service = .ok path ∧ r.ghost i path = true

/-! ## What the processes rely on

A process that has the key of a file in hand has it because of its own calls, and the file stays as
it is. -/

/-- What process `i` relies on. -/
def Undisturbed (i : ι) (s s' : World × (ι → String → Bool)) : Prop :=
  ∀ path, s'.2 i path = true → s.2 i path = true ∧ s'.1.files path = s.1.files path

/-- A key set is sent by a process that has the key in hand only if the key is in the file. -/
def SendsRecorded (env : Env) (i : ι) (s s' : World × (ι → String → Bool)) : Prop :=
  ∀ sent service jwks path, s'.1.calls.head? = some sent →
    sent.call.keySent = some (service, jwks) → keyPath env service = .ok path →
    s.2 i path = true → HoldsKey env s.1 service jwks

/-- The pact of the passes. -/
def pact [DecidableEq ι] (env : Env) : Pact ι World (ι → String → Bool) where
  note := handOver env
  rely := Undisturbed
  guarantee i s s' := (∀ j, j ≠ i → Undisturbed j s s') ∧ SendsRecorded env i s s'
  refl i s path h := ⟨h, rfl⟩
  trans i a b c hab hbc path h := by
    obtain ⟨hb, hfile⟩ := hbc path h
    obtain ⟨ha, hfile'⟩ := hab path hb
    exact ⟨ha, hfile.trans hfile'⟩
  respects i j s s' hj h := h.1 j hj

/-- If the process has the key of the file in hand, it is this one. -/
def InHand (i : ι) (path pem : String) (s : World × (ι → String → Bool)) : Prop :=
  s.2 i path = true → s.1.files path = some pem ∧ pem ≠ ""

variable {env : Env} {i : ι} {s s' : World × (ι → String → Bool)} {w' : World}

/-- Nobody puts a key into the hand of another. -/
theorem Undisturbed.free {path : String} (hs : Undisturbed i s s') (h : s.2 i path = false) :
    s'.2 i path = false := by
  rcases hhand : s'.2 i path with _ | _
  · rfl
  · exact absurd (hs path hhand).1 (by rw [h]; decide)

/-- What is in hand stays the same key while the others work. -/
theorem InHand.rely {path pem : String} (h : InHand i path pem s) (hs : Undisturbed i s s') :
    InHand i path pem s' := by
  intro hhand
  obtain ⟨hbefore, hfile⟩ := hs path hhand
  rw [hfile]
  exact h hbefore

/-! ## Single calls -/

theorem Call.keySent_eq_none {c : Call} (hc : c.aboutKeys = false) : c.keySent = none := by
  rcases c <;> first | (cases hc; done) | rfl

theorem sendsRecorded_of_none {hands : ι → String → Bool} {c : Call} {o : Outcome}
    (hcalls : w'.calls.head? = some ⟨c, o⟩) (hc : c.keySent = none) :
    SendsRecorded env i s (w', hands) := by
  intro sent service jwks path hsent hkey
  obtain rfl : ⟨c, o⟩ = sent := Option.some.inj (hcalls.symm.trans hsent)
  rw [hc] at hkey
  cases hkey

/-- **The rule for a call.** -/
theorem upholds_perform {P : Pact ι World (ι → String → Bool)} {α : Type} {c : Call}
    {effect : Turnout → World → World × α}
    {Q : Except String α → World × (ι → String → Bool) → Prop}
    (hanswered : ∀ s' t, P.rely i s s' → P.Admits i s' (effect t (s'.1.sent c .answered)).1
      (Q (.ok (effect t (s'.1.sent c .answered)).2)))
    (hlost : ∀ s' t, P.rely i s s' → P.Admits i s' (effect t (s'.1.sent c .lost)).1
      (Q (.error t.error)))
    (hrefused : ∀ s' e, P.rely i s s' → P.Admits i s' (s'.1.sent c .refused) (Q (.error e))) :
    Upholds P i (perform c effect) Q s := by
  refine upholds_once fun s' t hs ↦ ?_
  rcases ht : t.outcome with _ | _ | _
  · exact hanswered s' t hs
  · exact hlost s' t hs
  · exact hrefused s' t.error hs

variable [DecidableEq ι]

theorem pact_after : (pact env).after i s w' = (w', handOver env i s.1 w' s.2) := rfl

/-- A call that leaves the key files and the hands as they are. -/
theorem guarantee_of_same (hfiles : w'.files = s.1.files)
    (hhands : handOver env i s.1 w' s.2 = s.2) (hsends : SendsRecorded env i s (w', s.2)) :
    (pact env).guarantee i s ((pact env).after i s w') := by
  rw [pact_after, hhands]
  exact ⟨fun j _ path h ↦ ⟨h, congrFun hfiles path⟩, hsends⟩

/-- A call that is about neither clients nor keys. -/
theorem handOver_aside {w : World} {hands : ι → String → Bool} {c : Call} {o : Outcome}
    (hcalls : w'.calls.head? = some ⟨c, o⟩) (hc : c.aboutKeys = false) :
    handOver env i w w' hands = hands := by
  funext j path
  rw [handOver, hcalls]
  rcases c <;> first | (cases hc; done) | rfl

/-- A call that sends a key set. -/
theorem handOver_send {w : World} {hands : ι → String → Bool} {c : Call} {o : Outcome}
    {key : String × String} (hcalls : w'.calls.head? = some ⟨c, o⟩) (hc : c.keySent = some key) :
    handOver env i w w' hands = hands := by
  funext j path
  rw [handOver, hcalls]
  rcases c <;> first | (cases hc; done) | rfl

theorem guarantee_aside (h : Aside s.1 w') :
    (pact env).guarantee i s ((pact env).after i s w') := by
  obtain ⟨c, o, hc, hcalls⟩ := h.calls
  have hhead : w'.calls.head? = some ⟨c, o⟩ := by rw [hcalls]; rfl
  exact guarantee_of_same h.files (handOver_aside hhead hc)
    (sendsRecorded_of_none hhead (Call.keySent_eq_none hc))

theorem safe_of_each_aside {α : Type} {x : Script α} (h : x.Each Aside) : Safe (pact env) i x :=
  safe_of_each h fun _ _ ↦ guarantee_aside

/-- A call that sends the key set of the key in hand. -/
theorem safe_send {α : Type} {c : Call} {effect : Turnout → World → World × α}
    {service jwks path pem : String} (hc : c.keySent = some (service, jwks))
    (heffect : ∀ t w, (effect t w).1.files = w.files ∧ (effect t w).1.calls = w.calls)
    (hpath : keyPath env service = .ok path) (hjwks : env.keys.jwksFromPrivatePEM pem = some jwks)
    (h : InHand i path pem s) :
    Upholds (pact env) i (perform c effect) (fun _ _ ↦ True) s := by
  have hsend : ∀ s' w' o, (pact env).rely i s s' → w'.files = s'.1.files →
      w'.calls.head? = some ⟨c, o⟩ → (pact env).guarantee i s' ((pact env).after i s' w') := by
    intro s' w' o hs hfiles hcalls
    refine guarantee_of_same hfiles (handOver_send hcalls hc) ?_
    intro sent service' jwks' path' hsent hkey hpath' hhand
    obtain rfl : ⟨c, o⟩ = sent := Option.some.inj (hcalls.symm.trans hsent)
    obtain ⟨rfl, rfl⟩ : service = service' ∧ jwks = jwks' := by
      simpa using hc.symm.trans hkey
    obtain rfl : path = path' := Except.ok.inj (hpath.symm.trans hpath')
    exact ⟨path, pem, hpath, (h.rely hs hhand).1, hjwks⟩
  have hcommitted : ∀ s' t o, (pact env).rely i s s' →
      (pact env).guarantee i s' ((pact env).after i s' (effect t (s'.1.sent c o)).1) := by
    intro s' t o hs
    obtain ⟨hfiles, hcalls⟩ := heffect t (s'.1.sent c o)
    exact hsend s' _ o hs hfiles (by rw [hcalls]; rfl)
  exact upholds_perform (fun s' t hs ↦ ⟨hcommitted s' t _ hs, trivial⟩)
    (fun s' t hs ↦ ⟨hcommitted s' t _ hs, trivial⟩)
    fun s' _ hs ↦ ⟨hsend s' _ _ hs rfl rfl, trivial⟩

/-! ## The key store -/

/-- Reading a key file. -/
theorem guarantee_read {service : String} {o : Outcome} :
    (pact env).guarantee i s ((pact env).after i s (s.1.sent (.readKey service) o)) := by
  rw [pact_after]
  refine ⟨fun j hj path hhand ↦ ⟨?_, rfl⟩, sendsRecorded_of_none rfl rfl⟩
  have hother : handOver env i s.1 (s.1.sent (.readKey service) o) s.2 j path = s.2 j path := by
    rcases o with _ | _ | _
    · exact if_neg fun h ↦ hj h.1
    · rfl
    · rfl
  exact hother.symm.trans hhand

/-- **What is read from a key file, and is not empty, is in hand.** -/
theorem upholds_privateKey (service : String) :
    Upholds (pact env) i (privateKey env service) (fun r s' ↦ ∀ x, r = .ok x →
      ∃ path, keyPath env service = .ok path ∧ InHand i path x.1 s') s := by
  rw [privateKey]
  split
  · exact upholds_pure (by rintro x ⟨⟩)
  rename_i path hpath
  have hread : Upholds (pact env) i (inquire (.readKey service) fun w ↦ w.files path)
      (fun r s' ↦ ∀ file, r = .ok file → file = s'.1.files path ∧
        s'.2 i path = file.any (· != "")) s := by
    refine upholds_perform (fun s' t hs ↦ ⟨guarantee_read, ?_⟩)
      (fun s' t hs ↦ ⟨guarantee_read, by rintro file ⟨⟩⟩)
      fun s' e hs ↦ ⟨guarantee_read, by rintro file ⟨⟩⟩
    rintro file ⟨⟩
    exact ⟨rfl, if_pos ⟨rfl, hpath⟩⟩
  refine hread.bind ?_
  rintro (e | _ | pem) s' hs'
  · exact upholds_pure (by rintro x ⟨⟩)
  · obtain ⟨-, hhand⟩ := hs' _ rfl
    refine upholds_pure ?_
    rintro x ⟨⟩
    refine ⟨path, hpath, fun h ↦ ?_⟩
    rw [hhand] at h
    cases h
  · obtain ⟨hfile, hhand⟩ := hs' _ rfl
    refine upholds_pure ?_
    rintro x ⟨⟩
    refine ⟨path, hpath, fun h ↦ ⟨hfile.symm, ?_⟩⟩
    rw [hhand] at h
    simpa using h

/-- A key file is made, or the file that is there is left as it is. -/
theorem guarantee_record {service path : String} {o : Outcome}
    (hpath : keyPath env service = .ok path)
    (hcalls : w'.calls.head? = some ⟨.recordKey service, o⟩)
    (hothers : ∀ path', path' ≠ path → w'.files path' = s.1.files path')
    (hfile : s.1.files path = none ∨ w'.files path = s.1.files path) :
    (pact env).guarantee i s ((pact env).after i s w') := by
  rw [pact_after]
  refine ⟨fun j hj path' hhand ↦ ?_, sendsRecorded_of_none hcalls rfl⟩
  simp only [handOver, hcalls, hpath, Except.ok.injEq] at hhand
  split at hhand
  · exact absurd (of_decide_eq_true hhand).1 hj
  · rename_i hnew
    refine ⟨hhand, ?_⟩
    by_cases hp : path' = path
    · subst hp
      rcases hfile with hfile | hfile
      · exact absurd ⟨rfl, hfile⟩ hnew
      · exact hfile
    · exact hothers path' hp

/-- A process that makes the file disturbs nobody: there was nothing to have in hand. -/
theorem guarantee_made {service path : String} (hpath : keyPath env service = .ok path)
    (hfile : s.1.files path = none) (o : Outcome) (text : String) :
    (pact env).guarantee i s ((pact env).after i s { s.1.sent (.recordKey service) o with
      files := Function.update (s.1.sent (.recordKey service) o).files path (some text) }) :=
  guarantee_record hpath rfl (fun _ hp ↦ Function.update_of_ne hp _ _) (Or.inl hfile)

/-- Recording a key over a file that is there puts nothing into the hand. -/
theorem inHand_record {service path old : String} (hfile : s.1.files path = some old)
    (hfree : s.2 i path = false) (pem : String) (o : Outcome) :
    InHand i path pem ((pact env).after i s (s.1.sent (.recordKey service) o)) := by
  have hkept : handOver env i s.1 (s.1.sent (.recordKey service) o) s.2 i path = false := by
    simp [handOver, World.sent, hfile, hfree]
  intro hhand
  simp only [pact_after, hkept, Bool.false_eq_true] at hhand

/-- **A key that is recorded is in hand, if the process has made the file.**  Otherwise it has
nothing in hand. -/
theorem upholds_record (service pem : String) :
    Upholds (pact env) i (record env service pem) (fun r s' ↦ ∀ path,
      keyPath env service = .ok path → s.2 i path = false → pem ≠ "" → r = .ok ⟨⟩ →
        InHand i path pem s') s := by
  rw [record]
  split
  · exact upholds_pure (by rintro path - - - ⟨⟩)
  rename_i path hpath
  refine upholds_once fun s' t hs ↦ ?_
  have hsame : ∀ o, (pact env).guarantee i s'
      ((pact env).after i s' (s'.1.sent (.recordKey service) o)) := fun o ↦
    guarantee_record hpath rfl (fun _ _ ↦ rfl) (Or.inr rfl)
  rcases hfile : s'.1.files path with _ | old
  · have hnone : ∀ o, (s'.1.sent (.recordKey service) o).files path = none := fun _ ↦ hfile
    rcases ht : t.outcome with _ | _ | _
    · simp only [hnone]
      refine ⟨guarantee_made hpath hfile .answered pem, ?_⟩
      rintro path' hpath' - hpem - -
      obtain rfl : path = path' := Except.ok.inj (hpath.symm.trans hpath')
      exact ⟨Function.update_self .., hpem⟩
    · simp only [hnone]
      split
      · exact ⟨hsame .lost, by rintro path' - - - ⟨⟩⟩
      · exact ⟨guarantee_made hpath hfile .lost _, by rintro path' - - - ⟨⟩⟩
    · exact ⟨hsame .refused, by rintro path' - - - ⟨⟩⟩
  · have hsome : ∀ o, (s'.1.sent (.recordKey service) o).files path = some old := fun _ ↦ hfile
    have hkept : ∀ o path', keyPath env service = .ok path' → s.2 i path' = false →
        InHand i path' pem ((pact env).after i s' (s'.1.sent (.recordKey service) o)) := by
      intro o path' hpath' hfree
      obtain rfl : path = path' := Except.ok.inj (hpath.symm.trans hpath')
      exact inHand_record hfile (hs.free hfree) pem o
    rcases ht : t.outcome with _ | _ | _
    · simp only [hsome]
      exact ⟨hsame .answered, fun path' hpath' hfree _ _ ↦ hkept .answered path' hpath' hfree⟩
    · simp only [hsome]
      exact ⟨hsame .lost, fun path' hpath' hfree _ _ ↦ hkept .lost path' hpath' hfree⟩
    · exact ⟨hsame .refused, by rintro path' - - - ⟨⟩⟩

theorem safe_record (service pem : String) : Safe (pact env) i (record env service pem) :=
  fun _ ↦ (upholds_record service pem).mono fun _ _ _ ↦ trivial

theorem safe_discard (service : String) : Safe (pact env) i (discard env service) := by
  rw [discard]
  split
  · exact safe_pure
  rename_i path hpath
  have hremoved : ∀ s o, o ≠ .refused → (pact env).guarantee i s ((pact env).after i s
      { s.1.sent (.discardKey service) o with files := Function.update s.1.files path none }) := by
    intro s o ho
    rw [pact_after]
    refine ⟨fun j hj path' hhand ↦ ?_, sendsRecorded_of_none rfl rfl⟩
    simp only [handOver, World.sent, List.head?_cons] at hhand
    split at hhand
    · cases hhand
    · rename_i hother
      have hp : path' ≠ path := by
        rintro rfl
        exact hother ⟨hpath, ho⟩
      exact ⟨hhand, Function.update_of_ne hp _ _⟩
  have hrefused : ∀ s, (pact env).guarantee i s
      ((pact env).after i s (s.1.sent (.discardKey service) .refused)) := by
    refine fun s ↦ guarantee_of_same rfl ?_ (sendsRecorded_of_none rfl rfl)
    funext j path'
    exact if_neg fun h ↦ h.2 rfl
  exact fun s ↦ upholds_perform (fun s' _ _ ↦ ⟨hremoved s' .answered (by decide), trivial⟩)
    (fun s' _ _ ↦ ⟨hremoved s' .lost (by decide), trivial⟩) fun s' _ _ ↦ ⟨hrefused s', trivial⟩

/-- A new key is no empty text, and it puts nothing into the hand. -/
theorem upholds_generateClientKey {path : String} (hfree : s.2 i path = false) :
    Upholds (pact env) i (generateClientKey env) (fun r s' ↦
      s'.2 i path = false ∧ ∀ pem, r = .ok pem → pem ≠ "") s := by
  have hcall : ∀ s' (w' : World) o, w'.files = s'.1.files →
      w'.calls.head? = some ⟨.generateClientKey, o⟩ → Undisturbed i s s' →
      (pact env).guarantee i s' ((pact env).after i s' w') ∧
        ((pact env).after i s' w').2 i path = false := by
    intro s' w' o hfiles hcalls hs
    have hhands : handOver env i s'.1 w' s'.2 = s'.2 := handOver_aside hcalls rfl
    refine ⟨guarantee_of_same hfiles hhands (sendsRecorded_of_none hcalls rfl), ?_⟩
    exact (congrFun (congrFun hhands i) path).trans (hs.free hfree)
  refine upholds_perform (fun s' t hs ↦ ?_) (fun s' t hs ↦ ?_) fun s' e hs ↦ ?_
  · obtain ⟨hguarantee, hhand⟩ := hcall s' { s'.1.sent .generateClientKey .answered with
      minted := s'.1.minted + 1 } .answered rfl rfl hs
    refine ⟨hguarantee, hhand, ?_⟩
    rintro pem ⟨⟩
    exact env.keys.pem_ne_empty _
  · obtain ⟨hguarantee, hhand⟩ := hcall s' { s'.1.sent .generateClientKey .lost with
      minted := s'.1.minted + 1 } .lost rfl rfl hs
    exact ⟨hguarantee, hhand, by rintro pem ⟨⟩⟩
  · obtain ⟨hguarantee, hhand⟩ :=
      hcall s' (s'.1.sent .generateClientKey .refused) .refused rfl rfl hs
    exact ⟨hguarantee, hhand, by rintro pem ⟨⟩⟩

/-- **The key to register a client with is the one in hand.** -/
theorem upholds_clientKey {service path pem : String} (hpath : keyPath env service = .ok path)
    (h : InHand i path pem s) :
    Upholds (pact env) i (clientKey env service pem) (fun r s' ↦ ∀ x, r = .ok x →
      InHand i path x.1 s') s := by
  rw [clientKey]
  split
  · refine upholds_pure ?_
    rintro x ⟨⟩
    exact h
  rename_i hpem
  -- there is no key, so there is none in hand
  have hfree : s.2 i path = false := by
    rcases hhand : s.2 i path with _ | _
    · rfl
    · exact absurd (h hhand).2 hpem
  refine (upholds_generateClientKey hfree).bind ?_
  rintro (e | new) s' ⟨hfree', hnew⟩
  · exact upholds_pure (by rintro x ⟨⟩)
  refine (upholds_record service new).bind ?_
  rintro (e | _) s'' hrecord
  · exact upholds_pure (by rintro x ⟨⟩)
  · refine upholds_pure ?_
    rintro x ⟨⟩
    exact hrecord path hpath hfree' (hnew new rfl) rfl

/-! ## The appliers -/

/-- The four ways of applying an object keep to the pact. -/
structure Applier.Safe {α : Type} (env : Env) (ap : Applier α) (i : ι) : Prop where
  service : ∀ a name spec, Crew.Safe (pact env) i (ap.ensureService a name spec)
  resourceAPI : ∀ a name spec, Crew.Safe (pact env) i (ap.ensureResourceAPI a name spec)
  serviceClient : ∀ a name spec, Crew.Safe (pact env) i (ap.ensureServiceClient a name spec)
  servicePolicy : ∀ a name spec, Crew.Safe (pact env) i (ap.ensureServicePolicy a name spec)

/-- `EnsureServiceClient` of the setup window. -/
theorem safe_setupWindow_client (name : String) (spec : ServiceClientSpec) :
    Safe (pact env) i (SetupWindow.ensureServiceClient env name spec) := by
  intro s
  refine (upholds_privateKey spec.service).bind ?_
  rintro (e | ⟨pem, existed⟩) s hread
  · exact safe_pure s
  obtain ⟨path, hpath, hhand⟩ := hread _ rfl
  refine (upholds_clientKey hpath hhand).bind ?_
  rintro (e | ⟨pem, generated⟩) s hchosen
  · exact safe_pure s
  simp only
  split
  · exact safe_pure s
  rename_i jwks hjwks
  have hsend : Upholds (pact env) i (SetupWindow.ensureControlClient name spec.service jwks)
      (fun _ _ ↦ True) s := by
    refine safe_send rfl (fun t w ↦ ?_) hpath hjwks (hchosen _ rfl)
    split
    · exact ⟨rfl, rfl⟩
    · exact ⟨rfl, rfl⟩
  refine hsend.bind ?_
  rintro (e | ⟨client, alreadyExisted⟩) s -
  · exact safe_pure s
  simp only
  split
  · rw [SetupWindow.clientWithoutKey]
    split
    · exact (safe_discard spec.service).bind (fun _ ↦ safe_pure) s
    · exact safe_pure s
  · exact safe_pure s

/-- `EnsureServiceClient` after setup. -/
theorem safe_postSetup_client (a : Authctrl.Applier) (name : String) (spec : ServiceClientSpec) :
    Safe (pact env) i (Authctrl.ensureServiceClient env a name spec) := by
  rw [Authctrl.ensureServiceClient]
  split
  · exact safe_pure
  refine (safe_of_each_aside (each_look rfl)).bind ?_
  rintro (e | existing)
  · exact safe_pure
  intro s
  refine (upholds_privateKey spec.service).bind ?_
  rintro (e | ⟨pem, hadKey⟩) s hread
  · exact safe_pure s
  rcases existing with _ | client
  · obtain ⟨path, hpath, hhand⟩ := hread _ rfl
    refine (upholds_clientKey hpath hhand).bind ?_
    rintro (e | ⟨pem, generated⟩) s hchosen
    · exact safe_pure s
    simp only
    rw [Authctrl.registerClient]
    split
    · exact safe_pure s
    rename_i cfg hcfg
    have hsend : Upholds (pact env) i (Authctrl.createClient name spec.service cfg)
        (fun _ _ ↦ True) s :=
      safe_send rfl (fun t w ↦ ⟨rfl, rfl⟩) hpath
        (Authctrl.clientRequest_jwks hcfg) (hchosen _ rfl)
    refine hsend.bind ?_
    rintro (e | client) s -
    · simp only
      rw [Authctrl.rollBack]
      split
      · exact (safe_discard spec.service).bind (fun _ ↦ safe_pure) s
      · exact safe_pure s
    · exact safe_pure s
  · simp only
    split
    · exact safe_pure s
    · exact safe_pure s

theorem safe_setupWindow (env : Env) (i : ι) : (SetupWindow.applier env).Safe env i where
  service _ _ _ := safe_pure
  resourceAPI _ _ _ := (safe_of_each_aside (each_look rfl)).bind fun _ ↦ safe_pure
  serviceClient _ name spec := (safe_setupWindow_client name spec).bind fun _ ↦ safe_pure
  servicePolicy a name spec := by
    show Crew.Safe _ i (if spec.allowedActions.isEmpty then _ else _)
    split
    · exact safe_pure
    · exact (safe_of_each_aside (each_look rfl)).bind fun _ ↦ safe_pure

theorem safe_postSetup (env : Env) (i : ι) : (Authctrl.applier env).Safe env i where
  service a name spec :=
    (safe_of_each_aside (Authctrl.each_ensureService a name spec)).bind fun _ ↦ safe_pure
  resourceAPI a name spec :=
    (safe_of_each_aside (Authctrl.each_ensureResourceAPI a name spec)).bind fun _ ↦ safe_pure
  serviceClient a name spec := (safe_postSetup_client a name spec).bind fun _ ↦ safe_pure
  servicePolicy a name spec :=
    (safe_of_each_aside (Authctrl.each_ensureServicePolicy a name spec)).bind fun _ ↦ safe_pure

/-! ## Passes -/

section Passes

variable {α : Type} {ap : Applier α}

theorem safe_recordGenerated (spec : ServiceClientSpec) (rep : Report)
    (gc : Option GeneratedClient) : Safe (pact env) i (recordGenerated env spec rep gc) := by
  rcases gc with _ | gc
  · exact safe_pure
  rw [recordGenerated]
  split
  · exact safe_pure
  · refine (safe_record spec.service gc.privateKeyPEM).bind ?_
    rintro (e | _)
    · exact safe_pure
    · exact safe_pure

theorem safe_applyObject (h : ap.Safe env i) (a : α) (rep : Report) (name : String) (spec : Spec) :
    Safe (pact env) i (applyObject env ap a rep name spec) := by
  rcases spec with spec | spec | spec | spec
  · exact (h.service a name spec).bind fun _ ↦ safe_pure
  · exact (h.resourceAPI a name spec).bind fun _ ↦ safe_pure
  · refine (h.serviceClient a name spec).bind ?_
    rintro ⟨a, e | gc⟩
    · exact safe_pure
    · exact (safe_recordGenerated spec _ gc).bind fun _ ↦ safe_pure
  · rw [applyObject]
    split
    · exact safe_pure
    · exact (h.servicePolicy a name spec).bind fun _ ↦ safe_pure

theorem safe_reconcileFrom (h : ap.Safe env i) (n : ℕ) (objs : List Object) (a : α)
    (rep : Report) : Safe (pact env) i (reconcileFrom env ap n objs a rep) := by
  induction objs generalizing n a rep with
  | nil => exact safe_pure
  | cons obj objs ih =>
    rw [reconcileFrom]
    split
    · exact safe_pure
    · refine (safe_applyObject h a rep obj.name _).bind ?_
      rintro ⟨a, rep, _ | e⟩
      · exact ih (n + 1) a rep
      · exact safe_pure

end Passes

/-- Every pass keeps to the pact. -/
theorem safe_script (env : Env) (i : ι) (p : Pass) : Safe (pact env) i (p.script env) := by
  rcases p with catalog | catalog
  · exact (safe_reconcileFrom (safe_setupWindow env i) 0 catalog ⟨⟩ {}).bind fun _ ↦ safe_pure
  · exact (safe_reconcileFrom (safe_postSetup env i) 0 catalog {} {}).bind fun _ ↦ safe_pure

/-- **A key in hand is on record when its key set is sent.**  Let any number of processes make a
pass each, with either applier and over any catalogue, from any Auth and any content of the key
files, and let their calls interleave in any way and come to whatever they come to.  Whenever a
process sends a key set to Auth and has the key of the service in hand, that is, it has read the key
from the key file or has made the file with it, and the file was not removed since, the key file
holds the private key of that key set at that moment. -/
theorem sent_key_on_file (env : Env) (passes : ι → Pass) (w : World) (ms : List (ι × Turnout))
    (m : ι × Turnout) {service jwks : String}
    (hsent : sends env (raced env passes w ms) m = some (service, jwks))
    (hhand : HasInHand env (raced env passes w ms) m.1 service) :
    HoldsKey env (raced env passes w ms).state service jwks := by
  have hstart : Sound (pact env) (together env passes w) := fun i ↦ safe_script env i (passes i) _
  have hguaranteed := hstart.guaranteed ms m
  obtain ⟨path, hpath, hhand⟩ := hhand
  rw [sends] at hsent
  split at hsent
  · rename_i hacts
    obtain ⟨sent, hcall, hkey⟩ := Option.bind_eq_some_iff.mp hsent
    exact (hguaranteed hacts).2 sent service jwks path hcall hkey hpath hhand
  · cases hsent

end Race

/-! ## Two processes -/

theorem holdsKey_iff {env : Env} {w : World} {service jwks : String} :
    HoldsKey env w service jwks ↔
      ((keyPath env service).toOption.bind w.files).bind env.keys.jwksFromPrivatePEM =
        some jwks := by
  rcases hpath : keyPath env service with e | path
  · simp [HoldsKey, hpath, Except.toOption]
  · simp [HoldsKey, hpath, Except.toOption, Option.bind_eq_some_iff]

instance {env : Env} {w : World} {service jwks : String} :
    Decidable (HoldsKey env w service jwks) :=
  decidable_of_iff _ holdsKey_iff.symm

/-- One process makes its pass during setup and another one after it. -/
def setupAndAfter (after : Bool) : Pass :=
  if after then .postSetup secretCatalog else .setupWindow secretCatalog

/-- The next calls of a process, all of which are answered. -/
def answered {ι : Type} (i : ι) (n : ℕ) : List (ι × Turnout) := List.replicate n (i, default)

/-- The first process has made the key file and has not registered its client yet; the second one
reads the file and sends its key set. -/
theorem sent_key_on_file_read :
    let r := raced plainSteward setupAndAfter .empty (answered false 3 ++ answered true 5)
    sends plainSteward r (true, default) = some ("secret", "k") ∧
      HoldsKey plainSteward r.state "secret" "k" :=
  ⟨by decide, sent_key_on_file plainSteward setupAndAfter .empty _ (true, default) (by decide)
    ⟨"secret.pem", by decide, by decide⟩⟩

/-- An empty key file was left behind. -/
def leftover : World := { World.empty with files := Function.update (fun _ ↦ none) "secret.pem" "" }

/-- **Keys that are sent and not on record.**  A process that finds an empty key file sends a new
key and leaves the file empty.  Two processes find no key file; the one that comes second sends a
key of its own while the file holds the key of the first.  And when its registration fails it
discards the file of the first, which then sends a key that is nowhere. -/
theorem unrecorded_key_sent :
    let alone := raced plainSteward (fun _ : Unit ↦ .setupWindow secretCatalog) leftover
      (answered () 3)
    let second := raced plainSteward setupAndAfter .empty
      (answered true 5 ++ answered false 3 ++ answered true 2)
    let first := raced plainSteward setupAndAfter .empty (answered true 5 ++ answered false 3 ++
      answered true 2 ++ [(true, { outcome := .refused }), (true, default)])
    (sends plainSteward alone ((), default) = some ("secret", "k") ∧
        alone.state.files "secret.pem" = some "" ∧
        ¬HoldsKey plainSteward alone.state "secret" "k") ∧
      (sends plainSteward second (true, default) = some ("secret", "kk") ∧
        second.state.files "secret.pem" = some "k" ∧
        ¬HoldsKey plainSteward second.state "secret" "kk") ∧
      sends plainSteward first (false, default) = some ("secret", "k") ∧
        first.state.files "secret.pem" = none ∧
        ¬HoldsKey plainSteward first.state "secret" "k" := by
  decide

end Maintainerd.Steward

import Maintainerd.Setup.Attempt
import Maintainerd.Steward.Reconcile

/-!
# Who has the key of a client

Auth verifies a client with the key set it was registered with, and the service signs with the
private key in its key file.  The file is written before the client is registered, and it is removed
again when the registration fails.

`Custody` is the invariant of both appliers.  Every key in a file and every key set in Auth is one
that was minted, and the clients fall into two kinds: all of them have their keys on file
(`KeysHeld`), or the key of one of them is gone (`KeyGone`), for good, since no key is minted twice.
The second kind is reached in one way only, and the calls show it (`abandons`): a client was
created, the answer was lost, and the key was discarded.

The lemmas of `Custody` are about single writes; `wp_privateKey` and `wp_clientKey` are about what
the appliers have in common.
-/

set_option autoImplicit false

namespace Maintainerd.Steward

open Dialogue

/-! ## The two kinds of world -/

/-- The client was created, and the answer was lost. -/
def Sent.lostClient : Sent → Bool
  | ⟨.createClient _ _ _, .lost⟩ => true
  | _ => false

/-- A key file was removed. -/
def Sent.discards : Sent → Bool
  | ⟨.discardKey _, o⟩ => o != .refused
  | _ => false

/-- Some call, after a client was created and the answer was lost, was to discard its key.  The
latest call comes first. -/
def abandons : List Sent → Bool
  | [] => false
  | c :: calls => c.discards && calls.head?.any Sent.lostClient || abandons calls

/-- The key store holds for the service the private key of the key set. -/
def HoldsKey (env : Env) (w : World) (service jwks : String) : Prop :=
  ∃ path pem, keyPath env service = .ok path ∧ w.files path = some pem ∧
    env.keys.jwksFromPrivatePEM pem = some jwks

/-- Every client in Auth has its private key on file. -/
def KeysHeld (env : Env) (w : World) : Prop :=
  ∀ c ∈ w.auth.clients, HoldsKey env w c.service c.jwks

/-- Some client in Auth has not, and the key is one of the past. -/
def KeyGone (env : Env) (w : World) : Prop :=
  ∃ c ∈ w.auth.clients, ∃ n < w.minted, c.jwks = env.keys.jwks n ∧
    ∀ path, keyPath env c.service = .ok path → w.files path ≠ some (env.keys.pem n)

/-- What holds of Auth and the key files throughout. -/
structure Custody (env : Env) (w : World) : Prop where
  stored : ∀ path pem, w.files path = some pem → ∃ n < w.minted, pem = env.keys.pem n
  registered : ∀ c ∈ w.auth.clients, ∃ n < w.minted, c.jwks = env.keys.jwks n
  kind : abandons w.calls = false ∧ KeysHeld env w ∨ abandons w.calls = true ∧ KeyGone env w

/-- No client has the key set of the key with this number. -/
def Unregistered (env : Env) (w : World) (n : ℕ) : Prop :=
  ∀ c ∈ w.auth.clients, c.jwks ≠ env.keys.jwks n

variable {env : Env} {w w' : World}

theorem custody_empty (env : Env) : Custody env .empty where
  stored := by
    rintro path pem ⟨⟩
  registered := by
    rintro c ⟨⟩
  kind := Or.inl ⟨rfl, by rintro c ⟨⟩⟩

theorem pem_injective (keys : KeyGen) : Function.Injective keys.pem := by
  intro n m h
  refine keys.jwks_injective (Option.some.inj ?_)
  rw [← keys.jwks_pem n, h, keys.jwks_pem m]

/-- A key that was minted, and its key set. -/
theorem Custody.jwks_of_file (h : Custody env w) {path pem jwks : String}
    (hfile : w.files path = some pem) (hjwks : env.keys.jwksFromPrivatePEM pem = some jwks) :
    ∃ n < w.minted, pem = env.keys.pem n ∧ jwks = env.keys.jwks n := by
  obtain ⟨n, hn, rfl⟩ := h.stored path pem hfile
  rw [env.keys.jwks_pem] at hjwks
  exact ⟨n, hn, rfl, (Option.some.inj hjwks).symm⟩

theorem Custody.not_keysHeld (h : Custody env w) (hgone : KeyGone env w) : ¬KeysHeld env w := by
  obtain ⟨c, hc, n, -, hjwks, hmissing⟩ := hgone
  intro hheld
  obtain ⟨path, pem, hpath, hfile, hkey⟩ := hheld c hc
  obtain ⟨m, -, rfl, hm⟩ := h.jwks_of_file hfile hkey
  obtain rfl : n = m := env.keys.jwks_injective (hjwks.symm.trans hm)
  exact hmissing path hpath hfile

/-- **The keys are held exactly if none was abandoned.** -/
theorem Custody.keysHeld_iff (h : Custody env w) : KeysHeld env w ↔ abandons w.calls = false := by
  rcases h.kind with ⟨hcalls, hheld⟩ | ⟨hcalls, hgone⟩
  · exact iff_of_true hheld hcalls
  · exact iff_of_false (h.not_keysHeld hgone) (by rw [hcalls]; decide)

/-! ## Single writes -/

/-- Only the clients, the files, the count of keys and the calls matter. -/
theorem Custody.congr (h : Custody env w) (hclients : w'.auth.clients = w.auth.clients)
    (hfiles : w'.files = w.files) (hminted : w.minted ≤ w'.minted)
    (hcalls : abandons w'.calls = abandons w.calls) : Custody env w' where
  stored := by
    intro path pem hfile
    rw [hfiles] at hfile
    obtain ⟨n, hn, hpem⟩ := h.stored path pem hfile
    exact ⟨n, Nat.lt_of_lt_of_le hn hminted, hpem⟩
  registered := by
    intro c hc
    rw [hclients] at hc
    obtain ⟨n, hn, hjwks⟩ := h.registered c hc
    exact ⟨n, Nat.lt_of_lt_of_le hn hminted, hjwks⟩
  kind := by
    simp only [KeysHeld, KeyGone, HoldsKey, hclients, hfiles, hcalls]
    rcases h.kind with ⟨ha, hheld⟩ | ⟨ha, c, hc, n, hn, hgone⟩
    · exact Or.inl ⟨ha, hheld⟩
    · exact Or.inr ⟨ha, c, hc, n, Nat.lt_of_lt_of_le hn hminted, hgone⟩

theorem abandons_sent {c : Call} {o : Outcome} (hc : Sent.discards ⟨c, o⟩ = false) :
    abandons (w.sent c o).calls = abandons w.calls := by
  simp [World.sent, abandons, hc]

/-- A call that removes no key file. -/
theorem Custody.sent (h : Custody env w) {c : Call} {o : Outcome}
    (hc : Sent.discards ⟨c, o⟩ = false) : Custody env (w.sent c o) :=
  h.congr rfl rfl (Nat.le_refl _) (abandons_sent hc)

theorem Custody.mint (h : Custody env w) : Custody env { w with minted := w.minted + 1 } :=
  h.congr rfl rfl (Nat.le_succ _) rfl

/-- The next key to be minted is registered nowhere. -/
theorem Custody.unregistered (h : Custody env w) : Unregistered env w w.minted := by
  intro c hc hjwks
  obtain ⟨n, hn, hn'⟩ := h.registered c hc
  exact absurd (env.keys.jwks_injective (hn'.symm.trans hjwks)) (Nat.ne_of_lt hn)

/-- A key file is written where there was none. -/
theorem Custody.store (h : Custody env w) {path : String} {n : ℕ} (hfree : w.files path = none)
    (hn : n < w.minted) (hnew : Unregistered env w n) :
    Custody env { w with files := Function.update w.files path (some (env.keys.pem n)) } where
  stored := by
    intro path' pem hfile
    by_cases hp : path' = path
    · subst hp
      simp only [Function.update_self, Option.some.injEq] at hfile
      exact ⟨n, hn, hfile.symm⟩
    · simp only [Function.update_of_ne hp] at hfile
      exact h.stored path' pem hfile
  registered := h.registered
  kind := by
    rcases h.kind with ⟨ha, hheld⟩ | ⟨ha, c, hc, m, hm, hjwks, hgone⟩
    · refine Or.inl ⟨ha, fun c hc ↦ ?_⟩
      obtain ⟨path', pem, hpath, hfile, hkey⟩ := hheld c hc
      have hp : path' ≠ path := by
        rintro rfl
        rw [hfree] at hfile
        cases hfile
      exact ⟨path', pem, hpath, by simp only [Function.update_of_ne hp, hfile], hkey⟩
    · refine Or.inr ⟨ha, c, hc, m, hm, hjwks, fun path' hpath hfile ↦ ?_⟩
      by_cases hp : path' = path
      · subst hp
        simp only [Function.update_self, Option.some.injEq] at hfile
        -- the key of the client would have to be the new one
        exact hnew c hc (by rw [hjwks, pem_injective env.keys hfile])
      · simp only [Function.update_of_ne hp] at hfile
        exact hgone path' hpath hfile

/-- A client is registered whose key is on file. -/
theorem Custody.register (h : Custody env w) (place : ℕ) (name : String) {service jwks : String}
    (hkey : HoldsKey env w service jwks) :
    Custody env (w.addClient place name service jwks).1 where
  stored := h.stored
  registered := by
    intro c hc
    rcases mem_insertAt.mp hc with rfl | hc
    · obtain ⟨path, pem, -, hfile, hjwks⟩ := hkey
      obtain ⟨m, hm, -, hm'⟩ := h.jwks_of_file hfile hjwks
      exact ⟨m, hm, hm'⟩
    · exact h.registered c hc
  kind := by
    rcases h.kind with ⟨ha, hheld⟩ | ⟨ha, c, hc, hgone⟩
    · refine Or.inl ⟨ha, fun c hc ↦ ?_⟩
      rcases mem_insertAt.mp hc with rfl | hc
      · exact hkey
      · exact hheld c hc
    · exact Or.inr ⟨ha, c, mem_insertAt.mpr (Or.inr hc), hgone⟩

/-- Where a key file comes from when another one is removed. -/
theorem eq_of_update_none {files : String → Option String} {path path' pem : String}
    (h : Function.update files path none path' = some pem) :
    path' ≠ path ∧ files path' = some pem := by
  by_cases hp : path' = path
  · subst hp
    rw [Function.update_self] at h
    cases h
  · rw [Function.update_of_ne hp] at h
    exact ⟨hp, h⟩

/-- The key file of a key that is registered nowhere is removed, and the call before was not a
client whose answer was lost. -/
theorem Custody.free (h : Custody env w) {path service : String} {o : Outcome} {n : ℕ}
    (hfile : w.files path = some (env.keys.pem n)) (hnew : Unregistered env w n)
    (hcalls : w.calls.head?.any Sent.lostClient = false) :
    Custody env { w.sent (.discardKey service) o with
      files := Function.update w.files path none } where
  stored path' pem hfile' := h.stored path' pem (eq_of_update_none hfile').2
  registered := h.registered
  kind := by
    have hsame : abandons (w.sent (.discardKey service) o).calls = abandons w.calls := by
      simp [World.sent, abandons, hcalls]
    rcases h.kind with ⟨ha, hheld⟩ | ⟨ha, c, hc, m, hm, hjwks, hgone⟩
    · refine Or.inl ⟨hsame.trans ha, fun c hc ↦ ?_⟩
      obtain ⟨path', pem, hpath, hfile', hkey⟩ := hheld c hc
      have hp : path' ≠ path := by
        rintro rfl
        obtain rfl : pem = env.keys.pem n := Option.some.inj (hfile'.symm.trans hfile)
        rw [env.keys.jwks_pem] at hkey
        exact hnew c hc (Option.some.inj hkey).symm
      exact ⟨path', pem, hpath, by simp only [Function.update_of_ne hp, hfile'], hkey⟩
    · exact Or.inr ⟨hsame.trans ha, c, hc, m, hm, hjwks, fun path' hpath hfile' ↦
        hgone path' hpath (eq_of_update_none hfile').2⟩

/-- The key file of a client is removed whose answer was lost. -/
theorem Custody.abandon (h : Custody env w) {path service : String} {o : Outcome}
    {client : AuthClient} (hclient : client ∈ w.auth.clients)
    (hpath : keyPath env client.service = .ok path) (ho : o ≠ .refused)
    (hcalls : w.calls.head?.any Sent.lostClient = true) :
    Custody env { w.sent (.discardKey service) o with
      files := Function.update w.files path none } where
  stored path' pem hfile' := h.stored path' pem (eq_of_update_none hfile').2
  registered := h.registered
  kind := by
    refine Or.inr ⟨by simp [World.sent, abandons, Sent.discards, hcalls, ho], ?_⟩
    obtain ⟨n, hn, hjwks⟩ := h.registered client hclient
    refine ⟨client, hclient, n, hn, hjwks, fun path' hpath' hfile' ↦ ?_⟩
    obtain rfl : path = path' := Except.ok.inj (hpath.symm.trans hpath')
    exact (eq_of_update_none hfile').1 rfl

/-! ## What the appliers have in common -/

theorem Custody.aside (h : Custody env w) (hw : Aside w w') : Custody env w' := by
  obtain ⟨c, o, hc, hcalls⟩ := hw.calls
  have hdiscards : Sent.discards ⟨c, o⟩ = false := by
    rcases c <;> first | rfl | cases hc
  refine h.congr hw.clients hw.files (Nat.le_of_eq hw.minted.symm) ?_
  rw [hcalls]
  exact abandons_sent hdiscards

/-- What is about neither clients nor keys keeps the invariant. -/
theorem wp_of_each {α : Type} {x : Script α} (hx : x.Each Aside) (h : Custody env w) :
    x.wp (fun _ ↦ Custody env) w :=
  hx.wp h fun _ _ ↦ Custody.aside

/-- The invariant is kept, and nothing is abandoned on the way. -/
structure Kept (env : Env) (w w' : World) : Prop where
  custody : Custody env w'
  calls : abandons w'.calls = abandons w.calls

theorem Custody.kept (h : Custody env w) {c : Call} {o : Outcome}
    (hc : Sent.discards ⟨c, o⟩ = false) : Kept env w (w.sent c o) :=
  ⟨h.sent hc, abandons_sent hc⟩

/-- What `PrivateKey` has read: the key file of the service, or that there is none. -/
inductive KeyRead (env : Env) (w : World) (service pem : String) (hadKey : Bool) : Prop where
  | found (path : String) (hpath : keyPath env service = .ok path)
      (hfile : w.files path = some pem) (hhad : hadKey = true)
  | missing (path : String) (hpath : keyPath env service = .ok path)
      (hfile : w.files path = none) (hpem : pem = "") (hhad : hadKey = false)

theorem wp_privateKey (h : Custody env w) (service : String) :
    (privateKey env service).wp (fun r w' ↦ Kept env w w' ∧
      ∀ x, r = .ok x → KeyRead env w' service x.1 x.2) w := by
  rw [privateKey]
  split
  · exact wp_error ⟨h, rfl⟩
  · rename_i path hpath
    refine wp_bind.mpr (wp_inquire ?_ fun e o ↦ ?_)
    · refine wp_pure.mpr ⟨h.kept rfl, ?_⟩
      rintro x hx
      split at hx
      · cases hx
      · rename_i hfile
        cases hx
        exact .missing path hpath (Except.ok.inj hfile) rfl rfl
      · rename_i pem hfile
        cases hx
        exact .found path hpath (Except.ok.inj hfile) rfl
    · exact wp_error (h.kept rfl)

/-- A key to register a client with: it is on file, and one that was generated just now is
registered nowhere. -/
structure KeyChosen (env : Env) (w : World) (service pem : String) (generated : Bool) : Prop where
  onFile : ∃ path, keyPath env service = .ok path ∧ w.files path = some pem
  fresh : generated = true → ∃ n, pem = env.keys.pem n ∧ Unregistered env w n

theorem wp_record (h : Custody env w) (henv : env.wholeWrites = true) {service path : String}
    {n : ℕ} (hpath : keyPath env service = .ok path) (hfree : w.files path = none)
    (hn : n < w.minted) (hnew : Unregistered env w n) :
    (record env service (env.keys.pem n)).wp (fun r w' ↦ Kept env w w' ∧
      (r = .ok ⟨⟩ → KeyChosen env w' service (env.keys.pem n) true)) w := by
  rw [record, hpath]
  refine wp_once.mpr fun t ↦ ?_
  have hsent : Kept env w (w.sent (.recordKey service) t.outcome) := h.kept rfl
  have hnone : (w.sent (.recordKey service) t.outcome).files path = none := hfree
  rcases ht : t.outcome with _ | _ | _ <;> rw [ht] at hsent hnone
  · simp only [hnone]
    refine ⟨⟨hsent.custody.store hnone hn hnew, hsent.calls⟩,
      fun _ ↦ ⟨⟨path, hpath, ?_⟩, fun _ ↦ ⟨n, rfl, hnew⟩⟩⟩
    exact Function.update_self ..
  · simp only [hnone, henv, if_true]
    exact ⟨hsent, fun e ↦ by cases e⟩
  · exact ⟨hsent, fun e ↦ by cases e⟩

theorem wp_clientKey (h : Custody env w) (henv : env.wholeWrites = true) {service pem : String}
    {hadKey : Bool} (hread : KeyRead env w service pem hadKey) :
    (clientKey env service pem).wp (fun r w' ↦ Kept env w w' ∧
      ∀ x, r = .ok x → KeyChosen env w' service x.1 x.2) w := by
  rw [clientKey]
  cases hread with
  | found path hpath hfile hhad =>
    obtain ⟨n, -, rfl⟩ := h.stored path pem hfile
    rw [if_pos (env.keys.pem_ne_empty n)]
    refine wp_pure.mpr ⟨⟨h, rfl⟩, ?_⟩
    rintro x ⟨⟩
    exact ⟨⟨path, hpath, hfile⟩, fun e ↦ by cases e⟩
  | missing path hpath hfile hpem hhad =>
    rw [if_neg (not_not.mpr hpem)]
    have hminted : ∀ o, Kept env w { w.sent .generateClientKey o with minted := w.minted + 1 } :=
      fun o ↦ ⟨(h.sent rfl).mint, abandons_sent rfl⟩
    refine wp_bind.mpr (wp_perform (fun t ↦ ?_) (fun t ↦ ?_) fun e ↦ ?_)
    · have hnow := hminted .answered
      refine (wp_record hnow.custody henv hpath hfile (Nat.lt_succ_self w.minted)
        h.unregistered).bind ?_
      rintro (e | _) w' ⟨hw', hchosen⟩
      · exact wp_error ⟨hw'.custody, hw'.calls.trans hnow.calls⟩
      · refine wp_pure.mpr ⟨⟨hw'.custody, hw'.calls.trans hnow.calls⟩, ?_⟩
        rintro x ⟨⟩
        exact hchosen rfl
    · exact wp_error (hminted .lost)
    · exact wp_error (h.kept rfl)

/-! ## A small catalogue -/

/-- A directory for the keys, and nothing that fails by itself. -/
def plainSteward : Env where
  keys := plainKeys
  keyDir := "/keys"
  hasRegistry := true
  wholeWrites := true
  quote text := text
  keyError _ := "no key"
  unmarshalError _ := none
  structError _ := none

/-- One service and its client. -/
def secretCatalog : List Object :=
  [⟨apiVersion, "Service", "secret", some (.service ⟨"Secret", "system"⟩)⟩,
    ⟨apiVersion, "ServiceClient", "secret-control", some (.serviceClient ⟨"secret", "secret", []⟩)⟩]

/-- All calls are answered up to one, which ends otherwise. -/
def failingAt (n : ℕ) (o : Outcome) : List Turnout :=
  List.replicate n default ++ [{ outcome := o, error := "deadline exceeded" }]

end Maintainerd.Steward

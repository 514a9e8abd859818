import Mathlib.Logic.Function.Basic
import Maintainerd.Lib.Dialogue
import Maintainerd.Setup.Orchestrator

/-!
# Auth and the key directory, as the steward sees them

What core provisions in Auth after its own setup goes through one of two appliers, and both write
the private keys of the clients they register to a directory of key files (`internal/steward`).
This file is what they share: the part of Auth they look at and write to, the key files, and the
calls.

A program of the steward is a `Dialogue`: each call is told its `Turnout` when it is made.  It may
be answered, it may be refused, and it may be committed with its answer lost.  `World.calls` is a
ghost, the calls made so far with the latest first.

Of an object in Auth only what core reads back is here, which is its name and its number, and of a
client the service it was registered for and its key set.  A new object comes at any place of the
list Auth answers with.
-/

set_option autoImplicit false

namespace Maintainerd.Steward

/-! ## Auth -/

/-- `authv1.Service`. -/
structure AuthService where
  serviceID : ℕ
  name : String
deriving DecidableEq, Repr

/-- `authv1.API`. -/
structure AuthAPI where
  apiID : ℕ
  name : String
  serviceID : ℕ
deriving DecidableEq, Repr

/-- `authv1.Permission`. -/
structure AuthPermission where
  apiID : ℕ
  name : String
deriving DecidableEq, Repr

/-- `authv1.Policy`, with the actions of its document. -/
structure AuthPolicy where
  policyID : ℕ
  name : String
  actions : List String
deriving DecidableEq, Repr

/-- `authv1.Client`.  The service is the one it was registered for. -/
structure AuthClient where
  clientID : ℕ
  name : String
  service : String
  jwks : String
deriving DecidableEq, Repr

/-- What Auth holds of the control catalogue. -/
structure Auth where
  services : List AuthService
  apis : List AuthAPI
  permissions : List AuthPermission
  policies : List AuthPolicy
  /-- The policies assigned to services. -/
  assigned : List (ℕ × ℕ)
  clients : List AuthClient
  /-- The number of the next object. -/
  nextID : ℕ
deriving DecidableEq, Repr

/-! ## Calls -/

/-- What core calls: RPCs of Auth, its own service registry, and the key store. -/
inductive Call where
  | listServices (name : String)
  | createService (name : String)
  | assignServicePolicy (serviceID policyID : ℕ)
  | listAPIs (name : String)
  | createAPI (name : String) (serviceID : ℕ)
  | listPermissions (apiID : ℕ)
  | createPermission (apiID : ℕ) (name : String)
  | listPolicies (name : String)
  | createPolicy (name : String)
  | listClients (name : String)
  | createClient (name service jwks : String)
  /-- Of the setup window. -/
  | ensureControlClient (name service jwks : String)
  | ensureResourceAPI (name service : String)
  | registerControlService (service policyName : String)
  /-- `Registry.EnsureRegistered`. -/
  | ensureRegistered (name kind : String) (isSystem : Bool)
  | generateClientKey
  | readKey (service : String)
  | recordKey (service : String)
  | discardKey (service : String)
deriving DecidableEq, Repr

/-- The call creates something in Auth, or may. -/
def Call.creates : Call → Bool
  | .createService _ | .createAPI _ _ | .createPermission _ _ | .createPolicy _ => true
  | .createClient _ _ _ | .ensureControlClient _ _ _ => true
  | .ensureResourceAPI _ _ | .registerControlService _ _ => true
  | _ => false

/-- A call that was made, and how it ended. -/
structure Sent where
  call : Call
  outcome : Outcome
deriving DecidableEq, Repr

/-- What a call is told from outside. -/
structure Turnout where
  outcome : Outcome := .answered
  /-- The text of the error, if it fails. -/
  error : String := ""
  /-- Where Auth lists the object it creates. -/
  place : ℕ := 0
  /-- How much of a key file is written when the write fails. -/
  cut : ℕ := 0
deriving DecidableEq, Repr

instance : Inhabited Turnout := ⟨{}⟩

/-- Auth, the key files by name, and the ghosts: how many keys were minted, and the calls. -/
structure World where
  auth : Auth
  files : String → Option String
  minted : ℕ
  calls : List Sent

/-- Nothing is provisioned. -/
def World.empty : World := ⟨⟨[], [], [], [], [], [], 0⟩, fun _ ↦ none, 0, []⟩

/-- What the steward runs with. -/
structure Env where
  keys : KeyGen
  keyDir : String
  /-- There is a service registry to mirror into. -/
  hasRegistry : Bool
  /-- A key file that cannot be written whole is not left behind. -/
  wholeWrites : Bool
  /-- `%q`. -/
  quote : String → String
  /-- Why a text is no private key, if it is none. -/
  keyError : String → String
  /-- Why the key set does not decode, if it does not. -/
  unmarshalError : String → Option String
  /-- Why the texts do not go into a `structpb.Struct`, if they do not. -/
  structError : List String → Option String

/-- A program of the steward. -/
abbrev Script (α : Type) : Type 1 := Dialogue Turnout World α

/-- A call has ended. -/
def World.sent (w : World) (c : Call) (o : Outcome) : World := { w with calls := ⟨c, o⟩ :: w.calls }

/-- A call: `effect` is what it does when it is committed, and what it answers. -/
def perform {α : Type} (c : Call) (effect : Turnout → World → World × α) :
    Script (Except String α) :=
  .once fun t w ↦
    let w := w.sent c t.outcome
    match t.outcome with
    | .answered => ((effect t w).1, .ok (effect t w).2)
    | .lost => ((effect t w).1, .error t.error)
    | .refused => (w, .error t.error)

/-- A call that only looks. -/
def inquire {α : Type} (c : Call) (answer : World → α) : Script (Except String α) :=
  perform c fun _ w ↦ (w, answer w)

/-- **The rule for a call.** -/
theorem wp_perform {α : Type} {c : Call} {effect : Turnout → World → World × α}
    {Q : Except String α → World → Prop} {w : World}
    (hanswered : ∀ t, Q (.ok (effect t (w.sent c .answered)).2) (effect t (w.sent c .answered)).1)
    (hlost : ∀ t, Q (.error t.error) (effect t (w.sent c .lost)).1)
    (hrefused : ∀ e, Q (.error e) (w.sent c .refused)) : (perform c effect).wp Q w := by
  rw [perform, Dialogue.wp_once]
  intro t
  rcases ht : t.outcome with _ | _ | _
  · exact hanswered t
  · exact hlost t
  · exact hrefused t.error

theorem wp_inquire {α : Type} {c : Call} {answer : World → α}
    {Q : Except String α → World → Prop} {w : World}
    (hanswered : Q (.ok (answer (w.sent c .answered))) (w.sent c .answered))
    (hfailed : ∀ e o, Q (.error e) (w.sent c o)) : (inquire c answer).wp Q w :=
  wp_perform (fun _ ↦ hanswered) (fun t ↦ hfailed t.error .lost) fun e ↦ hfailed e .refused

/-- The call is answered. -/
def Answered (t : Turnout) (_ _ : World) : Prop := t.outcome = .answered

/-- The rule for a call that is answered. -/
theorem wpAlong_perform {α : Type} {c : Call} {effect : Turnout → World → World × α} {w : World} :
    (perform c effect).wpAlong Answered (fun r w' ↦ ∃ t, r = .ok (effect t (w.sent c .answered)).2 ∧
      w' = (effect t (w.sent c .answered)).1) w := by
  rw [perform, Dialogue.wpAlong_once]
  intro t ht
  rw [show t.outcome = .answered from ht]
  exact ⟨t, rfl, rfl⟩

theorem wpAlong_inquire {α : Type} {c : Call} {answer : World → α} {w : World} :
    (inquire c answer).wpAlong Answered
      (fun r w' ↦ r = .ok (answer (w.sent c .answered)) ∧ w' = w.sent c .answered) w := by
  rw [inquire, perform, Dialogue.wpAlong_once]
  intro t ht
  rw [show t.outcome = .answered from ht]
  exact ⟨rfl, rfl⟩

/-- The call is about a client or a key file. -/
def Call.aboutKeys : Call → Bool
  | .createClient _ _ _ | .ensureControlClient _ _ _ => true
  | .readKey _ | .recordKey _ | .discardKey _ => true
  | _ => false

/-- What a call leaves as it is that is about neither clients nor keys. -/
structure Aside (w w' : World) : Prop where
  clients : w'.auth.clients = w.auth.clients
  files : w'.files = w.files
  minted : w'.minted = w.minted
  calls : ∃ c o, Call.aboutKeys c = false ∧ w'.calls = ⟨c, o⟩ :: w.calls

theorem each_aside {α : Type} {c : Call} {effect : Turnout → World → World × α}
    (hc : c.aboutKeys = false)
    (heffect : ∀ t w, (effect t w).1 = { w with auth := (effect t w).1.auth } ∧
      (effect t w).1.auth.clients = w.auth.clients) : (perform c effect).Each Aside := by
  have hcommitted : ∀ t w o, Aside w (effect t (w.sent c o)).1 := by
    intro t w o
    obtain ⟨hrest, hclients⟩ := heffect t (w.sent c o)
    refine ⟨hclients, ?_, ?_, c, o, hc, ?_⟩ <;> rw [hrest] <;> rfl
  refine Dialogue.each_once fun t w ↦ ?_
  rcases ht : t.outcome with _ | _ | _
  · exact hcommitted t w .answered
  · exact hcommitted t w .lost
  · exact ⟨rfl, rfl, rfl, c, .refused, hc, rfl⟩

theorem each_look {α : Type} {c : Call} {answer : World → α} (hc : c.aboutKeys = false) :
    (inquire c answer).Each Aside :=
  each_aside hc fun _ _ ↦ ⟨rfl, rfl⟩

/-- A program that ends with an error. -/
theorem wp_error {α : Type} {I : World → Prop} {P : α → World → Prop} {e : String} {w : World}
    (h : I w) : Dialogue.wp (pure (.error e) : Script (Except String α))
      (fun r w' ↦ I w' ∧ ∀ x, r = .ok x → P x w') w := by
  refine Dialogue.wp_pure.mpr ⟨h, ?_⟩
  rintro x ⟨⟩

/-! ## The calls made since -/

/-- Calls were made from the one state to the other. -/
def Since (w w' : World) : Prop := ∃ sent, w'.calls = sent ++ w.calls

/-- Calls were made, and one was not answered. -/
def Erred (w w' : World) : Prop :=
  ∃ sent, w'.calls = sent ++ w.calls ∧ ∃ s ∈ sent, s.outcome ≠ .answered

theorem Since.refl (w : World) : Since w w := ⟨[], rfl⟩

theorem Since.sent {w w' : World} (h : Since w w') (c : Call) (o : Outcome) :
    Since w (w'.sent c o) := by
  obtain ⟨sent, hsent⟩ := h
  exact ⟨⟨c, o⟩ :: sent, by rw [World.sent, hsent, List.cons_append]⟩

theorem Since.erred {w w' : World} (h : Since w w') (c : Call) {o : Outcome}
    (ho : o ≠ .answered) : Erred w (w'.sent c o) := by
  obtain ⟨sent, hsent⟩ := h
  exact ⟨⟨c, o⟩ :: sent, by rw [World.sent, hsent, List.cons_append], _, List.mem_cons_self, ho⟩

theorem Erred.sent {w w' : World} (h : Erred w w') (c : Call) (o : Outcome) :
    Erred w (w'.sent c o) := by
  obtain ⟨sent, hsent, s, hs, hfailed⟩ := h
  exact ⟨⟨c, o⟩ :: sent, by rw [World.sent, hsent, List.cons_append], s,
    List.mem_cons_of_mem _ hs, hfailed⟩

theorem Erred.since {w w' : World} (h : Erred w w') : Since w w' := by
  obtain ⟨sent, hsent, -⟩ := h
  exact ⟨sent, hsent⟩

theorem Erred.of_calls {w w' w'' : World} (h : Erred w w') (hcalls : w''.calls = w'.calls) :
    Erred w w'' := by
  rw [Erred, hcalls]
  exact h

theorem Since.of_calls {w w' w'' : World} (h : Since w w') (hcalls : w''.calls = w'.calls) :
    Since w w'' := by
  rw [Since, hcalls]
  exact h

/-- What is returned is no error. -/
theorem of_ok_eq_error {α : Type} {x : α} {P : String → Prop} (e : String)
    (h : (.ok x : Except String α) = .error e) : P e := by
  cases h

/-- An error is nothing that is returned. -/
theorem of_error_eq_ok {α : Type} {e : String} {P : α → Prop} (x : α)
    (h : (.error e : Except String α) = .ok x) : P x := by
  cases h

/-- What a call comes to: if it fails, it was not answered. -/
theorem wp_call {α : Type} {c : Call} {effect : Turnout → World → World × α} {w₀ w : World}
    (h : Since w₀ w) (hcalls : ∀ t w, (effect t w).1.calls = w.calls) :
    (perform c effect).wp (fun r w' ↦ Since w₀ w' ∧ ∀ e, r = .error e → Erred w₀ w') w := by
  refine wp_perform (fun t ↦ ⟨?_, of_ok_eq_error⟩) (fun t ↦ ⟨?_, fun e _ ↦ ?_⟩)
    fun e ↦ ⟨?_, fun e _ ↦ ?_⟩
  · exact (h.sent c .answered).of_calls (hcalls t _)
  · exact (h.sent c .lost).of_calls (hcalls t _)
  · exact (h.erred c (by decide)).of_calls (hcalls t _)
  · exact h.sent c .refused
  · exact h.erred c (by decide)

theorem wp_look {α : Type} {c : Call} {answer : World → α} {w₀ w : World} (h : Since w₀ w) :
    (inquire c answer).wp (fun r w' ↦ Since w₀ w' ∧ ∀ e, r = .error e → Erred w₀ w') w :=
  wp_call h fun _ _ ↦ rfl

/-- A call that only looks, in full: what it answers, and when it fails. -/
theorem wp_looked {α : Type} {c : Call} {answer : World → α} {w : World} :
    (inquire c answer).wp (fun r w' ↦ ∃ o, w' = w.sent c o ∧
      (∀ x, r = .ok x → x = answer (w.sent c o)) ∧ ∀ e, r = .error e → o ≠ .answered) w := by
  refine wp_perform (fun _ ↦ ⟨.answered, rfl, ?_, of_ok_eq_error⟩)
    (fun _ ↦ ⟨.lost, rfl, of_error_eq_ok, ?_⟩) fun _ ↦ ⟨.refused, rfl, of_error_eq_ok, ?_⟩
  · rintro _ ⟨⟩
    rfl
  · exact fun _ _ ↦ by decide
  · exact fun _ _ ↦ by decide

/-! ## Listings -/

/-- `listPageSize`. -/
def listPageSize : ℕ := 200

/-- The page of a listing: what has the text in its name. -/
def page {α : Type} (name : α → String) (text : String) (xs : List α) : List α :=
  (xs.filter fun x ↦ Text.contains (name x) text).take listPageSize

/-- The exact name is looked for in the page. -/
def findNamed {α : Type} (name : α → String) (text : String) (xs : List α) : Option α :=
  (page name text xs).find? fun x ↦ name x == text

/-- An object is listed at a place. -/
def insertAt {α : Type} (n : ℕ) (x : α) (xs : List α) : List α := xs.take n ++ x :: xs.drop n

theorem mem_insertAt {α : Type} {n : ℕ} {x y : α} {xs : List α} :
    y ∈ insertAt n x xs ↔ y = x ∨ y ∈ xs := by
  have hsplit : y ∈ xs ↔ y ∈ xs.take n ∨ y ∈ xs.drop n := by
    rw [← List.mem_append, List.take_append_drop]
  rw [insertAt, List.mem_append, List.mem_cons, hsplit]
  exact or_left_comm

theorem sublist_insertAt {α : Type} (n : ℕ) (x : α) (xs : List α) :
    xs.Sublist (insertAt n x xs) := by
  have hsplit : (xs.take n ++ xs.drop n).Sublist (insertAt n x xs) :=
    (List.Sublist.refl _).append (List.sublist_cons_self x _)
  rwa [List.take_append_drop] at hsplit

/-- The first object of a name. -/
def firstNamed {α : Type} (name : α → String) (text : String) (xs : List α) : Option α :=
  xs.find? fun x ↦ name x == text

/-- What is found is the first object of the name, if the listing fits on a page. -/
theorem findNamed_of_fits {α : Type} {name : α → String} {text : String} {xs : List α}
    (h : (xs.filter fun x ↦ Text.contains (name x) text).length ≤ listPageSize) :
    findNamed name text xs = firstNamed name text xs := by
  rw [findNamed, page, List.take_of_length_le h, List.find?_filter, firstNamed]
  congr 1
  funext x
  by_cases hx : name x = text
  · simp [hx, Text.contains_self]
  · simp [hx]

theorem findNamed_eq_some {α : Type} {name : α → String} {text : String} {x : α} {xs : List α}
    (h : findNamed name text xs = some x) : x ∈ xs ∧ name x = text := by
  have hname := List.find?_some h
  have hpage : x ∈ page name text xs := List.mem_of_find?_eq_some h
  exact ⟨List.mem_of_mem_filter (List.mem_of_mem_take hpage), eq_of_beq hname⟩

/-- An object of another name does not come first. -/
theorem firstNamed_insertAt_of_ne {α : Type} {name : α → String} {text : String} {x : α}
    (h : name x ≠ text) (n : ℕ) (xs : List α) :
    firstNamed name text (insertAt n x xs) = firstNamed name text xs := by
  have hx : (name x == text) = false := by simpa using h
  rw [firstNamed, insertAt, List.find?_append, List.find?_cons, hx, ← List.find?_append,
    List.take_append_drop, firstNamed]

/-- An object whose name is new comes first of its name. -/
theorem firstNamed_insertAt_self {α : Type} {name : α → String} {text : String} {x : α}
    {xs : List α} (h : firstNamed name text xs = none) (hx : name x = text) (n : ℕ) :
    firstNamed name text (insertAt n x xs) = some x := by
  rw [firstNamed, List.find?_eq_none] at h
  have htake : (xs.take n).find? (fun y ↦ name y == text) = none :=
    List.find?_eq_none.mpr fun y hy ↦ h y (List.mem_of_mem_take hy)
  rw [firstNamed, insertAt, List.find?_append, htake, List.find?_cons, hx, beq_self_eq_true]
  rfl

theorem isSome_firstNamed {α : Type} {name : α → String} {x : α} {xs : List α} (hx : x ∈ xs) :
    (firstNamed name (name x) xs).isSome = true :=
  List.find?_isSome.mpr ⟨x, hx, beq_self_eq_true _⟩

theorem firstNamed_eq_some {α : Type} {name : α → String} {text : String} {x : α} {xs : List α}
    (h : firstNamed name text xs = some x) : x ∈ xs ∧ name x = text := by
  have hname := List.find?_some h
  exact ⟨List.mem_of_find?_eq_some h, eq_of_beq hname⟩

/-- Auth has a new client. -/
def World.addClient (w : World) (place : ℕ) (name service jwks : String) : World × AuthClient :=
  let client : AuthClient := ⟨w.auth.nextID, name, service, jwks⟩
  ({ w with auth := { w.auth with
      clients := insertAt place client w.auth.clients, nextID := w.auth.nextID + 1 } }, client)

/-! ## The key store -/

/-- `FileKeyStore.path`: the name of the key file of a service, in the directory. -/
def keyPath (env : Env) (service : String) : Except String String :=
  if Text.trimSpace env.keyDir = "" then
    .error "STEWARD_KEY_DIR is required to record generated service client keys"
  else
    let name := Text.trimSpace service
    if name = "" || Text.contains name "/" || Text.contains name ".." then
      .error ("invalid steward service name " ++ env.quote service)
    else .ok (name ++ ".pem")

/-- `FileKeyStore.PrivateKey`: the recorded key, and whether there was one. -/
def privateKey (env : Env) (service : String) : Script (Except String (String × Bool)) :=
  match keyPath env service with
  | .error e => pure (.error e)
  | .ok path => do
    let read ← inquire (.readKey service) fun w ↦ w.files path
    pure (match read with
      | .error e => .error ("read steward key for " ++ env.quote service ++ ": " ++ e)
      | .ok none => .ok ("", false)
      | .ok (some pem) => .ok (pem, true))

/-- `FileKeyStore.Record`.  A file that is there is left untouched. -/
def record (env : Env) (service privateKeyPEM : String) : Script (Except String PUnit) :=
  match keyPath env service with
  | .error e => pure (.error e)
  | .ok path => .once fun t w ↦
    let w := w.sent (.recordKey service) t.outcome
    match t.outcome, w.files path with
    | .refused, _ => (w, .error t.error)
    | _, some _ => (w, .ok ⟨⟩)
    | .answered, none =>
      ({ w with files := Function.update w.files path (some privateKeyPEM) }, .ok ⟨⟩)
    | .lost, none =>
      if env.wholeWrites then (w, .error t.error)
      else
        let written := String.ofList (privateKeyPEM.toList.take t.cut)
        ({ w with files := Function.update w.files path (some written) }, .error t.error)

/-- `FileKeyStore.Discard`. -/
def discard (env : Env) (service : String) : Script (Except String PUnit) :=
  match keyPath env service with
  | .error e => pure (.error e)
  | .ok path => perform (.discardKey service) fun _ w ↦
    ({ w with files := Function.update w.files path none }, ⟨⟩)

/-- `GenerateClientKey`, of which the callers keep the private half. -/
def generateClientKey (env : Env) : Script (Except String String) :=
  perform .generateClientKey fun _ w ↦
    ({ w with minted := w.minted + 1 }, env.keys.pem w.minted)

/-- The key to register a client with, and whether it was generated for it: the key that is on
record, or a new one, which is put on record before anything else is done with it.  The appliers
have this in common. -/
def clientKey (env : Env) (service privatePEM : String) : Script (Except String (String × Bool)) :=
  if privatePEM ≠ "" then pure (.ok (privatePEM, false))
  else do
    match ← generateClientKey env with
    | .error e => pure (.error e)
    | .ok pem =>
      match ← record env service pem with
      | .error e => pure (.error e)
      | .ok _ => pure (.ok (pem, true))

end Maintainerd.Steward

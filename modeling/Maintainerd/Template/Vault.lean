import Maintainerd.Lib.Run
import Maintainerd.Template.Noninterference
import Mathlib.Data.List.Infix

/-!
# What a render leaves in the vault

`internal/secretctrl`: the sink a render stores its secrets in.  `Store` puts a value at an address
made of the template and the parameter, the same one at every provision, and answers with a
reference to the address; so the value that a running workload refers to is the last one that was
put there.

`Render` stores all secrets of its template before it fills the placeholders in, and reads, parses
and validates the specification after that, and does not take a value back.  So a render that fails
may have replaced the value of a workload that runs (`failed_render_replaces`).

`secrets` is what the parameters of a template ask to have stored, told from the parameters alone,
and `delivered` is what of it gets through.  `failed_render_keeps_vault_iff` says that a render that
fails leaves the vault as it was exactly if, for each address, the last of these values is the one
that was there.

The vault answers as it likes.  It may have taken a value although the answer says otherwise or is
lost, but it has taken what it answers with success.
-/

set_option autoImplicit false

namespace Maintainerd

namespace DeployTemplate

open Fallible Machine

/-! ## Addresses -/

/-- `Address`. -/
structure Address where
  project : String
  environment : String
  folderPath : String
  key : String
deriving DecidableEq, Repr

/-- `Ref`. -/
def Address.ref (a : Address) : String :=
  let path := Text.trim a.folderPath "/"
  let path := if path = "" then path else path ++ "/"
  "secret://" ++ a.project ++ "/" ++ a.environment ++ "/" ++ path ++ a.key

/-- `sanitizeSegment`. -/
def sanitizeSegment (s : String) : String :=
  let s := Text.trimSpace s
  if s = "" || Text.containsAny s "/\\" || Text.contains s ".." then "" else s

/-- `Client`, as far as its errors show it. -/
structure Client where
  audience : String

/-- `Credentials`. -/
structure Credentials where
  client : Option Client
  project : String
  environment : String

/-- The address of a call of `Store`. -/
def Credentials.address (c : Credentials) (call : StoreCall) : Address where
  project := c.project
  environment := c.environment
  folderPath := sanitizeSegment call.template
  key := sanitizeSegment call.param

/-! ## Storing -/

/-- How the request of `PutCredential` ends.  If the vault was asked at all, it may have taken the
value whatever core hears. -/
inductive Reply where
  | unbuilt (e : String)
  | noToken (e : String)
  | unreachable (e : String) (kept : Bool)
  | status (code : ℕ) (kept : Bool)

/-- The vault has taken the value. -/
def Reply.kept : Reply → Bool
  | .unbuilt _ => false
  | .noToken _ => false
  | .unreachable _ kept => kept
  | .status code kept => code == 200 || code == 201 || kept

/-- `ErrNotConfigured`. -/
def errNotConfigured : String := "secretctrl: SECRET_BASE_URL is not configured"

/-- `ErrUnavailable`. -/
def errUnavailable : String := "secretctrl: maintainerd-secret is unavailable"

/-- What `PutCredential` returns once the request has ended. -/
def Reply.answer (client : Client) : Reply → Except String Unit
  | .unbuilt e => .error ("secretctrl: build secret write: " ++ e)
  | .noToken e => .error ("secretctrl: no outbound token for " ++ client.audience ++ ": " ++ e)
  | .unreachable e _ => .error (errUnavailable ++ ": " ++ e)
  | .status code _ =>
    if code = 200 ∨ code = 201 then .ok ()
    else if 500 ≤ code ∨ code = 429 then
      .error (errUnavailable ++ ": secret write answered " ++ toString code)
    else .error ("secretctrl: secret refused the write with status " ++ toString code)

/-- `PutCredential`: has the vault taken the value, and what is returned. -/
def putCredential (client : Option Client) (reply : Reply) (a : Address) :
    Bool × Except String Unit :=
  match client with
  | none => (false, .error errNotConfigured)
  | some client =>
    if a.project = "" ∨ a.environment = "" ∨ a.key = "" then
      (false, .error
        "secretctrl: incomplete secret address (project, environment and key are required)")
    else (reply.kept, reply.answer client)

/-- `Store`: has the vault taken the value, and what is returned.  Its receiver is never nil, since
`app.go` makes it with `NewCredentials`. -/
def Credentials.store (c : Credentials) (quote : String → String) (reply : Reply)
    (call : StoreCall) : Bool × Except String String :=
  let a := c.address call
  if a.folderPath = "" ∨ a.key = "" then
    (false, .error ("secretctrl: cannot address a credential for template " ++
      quote call.template ++ " parameter " ++ quote call.param))
  else
    let (kept, answer) := putCredential c.client reply a
    (kept, answer.map fun _ ↦ a.ref)

/-- How the requests of a render end; each may depend on all that was stored before it. -/
abbrev Network : Type := List StoreCall → Reply

/-- What becomes of the last of the calls. -/
def Credentials.last (c : Credentials) (quote : String → String) (net : Network)
    (calls : List StoreCall) : Bool × Except String String :=
  match calls.getLast? with
  | none => (false, .error "")
  | some call => c.store quote (net calls) call

/-- The service, as `app.go` wires it. -/
def provisioner (k : Packages) (getDeploymentTemplate : String → String →
    Except String (Option Template)) (c : Credentials) (net : Network) : TemplateService where
  packages := k
  getDeploymentTemplate := getDeploymentTemplate
  credentials := some fun calls ↦ (c.last k.quote net calls).2

/-! ## The vault -/

/-- What the vault holds: the present value at each address. -/
abbrev Vault : Type := Address → Option (List UInt8)

/-- One value is put at an address. -/
def Vault.put (v : Vault) (w : Address × List UInt8) : Vault := Function.update v w.1 (some w.2)

/-- What a call puts where. -/
def Credentials.entry (c : Credentials) (call : StoreCall) : Address × List UInt8 :=
  (c.address call, call.value)

/-- What the vault has taken of the calls, in their order. -/
def Credentials.written (c : Credentials) (quote : String → String) (net : Network)
    (calls : List StoreCall) : List (Address × List UInt8) :=
  calls.inits.filterMap fun pre ↦
    if (c.last quote net pre).1 then pre.getLast?.map c.entry else none

/-- The vault after a render. -/
def Credentials.vaultAfter (c : Credentials) (quote : String → String) (net : Network)
    (calls : List StoreCall) (v : Vault) : Vault :=
  run Vault.put v (c.written quote net calls)

/-- The value at an address is the last that was put there. -/
theorem run_put_apply (v : Vault) (ws : List (Address × List UInt8)) (a : Address) :
    run Vault.put v ws a = ((ws.reverse.lookup a).or (v a)) := by
  induction ws generalizing v with
  | nil => rfl
  | cons w ws ih =>
    rw [run_cons, ih, List.reverse_cons, List.lookup_append, Option.or_assoc]
    congr 1
    by_cases ha : a = w.1
    · subst ha
      rw [List.lookup_cons, beq_self_eq_true, Vault.put, Function.update_self, Option.some_or]
    · rw [List.lookup_cons, beq_false_of_ne ha, List.lookup_nil, Option.none_or, Vault.put,
        Function.update_of_ne ha]

theorem run_put_eq_iff (v : Vault) (ws : List (Address × List UInt8)) :
    run Vault.put v ws = v ↔ ∀ a x, ws.reverse.lookup a = some x → v a = some x := by
  rw [funext_iff]
  refine forall_congr' fun a ↦ ?_
  rw [run_put_apply]
  rcases ws.reverse.lookup a with _ | x
  · simp
  · simp [eq_comm]

/-! ## What is written, call by call -/

section

variable (c : Credentials) (quote : String → String) (net : Network)

theorem last_append (calls : List StoreCall) (call : StoreCall) :
    c.last quote net (calls ++ [call]) = c.store quote (net (calls ++ [call])) call := by
  rw [Credentials.last, List.getLast?_append]
  rfl

theorem written_append (calls : List StoreCall) (call : StoreCall) :
    c.written quote net (calls ++ [call]) = c.written quote net calls ++
      if (c.last quote net (calls ++ [call])).1 then [c.entry call] else [] := by
  rw [Credentials.written, List.inits_append, List.filterMap_append]
  congr 1
  simp only [List.inits, List.tail_cons, List.map_cons, List.map_nil, List.filterMap_cons,
    List.filterMap_nil, List.getLast?_append]
  split_ifs <;> rfl

/-- What is answered with success was taken. -/
theorem kept_of_answer {client : Client} {reply : Reply} (h : reply.answer client = .ok ()) :
    reply.kept = true := by
  cases reply with
  | unbuilt e => cases h
  | noToken e => cases h
  | unreachable e kept => cases h
  | status code kept =>
    rw [Reply.answer] at h
    split_ifs at h with hcode
    · rcases hcode with rfl | rfl <;> rfl

theorem kept_of_putCredential {client : Option Client} {reply : Reply} {a : Address}
    (h : (putCredential client reply a).2 = .ok ()) : (putCredential client reply a).1 = true := by
  rcases client with _ | client
  · cases h
  dsimp only [putCredential] at h ⊢
  split_ifs at h ⊢
  exact kept_of_answer h

/-- `Store` returns no reference to a value that the vault has not taken. -/
theorem kept_of_store {reply : Reply} {call : StoreCall} {ref : String}
    (h : (c.store quote reply call).2 = .ok ref) : (c.store quote reply call).1 = true := by
  dsimp only [Credentials.store] at h ⊢
  split_ifs at h ⊢
  dsimp only at h ⊢
  rcases hput : (putCredential c.client reply (c.address call)).2 with e | ⟨⟩ <;> rw [hput] at h
  · cases h
  · exact kept_of_putCredential hput

/-- The reference is to the address. -/
theorem ref_of_store {reply : Reply} {call : StoreCall} {ref : String}
    (h : (c.store quote reply call).2 = .ok ref) : ref = (c.address call).ref := by
  dsimp only [Credentials.store] at h
  split_ifs at h
  dsimp only at h
  rcases hput : (putCredential c.client reply (c.address call)).2 with e | ⟨⟩ <;> rw [hput] at h
  · cases h
  · exact (Except.ok.inj h).symm

end

/-- What the vault takes of calls that are to be made after others, by what becomes of each: all up
to the first that is not answered with success, and that one too if the vault has taken it. -/
def Credentials.delivered (c : Credentials) (last : List StoreCall → Bool × Except String String)
    (before : List StoreCall) : List StoreCall → List (Address × List UInt8)
  | [] => []
  | call :: calls =>
    match (last (before ++ [call])).2 with
    | .ok _ => c.entry call :: Credentials.delivered c last (before ++ [call]) calls
    | .error _ => if (last (before ++ [call])).1 then [c.entry call] else []

/-! ## The render -/

/-- `secretValue`, with the number of draws after it: nothing if the parameter is refused. -/
def secretValue (k : Packages) (rand : Entropy) (p : Parameter) (supplied : Option Value)
    (draws : ℕ) : Option (Option (List UInt8) × ℕ) :=
  match secretSource k p supplied with
  | .error _ => none
  | .ok (.supplied value) => some (some value, draws)
  | .ok .generated => (generateSecret k rand draws).toOption.map fun value ↦ (some value, draws + 1)
  | .ok .absent => some (none, draws)

/-- What the parameters ask to have stored, if every call is answered with success: the values that
the caller supplies and those that are generated, up to the first parameter that is refused. -/
def secrets (k : Packages) (c : Credentials) (rand : Entropy) (template : String) :
    List Parameter → Params → ℕ → List StoreCall
  | [], _, _ => []
  | p :: ps, params, draws =>
    if p.type = "secret" then
      match secretValue k rand p (params p.name) draws with
      | none => []
      | some (none, draws) => secrets k c rand template ps (params.set p.name none) draws
      | some (some value, draws) =>
        let call : StoreCall := ⟨template, p.name, value⟩
        -- the parameter holds the reference from now on
        let ref : Value := .string (c.address call).ref
        call :: secrets k c rand template ps (params.set p.name (some ref)) draws
    else secrets k c rand template ps params draws

/-- The values that a provision of a template puts into the vault, in their order. -/
def provisioned (k : Packages) (c : Credentials) (net : Network) (rand : Entropy) (tpl : Template)
    (supplied : Params) : List (Address × List UInt8) :=
  match resolveParams k tpl.parameters supplied with
  | (_, .error _) => []
  | (params, .ok _) =>
    c.delivered (c.last k.quote net) [] (secrets k c rand tpl.name tpl.parameters params 0)

section

variable (k : Packages) (repo : String → String → Except String (Option Template))
  (c : Credentials) (net : Network) (rand : Entropy) (tpl : Template)

/-- With the parameters that are still to come, the vault takes these values. -/
def Pending (taken : List (Address × List UInt8)) (ps : List Parameter) (s : Vaulting) : Prop :=
  c.written k.quote net s.stored ++ c.delivered (c.last k.quote net) s.stored
    (secrets k c rand tpl.name ps s.params s.draws) = taken

/-- One call of `Store`. -/
theorem store_pending (taken : List (Address × List UInt8)) (ps : List Parameter) (p : Parameter)
    (value : List UInt8) :
    Spec (fun s ↦ c.written k.quote net s.stored ++ c.delivered (c.last k.quote net) s.stored
        (⟨tpl.name, p.name, value⟩ :: secrets k c rand tpl.name ps (s.params.set p.name
          (some (.string (c.address ⟨tpl.name, p.name, value⟩).ref))) s.draws) = taken)
      ((provisioner k repo c net).store tpl p value)
      (fun _ ↦ Pending k c net rand tpl taken ps)
      (fun s ↦ c.written k.quote net s.stored = taken) := by
  intro s hs
  rw [Credentials.delivered] at hs
  rw [TemplateService.store]
  simp only [provisioner]
  rcases hanswer : (c.last k.quote net (s.stored ++ [⟨tpl.name, p.name, value⟩])).2 with e | ref <;>
    simp only [hanswer] at hs ⊢
  · rw [written_append]
    exact hs
  · have hstored := hanswer
    rw [last_append] at hstored
    have hkept : (c.last k.quote net (s.stored ++ [⟨tpl.name, p.name, value⟩])).1 = true := by
      rw [last_append]
      exact kept_of_store c k.quote hstored
    rw [Pending, written_append, if_pos hkept, ref_of_store c k.quote hstored, List.append_assoc]
    exact hs

theorem vaultSecrets_pending (taken : List (Address × List UInt8)) (ps : List Parameter) :
    Spec (Pending k c net rand tpl taken ps)
      (forEach ((provisioner k repo c net).vaultSecret rand tpl) ps)
      (fun _ ↦ Pending k c net rand tpl taken [])
      (fun s ↦ c.written k.quote net s.stored = taken) := by
  refine spec_forEach (fun p ps s hs ↦ ?_) ps
  have hpackages : (provisioner k repo c net).packages = k := rfl
  have hrefused : c.written k.quote net s.stored ++ [] = taken →
      c.written k.quote net s.stored = taken := fun h ↦ (List.append_nil _).symm.trans h
  rw [Pending, secrets] at hs
  rw [TemplateService.vaultSecret, hpackages]
  split_ifs at hs ⊢
  · rw [secretValue] at hs
    rcases hsource : secretSource k p (s.params p.name) with e | value | _ | _ <;>
      simp only [hsource] at hs ⊢
    · exact hrefused hs
    · exact store_pending k repo c net rand tpl taken ps p value s hs
    · rcases hvalue : generateSecret k rand s.draws with e | value <;> simp only [hvalue] at hs ⊢
      · exact hrefused hs
      · exact store_pending k repo c net rand tpl taken ps p value _ hs
    · exact hs
  · exact hs

/-- What the vault has taken of a render of a template. -/
theorem render_written {input : RenderInput}
    (htpl : (provisioner k repo c net).get input.name input.version = .ok tpl) :
    c.written k.quote net ((provisioner k repo c net).render rand input).1 =
      provisioned k c net rand tpl input.params := by
  have hpackages : (provisioner k repo c net).packages = k := rfl
  rw [TemplateService.render, htpl, provisioned]
  simp only [hpackages]
  rcases hparams : resolveParams k tpl.parameters input.params with ⟨params, e | ⟨⟩⟩
  · rfl
  dsimp only
  have hvault := vaultSecrets_pending k repo c net rand tpl _ tpl.parameters ⟨params, [], 0⟩ rfl
  rw [TemplateService.vaultSecrets]
  rcases hrun : forEach ((provisioner k repo c net).vaultSecret rand tpl) tpl.parameters
    ⟨params, [], 0⟩ with ⟨s, e | ⟨⟩⟩ <;> rw [hrun] at hvault
  · exact hvault
  · exact (List.append_nil _).symm.trans hvault

end

/-- **What a failed render leaves in the vault.**  A render that fails, for whatever reason, leaves
the vault as it was exactly if for each address the last of the values that the secret parameters of
its template put there is the one the vault held. -/
theorem failed_render_keeps_vault_iff (k : Packages)
    (repo : String → String → Except String (Option Template)) (c : Credentials) (net : Network)
    (rand : Entropy) (input : RenderInput) (v : Vault) :
    let svc := provisioner k repo c net
    (∃ e, (svc.render rand input).2 = .error e) →
      (c.vaultAfter k.quote net (svc.render rand input).1 v = v ↔
        ∀ tpl, svc.get input.name input.version = .ok tpl →
          ∀ a x, (provisioned k c net rand tpl input.params).reverse.lookup a = some x →
            v a = some x) := by
  intro svc _
  rcases htpl : svc.get input.name input.version with e | tpl
  · have hrender : svc.render rand input = ([], .error e) := by
      rw [TemplateService.render, htpl]
    rw [hrender]
    exact ⟨fun _ ↦ by rintro _ ⟨⟩, fun _ ↦ rfl⟩
  · rw [Credentials.vaultAfter, render_written k repo c net rand tpl htpl, run_put_eq_iff]
    refine ⟨?_, fun h ↦ h tpl rfl⟩
    rintro h _ ⟨⟩
    exact h

/-- A template with a secret, and a placeholder for which no value need be given. -/
def portTemplate : Template where
  uuid := 2
  name := "api"
  version := "v1"
  image := "api:1"
  parameters :=
    [⟨"db_password", "secret", true, .nil, false⟩, ⟨"port", "string", false, .nil, false⟩]
  spec := [("DB_PASSWORD", .string "\x7b\x7b .db_password \x7d\x7d"),
    ("PORT", .string "\x7b\x7b .port \x7d\x7d")]

/-- Where the credentials of the example go. -/
def coreCredentials : Credentials := ⟨some ⟨"secret"⟩, "core", "prod"⟩

/-- A network on which every write goes through. -/
def created : Network := fun _ ↦ .status 201 true

/-- The service with the one template. -/
def portService : TemplateService :=
  provisioner plainPackages (fun _ _ ↦ .ok (some portTemplate)) coreCredentials created

/-- The parameters: a password, and a port or none. -/
def withPort (password : String) (port : Option Value) : RenderInput :=
  ⟨"api", "", Params.set (Params.set (fun _ ↦ none) "db_password" (some (.string password)))
    "port" port⟩

/-- The address of the password. -/
def passwordAddress : Address := ⟨"core", "prod", "api", "db_password"⟩

/-- A second provision with the same password and no port is refused, and the vault stays. -/
theorem failed_render_keeps_vault_iff_same :
    let v := coreCredentials.vaultAfter id created
      (portService.render (fun _ ↦ .ok []) (withPort "old" (some (.string "80")))).1 fun _ ↦ none
    let second := portService.render (fun _ ↦ .ok []) (withPort "old" none)
    v passwordAddress = some "old".toUTF8.data.toList ∧ second.2.toOption.isNone = true ∧
      coreCredentials.vaultAfter id created second.1 v = v := by
  intro v second
  have hold : v passwordAddress = some "old".toUTF8.data.toList := by decide
  have hfails : second.2.toOption.isNone = true := by decide
  have hvalues : provisioned plainPackages coreCredentials created (fun _ ↦ .ok []) portTemplate
      (withPort "old" none).params = [(passwordAddress, "old".toUTF8.data.toList)] := by decide
  refine ⟨hold, hfails, (failed_render_keeps_vault_iff plainPackages
    (fun _ _ ↦ .ok (some portTemplate)) coreCredentials created (fun _ ↦ .ok [])
    (withPort "old" none) v ?_).mpr ?_⟩
  · rcases hresult : second.2 with e | r
    · exact ⟨e, hresult⟩
    · rw [hresult] at hfails
      cases hfails
  · rintro _ ⟨⟩ a x hx
    rw [hvalues, List.reverse_singleton] at hx
    by_cases ha : a = passwordAddress
    · subst ha
      rw [hold, ← hx]
      rfl
    · rw [List.lookup_cons, beq_false_of_ne ha] at hx
      cases hx

/-- A workload is provisioned with the password `old`.  A second provision, with the password `new`
and no port, is refused because of the port; and the reference the workload carries now leads to
`new`. -/
theorem failed_render_replaces :
    let first := portService.render (fun _ ↦ .ok []) (withPort "old" (some (.string "80")))
    let second := portService.render (fun _ ↦ .ok []) (withPort "new" none)
    let v := coreCredentials.vaultAfter id created first.1 fun _ ↦ none
    let v' := coreCredentials.vaultAfter id created second.1 v
    first.2.toOption.map (fun r ↦ r.spec.rest) = some passwordAddress.ref ∧
      v passwordAddress = some "old".toUTF8.data.toList ∧
      second.2.toOption.isNone = true ∧
      v' passwordAddress = some "new".toUTF8.data.toList := by
  decide

end DeployTemplate

end Maintainerd

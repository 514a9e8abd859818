import Maintainerd.Lib.Fallible
import Maintainerd.Lib.Text

/-!
# Rendering a deployment template

`internal/deploytemplate`: a template is a workload specification with placeholders and a list of
parameters.  `Render` resolves the parameters, hands every parameter of type `secret` to the vault
and puts the reference it gets in its place, and only then fills the placeholders in.

A Go `map[string]any` of parameters is a function from names to optional values, so that two maps
are equal when they hold the same.  The maps inside a value are the lists of their fields; Go walks
through them in no fixed order, which decides which error is reported first and nothing else.

`Packages` is what the renderer takes from outside: how Go prints and converts values,
`text/template`, `encoding/json` and the runtime kit's `WorkloadSpec`.  They are functions of what
they are given.  The vault is a function of the calls it has received, and the random bytes are a
sequence that is given to a run.
-/

set_option autoImplicit false

namespace Maintainerd

namespace DeployTemplate

open Fallible

/-! ## Values -/

/-- A Go `any`, as far as the renderer tells its types apart. -/
inductive Value where
  | nil
  | bool (b : Bool)
  | int (n : Int)
  | int64 (n : Int)
  | float64 (bits : UInt64)
  /-- A `json.Number`. -/
  | number (text : String)
  | string (s : String)
  | bytes (b : List UInt8)
  | slice (vs : List Value)
  | map (fields : List (String × Value))
  | other (tag : ℕ)

/-- A `map[string]any` of parameters. -/
abbrev Params : Type := String → Option Value

/-- The map with one entry set or, for `none`, deleted. -/
def Params.set (params : Params) (name : String) (v : Option Value) : Params :=
  fun k ↦ if k = name then v else params k

@[simp] theorem Params.set_self (params : Params) (name : String) (v : Option Value) :
    params.set name v name = v := if_pos rfl

theorem Params.set_of_ne (params : Params) {k name : String} (v : Option Value) (h : k ≠ name) :
    params.set name v k = params k := if_neg h

/-- `kitruntime.WorkloadSpec`: the two fields `Render` looks at, and the rest. -/
structure WorkloadSpec where
  image : String
  name : String
  rest : String
deriving DecidableEq, Repr

/-- What the renderer takes from outside. -/
structure Packages where
  /-- `fmt.Sprint`. -/
  sprint : Value → String
  /-- A number is never printed as the empty text. -/
  sprint_int_ne : ∀ n, sprint (.int n) ≠ ""
  /-- The verb `%q`. -/
  quote : String → String
  /-- `int(n)` for a `float64`. -/
  floatToInt : UInt64 → Int
  /-- `json.Number.Int64`. -/
  numberInt64 : String → Except String Int
  /-- `strconv.Atoi`. -/
  atoi : String → Option Int
  /-- `text/template`: parsed with the helper `secretRef` and the option `missingkey=error`, and
  executed. -/
  execute : (Value → String) → String → Params → Except String String
  /-- `json.Marshal`. -/
  marshal : Value → Except String String
  /-- `json.Unmarshal` into a `WorkloadSpec`. -/
  unmarshal : String → Option WorkloadSpec
  /-- `WorkloadSpec.Validate`. -/
  validate : WorkloadSpec → Option String
  /-- `WorkloadSpec.SpecHash`. -/
  specHash : WorkloadSpec → Except String String
  /-- `base64.RawURLEncoding`. -/
  base64 : List UInt8 → List UInt8

/-! ## Templates -/

/-- `Parameter`; an absent default is `nil`. -/
structure Parameter where
  name : String
  type : String
  required : Bool := false
  default : Value := .nil
  generate : Bool := false

/-- `Template`, without what is only shown: its capability, metadata and times. -/
structure Template where
  uuid : BitVec 128
  name : String
  version : String
  image : String
  parameters : List Parameter
  spec : List (String × Value)

/-- `RenderInput`. -/
structure RenderInput where
  name : String
  version : String
  params : Params

/-- `Rendered`. -/
structure Rendered where
  template : Template
  params : Params
  spec : WorkloadSpec
  specHash : String

/-- The errors of a render: those of `apperror`, and the others. -/
inductive RenderError where
  | notFound (entity : String)
  | validation (reason : String)
  | serviceUnavailable (reason : String)
  | fault (text : String)
deriving DecidableEq, Repr

/-! ## Resolving the parameters -/

/-- `!ok || v == nil || v == ""`. -/
def missing : Option Value → Bool
  | none => true
  | some .nil => true
  | some (.string s) => s == ""
  | some _ => false

/-- `coerceParam`. -/
def coerceParam (k : Packages) (p : Parameter) (v : Value) : Except String Value :=
  if p.type = "" ∨ p.type = "string" ∨ p.type = "secret" then
    match v with
    | .string s => .ok (.string s)
    | v => .ok (.string (k.sprint v))
  else if p.type = "int" then
    match v with
    | .int n => .ok (.int n)
    | .int64 n => .ok (.int n)
    | .float64 bits => .ok (.int (k.floatToInt bits))
    | .number text => (k.numberInt64 text).map .int
    | .string s =>
      match k.atoi s with
      | none => .error ("parameter " ++ k.quote p.name ++ " must be an int")
      | some n => .ok (.int n)
    | _ => .error ("parameter " ++ k.quote p.name ++ " must be an int")
  else if p.type = "bool" then
    match v with
    | .bool b => .ok (.bool b)
    | _ => .error ("parameter " ++ k.quote p.name ++ " must be a bool")
  else
    .error ("parameter " ++ k.quote p.name ++ " has unsupported type " ++ k.quote p.type)

/-- What a round of the loop of `resolveParams` sets the parameter to, if it sets it. -/
def resolvedValue (k : Packages) (p : Parameter) (v : Option Value) :
    Except String (Option Value) :=
  if p.name = "" then .error "parameter name is required"
  -- the secrets are left to `vaultSecrets`
  else if p.type = "secret" then .ok none
  else
    match v, missing v, p.default with
    | some v, false, _ => (coerceParam k p v).map some
    | _, _, .nil =>
      if p.required then .error ("parameter " ++ k.quote p.name ++ " is required") else .ok none
    | _, _, default => (coerceParam k p default).map some

/-- One round of the loop of `resolveParams`. -/
def resolveParam (k : Packages) (p : Parameter) : Prog Params String PUnit := fun out ↦
  match resolvedValue k p (out p.name) with
  | .error e => (out, .error e)
  | .ok none => (out, .ok ⟨⟩)
  | .ok (some v) => (out.set p.name (some v), .ok ⟨⟩)

/-- `resolveParams`. -/
def resolveParams (k : Packages) (defs : List Parameter) : Prog Params String PUnit :=
  forEach (resolveParam k) defs

/-! ## The vault -/

/-- A call of the sink's `Store`. -/
structure StoreCall where
  template : String
  param : String
  value : List UInt8
deriving DecidableEq, Repr

/-- `CredentialSink`: what `Store` answers to the last of the calls it has received. -/
abbrev CredentialSink : Type := List StoreCall → Except String String

/-- What a render has done: the parameters as they are, the calls of `Store`, and how many times it
has drawn random bytes. -/
structure Vaulting where
  params : Params
  stored : List StoreCall
  draws : ℕ

/-- Where the random bytes of a run come from; a draw may fail. -/
abbrev Entropy : Type := ℕ → Except String (List UInt8)

/-- `ErrSecretMaterialUnavailable`. -/
def errSecretMaterialUnavailable : String :=
  "deploytemplate: a secret-typed parameter could not be written to maintainerd-secret"

/-- `generateSecret`. -/
def generateSecret (k : Packages) (rand : Entropy) (draws : ℕ) : Except RenderError (List UInt8) :=
  match rand draws with
  | .error e => .error (.fault ("deploytemplate: generate credential: " ++ e))
  | .ok raw => .ok (k.base64 raw)

/-- What `secretValue` finds: a value the caller supplied, the order to generate one, or nothing. -/
inductive Source where
  | supplied (value : List UInt8)
  | generated
  | absent

/-- `secretValue`, up to the generation. -/
def secretSource (k : Packages) (p : Parameter) (supplied : Option Value) :
    Except RenderError Source :=
  let otherwise : Except RenderError Source :=
    match p.default with
    | .nil =>
      if p.generate then .ok .generated
      else if p.required then
        .error (.validation ("parameter " ++ k.quote p.name ++ " is required"))
      else .ok .absent
    | _ => .error (.validation ("parameter " ++ k.quote p.name ++
        " is a secret and must not declare a default — set generate instead"))
  match supplied with
  | some (.string s) => if s = "" then otherwise else .ok (.supplied s.toUTF8.data.toList)
  | some (.bytes b) => if b.isEmpty then otherwise else .ok (.supplied b)
  | _ => otherwise

/-- `TemplateService` is `Service`: the packages, the repository and the sink, if there is one. -/
structure TemplateService where
  packages : Packages
  getDeploymentTemplate : String → String → Except String (Option Template)
  credentials : Option CredentialSink

/-- The value goes to the sink, and its reference into the parameters. -/
def TemplateService.store (svc : TemplateService) (tpl : Template) (p : Parameter)
    (value : List UInt8) : Prog Vaulting RenderError PUnit := fun s ↦
  match svc.credentials with
  | none =>
    (s, .error (.serviceUnavailable (errSecretMaterialUnavailable ++ ": parameter " ++
      svc.packages.quote p.name ++ " needs a vault and none is configured (SECRET_BASE_URL)")))
  | some sink =>
    let stored := s.stored ++ [⟨tpl.name, p.name, value⟩]
    match sink stored with
    | .error e =>
      ({ s with stored := stored }, .error (.serviceUnavailable
        (errSecretMaterialUnavailable ++ ": parameter " ++ svc.packages.quote p.name ++ ": " ++ e)))
    | .ok ref =>
      ({ s with stored := stored, params := s.params.set p.name (some (.string ref)) }, .ok ⟨⟩)

/-- One round of the loop of `vaultSecrets`. -/
def TemplateService.vaultSecret (svc : TemplateService) (rand : Entropy) (tpl : Template)
    (p : Parameter) : Prog Vaulting RenderError PUnit := fun s ↦
  if p.type = "secret" then
    match secretSource svc.packages p (s.params p.name) with
    | .error e => (s, .error e)
    | .ok (.supplied value) => svc.store tpl p value s
    | .ok .generated =>
      match generateSecret svc.packages rand s.draws with
      | .error e => ({ s with draws := s.draws + 1 }, .error e)
      | .ok value => svc.store tpl p value { s with draws := s.draws + 1 }
    | .ok .absent => ({ s with params := s.params.set p.name none }, .ok ⟨⟩)
  else (s, .ok ⟨⟩)

/-- `vaultSecrets`. -/
def TemplateService.vaultSecrets (svc : TemplateService) (rand : Entropy) (tpl : Template) :
    Prog Vaulting RenderError PUnit :=
  forEach (svc.vaultSecret rand tpl) tpl.parameters

/-! ## Filling the placeholders in -/

/-- `secretRefFunc`. -/
def secretRefFunc (k : Packages) (v : Value) : String :=
  let s := k.sprint v
  if Text.startsWith s "secret://" then s else "secret://" ++ s

/-- `exactParamTemplate`. -/
def exactParamTemplate (s : String) : Option String :=
  let trimmed := Text.trimSpace s
  if !Text.startsWith trimmed "\x7b\x7b" || !Text.endsWith trimmed "\x7d\x7d" then none
  else
    let inner := Text.trimSpace (Text.cutEnd (Text.cutStart trimmed "\x7b\x7b") "\x7d\x7d")
    if !Text.startsWith inner "." || Text.containsAny inner " |()" then none
    else
      let name := Text.cutStart inner "."
      if name = "" then none else some name

/-- `renderString`. -/
def renderString (k : Packages) (params : Params) (s : String) : Except String Value :=
  if !Text.contains s "\x7b\x7b" then .ok (.string s)
  else
    match exactParamTemplate s with
    | some name =>
      match params name with
      | none => .error ("parameter " ++ k.quote name ++ " is not defined")
      | some v => .ok v
    | none => (k.execute (secretRefFunc k) s params).map .string

mutual

/-- `renderAny`. -/
def renderAny (k : Packages) (params : Params) : Value → Except String Value
  | .map fields => (renderFields k params fields).map .map
  | .slice vs => (renderSlice k params vs).map .slice
  | .string s => renderString k params s
  | v => .ok v

/-- The loop of `renderAny` over a slice. -/
def renderSlice (k : Packages) (params : Params) : List Value → Except String (List Value)
  | [] => .ok []
  | v :: vs =>
    match renderAny k params v, renderSlice k params vs with
    | .error e, _ => .error e
    | _, .error e => .error e
    | .ok r, .ok rs => .ok (r :: rs)

/-- The loop of `renderAny` over a map. -/
def renderFields (k : Packages) (params : Params) :
    List (String × Value) → Except String (List (String × Value))
  | [] => .ok []
  | (key, v) :: fields =>
    match renderAny k params v, renderFields k params fields with
    | .error e, _ => .error e
    | _, .error e => .error e
    | .ok r, .ok rs => .ok ((key, r) :: rs)

end

/-- `spec.Name`, when the specification has none: the parameter `name`, or the name of the
template. -/
def defaultName (tpl : Template) (params : Params) : String :=
  match params "name" with
  | some (.string name) => if name = "" then tpl.name else name
  | _ => tpl.name

/-- What `Render` does once the secrets are in the vault. -/
def TemplateService.renderSpec (svc : TemplateService) (tpl : Template) (params : Params) :
    Except RenderError Rendered :=
  match renderAny svc.packages params (.map tpl.spec) with
  | .error e => .error (.validation e)
  | .ok (.map fields) =>
    match svc.packages.marshal (.map fields) with
    | .error e => .error (.fault e)
    | .ok text =>
      match svc.packages.unmarshal text with
      | none => .error (.validation "rendered spec is not a WorkloadSpec")
      | some spec =>
        let spec := if spec.image = "" then { spec with image := tpl.image } else spec
        let spec := if spec.name = "" then { spec with name := defaultName tpl params } else spec
        match svc.packages.validate spec with
        | some e => .error (.validation e)
        | none =>
          match svc.packages.specHash spec with
          | .error e => .error (.fault e)
          | .ok hash => .ok ⟨tpl, params, spec, hash⟩
  | .ok _ => .error (.validation "template spec must render to an object")

/-- `Get`. -/
def TemplateService.get (svc : TemplateService) (name version : String) :
    Except RenderError Template :=
  match svc.getDeploymentTemplate name (if version = "" then "v1" else version) with
  | .error e => .error (.fault e)
  | .ok none => .error (.notFound "deployment template")
  | .ok (some tpl) => .ok tpl

/-- `Render`: the calls of `Store` it makes, and what it returns. -/
def TemplateService.render (svc : TemplateService) (rand : Entropy) (input : RenderInput) :
    List StoreCall × Except RenderError Rendered :=
  match svc.get input.name input.version with
  | .error e => ([], .error e)
  | .ok tpl =>
    match resolveParams svc.packages tpl.parameters input.params with
    | (_, .error e) => ([], .error (.validation e))
    | (params, .ok _) =>
      match svc.vaultSecrets rand tpl ⟨params, [], 0⟩ with
      | (s, .error e) => (s.stored, .error e)
      | (s, .ok _) => (s.stored, svc.renderSpec tpl s.params)

end DeployTemplate

end Maintainerd

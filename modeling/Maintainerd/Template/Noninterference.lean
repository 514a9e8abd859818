import Maintainerd.Template.Render

/-!
# Secrets do not show in a rendered template

Two renders of one template, with parameters that differ only in the texts supplied for its secrets.
If both succeed, they return the same, and they ask the vault to store under the same names in the
same order: what was supplied shows in the bytes that are stored and nowhere else.

The two runs are followed side by side.  `Agree names` is what holds between their parameters: they
are equal, except for the names of secrets that are still to be stored, where the two values are
`Hidden`.  A name may be declared more than once, as a secret and as something else, so a hidden
value need not be a text: it may have been converted to a number on the way, in both runs.  The
secrets are stored one declaration after the other, and `names` shrinks with them.  In the end it is
empty, the two maps are one, and what comes after is a function of it.

The vault may answer what it likes and remember what it likes, as long as a reference it returns
does not depend on what is stored under it (`TemplateService.Blind`); it may also refuse a value.
Random bytes are drawn by each run for itself.
-/

set_option autoImplicit false

namespace Maintainerd

namespace DeployTemplate

open Fallible

/-! ## Two parameter maps -/

/-- The names the declarations give to secrets. -/
def secretNames (defs : List Parameter) : List String :=
  (defs.filter fun p ↦ p.type = "secret").map Parameter.name

/-- Two values that differ in what they hold and not in how they are treated: two texts that are not
empty, or two numbers. -/
def Hidden (v v' : Option Value) : Prop :=
  (∃ a b, v = some (.string a) ∧ v' = some (.string b) ∧ a ≠ "" ∧ b ≠ "") ∨
    ∃ i j, v = some (.int i) ∧ v' = some (.int j)

/-- Two parameter maps agree outside the names, and are hidden from each other there. -/
def Agree (names : List String) (ps ps' : Params) : Prop :=
  ∀ name, ps name = ps' name ∨ name ∈ names ∧ Hidden (ps name) (ps' name)

/-- The parameters supplied to two renders differ only in texts for secrets of the template. -/
def DifferInSecrets (tpl : Template) (ps ps' : Params) : Prop :=
  ∀ name, ps name = ps' name ∨ name ∈ secretNames tpl.parameters ∧
    ∃ a b, ps name = some (.string a) ∧ ps' name = some (.string b) ∧ a ≠ "" ∧ b ≠ ""

/-- What a call of `Store` shows of itself. -/
def StoreCall.key (c : StoreCall) : String × String := (c.template, c.param)

/-- The references the vault returns do not depend on the values it is given. -/
def TemplateService.Blind (svc : TemplateService) : Prop :=
  ∀ sink, svc.credentials = some sink → ∀ calls calls' : List StoreCall,
    calls.map StoreCall.key = calls'.map StoreCall.key →
      ∀ ref ref', sink calls = .ok ref → sink calls' = .ok ref' → ref = ref'

section

variable {k : Packages} {p : Parameter} {ps ps' : Params} {names : List String}

theorem DifferInSecrets.agree {tpl : Template} (h : DifferInSecrets tpl ps ps') :
    Agree (secretNames tpl.parameters) ps ps' := by
  intro name
  rcases h name with hsame | ⟨hname, hhidden⟩
  · exact .inl hsame
  · exact .inr ⟨hname, .inl hhidden⟩

/-- Two maps that agree outside no names are one. -/
theorem Agree.eq (h : Agree [] ps ps') : ps = ps' := by
  funext name
  rcases h name with hsame | ⟨hname, -⟩
  · exact hsame
  · cases hname

/-- Set to the same value, two maps agree on one name more. -/
theorem Agree.set_same (h : Agree names ps ps') {name : String} {names' : List String}
    (hnames : ∀ n ∈ names, n ≠ name → n ∈ names') (v : Option Value) :
    Agree names' (ps.set name v) (ps'.set name v) := by
  intro n
  by_cases hn : n = name
  · subst hn
    simp
  · rw [Params.set_of_ne _ _ hn, Params.set_of_ne _ _ hn]
    rcases h n with hsame | ⟨hmem, hhidden⟩
    · exact .inl hsame
    · exact .inr ⟨hnames n hmem hn, hhidden⟩

/-! ## Resolving the parameters -/

/-- A value that can be hidden: a text that is not empty, or a number. -/
inductive Solid : Value → Prop where
  | string {a : String} (ha : a ≠ "") : Solid (.string a)
  | int (i : Int) : Solid (.int i)

theorem Solid.not_missing {v : Value} (h : Solid v) : missing (some v) = false := by
  cases h with
  | string ha => simpa [missing] using ha
  | int i => rfl

theorem Hidden.solid {v v' : Option Value} (h : Hidden v v') :
    ∃ x x', v = some x ∧ v' = some x' ∧ Solid x ∧ Solid x' := by
  rcases h with ⟨a, b, rfl, rfl, ha, hb⟩ | ⟨i, j, rfl, rfl⟩
  · exact ⟨_, _, rfl, rfl, .string ha, .string hb⟩
  · exact ⟨_, _, rfl, rfl, .int i, .int j⟩

/-- Whether a text that is not empty or a number comes out is a matter of the declared type. -/
theorem Solid.coerceParam {v c : Value} (h : Solid v) (hc : coerceParam k p v = .ok c) :
    if p.type = "" ∨ p.type = "string" ∨ p.type = "secret" then ∃ a, a ≠ "" ∧ c = .string a
    else ∃ n, c = .int n := by
  cases h with
  | @string a ha =>
    rw [DeployTemplate.coerceParam] at hc
    split_ifs at hc ⊢
    · cases hc
      exact ⟨a, ha, rfl⟩
    · rcases hi : k.atoi a with _ | n
      · rw [hi] at hc
        cases hc
      · rw [hi] at hc
        cases hc
        exact ⟨n, rfl⟩
  | int i =>
    rw [DeployTemplate.coerceParam] at hc
    split_ifs at hc ⊢
    · cases hc
      exact ⟨_, k.sprint_int_ne i, rfl⟩
    · cases hc
      exact ⟨i, rfl⟩

/-- Two such values are coerced to two that are hidden from each other. -/
theorem Solid.hidden {v v' c c' : Value} (h : Solid v) (h' : Solid v')
    (hc : DeployTemplate.coerceParam k p v = .ok c)
    (hc' : DeployTemplate.coerceParam k p v' = .ok c') : Hidden (some c) (some c') := by
  have hshape := h.coerceParam hc
  have hshape' := h'.coerceParam hc'
  split_ifs at hshape hshape'
  · obtain ⟨a, ha, rfl⟩ := hshape
    obtain ⟨b, hb, rfl⟩ := hshape'
    exact .inl ⟨a, b, rfl, rfl, ha, hb⟩
  · obtain ⟨i, rfl⟩ := hshape
    obtain ⟨j, rfl⟩ := hshape'
    exact .inr ⟨i, j, rfl, rfl⟩

/-- What a round sets, for a value that is there. -/
theorem resolvedValue_some {v : Value} {r : Option Value} (hv : missing (some v) = false)
    (h : resolvedValue k p (some v) = .ok r) :
    p.type = "secret" ∧ r = none ∨
      p.type ≠ "secret" ∧ ∃ c, coerceParam k p v = .ok c ∧ r = some c := by
  unfold resolvedValue at h
  split at h
  · cases h
  split at h
  · rename_i hsecret
    cases h
    exact .inl ⟨hsecret, rfl⟩
  · rename_i hsecret
    rw [hv] at h
    dsimp only at h
    rcases hc : coerceParam k p v with e | c
    · rw [hc] at h
      cases h
    · rw [hc] at h
      cases h
      exact .inr ⟨hsecret, c, rfl, rfl⟩

/-- A round treats two hidden values alike. -/
theorem Hidden.resolved {v v' r r' : Option Value} (h : Hidden v v')
    (hr : resolvedValue k p v = .ok r) (hr' : resolvedValue k p v' = .ok r') :
    r = none ∧ r' = none ∨ Hidden r r' := by
  obtain ⟨x, x', rfl, rfl, hx, hx'⟩ := h.solid
  rcases resolvedValue_some hx.not_missing hr with ⟨hs, rfl⟩ | ⟨hs, c, hc, rfl⟩ <;>
  rcases resolvedValue_some hx'.not_missing hr' with ⟨hs', rfl⟩ | ⟨hs', c', hc', rfl⟩
  · exact .inl ⟨rfl, rfl⟩
  · exact absurd hs hs'
  · exact absurd hs' hs
  · exact .inr (hx.hidden hx' hc hc')

/-- What a round of the loop does when it goes through. -/
theorem resolveParam_ok {out : Params} (h : resolveParam k p ps = (out, .ok ⟨⟩)) :
    ∃ r, resolvedValue k p (ps p.name) = .ok r ∧
      out = ps.set p.name (r.orElse fun _ ↦ ps p.name) := by
  rw [resolveParam] at h
  split at h
  · cases Prod.mk.inj h |>.2
  · rename_i hr
    cases h
    refine ⟨none, hr, ?_⟩
    funext n
    by_cases hn : n = p.name
    · subst hn
      simp
    · rw [Params.set_of_ne _ _ hn]
  · rename_i v hr
    cases h
    exact ⟨some v, hr, rfl⟩

/-- One round of the loop of `resolveParams`, in two runs. -/
theorem Agree.resolveParam {out out' : Params} (h : Agree names ps ps')
    (hout : resolveParam k p ps = (out, .ok ⟨⟩)) (hout' : resolveParam k p ps' = (out', .ok ⟨⟩)) :
    Agree names out out' := by
  obtain ⟨r, hr, rfl⟩ := resolveParam_ok hout
  obtain ⟨r', hr', rfl⟩ := resolveParam_ok hout'
  intro n
  by_cases hn : n = p.name
  · subst hn
    simp only [Params.set_self]
    rcases h p.name with hsame | ⟨hmem, hhidden⟩
    · rw [hsame, hr'] at hr
      cases hr
      rw [hsame]
      exact .inl rfl
    · rcases hhidden.resolved hr hr' with ⟨rfl, rfl⟩ | hhidden'
      · exact .inr ⟨hmem, hhidden⟩
      · obtain ⟨x, x', rfl, rfl, -, -⟩ := hhidden'.solid
        exact .inr ⟨hmem, hhidden'⟩
  · rw [Params.set_of_ne _ _ hn, Params.set_of_ne _ _ hn]
    exact h n

/-- **`resolveParams`, in two runs.** -/
theorem Agree.resolveParams {defs : List Parameter} {out out' : Params} (h : Agree names ps ps')
    (hout : resolveParams k defs ps = (out, .ok ⟨⟩))
    (hout' : resolveParams k defs ps' = (out', .ok ⟨⟩)) : Agree names out out' := by
  rw [DeployTemplate.resolveParams] at hout hout'
  refine forEach_related (R := fun _ ↦ Agree names) ?_ h hout hout'
  intro p _ _ _ _ _ hagree hround hround'
  exact hagree.resolveParam hround hround'

/-! ## Storing the secrets -/

/-- Whether there is a value to store does not depend on what is hidden. -/
theorem absent_iff {v v' : Option Value} {src src' : Source} (h : v = v' ∨ Hidden v v')
    (hsrc : secretSource k p v = .ok src) (hsrc' : secretSource k p v' = .ok src') :
    src = .absent ↔ src' = .absent := by
  rcases h with rfl | ⟨a, b, rfl, rfl, ha, hb⟩ | ⟨i, j, rfl, rfl⟩
  · rw [hsrc] at hsrc'
    cases hsrc'
    rfl
  · simp only [secretSource, if_neg ha] at hsrc
    simp only [secretSource, if_neg hb] at hsrc'
    cases hsrc
    cases hsrc'
    simp
  · have hsame : secretSource k p (some (.int i)) = secretSource k p (some (.int j)) := rfl
    rw [hsame, hsrc'] at hsrc
    cases hsrc
    rfl

end

section

variable {svc : TemplateService} {tpl : Template} {p : Parameter} {s t : Vaulting} {rand : Entropy}

/-- The state after a value was stored. -/
structure Stored (svc : TemplateService) (tpl : Template) (p : Parameter) (s t : Vaulting) :
    Prop where
  calls : ∃ value, t.stored = s.stored ++ [⟨tpl.name, p.name, value⟩]
  ref : ∃ sink ref, svc.credentials = some sink ∧ sink t.stored = .ok ref ∧
    t.params = s.params.set p.name (some (.string ref))

theorem stored_of_store {value : List UInt8} (h : svc.store tpl p value s = (t, .ok ⟨⟩)) :
    Stored svc tpl p s t := by
  rw [TemplateService.store] at h
  split at h
  · cases Prod.mk.inj h |>.2
  · rename_i sink hsink
    dsimp only at h
    split at h
    · cases Prod.mk.inj h |>.2
    · rename_i ref href
      cases h
      exact ⟨⟨value, rfl⟩, sink, ref, hsink, href, rfl⟩

/-- What a round of the loop of `vaultSecrets` does when it goes through. -/
theorem vaultSecret_ok (h : svc.vaultSecret rand tpl p s = (t, .ok ⟨⟩)) (hp : p.type = "secret") :
    ∃ src, secretSource svc.packages p (s.params p.name) = .ok src ∧
      (src = .absent ∧ t.stored = s.stored ∧ t.params = s.params.set p.name none ∨
        src ≠ .absent ∧ Stored svc tpl p s t) := by
  rw [TemplateService.vaultSecret, if_pos hp] at h
  split at h
  · cases Prod.mk.inj h |>.2
  · rename_i value hsrc
    exact ⟨_, hsrc, .inr ⟨by simp, stored_of_store h⟩⟩
  · rename_i hsrc
    split at h
    · cases Prod.mk.inj h |>.2
    · obtain ⟨hcalls, href⟩ := stored_of_store h
      exact ⟨_, hsrc, .inr ⟨by simp, hcalls, href⟩⟩
  · rename_i hsrc
    cases h
    exact ⟨_, hsrc, .inl ⟨rfl, rfl, rfl⟩⟩

/-- What holds between two runs of `vaultSecrets` when the declarations `rest` are still to come. -/
structure Related (rest : List Parameter) (s s' : Vaulting) : Prop where
  agree : Agree (secretNames rest) s.params s'.params
  keys : s.stored.map StoreCall.key = s'.stored.map StoreCall.key

theorem mem_secretNames_of_ne {rest : List Parameter} {n : String}
    (h : n ∈ secretNames (p :: rest)) (hn : n ≠ p.name) : n ∈ secretNames rest := by
  rw [secretNames, List.filter_cons] at h
  split at h
  · rcases List.mem_cons.mp h with rfl | h
    · exact absurd rfl hn
    · exact h
  · exact h

/-- Two runs that have stored a value under one name have got the same reference. -/
theorem Related.of_stored (hblind : svc.Blind) {rest : List Parameter} {s' t' : Vaulting}
    (h : Related (p :: rest) s s')
    (hnames : ∀ n ∈ secretNames (p :: rest), n ≠ p.name → n ∈ secretNames rest)
    (ht : Stored svc tpl p s t) (ht' : Stored svc tpl p s' t') : Related rest t t' := by
  obtain ⟨⟨value, hcalls⟩, sink, ref, hsink, href, hparams⟩ := ht
  obtain ⟨⟨value', hcalls'⟩, sink', ref', hsink', href', hparams'⟩ := ht'
  have hkeys : t.stored.map StoreCall.key = t'.stored.map StoreCall.key := by
    rw [hcalls, hcalls', List.map_append, List.map_append, h.keys]
    rfl
  rw [hsink] at hsink'
  cases hsink'
  have hsame : ref = ref' := hblind sink hsink t.stored t'.stored hkeys ref ref' href href'
  subst hsame
  exact ⟨by rw [hparams, hparams']; exact h.agree.set_same hnames _, hkeys⟩

/-- One round of the loop of `vaultSecrets`, in two runs. -/
theorem Related.vaultSecret (hblind : svc.Blind) {rest : List Parameter} {s' t' : Vaulting}
    {rand' : Entropy} (h : Related (p :: rest) s s')
    (ht : svc.vaultSecret rand tpl p s = (t, .ok ⟨⟩))
    (ht' : svc.vaultSecret rand' tpl p s' = (t', .ok ⟨⟩)) : Related rest t t' := by
  by_cases hp : p.type = "secret"
  · obtain ⟨src, hsrc, hround⟩ := vaultSecret_ok ht hp
    obtain ⟨src', hsrc', hround'⟩ := vaultSecret_ok ht' hp
    have habsent := absent_iff ((h.agree p.name).imp_right And.right) hsrc hsrc'
    have hnames : ∀ n ∈ secretNames (p :: rest), n ≠ p.name → n ∈ secretNames rest :=
      fun n ↦ mem_secretNames_of_ne
    rcases hround with ⟨hnone, hcalls, hparams⟩ | ⟨hsome, hstored⟩
    · rcases hround' with ⟨-, hcalls', hparams'⟩ | ⟨hsome', -⟩
      · exact ⟨by rw [hparams, hparams']; exact h.agree.set_same hnames none,
          by rw [hcalls, hcalls']; exact h.keys⟩
      · exact absurd (habsent.mp hnone) hsome'
    · rcases hround' with ⟨hnone', -⟩ | ⟨-, hstored'⟩
      · exact absurd (habsent.mpr hnone') hsome
      · exact h.of_stored hblind hnames hstored hstored'
  · rw [TemplateService.vaultSecret, if_neg hp] at ht ht'
    cases ht
    cases ht'
    refine ⟨?_, h.keys⟩
    have hnames : secretNames (p :: rest) = secretNames rest := by
      rw [secretNames, List.filter_cons_of_neg (by simpa using hp), secretNames]
    rw [← hnames]
    exact h.agree

/-- **`vaultSecrets`, in two runs.** -/
theorem Related.vaultSecrets (hblind : svc.Blind) {s' t' : Vaulting} {rand' : Entropy}
    (h : Related tpl.parameters s s') (ht : svc.vaultSecrets rand tpl s = (t, .ok ⟨⟩))
    (ht' : svc.vaultSecrets rand' tpl s' = (t', .ok ⟨⟩)) : Related [] t t' := by
  rw [TemplateService.vaultSecrets] at ht ht'
  refine forEach_related (R := Related) ?_ h ht ht'
  intro p _ _ _ _ _ hrelated hround hround'
  exact hrelated.vaultSecret hblind hround hround'

end

/-! ## The render -/

/-- A render that succeeds has resolved its parameters, stored its secrets and rendered the
specification with what came out of that. -/
theorem render_ok {svc : TemplateService} {rand : Entropy} {input : RenderInput} {tpl : Template}
    {r : Rendered} (hget : svc.get input.name input.version = .ok tpl)
    (h : (svc.render rand input).2 = .ok r) :
    ∃ params s, resolveParams svc.packages tpl.parameters input.params = (params, .ok ⟨⟩) ∧
      svc.vaultSecrets rand tpl ⟨params, [], 0⟩ = (s, .ok ⟨⟩) ∧
        (svc.render rand input).1 = s.stored ∧ svc.renderSpec tpl s.params = .ok r := by
  rw [TemplateService.render, hget] at h ⊢
  dsimp only at h ⊢
  rcases hresolve : resolveParams svc.packages tpl.parameters input.params with
    ⟨params, e | ⟨⟩⟩
  · rw [hresolve] at h
    cases h
  rw [hresolve] at h
  dsimp only at h ⊢
  rcases hvault : svc.vaultSecrets rand tpl ⟨params, [], 0⟩ with ⟨s, e | ⟨⟩⟩
  · rw [hvault] at h
    cases h
  rw [hvault] at h
  exact ⟨params, s, rfl, hvault, rfl, h⟩

/-- **Secrets do not show.**  Render a template twice, with parameters that differ only in texts for
its secrets, each run with random bytes of its own, against a vault whose references do not depend
on the values.  If both renders succeed, they return the same parameters, specification and hash,
and they have stored under the same names in the same order: the bytes that were stored are all that
differs. -/
theorem secrets_do_not_show (svc : TemplateService) (hblind : svc.Blind) (name version : String)
    (tpl : Template) (hget : svc.get name version = .ok tpl) (ps ps' : Params)
    (hdiffer : DifferInSecrets tpl ps ps') (rand rand' : Entropy) (r r' : Rendered)
    (h : (svc.render rand ⟨name, version, ps⟩).2 = .ok r)
    (h' : (svc.render rand' ⟨name, version, ps'⟩).2 = .ok r') :
    r.params = r'.params ∧ r.spec = r'.spec ∧ r.specHash = r'.specHash ∧
      (svc.render rand ⟨name, version, ps⟩).1.map StoreCall.key =
        (svc.render rand' ⟨name, version, ps'⟩).1.map StoreCall.key := by
  obtain ⟨params, s, hresolve, hvault, hcalls, hspec⟩ := render_ok hget h
  obtain ⟨params', s', hresolve', hvault', hcalls', hspec'⟩ := render_ok hget h'
  have hagree := hdiffer.agree.resolveParams hresolve hresolve'
  have hstart : Related tpl.parameters ⟨params, [], 0⟩ ⟨params', [], 0⟩ := ⟨hagree, rfl⟩
  have hrelated := hstart.vaultSecrets hblind hvault hvault'
  rw [hrelated.agree.eq, hspec'] at hspec
  cases hspec
  exact ⟨rfl, rfl, rfl, by rw [hcalls, hcalls']; exact hrelated.keys⟩

/-- Packages in which a specification is the text of its first field. -/
def plainPackages : Packages where
  sprint
    | .string s => s
    | _ => "?"
  sprint_int_ne _ := by simp
  quote s := s
  floatToInt _ := 0
  numberInt64 text := .error text
  atoi _ := none
  execute _ text _ := .error text
  marshal
    | .map ((_, .string s) :: _) => .ok s
    | _ => .ok ""
  unmarshal text := some ⟨"", "", text⟩
  validate _ := none
  specHash spec := .ok spec.rest
  base64 raw := raw

/-- A template whose specification is its one secret. -/
def apiTemplate : Template where
  uuid := 1
  name := "api"
  version := "v1"
  image := "api:1"
  parameters := [⟨"db_password", "secret", true, .nil, false⟩]
  spec := [("DB_PASSWORD", .string "\x7b\x7b .db_password \x7d\x7d")]

/-- A service with a vault that refers to a secret by its name. -/
def apiService : TemplateService where
  packages := plainPackages
  getDeploymentTemplate _ _ := .ok (some apiTemplate)
  credentials := some fun calls ↦
    match (calls.map StoreCall.key).getLast? with
    | none => .error ""
    | some (template, param) => .ok ("secret://" ++ template ++ "/" ++ param)

/-- The parameters with a password. -/
def password (value : String) : RenderInput :=
  ⟨"api", "", Params.set (fun _ ↦ none) "db_password" (some (.string value))⟩

/-- Two passwords are stored, and one specification comes out. -/
theorem secrets_do_not_show_api :
    let one := apiService.render (fun _ ↦ .ok []) (password "one")
    let two := apiService.render (fun _ ↦ .ok []) (password "two")
    one.1 ≠ two.1 ∧ ∃ r r', one.2 = .ok r ∧ two.2 = .ok r' ∧
      r.spec.rest = "secret://api/db_password" ∧ r.params = r'.params ∧ r.spec = r'.spec := by
  intro one two
  have hone : one.2.toOption.map Rendered.spec =
      some ⟨"api:1", "api", "secret://api/db_password"⟩ := by decide
  have htwo : two.2.toOption.isSome = true := by decide
  rcases hr : one.2 with e | r
  · rw [hr] at hone
    cases hone
  rcases hr' : two.2 with e | r'
  · rw [hr'] at htwo
    cases htwo
  have hdiffer : DifferInSecrets apiTemplate (password "one").params (password "two").params := by
    intro name
    by_cases hname : name = "db_password"
    · subst hname
      exact .inr ⟨by decide, "one", "two", rfl, rfl, by decide, by decide⟩
    · exact .inl (by simp [password, Params.set, hname])
  have hblind : apiService.Blind := by
    rintro sink ⟨⟩ calls calls' hkeys ref ref' href href'
    dsimp only at href href'
    rw [hkeys, href'] at href
    exact (Except.ok.inj href).symm
  obtain ⟨hparams, hspec, -⟩ := secrets_do_not_show apiService hblind "api" "" apiTemplate rfl
    (password "one").params (password "two").params hdiffer _ _ r r' hr hr'
  rw [hr] at hone
  refine ⟨by decide, r, r', rfl, rfl, ?_, hparams, hspec⟩
  exact congrArg WorkloadSpec.rest (Option.some.inj hone)

end DeployTemplate

end Maintainerd

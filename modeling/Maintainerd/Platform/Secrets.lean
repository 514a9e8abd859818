import Maintainerd.Lib.Text

/-!
# Secrets at start-up

`internal/platform/config`: core reads its secrets from a provider, and from the process environment
when the provider says that it does not have them.  That the provider could not be asked is another
matter: the environment may hold a value that is out of date, and core must not start on it.

A provider answers each call as it pleases; an error carries whether `errors.Is` finds
`ErrSecretNotFound` in it, however it is wrapped.  `Fetched` says what the retry loop has seen by
the time it ends: all calls but the last failed, for another reason than that the secret is not
there.  `environment_only_on_absence` is what follows for the two loaders.  That a value comes from
the environment is told in two ways: the loaders log the source of every secret, and a value that
comes from elsewhere does not depend on the environment.
-/

set_option autoImplicit false

namespace Maintainerd.Config

/-! ## Values -/

/-- A `[]byte`. -/
abbrev Bytes : Type := List UInt8

/-- The encodings of the white space of Unicode. -/
def spaces : List Bytes :=
  [[0x09], [0x0A], [0x0B], [0x0C], [0x0D], [0x20], [0xC2, 0x85], [0xC2, 0xA0],
      [0xE1, 0x9A, 0x80]] ++
    (List.range 11).map (fun i ↦ [0xE2, 0x80, 0x80 + i.toUInt8]) ++
    [[0xE2, 0x80, 0xA8], [0xE2, 0x80, 0xA9], [0xE2, 0x80, 0xAF], [0xE2, 0x81, 0x9F],
      [0xE3, 0x80, 0x80]]

/-- At most `n` of the encodings at the start are dropped. -/
def dropEncodings (encodings : List Bytes) : ℕ → Bytes → Bytes
  | 0, b => b
  | n + 1, b =>
    match encodings.find? fun e ↦ e.isPrefixOf b with
    | none => b
    | some e => dropEncodings encodings n (b.drop e.length)

/-- `bytes.TrimSpace`. -/
def trimSpace (b : Bytes) : Bytes :=
  let b := dropEncodings spaces b.length b
  (dropEncodings (spaces.map List.reverse) b.length b.reverse).reverse

/-- What is taken from Go's library: the verb `%q`, lower case, and
`base64.StdEncoding.DecodeString`. -/
structure Packages where
  quote : String → String
  lower : Char → Char
  decodeString : Bytes → Except String Bytes

/-- The process environment; a variable that is not set is empty. -/
abbrev Environ : Type := String → String

/-- The bytes of a text. -/
def bytes (s : String) : Bytes := s.toUTF8.data.toList

/-! ## Providers -/

/-- An error of a provider: its text, and whether it is `ErrSecretNotFound`. -/
structure Failure where
  text : String
  notFound : Bool
deriving DecidableEq, Repr

/-- How reading a file ends. -/
inductive FileRead where
  | data (b : Bytes)
  | notExist
  | fault (e : String)

/-- The remote stores. -/
inductive Store where
  | awsSecrets
  | awsSSM
  | vault
  | gcp
  | azureKV
deriving DecidableEq, Repr

/-- `SecretManager`, with what its calls find, numbered from zero. -/
inductive SecretManager where
  | env
  | file (basePath : String) (read : String → ℕ → FileRead)
  | remote (store : Store) (answer : ℕ → Except Failure Bytes)

/-- The provider is the environment. -/
def SecretManager.isEnv : SecretManager → Bool
  | .env => true
  | .file _ _ => false
  | .remote _ _ => false

/-- `providerIsLocal`. -/
def SecretManager.isLocal : SecretManager → Bool
  | .env => true
  | .file _ _ => true
  | .remote _ _ => false

/-- `GetSecret`, at the `n`-th call. -/
def SecretManager.getSecret (k : Packages) (environ : Environ) (key : String) (n : ℕ) :
    SecretManager → Except Failure Bytes
  | .env =>
    if environ key = "" then
      .error ⟨"environment variable " ++ k.quote key ++ ": secret not found", true⟩
    else .ok (bytes (environ key))
  | .file basePath read =>
    let name := Text.toLower k.lower
      (String.ofList (key.toList.map fun c ↦ if c = '_' then '-' else c))
    let path := basePath ++ "/" ++ name
    match read path n with
    | .data b => .ok b
    | .notExist => .error ⟨"secret file " ++ k.quote path ++ ": secret not found", true⟩
    | .fault e => .error ⟨"failed to read secret file " ++ k.quote path ++ ": " ++ e, false⟩
  | .remote _ answer => answer n

/-- Only the provider that is the environment reads the environment. -/
theorem getSecret_of_not_env {m : SecretManager} (h : m.isEnv = false) (k : Packages)
    (environ environ' : Environ) (key : String) (n : ℕ) :
    m.getSecret k environ' key n = m.getSecret k environ key n := by
  cases m with
  | env => cases h
  | file basePath read => rfl
  | remote store answer => rfl

/-! ## Fetching -/

/-- The loop of `fetchFromProvider`: the calls made so far, the attempts that are left, and the last
error. -/
def fetchLoop (get : ℕ → Except Failure Bytes) (isLocal : Bool) (giveUp : String → String) :
    ℕ → ℕ → Failure → ℕ × Except Failure Bytes
  | n, 0, lastErr => (n, .error { lastErr with text := giveUp lastErr.text })
  | n, left + 1, _ =>
    match get n with
    | .ok secret => (n + 1, .ok secret)
    | .error e =>
      if e.notFound || isLocal then (n + 1, .error e)
      else fetchLoop get isLocal giveUp (n + 1) left e

/-- `fetchFromProvider`: how many times it calls the provider, and what it returns. -/
def fetchFromProvider (k : Packages) (environ : Environ) (key : String) (m : SecretManager) :
    ℕ × Except Failure Bytes :=
  fetchLoop (fun n ↦ m.getSecret k environ key n) m.isLocal
    (fun e ↦ "failed to load secret " ++ k.quote key ++ " after 3 attempts: " ++ e) 0 3 ⟨"", false⟩

/-- The call failed, and not because the secret is not there. -/
def Fails (get : ℕ → Except Failure Bytes) (n : ℕ) : Prop :=
  ∃ e, get n = .error e ∧ e.notFound = false

/-- What the loop has seen when it ends, having begun after `n` calls. -/
structure Fetched (get : ℕ → Except Failure Bytes) (isLocal : Bool) (n left : ℕ)
    (r : ℕ × Except Failure Bytes) : Prop where
  called : n < r.1
  bounded : r.1 ≤ n + left
  once : isLocal = true → r.1 = n + 1
  before : ∀ j, n ≤ j → j + 1 < r.1 → Fails get j
  secret : ∀ b, r.2 = .ok b → get (r.1 - 1) = .ok b
  failure : ∀ e, r.2 = .error e → ∃ e', get (r.1 - 1) = .error e' ∧ e'.notFound = e.notFound

/-- One attempt that ends the loop. -/
theorem fetched_once {get : ℕ → Except Failure Bytes} {isLocal : Bool} {n left : ℕ}
    {r : Except Failure Bytes} (h : get n = r) : Fetched get isLocal n (left + 1) (n + 1, r) where
  called := Nat.lt_succ_self n
  bounded := by dsimp only; omega
  once _ := rfl
  before j hj hlt := by dsimp only at hlt; omega
  secret b hb := h.trans hb
  failure e he := ⟨e, h.trans he, rfl⟩

theorem fetched_fetchLoop (get : ℕ → Except Failure Bytes) (isLocal : Bool)
    (giveUp : String → String) (n left : ℕ) (lastErr : Failure) :
    Fetched get isLocal n (left + 1) (fetchLoop get isLocal giveUp n (left + 1) lastErr) := by
  induction left generalizing n lastErr with
  | zero =>
    rw [fetchLoop]
    rcases hget : get n with e | b
    · dsimp only
      split_ifs with hends
      · exact fetched_once hget
      · -- the attempts are used up, and the last error is wrapped
        rw [Bool.or_eq_true, not_or] at hends
        refine ⟨Nat.lt_succ_self n, Nat.le_refl _, fun _ ↦ rfl, fun j hj hlt ↦ ?_, ?_, ?_⟩
        · rw [fetchLoop] at hlt
          dsimp only at hlt
          omega
        · rintro b ⟨⟩
        · rintro _ ⟨⟩
          exact ⟨e, hget, rfl⟩
    · exact fetched_once hget
  | succ left ih =>
    rw [fetchLoop]
    rcases hget : get n with e | b
    · dsimp only
      split_ifs with hends
      · exact fetched_once hget
      · rw [Bool.or_eq_true, not_or] at hends
        have hrest := ih (n + 1) e
        refine ⟨Nat.lt_of_succ_lt hrest.called, by have := hrest.bounded; omega,
          fun hlocal ↦ absurd hlocal hends.2, fun j hj hlt ↦ ?_, hrest.secret, hrest.failure⟩
        rcases Nat.eq_or_lt_of_le hj with rfl | hj
        · exact ⟨e, hget, Bool.eq_false_iff.mpr hends.1⟩
        · exact hrest.before j hj hlt
    · exact fetched_once hget

theorem fetched_fetchFromProvider (k : Packages) (environ : Environ) (key : String)
    (m : SecretManager) :
    Fetched (fun n ↦ m.getSecret k environ key n) m.isLocal 0 3
      (fetchFromProvider k environ key m) :=
  fetched_fetchLoop _ _ _ 0 2 _

/-! ## Loading -/

/-- `envFallbackEnabled`.  No character but the letters themselves folds to a letter of `true`. -/
def envFallbackEnabled (environ : Environ) : Bool :=
  let strict := if environ "SECRET_STRICT" = "" then "false" else environ "SECRET_STRICT"
  !(strict.toList.map Char.toLower == "true".toList)

/-- `secretSource`. -/
inductive SecretSource where
  | provider
  | envFallback
deriving DecidableEq, Repr

/-- `resolveSecret`: how many times the provider is called; and the secret with its source, if it is
found. -/
def resolveSecret (k : Packages) (environ : Environ) (key : String) (m : SecretManager) :
    ℕ × Except Failure (Option (Bytes × SecretSource)) :=
  let (calls, answer) := fetchFromProvider k environ key m
  match answer with
  | .ok raw => (calls, .ok (some (raw, .provider)))
  | .error e =>
    if !e.notFound then (calls, .error e)
    else if m.isEnv then (calls, .ok none)
    else if !envFallbackEnabled environ then (calls, .ok none)
    else if environ key ≠ "" then (calls, .ok (some (bytes (environ key), .envFallback)))
    else (calls, .ok none)

/-- `normalizeSecret`. -/
def normalizeSecret (k : Packages) (key : String) (raw : Bytes) : Except String Bytes :=
  let trimmed := trimSpace raw
  if (bytes "base64:").isPrefixOf trimmed then
    match k.decodeString (trimmed.drop (bytes "base64:").length) with
    | .error e => .error ("failed to decode base64 secret " ++ k.quote key ++ ": " ++ e)
    | .ok decoded => .ok decoded
  else .ok trimmed

/-- A secret that was loaded, and the source that is logged. -/
structure Loaded where
  value : Bytes
  source : SecretSource
deriving DecidableEq, Repr

/-- The error when there is no provider. -/
def notInitialized : String :=
  "secret manager not initialized; ensure initSecretManager is called first"

/-- What `loadSecret` and `loadSecretOptional` have in common: how many times the provider is
called, and what is returned, with what they make of an error, of a secret that is not found and of
an empty one. -/
def loadWith {α : Type} (k : Packages) (environ : Environ) (key : String)
    (failed : String → String) (absent empty : Except String α) (loaded : Loaded → α) :
    Option SecretManager → ℕ × Except String α
  | none => (0, .error notInitialized)
  | some m =>
    let (calls, resolved) := resolveSecret k environ key m
    match resolved with
    | .error e => (calls, .error (failed e.text))
    | .ok none => (calls, absent)
    | .ok (some (raw, source)) =>
      match normalizeSecret k key raw with
      | .error e => (calls, .error e)
      | .ok normalized =>
        if normalized.length = 0 then (calls, empty) else (calls, .ok (loaded ⟨normalized, source⟩))

/-- `loadSecret`, with the name of the provider. -/
def loadSecret (k : Packages) (provider : String) (environ : Environ) (key : String) :
    Option SecretManager → ℕ × Except String Loaded :=
  loadWith k environ key (fun e ↦ e)
    (.error ("secret " ++ k.quote key ++ " not found in provider " ++ k.quote provider ++
      if envFallbackEnabled environ then " or the environment"
      else " (SECRET_STRICT is on, so the environment is not consulted)"))
    (.error ("secret " ++ k.quote key ++ " is empty")) fun l ↦ l

/-- `loadSecretOptional`; a secret that is not set is `none`. -/
def loadSecretOptional (k : Packages) (environ : Environ) (key : String) :
    Option SecretManager → ℕ × Except String (Option Loaded) :=
  loadWith k environ key (fun e ↦ "failed to load optional secret " ++ k.quote key ++ ": " ++ e)
    (.ok none) (.ok none) some

/-! ## What is loaded -/

section

variable {k : Packages} {provider : String} {environ : Environ} {key : String} {m : SecretManager}
variable {raw : Bytes} {l : Loaded}

theorem calls_resolveSecret :
    (resolveSecret k environ key m).1 = (fetchFromProvider k environ key m).1 := by
  rw [resolveSecret]
  rcases fetchFromProvider k environ key m with ⟨calls, e | raw⟩
  · dsimp only
    split_ifs <;> rfl
  · rfl

/-- A secret of the provider is what the provider has answered. -/
theorem resolveSecret_provider : (resolveSecret k environ key m).2 = .ok (some (raw, .provider)) ↔
    (fetchFromProvider k environ key m).2 = .ok raw := by
  rw [resolveSecret]
  rcases fetchFromProvider k environ key m with ⟨calls, e | raw'⟩
  · dsimp only
    split_ifs <;> simp
  · simp

/-- A secret of the environment is one that the provider said it does not have. -/
theorem resolveSecret_envFallback
    (h : (resolveSecret k environ key m).2 = .ok (some (raw, .envFallback))) :
    (∃ e, (fetchFromProvider k environ key m).2 = .error e ∧ e.notFound = true) ∧
      envFallbackEnabled environ = true := by
  rw [resolveSecret] at h
  rcases hfetch : fetchFromProvider k environ key m with ⟨calls, e | raw'⟩ <;>
    simp only [hfetch] at h
  · split_ifs at h with hfound henv hstrict
    · cases h
    · cases h
    · exact ⟨⟨e, rfl, by simpa using hfound⟩, by simpa using hstrict⟩
    · cases h
  · cases h

theorem resolveSecret_fails {e : Failure} (h : (fetchFromProvider k environ key m).2 = .error e)
    (hfound : e.notFound = false) : (resolveSecret k environ key m).2 = .error e := by
  rw [resolveSecret]
  rcases hfetch : fetchFromProvider k environ key m with ⟨calls, answer⟩
  rw [hfetch] at h
  subst h
  simp [hfound]

/-- What is loaded is what was found, normalised, and is not empty. -/
def Yields (k : Packages) (environ : Environ) (key : String) (m : SecretManager) (l : Loaded) :
    Prop :=
  ∃ raw, (resolveSecret k environ key m).2 = .ok (some (raw, l.source)) ∧
    normalizeSecret k key raw = .ok l.value ∧ l.value ≠ []

section

variable {α : Type} {failed : String → String} {absent empty : Except String α}
variable {loaded : Loaded → α}

theorem calls_loadWith : (loadWith k environ key failed absent empty loaded (some m)).1 =
    (fetchFromProvider k environ key m).1 := by
  rw [← calls_resolveSecret, loadWith]
  rcases resolveSecret k environ key m with ⟨calls, e | _ | ⟨raw, source⟩⟩
  · rfl
  · rfl
  · dsimp only
    rcases normalizeSecret k key raw with e | normalized
    · rfl
    · dsimp only
      split_ifs <;> rfl

/-- A loader that fails when nothing is found or it is empty, or says so, returns a secret exactly
if one is yielded. -/
theorem loadWith_eq_ok_iff (hloaded : Function.Injective loaded)
    (habsent : absent ≠ .ok (loaded l)) (hempty : empty ≠ .ok (loaded l)) :
    (loadWith k environ key failed absent empty loaded (some m)).2 = .ok (loaded l) ↔
      Yields k environ key m l := by
  obtain ⟨value, source⟩ := l
  rw [loadWith, Yields]
  rcases resolveSecret k environ key m with ⟨calls, e | _ | ⟨raw, source'⟩⟩
  · simp
  · simp [habsent]
  rcases hnormal : normalizeSecret k key raw with e | normalized
  · simp [hnormal]
  by_cases hnone : normalized = []
  · subst hnone
    simp only [hnormal, List.length_nil, if_true]
    refine iff_of_false hempty ?_
    rintro ⟨_, ⟨⟩, hvalue, hne⟩
    rw [hnormal] at hvalue
    exact hne (Except.ok.inj hvalue).symm
  · simp only [hnormal, List.length_eq_zero_iff, hnone, if_false, Except.ok.injEq, hloaded.eq_iff]
    constructor
    · rintro ⟨⟩
      exact ⟨raw, rfl, hnormal, hnone⟩
    · rintro ⟨_, ⟨⟩, hvalue, -⟩
      rw [hnormal] at hvalue
      rw [Except.ok.inj hvalue]

theorem loadWith_fails {e : Failure} (h : (resolveSecret k environ key m).2 = .error e) :
    (loadWith k environ key failed absent empty loaded (some m)).2 = .error (failed e.text) := by
  rw [loadWith]
  rcases hresolve : resolveSecret k environ key m with ⟨calls, resolved⟩
  rw [hresolve] at h
  subst h
  rfl

end

theorem loadSecret_eq_ok_iff :
    (loadSecret k provider environ key (some m)).2 = .ok l ↔ Yields k environ key m l :=
  loadWith_eq_ok_iff Function.injective_id (by rintro ⟨⟩) (by rintro ⟨⟩)

theorem loadSecretOptional_eq_some_iff :
    (loadSecretOptional k environ key (some m)).2 = .ok (some l) ↔ Yields k environ key m l :=
  loadWith_eq_ok_iff (Option.some_injective _) (by rintro ⟨⟩) (by rintro ⟨⟩)

/-- What is taken from the environment is not there. -/
theorem Yields.absent (h : Yields k environ key m l) (hsource : l.source = .envFallback) :
    (∃ e, (fetchFromProvider k environ key m).2 = .error e ∧ e.notFound = true) ∧
      envFallbackEnabled environ = true := by
  obtain ⟨raw, hresolve, -⟩ := h
  rw [hsource] at hresolve
  exact resolveSecret_envFallback hresolve

/-- What is taken from the provider does not depend on the environment. -/
theorem Yields.provided (h : Yields k environ key m l) (hsource : l.source = .provider)
    (henv : m.isEnv = false) (environ' : Environ) : Yields k environ' key m l := by
  obtain ⟨raw, hresolve, hvalue⟩ := h
  rw [hsource, resolveSecret_provider] at hresolve
  refine ⟨raw, ?_, hvalue⟩
  rw [hsource, resolveSecret_provider, fetchFromProvider]
  simp only [getSecret_of_not_env henv k environ environ']
  exact hresolve

end

/-- The call has said that the secret is not there. -/
def SaysAbsent (get : ℕ → Except Failure Bytes) (n : ℕ) : Prop :=
  ∃ e, get n = .error e ∧ e.notFound = true

/-- **The environment is consulted only on absence.**  Both loaders call the provider as many times:
once if it is local and at most three times otherwise.  If the provider is not the environment, a
secret they return comes from the environment only if the last of these calls said that the secret
is not there, all before it failed for another reason, and the fallback is enabled; and if it does
not come from there, it is the same in every environment.  If all calls failed for another reason,
both return an error.  A secret that `loadSecret` returns is not empty. -/
theorem environment_only_on_absence (k : Packages) (provider : String) (environ : Environ)
    (key : String) (m : SecretManager) :
    let get := fun n ↦ m.getSecret k environ key n
    let required := loadSecret k provider environ key (some m)
    let optional := loadSecretOptional k environ key (some m)
    (required.1 = optional.1 ∧ 0 < required.1 ∧ required.1 ≤ 3 ∧
        (m.isLocal = true → required.1 = 1)) ∧
      (m.isEnv = false → ∀ l, required.2 = .ok l ∨ optional.2 = .ok (some l) →
        (l.source = .envFallback → SaysAbsent get (required.1 - 1) ∧
          (∀ n < required.1 - 1, Fails get n) ∧ envFallbackEnabled environ = true) ∧
        (l.source = .provider → ∀ environ',
          (loadSecret k provider environ' key (some m)).2 = .ok l ∧
            (loadSecretOptional k environ' key (some m)).2 = .ok (some l))) ∧
      ((∀ n < required.1, Fails get n) →
        (∃ e, required.2 = .error e) ∧ ∃ e, optional.2 = .error e) ∧
      ∀ l, required.2 = .ok l → l.value ≠ [] := by
  intro get required optional
  have hfetched := fetched_fetchFromProvider k environ key m
  have hcalls : required.1 = (fetchFromProvider k environ key m).1 := calls_loadWith
  have hcalls' : optional.1 = (fetchFromProvider k environ key m).1 := calls_loadWith
  rw [← hcalls'] at hcalls
  rw [hcalls, hcalls']
  refine ⟨⟨rfl, hfetched.called, hfetched.bounded, fun hlocal ↦ hfetched.once hlocal⟩,
    fun henv l hl ↦ ?_, fun hfails ↦ ?_, fun l hl ↦ ?_⟩
  · have hyields : Yields k environ key m l :=
      hl.elim loadSecret_eq_ok_iff.mp loadSecretOptional_eq_some_iff.mp
    constructor
    · intro hsource
      obtain ⟨⟨e, he, hfound⟩, henabled⟩ := hyields.absent hsource
      obtain ⟨e', hlast, heq⟩ := hfetched.failure e he
      exact ⟨⟨e', hlast, heq.trans hfound⟩,
        fun n hn ↦ hfetched.before n (Nat.zero_le n) (by omega), henabled⟩
    · intro hsource environ'
      have hsame := hyields.provided hsource henv environ'
      exact ⟨loadSecret_eq_ok_iff.mpr hsame, loadSecretOptional_eq_some_iff.mpr hsame⟩
  · have hpos := hfetched.called
    obtain ⟨e, he, hfound⟩ := hfails ((fetchFromProvider k environ key m).1 - 1) (by omega)
    rcases hfetch : (fetchFromProvider k environ key m).2 with e' | b
    · obtain ⟨e'', hlast, heq⟩ := hfetched.failure e' hfetch
      obtain rfl : e = e'' := Except.error.inj (he.symm.trans hlast)
      have hresolve := resolveSecret_fails hfetch (heq.symm.trans hfound)
      exact ⟨⟨_, loadWith_fails hresolve⟩, ⟨_, loadWith_fails hresolve⟩⟩
    · cases he.symm.trans (hfetched.secret b hfetch)
  · obtain ⟨raw, -, -, hne⟩ := loadSecret_eq_ok_iff.mp hl
    exact hne

/-- Packages that quote and decode nothing. -/
def plainPackages : Packages := ⟨id, id, .error ∘ fun _ ↦ "illegal base64 data"⟩

/-- An environment with a password. -/
def passwordEnviron : Environ := fun key ↦ if key = "DB_PASSWORD" then " s3cret\n" else ""

/-- A store that is down, and after some calls says that it does not have the secret. -/
def downFor (n : ℕ) : SecretManager :=
  .remote .vault fun i ↦ .error (if i < n then ⟨"503", false⟩ else ⟨"404", true⟩)

/-- A store that is down once leaves the secret to the environment, and one that is down for three
calls does not. -/
theorem environment_only_on_absence_down :
    loadSecret plainPackages "vault" passwordEnviron "DB_PASSWORD" (some (downFor 1)) =
        (2, .ok ⟨bytes "s3cret", .envFallback⟩) ∧
      envFallbackEnabled passwordEnviron = true ∧
      ∃ e, (loadSecretOptional plainPackages passwordEnviron "DB_PASSWORD"
        (some (downFor 3))).2 = .error e := by
  have hload : loadSecret plainPackages "vault" passwordEnviron "DB_PASSWORD" (some (downFor 1)) =
      (2, .ok ⟨bytes "s3cret", .envFallback⟩) := by rfl
  obtain ⟨-, henviron, -⟩ := environment_only_on_absence plainPackages "vault" passwordEnviron
    "DB_PASSWORD" (downFor 1)
  obtain ⟨⟨-, -, hthree, -⟩, -, hfails, -⟩ := environment_only_on_absence plainPackages "vault"
    passwordEnviron "DB_PASSWORD" (downFor 3)
  refine ⟨hload, ?_, (hfails fun n hn ↦ ?_).2⟩
  · exact ((henviron rfl _ (Or.inl (congrArg Prod.snd hload))).1 rfl).2.2
  · exact ⟨⟨"503", false⟩, congrArg Except.error (if_pos (hn.trans_le hthree)), rfl⟩

end Maintainerd.Config

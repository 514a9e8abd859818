import Maintainerd.Lib.Run
import Maintainerd.Lib.Text
import Mathlib.Data.List.Induction

/-!
# The control token

`tokenSource` of `internal/authctrl` mints the access token of core's control client and keeps it
until shortly before it expires.  A token is kept for its lifetime less the refresh skew, or less
half its lifetime when that is no longer than the skew.

The lifetime is computed as `time.Duration(expires_in) * time.Second`, which wraps round for a
lifetime of more than 292 years.  Wrapping only ever makes it shorter, and a lifetime that has
become negative is replaced by five minutes, so a token is never kept for longer than the server
said (`lifetime_le`).

A call of `Token` is one step of the source, since the source has a lock.  What a call meets is a
`Turn`: the readings of the clock, the random bytes, the signer and the token endpoint, all as they
please.  `served_fresh` is about every sequence of calls: a token that is served from the cache is
the one of the last call that minted, and it is served within its time.  It does not need the clock
to be monotone.

Times and durations are in nanoseconds.
-/

set_option autoImplicit false

namespace Maintainerd.Authctrl

open Machine

/-! ## The model -/

/-- `time.Second`. -/
def second : Int := 1000000000

/-- `time.Minute`. -/
def minute : Int := 60 * second

/-- `DefaultRefreshSkew`. -/
def defaultRefreshSkew : Int := 60 * second

/-- `assertionLifetime`. -/
def assertionLifetime : Int := 2 * minute

/-- The `Config` of a token source. -/
structure TokenConfig where
  tokenURL : String
  audience : String
  scopes : List String
  refreshSkew : Int

/-- `Identity`: the private key, if there is one, and the names of the client and the key. -/
structure Identity where
  privateKey : Option String
  clientID : String
  keyID : String

/-- The claims of a client assertion. -/
structure Claims where
  iss : String
  sub : String
  aud : String
  jti : String
  iat : Int
  exp : Int

/-- `tokenResponse`. -/
structure TokenResponse where
  accessToken : String
  tokenType : String
  expiresIn : Int64
  error : String
  errorDesc : String

/-- How the request of `postToken` ends. -/
inductive Exchange where
  | unbuilt (e : String)
  | failed (e : String)
  | answered (status : ℕ) (response : TokenResponse) (decodeErr : Option String)

/-- What a call of `Token` meets. -/
structure Turn where
  /-- The clock when the cache is looked at. -/
  checkedAt : Int
  /-- The random bytes of the assertion, in hexadecimal. -/
  random : Except String String
  /-- The clock when the assertion is signed. -/
  signedAt : Int
  /-- The signer, for the header's key and the claims. -/
  sign : String → Claims → Except String String
  /-- The token endpoint, for a form. -/
  exchange : List (String × String) → Exchange
  /-- The clock when the token has been received. -/
  receivedAt : Int

/-- `tokenSource`. -/
structure TokenSource where
  cfg : TokenConfig
  identity : Identity
  token : String
  exp : Int

/-- The refresh skew that is in effect. -/
def TokenConfig.skew (cfg : TokenConfig) : Int :=
  if cfg.refreshSkew ≤ 0 then defaultRefreshSkew else cfg.refreshSkew

/-- `newTokenSource`. -/
def newTokenSource (cfg : TokenConfig) (identity : Identity) : TokenSource where
  cfg := { cfg with refreshSkew := cfg.skew }
  identity := identity
  token := ""
  exp := 0

/-- `ErrNoControlIdentity`. -/
def errNoControlIdentity : String := "authctrl: no control-plane identity is provisioned yet"

/-- `signAssertion`. -/
def TokenSource.signAssertion (s : TokenSource) (t : Turn) : Except String String :=
  if s.identity.privateKey = none ∨ s.identity.clientID = "" then .error errNoControlIdentity
  else
    match t.random with
    | .error e => .error ("authctrl: generate assertion jti: " ++ e)
    | .ok jti =>
      match t.sign s.identity.keyID
        ⟨s.identity.clientID, s.identity.clientID, s.cfg.tokenURL, jti, t.signedAt / second,
          (t.signedAt + assertionLifetime) / second⟩ with
      | .error e => .error ("authctrl: sign client assertion: " ++ e)
      | .ok signed => .ok signed

/-- The lifetime `postToken` gives a token. -/
def TokenResponse.lifetime (r : TokenResponse) : Int :=
  let ttl := Text.int64 (r.expiresIn.toInt * second)
  if ttl ≤ 0 then 5 * minute else ttl

/-- Why the token endpoint has refused. -/
def TokenResponse.reason (r : TokenResponse) (status : ℕ) : String :=
  let reason := Text.trimSpace r.error
  let reason :=
    if r.errorDesc = "" then reason else Text.trimSpace (reason ++ ": " ++ r.errorDesc)
  if reason = "" then "status " ++ toString status else reason

/-- `postToken`: the response, when it carries a token. -/
def postToken : Exchange → Except String TokenResponse
  | .unbuilt e => .error ("authctrl: build token request: " ++ e)
  | .failed e => .error ("authctrl: token request failed: " ++ e)
  | .answered status r decodeErr =>
    if status ≠ 200 ∨ r.accessToken = "" then
      .error ("authctrl: token endpoint rejected the control client (" ++ r.reason status ++ ")")
    else
      match decodeErr with
      | some e => .error ("authctrl: decode token response: " ++ e)
      | none => .ok r

/-- `mint`. -/
def TokenSource.mint (s : TokenSource) (t : Turn) : Except String TokenResponse :=
  if Text.trimSpace s.cfg.tokenURL = "" then .error "authctrl: AUTH_TOKEN_URL is not set"
  else
    match s.signAssertion t with
    | .error e => .error e
    | .ok assertion =>
      postToken (t.exchange ([("grant_type", "client_credentials"),
        ("client_assertion_type", "urn:ietf:params:oauth:client-assertion-type:jwt-bearer"),
        ("client_assertion", assertion)] ++
        (if s.cfg.audience = "" then [] else [("audience", s.cfg.audience)]) ++
        (if s.cfg.scopes = [] then [] else [("scope", String.intercalate " " s.cfg.scopes)])))

/-- The token is served from the cache. -/
def TokenSource.serves (s : TokenSource) (t : Turn) : Bool :=
  s.token ≠ "" && decide (t.checkedAt < s.exp)

/-- How long before its end a token of a lifetime is replaced. -/
def TokenSource.margin (s : TokenSource) (ttl : Int) : Int :=
  if ttl ≤ s.cfg.refreshSkew then ttl / 2 else s.cfg.refreshSkew

/-- `Token`. -/
def TokenSource.callToken (s : TokenSource) (t : Turn) : TokenSource × Except String String :=
  if s.serves t then (s, .ok s.token)
  else
    match s.mint t with
    | .error e => (s, .error e)
    | .ok r =>
      ({ s with
          token := r.accessToken
          exp := t.receivedAt + (r.lifetime - s.margin r.lifetime) }, .ok r.accessToken)

/-- The source after a call. -/
def TokenSource.next (s : TokenSource) (t : Turn) : TokenSource := (s.callToken t).1

/-- The response that a call has minted a token from, if it has. -/
def TokenSource.minted (s : TokenSource) (t : Turn) : Option TokenResponse :=
  if s.serves t then none else (s.mint t).toOption

/-! ## Lifetimes -/

theorem lifetime_pos (r : TokenResponse) : 0 < r.lifetime := by
  dsimp only [TokenResponse.lifetime]
  split_ifs with h
  · decide
  · exact Int.not_le.mp h

/-- Wrapping round does not lengthen a lifetime, and neither does the default. -/
theorem lifetime_le {r : TokenResponse} (h : 0 < r.expiresIn.toInt) :
    r.lifetime ≤ r.expiresIn.toInt * second := by
  have hpos : 0 < r.expiresIn.toInt * second := Int.mul_pos h (by decide)
  dsimp only [TokenResponse.lifetime]
  split_ifs with hwrapped
  · -- a product that is not positive has wrapped round, so it was large
    have hlarge : 2 ^ 63 ≤ r.expiresIn.toInt * second := by
      by_contra hlt
      rw [Text.int64_of_lt hpos.le (Int.not_le.mp hlt)] at hwrapped
      exact absurd hpos (Int.not_lt.mpr hwrapped)
    exact Int.le_trans (by decide) hlarge
  · exact Text.int64_le (Int.le_trans (by decide) hpos.le)

/-- A lifetime of 584 years comes to a third of a second. -/
example : (⟨"t", "Bearer", 18446744074, "", ""⟩ : TokenResponse).lifetime = 290448384 := by decide

theorem skew_pos (cfg : TokenConfig) : 0 < cfg.skew := by
  rw [TokenConfig.skew]
  split_ifs with h
  · decide
  · exact Int.not_le.mp h

section

variable {s : TokenSource} {t : Turn} {r : TokenResponse}

/-- A margin leaves something of the lifetime. -/
theorem margin_lt (h : 0 < s.cfg.refreshSkew) (hpos : 0 < r.lifetime) :
    0 ≤ s.margin r.lifetime ∧ s.margin r.lifetime < r.lifetime ∧
      min s.cfg.refreshSkew (r.lifetime / 2) ≤ s.margin r.lifetime := by
  rw [TokenSource.margin]
  split_ifs <;> omega

/-! ## Calls -/

theorem callToken_of_serves (h : s.serves t = true) : s.callToken t = (s, .ok s.token) := by
  rw [TokenSource.callToken, if_pos h]

theorem callToken_of_minted (h : s.minted t = some r) :
    s.callToken t = ({ s with
      token := r.accessToken
      exp := t.receivedAt + (r.lifetime - s.margin r.lifetime) }, .ok r.accessToken) := by
  rw [TokenSource.minted] at h
  split_ifs at h with hserves
  rw [TokenSource.callToken, if_neg hserves]
  rcases hmint : s.mint t with e | r' <;> rw [hmint] at h
  · cases h
  · cases h
    rfl

/-- A call that mints no token leaves the source as it is. -/
theorem next_of_not_minted (h : s.minted t = none) : s.next t = s := by
  rw [TokenSource.minted] at h
  rw [TokenSource.next, TokenSource.callToken]
  split_ifs at h ⊢ with hserves
  · rfl
  · rcases hmint : s.mint t with e | r
    · rfl
    · rw [hmint] at h
      cases h

theorem accessToken_of_postToken {x : Exchange} (h : postToken x = .ok r) :
    r.accessToken ≠ "" := by
  cases x with
  | unbuilt e => cases h
  | failed e => cases h
  | answered status r' decodeErr =>
    dsimp only [postToken] at h
    split_ifs at h with hstatus
    rcases decodeErr with _ | e
    · cases h
      exact fun hempty ↦ hstatus (Or.inr hempty)
    · cases h

/-- What is minted is a token. -/
theorem accessToken_ne (h : s.minted t = some r) : r.accessToken ≠ "" := by
  rw [TokenSource.minted] at h
  split_ifs at h with hserves
  rcases hmint : s.mint t with e | r' <;> rw [hmint] at h
  · cases h
  obtain rfl : r' = r := Option.some.inj h
  rw [TokenSource.mint] at hmint
  split at hmint
  · cases hmint
  · rcases hsigned : s.signAssertion t with e | assertion <;> rw [hsigned] at hmint
    · cases hmint
    · exact accessToken_of_postToken hmint

/-- The settings of a source stay. -/
theorem cfg_next (s : TokenSource) (t : Turn) : (s.next t).cfg = s.cfg := by
  rcases h : s.minted t with _ | r
  · rw [next_of_not_minted h]
  · rw [TokenSource.next, callToken_of_minted h]

end

/-! ## Sequences of calls -/

/-- The token in the cache is the one of the last call that minted: `before`, `m` and `after` are
the calls up to it, itself, and the ones since. -/
structure MintedBy (s₀ : TokenSource) (calls before : List Turn) (m : Turn) (after : List Turn)
    (r : TokenResponse) : Prop where
  calls : calls = before ++ m :: after
  minted : (run TokenSource.next s₀ before).minted m = some r
  since : Guarded TokenSource.next (fun s t ↦ s.minted t = none)
    (run TokenSource.next s₀ (before ++ [m])) after

/-- What is in the cache: nothing, or the token of the last call that minted, with the time it is
kept until. -/
def Cached (s₀ : TokenSource) (calls : List Turn) (s : TokenSource) : Prop :=
  s.token = "" ∨ ∃ before m after r, MintedBy s₀ calls before m after r ∧
    s.token = r.accessToken ∧ s.exp = m.receivedAt + (r.lifetime - s.margin r.lifetime)

theorem cfg_run (s₀ : TokenSource) (calls : List Turn) :
    (run TokenSource.next s₀ calls).cfg = s₀.cfg :=
  invariant_run (I := fun s ↦ s.cfg = s₀.cfg) calls rfl fun s t h ↦ (cfg_next s t).trans h

theorem cached_run {s₀ : TokenSource} (h : s₀.token = "") (calls : List Turn) :
    Cached s₀ calls (run TokenSource.next s₀ calls) := by
  induction calls using List.reverseRecOn with
  | nil => exact Or.inl h
  | append_singleton calls t ih =>
    have hlast : run TokenSource.next s₀ (calls ++ [t]) = (run TokenSource.next s₀ calls).next t :=
      run_append s₀ calls [t]
    rw [hlast]
    rcases hminted : (run TokenSource.next s₀ calls).minted t with _ | r
    · -- the cache is as it was, and there is one more call since
      rw [next_of_not_minted hminted]
      refine ih.imp_right ?_
      rintro ⟨before, m, after, r, hby, htoken, hexp⟩
      refine ⟨before, m, after ++ [t], r, ⟨?_, hby.minted, ?_⟩, htoken, hexp⟩
      · rw [hby.calls]
        simp
      · refine guarded_append.mpr ⟨hby.since, ?_, trivial⟩
        rw [← run_append, List.append_assoc, List.singleton_append, ← hby.calls]
        exact hminted
    · refine Or.inr ⟨calls, t, [], r, ⟨rfl, hminted, trivial⟩, ?_, ?_⟩
      · rw [TokenSource.next, callToken_of_minted hminted]
      · rw [TokenSource.margin, cfg_next, TokenSource.next, callToken_of_minted hminted]
        rfl

/-- **Tokens are fresh.**  After any sequence of calls of `Token`, a call that is served from the
cache is given the token of the last call that minted one.  If the response said that it expires in
a positive number of seconds, that time has not passed since it was received, whatever the product
has wrapped round to; and the call is not later than the lifetime less the refresh skew or half the
lifetime, the shorter of the two.  A token that is minted is served for a positive time. -/
theorem served_fresh (cfg : TokenConfig) (identity : Identity) (calls : List Turn) (t : Turn) :
    let s₀ := newTokenSource cfg identity
    let s := run TokenSource.next s₀ calls
    (s.serves t = true → ∃ before m after r, MintedBy s₀ calls before m after r ∧
      (s.callToken t).2 = .ok r.accessToken ∧
      (0 < r.expiresIn.toInt → t.checkedAt < m.receivedAt + r.expiresIn.toInt * second) ∧
      t.checkedAt ≤ m.receivedAt + r.lifetime - min cfg.skew (r.lifetime / 2)) ∧
    ∀ r, s.minted t = some r → ∃ d > 0, ∀ t' : Turn, t'.checkedAt < t.receivedAt + d →
      (s.next t).serves t' = true ∧ ((s.next t).callToken t').2 = .ok r.accessToken := by
  intro s₀ s
  have hcached : Cached s₀ calls s := cached_run rfl calls
  have hskew : s.cfg.refreshSkew = cfg.skew :=
    congrArg TokenConfig.refreshSkew (cfg_run s₀ calls)
  have hpos : 0 < s.cfg.refreshSkew := hskew ▸ skew_pos cfg
  constructor
  · intro hserves
    rw [callToken_of_serves hserves]
    rw [TokenSource.serves, Bool.and_eq_true, decide_eq_true_eq, decide_eq_true_eq] at hserves
    obtain ⟨htoken, hchecked⟩ := hserves
    obtain ⟨before, m, after, r, hby, heq, hexp⟩ := hcached.resolve_left htoken
    obtain ⟨hmargin, -, hmin⟩ := margin_lt hpos (lifetime_pos r)
    rw [hexp] at hchecked
    refine ⟨before, m, after, r, hby, congrArg Except.ok heq, fun hexpires ↦ ?_, ?_⟩
    · have := lifetime_le hexpires
      omega
    · rw [← hskew]
      omega
  · intro r hminted
    obtain ⟨-, hmargin, -⟩ := margin_lt hpos (lifetime_pos r)
    refine ⟨r.lifetime - s.margin r.lifetime, by omega, fun t' ht' ↦ ?_⟩
    have hserves : (s.next t).serves t' = true := by
      rw [TokenSource.next, callToken_of_minted hminted, TokenSource.serves, Bool.and_eq_true,
        decide_eq_true_eq, decide_eq_true_eq]
      exact ⟨accessToken_ne hminted, ht'⟩
    refine ⟨hserves, ?_⟩
    rw [callToken_of_serves hserves, TokenSource.next, callToken_of_minted hminted]

/-- A source with a key. -/
def keyedSource : TokenSource :=
  newTokenSource ⟨"https://auth/token", "auth", [], 0⟩ ⟨some "key", "core", ""⟩

/-- A call at a time, with an endpoint that gives out tokens for an hour. -/
def hourAt (now : Int) : Turn :=
  ⟨now, .ok "00", now, fun _ _ ↦ .ok "signed",
    fun _ ↦ .answered 200 ⟨"t", "Bearer", 3600, "", ""⟩ none, now⟩

/-- A token for an hour is served after half an hour, and a minute before its end it is not. -/
theorem served_fresh_hour :
    let s := run TokenSource.next keyedSource [hourAt 0]
    s.serves (hourAt (1800 * second)) = true ∧ s.serves (hourAt (3540 * second)) = false ∧
      (s.callToken (hourAt (1800 * second))).2.toOption = some "t" := by
  intro s
  have hserves : s.serves (hourAt (1800 * second)) = true := by decide
  obtain ⟨before, m, after, r, hby, hanswer, -⟩ := (served_fresh
    ⟨"https://auth/token", "auth", [], 0⟩ ⟨some "key", "core", ""⟩ [hourAt 0]
    (hourAt (1800 * second))).1 hserves
  refine ⟨hserves, by decide, ?_⟩
  have hanswer : (s.callToken (hourAt (1800 * second))).2 = .ok r.accessToken := hanswer
  rw [hanswer]
  have hcalls := hby.calls
  rcases before with _ | ⟨t, before⟩
  · obtain ⟨rfl, -⟩ := List.cons.inj hcalls
    have hminted := hby.minted
    cases hminted
    rfl
  · simp at hcalls

end Maintainerd.Authctrl

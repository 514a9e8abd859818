import Mathlib.Algebra.Order.Group.Multiset
import Mathlib.Data.List.Induction
import Maintainerd.Console.ReturnTo
import Maintainerd.Console.SignIn

/-!
# What a sign-in is bound to

`web/console/src/auth/oauthFlow.ts`, `oauthClient.ts` and the callback page: the authorization code
flow with PKCE, as a tab of the console runs it.  An attempt draws a state and a verifier, keeps
them as the pending flow and asks the identity provider for a code, giving it the challenge of the
verifier.  The code comes back in an address, which anybody can write, with a state; if that is the
state of the pending flow, code and verifier go to the token endpoint.

`Console.SignIn` is about the ledger that counts the attempts, and keeps of a flow no more than its
state.  Here is all of it: what goes over the wire in both directions, and the pause in the middle
of an attempt.  The challenge is computed asynchronously, and only when it is there is the flow
saved; until then other events come, a second attempt may overtake the first one, and a page load
makes away with both.  `Session.toTab` forgets what the other file does not have, and
`promptly_toTab` says that a session whose challenges are there at once is a tab as it is described
there; `run_promptly_toTab` is the same for a run.

What a tab sends is a list of `Act`s.  An event can do one of five things to the flows, which
`Course` lists, and `act_course` goes through the events once.  The invariant `Bound` follows the
courses, and `token_requests_answer` reads it off the wire.
-/

set_option autoImplicit false

namespace Maintainerd

namespace Console

open Machine Url

/-! ## The flow -/

/-- `PendingOAuthFlow` -/
structure PendingOAuthFlow where
  state : String
  codeVerifier : String
  clientId : String
  returnTo : String
  redirectUri : String
deriving DecidableEq, Repr

/-- `IdentityConfig`, without the two addresses the requests go to. -/
structure IdentityConfig where
  clientId : String
  audience : String
  extraScope : String
deriving DecidableEq, Repr

/-- Where the console is deployed: its origin, its identity provider, if it has one, and
`pkceChallenge`, the digest that turns a verifier into its challenge. -/
structure Deployment where
  origin : String
  identity : Option IdentityConfig
  pkceChallenge : String → String

/-- `OAUTH_CALLBACK_ROUTE` -/
def oauthCallbackRoute : String := "/auth/callback"

/-- `consoleRedirectUri` -/
def Deployment.consoleRedirectUri (d : Deployment) : String := d.origin ++ oauthCallbackRoute

/-- `scopeFor` -/
def scopeFor (identity : IdentityConfig) : String :=
  let base := "openid profile email"
  if identity.extraScope = "" then base else base ++ " " ++ identity.extraScope

/-- The query of the address `buildAuthorizeUrl` makes for a flow. -/
def Deployment.authorizeQuery (d : Deployment) (identity : IdentityConfig)
    (flow : PendingOAuthFlow) (silent : Bool) : Query :=
  let query : Query :=
    [("response_type", "code"), ("client_id", identity.clientId),
      ("redirect_uri", flow.redirectUri), ("scope", scopeFor identity), ("state", flow.state),
      ("code_challenge", d.pkceChallenge flow.codeVerifier), ("code_challenge_method", "S256")]
  let query := if identity.audience = "" then query else query.set "audience" identity.audience
  if silent then query.set "prompt" "none" else query

/-- The form `exchangeAuthorizationCode` posts to the token endpoint. -/
def tokenForm (identity : IdentityConfig) (code : String) (flow : PendingOAuthFlow) : Query :=
  [("grant_type", "authorization_code"), ("code", code), ("redirect_uri", flow.redirectUri),
    ("code_verifier", flow.codeVerifier), ("client_id", identity.clientId)]

/-! ## The session -/

/-- An attempt that waits for the challenge. -/
structure Building where
  silent : Bool
  flow : PendingOAuthFlow
deriving DecidableEq, Repr

/-- A request at the token endpoint that is not answered yet; the callback page will go on to the
page the flow asked for. -/
structure Exchange where
  form : Query
  returnTo : Option String
deriving DecidableEq, Repr

/-- `StoredToken` -/
structure StoredToken where
  accessToken : String
  expiresAt : Option Int
deriving DecidableEq, Repr

/-- What a page holds in memory, with the attempts and the requests that are under way. -/
structure Memory where
  loginSettled : Bool := false
  blockedReason : Option BlockedReason := none
  stored : Option StoredToken := none
  reauthStarted : Bool := false
  silent : Bool := false
  building : List Building := []
  exchanging : List Exchange := []
deriving DecidableEq, Repr

/-- A page that has just been loaded. -/
def Memory.fresh : Memory := {}

/-- A tab with its whole pending flow. -/
structure Session where
  attempts : Option Item
  pending : Option PendingOAuthFlow
  memory : Memory
deriving DecidableEq, Repr

/-- A tab that has just been opened. -/
def Session.new : Session := ⟨none, none, .fresh⟩

/-- What goes over the wire, and where the tab goes afterwards. -/
inductive Act where
  /-- An authorize address is built and the browser, or the hidden frame, is sent there. -/
  | authorize (query : Query)
  /-- A request at the token endpoint, for a code that came with this state. -/
  | exchange (state : String) (form : Query)
  /-- The access token that answers a request. -/
  | received (form : Query) (accessToken : String)
  /-- The callback page goes on. -/
  | landed (path : String)
deriving DecidableEq, Repr

/-- What happens in a tab. -/
inductive Happening where
  /-- A full page load. -/
  | load (location : Location)
  /-- The challenge of an attempt is there, and whether the flow can be saved; an attempt whose
  challenge cannot be computed ends in the same way as one whose flow cannot be saved. -/
  | digested (index : ℕ) (saves : Bool)
  /-- A message of the hidden frame. -/
  | silentMessage (state : String) (redirect : Option (Option String × Option String))
  /-- The hidden frame has not answered in time, or could not be opened. -/
  | silentTimeout
  /-- The token endpoint answers a request: a token and the seconds it is good for, or a
  failure. -/
  | exchanged (index : ℕ) (answer : Option (String × Option Int))
  /-- An API call is answered 401. -/
  | unauthorized (skipSessionRecovery : Bool)
  /-- The login page, or the operator on it, signs in. -/
  | signIn (returnTo : Option String)
  /-- The operator tries again on the blocked screen. -/
  | retry
  | signOut
deriving DecidableEq, Repr

/-- What happens, with what it takes from outside: the clock, whether `sessionStorage` takes the
ledger, the random values of a new flow, and the page the browser is on. -/
structure Input where
  now : Int
  stores : Bool
  state : String
  codeVerifier : String
  path : String
  happening : Happening
deriving DecidableEq, Repr

/-- The flow an attempt draws. -/
def Deployment.newFlow (d : Deployment) (identity : IdentityConfig) (i : Input)
    (returnTo : String) : PendingOAuthFlow :=
  ⟨i.state, i.codeVerifier, identity.clientId, returnTo, d.consoleRedirectUri⟩

namespace Session

/-- `hasAccessToken` -/
def hasAccessToken (s : Session) (now : Int) : Bool :=
  s.memory.stored.any fun t ↦ !t.expiresAt.any fun expiry ↦ expiry ≤ now

/-- `consumePendingOAuthFlow`: the flow, and the session without it. -/
def consumePendingOAuthFlow (s : Session) (state : String) : Option (PendingOAuthFlow × Session) :=
  match s.pending with
  | some flow => if flow.state = state then some (flow, { s with pending := none }) else none
  | none => none

/-- `discardPendingOAuthFlow` -/
def discardPendingOAuthFlow (s : Session) (state : String) : Session :=
  if s.pending.any fun flow ↦ flow.state == state then { s with pending := none } else s

/-- `clearSignInAttempts` -/
def clearSignInAttempts (s : Session) : Session := { s with attempts := none }

/-- `startLogin` and `trySilentLogin` up to where they wait for the challenge; a refused attempt
leaves the page blocked, or settled. -/
def begin (d : Deployment) (identity : IdentityConfig) (s : Session) (i : Input) (silent : Bool)
    (returnTo : String) : Session :=
  let out := claimSignInAttempt i.now i.stores s.attempts
  let s := { s with attempts := out.1 }
  if out.2 then
    { s with memory :=
        { s.memory with
          building := s.memory.building ++ [⟨silent, d.newFlow identity i returnTo⟩] } }
  else if silent then { s with memory := { s.memory with loginSettled := true } }
  else { s with memory := { s.memory with blockedReason := some .signInFailed } }

/-- `signIn` -/
def signIn (d : Deployment) (s : Session) (i : Input) (returnTo : Option String) : Session :=
  match d.identity with
  | some identity => s.begin d identity i false (signInTarget returnTo i.path)
  | none => { s with memory := { s.memory with blockedReason := some .identityMissing } }

/-- The rest of an attempt, when its challenge is there. -/
def digested (d : Deployment) (identity : IdentityConfig) (s : Session) (index : ℕ)
    (saves : Bool) : Session × List Act :=
  match s.memory.building[index]? with
  | none => (s, [])
  | some b =>
    let rest := { s.memory with building := s.memory.building.eraseIdx index }
    if saves then
      ({ s with pending := some b.flow, memory := { rest with silent := rest.silent || b.silent } },
        [.authorize (d.authorizeQuery identity b.flow b.silent)])
    else ({ s with memory := { rest with loginSettled := rest.loginSettled || b.silent } }, [])

/-- `exchangeAuthorizationCode`, up to where it waits for the answer. -/
def exchangeAuthorizationCode (identity : IdentityConfig) (s : Session) (code : String)
    (flow : PendingOAuthFlow) (returnTo : Option String) : Session × List Act :=
  let form := tokenForm identity code flow
  ({ s with memory :=
      { s.memory with exchanging := s.memory.exchanging ++ [⟨form, returnTo⟩] } },
    [.exchange flow.state form])

/-- The effect of the callback page. -/
def callback (identity : Option IdentityConfig) (s : Session) (code state error : Option String) :
    Session × List Act :=
  match truthy error, truthy code, truthy state, identity with
  | some _, _, some state, _ => (s.discardPendingOAuthFlow state, [])
  | none, some code, some state, some identity =>
    match s.consumePendingOAuthFlow state with
    | none => (s, [])
    | some (flow, s) => s.exchangeAuthorizationCode identity code flow (some flow.returnTo)
  | _, _, _, _ => (s, [])

/-- The boot effect of `AuthProvider`, on a page that has just been loaded. -/
def boot (d : Deployment) (s : Session) (i : Input) (location : Location) : Session × List Act :=
  let s : Session := { s with memory := .fresh }
  let settled : Session := { s with memory := { s.memory with loginSettled := true } }
  match location, d.identity with
  | .callback code state error, identity => settled.callback identity code state error
  | .elsewhere, none => (settled, [])
  | .elsewhere, some identity =>
    if s.hasAccessToken i.now then (settled, [])
    else if signInAttemptsExhausted i.now s.attempts then
      ({ settled with memory := { settled.memory with blockedReason := some .signInFailed } }, [])
    else (s.begin d identity i true i.path, [])

/-- `finish`: the frame is done with. -/
def finish (s : Session) : Session :=
  { s with memory := { s.memory with silent := false, loginSettled := true } }

/-- `onMessage`, for a message of the frame. -/
def onMessage (identity : IdentityConfig) (s : Session) (state : String)
    (redirect : Option (Option String × Option String)) : Session × List Act :=
  if !s.memory.silent || state = "" then (s, [])
  else
    match redirect.map fun (code, state') ↦ (truthy code, truthy state') with
    | some (some code, some state') =>
      if state' = state then
        match s.consumePendingOAuthFlow state with
        | none => (s.finish, [])
        | some (flow, s) => s.exchangeAuthorizationCode identity code flow none
      else ((s.discardPendingOAuthFlow state).finish, [])
    | _ => ((s.discardPendingOAuthFlow state).finish, [])

/-- `setAccessToken` -/
def setAccessToken (s : Session) (now : Int) (accessToken : String)
    (expiresInSeconds : Option Int) : Session :=
  let expiresAt := expiresInSeconds.map fun seconds ↦ now + max 0 (seconds - 30) * 1000
  { s with memory := { s.memory with stored := some ⟨accessToken, expiresAt⟩ } }

/-- The rest of an exchange, when the token endpoint has answered. -/
def exchanged (s : Session) (now : Int) (index : ℕ) (answer : Option (String × Option Int)) :
    Session × List Act :=
  match s.memory.exchanging[index]? with
  | none => (s, [])
  | some e =>
    let s : Session :=
      { s with memory := { s.memory with exchanging := s.memory.exchanging.eraseIdx index } }
    match answer with
    | none => (s.finish, [])
    | some (accessToken, expiresInSeconds) =>
      ((s.setAccessToken now accessToken expiresInSeconds).clearSignInAttempts.finish,
        .received e.form accessToken ::
          (e.returnTo.map fun returnTo ↦ Act.landed (landing (some returnTo))).toList)

end Session

/-- What happens to a session, and what it sends. -/
def act (d : Deployment) (s : Session) (i : Input) : Session × List Act :=
  match i.happening, d.identity with
  | .load location, _ => s.boot d i location
  | .digested index saves, some identity => s.digested d identity index saves
  | .silentMessage state redirect, some identity => s.onMessage identity state redirect
  | .silentTimeout, _ => (if s.memory.silent then s.finish else s, [])
  | .exchanged index answer, _ => s.exchanged i.now index answer
  | .unauthorized skipSessionRecovery, _ =>
    if skipSessionRecovery then (s, [])
    else
      let cleared : Session := { s with memory := { s.memory with stored := none } }
      if s.memory.reauthStarted then (cleared, [])
      else
        (({ cleared with memory := { cleared.memory with reauthStarted := true } } :
          Session).signIn d i (some i.path), [])
  | .signIn returnTo, _ => (s.signIn d i returnTo, [])
  | .retry, _ =>
    if s.memory.blockedReason = some .signInFailed then
      (s.clearSignInAttempts.signIn d i (some postLoginRoute), [])
    else (s, [])
  | .signOut, _ =>
    (({ s with memory := { s.memory with stored := none } } : Session).clearSignInAttempts, [])
  -- without an identity provider there is no attempt under way, and no frame
  | .digested _ _, none => (s, [])
  | .silentMessage _ _, none => (s, [])

/-- A session with all that it has sent so far. -/
structure Recorded where
  session : Session
  wire : List Act
deriving DecidableEq, Repr

/-- A session that has just been opened. -/
def Recorded.new : Recorded := ⟨.new, []⟩

/-- One thing happens. -/
def Recorded.step (d : Deployment) (r : Recorded) (i : Input) : Recorded :=
  ⟨(act d r.session i).1, r.wire ++ (act d r.session i).2⟩

/-- A session as `Console.SignIn` sees it. -/
def Session.toTab (s : Session) : Tab where
  attempts := s.attempts
  pending := s.pending.map PendingOAuthFlow.state
  page :=
    { loginSettled := s.memory.loginSettled
      blockedReason := s.memory.blockedReason
      token := s.memory.stored.map StoredToken.expiresAt
      reauthStarted := s.memory.reauthStarted
      silent := s.memory.silent
      exchanges := s.memory.exchanging.length }

/-- The first challenge that is waited for is there. -/
def Session.settle (d : Deployment) (s : Session) : Session :=
  match d.identity with
  | some identity => (s.digested d identity 0 true).1
  | none => s

/-- What happens, if a challenge is there as soon as it is waited for. -/
def promptly (d : Deployment) (s : Session) (i : Input) : Session := (act d s i).1.settle d

/-- What `Console.SignIn` sees happen. -/
def Input.event (s : Session) (i : Input) : Option Event :=
  match i.happening with
  | .load location => some (.load location)
  | .digested _ _ => none
  | .silentMessage state redirect => some (.silentMessage state redirect)
  | .silentTimeout => some .silentTimeout
  | .exchanged index answer =>
    if index < s.memory.exchanging.length then
      some (.exchanged (answer.map fun a ↦ a.2.map fun t ↦ i.now + max 0 (t - 30) * 1000))
    else none
  | .unauthorized skipSessionRecovery => some (.unauthorized skipSessionRecovery)
  | .signIn _ => some .signIn
  | .retry => some .retry
  | .signOut => some .signOut

/-- The events `Console.SignIn` sees. -/
def Input.ops (s : Session) (i : Input) : List Op :=
  ((i.event s).map fun event ↦ ⟨i.now, i.stores, i.state, event⟩).toList

/-- No challenge is waited for, and without an identity provider there is no frame. -/
structure Prompt (d : Deployment) (s : Session) : Prop where
  building : s.memory.building = []
  silent : d.identity = none → s.memory.silent = false

section

variable {d : Deployment} {identity : IdentityConfig} {i : Input} {s : Session}

theorem settle_of_building_nil (h : s.memory.building = []) : s.settle d = s := by
  rw [Session.settle]
  split
  · rw [Session.digested, h]
    rfl
  · rfl

theorem toTab_discard (s : Session) (state : String) :
    (s.discardPendingOAuthFlow state).toTab = s.toTab.discardPendingOAuthFlow state := by
  rcases s with ⟨a, _ | flow, m⟩
  · rfl
  · by_cases h : flow.state = state <;>
      simp [Session.discardPendingOAuthFlow, Tab.discardPendingOAuthFlow, Session.toTab, h]

theorem toTab_consume (s : Session) (state : String) :
    s.toTab.consumePendingOAuthFlow state =
      (s.consumePendingOAuthFlow state).map fun out ↦ out.2.toTab := by
  rcases s with ⟨a, _ | flow, m⟩
  · rfl
  · by_cases h : flow.state = state <;>
      simp [Session.consumePendingOAuthFlow, Tab.consumePendingOAuthFlow, Session.toTab, h]

theorem consume_eq_some {state : String} {flow : PendingOAuthFlow} {s' : Session}
    (h : s.consumePendingOAuthFlow state = some (flow, s')) :
    s.pending = some flow ∧ s' = { s with pending := none } := by
  rw [Session.consumePendingOAuthFlow] at h
  split at h
  · rename_i flow' hpending
    split at h
    · obtain ⟨rfl, rfl⟩ := Prod.mk.inj (Option.some.inj h)
      exact ⟨hpending, rfl⟩
    · simp at h
  · simp at h

theorem toTab_exchange (s : Session) (code : String) (flow : PendingOAuthFlow)
    (returnTo : Option String) :
    (s.exchangeAuthorizationCode identity code flow returnTo).1.toTab =
      { s.toTab with page := { s.toTab.page with exchanges := s.toTab.page.exchanges + 1 } } := by
  simp [Session.exchangeAuthorizationCode, Session.toTab]

theorem toTab_callback (s : Session) (code state error : Option String) :
    (s.callback d.identity code state error).1.toTab =
      s.toTab.callback d.identity.isSome code state error := by
  unfold Session.callback Tab.callback
  rcases truthy error with _ | error <;> rcases truthy code with _ | code <;>
    rcases truthy state with _ | state <;> rcases d.identity with _ | identity <;> try rfl
  · simp only [toTab_consume, Option.isSome_some, if_true]
    rcases s.consumePendingOAuthFlow state with _ | ⟨flow, s'⟩
    · rfl
    · exact toTab_exchange s' code flow _
  · exact toTab_discard s state
  · exact toTab_discard s state
  · exact toTab_discard s state
  · exact toTab_discard s state

theorem toTab_onMessage (s : Session) (state : String)
    (redirect : Option (Option String × Option String)) :
    (s.onMessage identity state redirect).1.toTab = s.toTab.onMessage state redirect := by
  unfold Session.onMessage Tab.onMessage
  have hsilent : s.toTab.page.silent = s.memory.silent := rfl
  have hdiscard : (s.discardPendingOAuthFlow state).finish.toTab =
      (s.toTab.discardPendingOAuthFlow state).finish :=
    congrArg Tab.finish (toTab_discard s state)
  rw [hsilent]
  split
  · rfl
  rcases redirect with _ | ⟨code, state'⟩
  · exact hdiscard
  dsimp only [Option.map_some]
  rcases truthy code with _ | code
  · exact hdiscard
  rcases truthy state' with _ | state'
  · exact hdiscard
  dsimp only
  split
  · rw [toTab_consume]
    rcases s.consumePendingOAuthFlow state with _ | ⟨flow, s'⟩
    · rfl
    · exact toTab_exchange s' _ flow _
  · exact hdiscard

theorem toTab_exchanged (s : Session) (index : ℕ) (answer : Option (String × Option Int))
    (o : Op) (h : index < s.memory.exchanging.length) (ho : o.event = .exchanged
      (answer.map fun a ↦ a.2.map fun t ↦ o.now + max 0 (t - 30) * 1000)) (configured : Bool) :
    (s.exchanged o.now index answer).1.toTab = step configured s.toTab o := by
  have hne : s.memory.exchanging ≠ [] := List.ne_nil_of_length_pos (Nat.zero_lt_of_lt h)
  rw [Session.exchanged, List.getElem?_eq_getElem h, step, apply, ho]
  rcases answer with _ | ⟨accessToken, expiresIn⟩ <;>
    simp [hne, Session.toTab, Session.finish, Tab.finish, List.length_eraseIdx, h,
      Session.setAccessToken, Session.clearSignInAttempts, Tab.clearSignInAttempts]

theorem begin_settle (hid : d.identity = some identity) (h : s.memory.building = [])
    (silent : Bool) (returnTo : String) :
    ((s.begin d identity i silent returnTo).settle d).memory.building = [] := by
  rw [Session.begin]
  dsimp only
  split
  · simp [Session.settle, hid, Session.digested, h]
  · split <;> simp [Session.settle, hid, Session.digested, h]

theorem toTab_begin (hid : d.identity = some identity) (h : s.memory.building = []) {o : Op}
    (ho : o.now = i.now ∧ o.stores = i.stores ∧ o.state = i.state) (returnTo : String) :
    ((s.begin d identity i false returnTo).settle d).toTab = (s.toTab.signIn true o).1 ∧
      ((s.begin d identity i true returnTo).settle d).toTab = (s.toTab.trySilentLogin o).1 := by
  obtain ⟨hnow, hstores, hstate⟩ := ho
  have hattempts : s.toTab.attempts = s.attempts := rfl
  rcases hclaim : claimSignInAttempt i.now i.stores s.attempts with ⟨item, _ | _⟩ <;>
    simp [Session.begin, Session.settle, hid, Session.digested, h, Tab.signIn, Tab.claim,
      Tab.trySilentLogin, hnow, hstores, hstate, hattempts, hclaim, Deployment.newFlow] <;>
    simp [Session.toTab]

/-- Nothing is waited for that was not, and no frame is opened. -/
def Calm (s s' : Session) : Prop :=
  s'.memory.building = s.memory.building ∧ (s.memory.silent = false → s'.memory.silent = false)

theorem calm_refl (s : Session) : Calm s s := ⟨rfl, id⟩

theorem calm_discard (s : Session) (state : String) : Calm s (s.discardPendingOAuthFlow state) := by
  rw [Session.discardPendingOAuthFlow]
  split <;> exact calm_refl _

theorem calm_exchange {state code : String} {flow : PendingOAuthFlow} {s' : Session}
    (h : s.consumePendingOAuthFlow state = some (flow, s')) (returnTo : Option String) :
    Calm s (s'.exchangeAuthorizationCode identity code flow returnTo).1 := by
  obtain ⟨-, rfl⟩ := consume_eq_some h
  exact calm_refl _

theorem calm_callback (s : Session) (code state error : Option String) :
    Calm s (s.callback d.identity code state error).1 := by
  unfold Session.callback
  split
  · exact calm_discard s _
  · split
    · exact calm_refl s
    · rename_i hconsume
      exact calm_exchange hconsume _
  · exact calm_refl s

theorem Calm.finish {s' : Session} (h : Calm s s') : Calm s s'.finish := ⟨h.1, fun _ ↦ rfl⟩

theorem calm_onMessage (s : Session) (state : String)
    (redirect : Option (Option String × Option String)) :
    Calm s (s.onMessage identity state redirect).1 := by
  unfold Session.onMessage
  split
  · exact calm_refl s
  split
  · split
    · split
      · exact (calm_refl s).finish
      · rename_i hconsume
        exact calm_exchange hconsume _
    · exact (calm_discard s _).finish
  · exact (calm_discard s _).finish

theorem calm_exchanged (s : Session) (now : Int) (index : ℕ)
    (answer : Option (String × Option Int)) : Calm s (s.exchanged now index answer).1 := by
  unfold Session.exchanged
  split
  · exact calm_refl s
  · dsimp only
    split <;> exact ⟨rfl, fun _ ↦ rfl⟩

theorem Prompt.calm {s' : Session} (h : Prompt d s) (hcalm : Calm s s') :
    s'.settle d = s' ∧ Prompt d s' := by
  have hbuilding := hcalm.1.trans h.building
  exact ⟨settle_of_building_nil hbuilding, hbuilding, fun hnone ↦ hcalm.2 (h.silent hnone)⟩

theorem signIn_settle (h : Prompt d s) {o : Op}
    (ho : o.now = i.now ∧ o.stores = i.stores ∧ o.state = i.state) (returnTo : Option String) :
    Prompt d ((s.signIn d i returnTo).settle d) ∧
      ((s.signIn d i returnTo).settle d).toTab = (s.toTab.signIn d.identity.isSome o).1 := by
  rcases hid : d.identity with _ | identity
  · have hcalm : Calm s (s.signIn d i returnTo) := by
      rw [Session.signIn, hid]
      exact calm_refl s
    obtain ⟨hsettle, hprompt⟩ := h.calm hcalm
    rw [hsettle, Session.signIn, hid]
    rw [Session.signIn, hid] at hprompt
    exact ⟨hprompt, rfl⟩
  · have hsignIn : s.signIn d i returnTo =
        s.begin d identity i false (signInTarget returnTo i.path) := by
      rw [Session.signIn, hid]
    rw [hsignIn]
    refine ⟨⟨begin_settle hid h.building false _, fun hnone ↦ ?_⟩,
      (toTab_begin hid h.building ho _).1⟩
    rw [hid] at hnone
    cases hnone

theorem boot_settle (s : Session) (location : Location) {o : Op}
    (ho : o.now = i.now ∧ o.stores = i.stores ∧ o.state = i.state) :
    Prompt d ((s.boot d i location).1.settle d) ∧
      ((s.boot d i location).1.settle d).toTab =
        (s.toTab.boot d.identity.isSome o location).1 := by
  have hcalm : ∀ {s' : Session} {tab : Tab}, Calm { s with memory := .fresh } s' →
      s'.toTab = tab → Prompt d (s'.settle d) ∧ (s'.settle d).toTab = tab := by
    intro s' tab hcalm htab
    obtain ⟨hsettle, hprompt⟩ := Prompt.calm ⟨rfl, fun _ ↦ rfl⟩ hcalm
    rw [hsettle]
    exact ⟨hprompt, htab⟩
  rcases location with ⟨code, state, error⟩ | _
  · exact hcalm (calm_callback { s with memory := { Memory.fresh with loginSettled := true } } ..)
      (toTab_callback ..)
  rcases hid : d.identity with _ | identity
  · unfold Session.boot
    rw [hid]
    exact hcalm (calm_refl _) rfl
  · have htoken : Session.hasAccessToken { s with memory := .fresh } i.now = false := rfl
    unfold Session.boot
    rw [hid]
    simp only [htoken, Bool.false_eq_true, if_false]
    have hboot : (s.toTab.boot true o .elsewhere).1 =
        if signInAttemptsExhausted i.now s.attempts then
          { s.toTab with page :=
              { Page.fresh with loginSettled := true, blockedReason := some .signInFailed } }
        else (({ s.toTab with page := .fresh } : Tab).trySilentLogin o).1 := by
      have hno : Page.fresh.hasAccessToken i.now = false := rfl
      have hattempts : s.toTab.attempts = s.attempts := rfl
      simp only [Tab.boot, ho.1, hno, hattempts, Bool.not_true, Bool.or_self, Bool.false_eq_true,
        if_false]
      split <;> rfl
    rw [Option.isSome_some, hboot]
    split
    · exact hcalm (calm_refl _) rfl
    · refine ⟨⟨begin_settle hid rfl true i.path, fun hnone ↦ ?_⟩, (toTab_begin hid rfl ho _).2⟩
      rw [hid] at hnone
      cases hnone

/-- **A session whose challenges are there at once is a tab as `Console.SignIn` describes it.** -/
theorem promptly_toTab (h : Prompt d s) (i : Input) :
    Prompt d (promptly d s i) ∧
      (promptly d s i).toTab = run (step d.identity.isSome) s.toTab (i.ops s) := by
  have hcalm : ∀ s' : Session, (act d s i).1 = s' → Calm s s' →
      s'.toTab = run (step d.identity.isSome) s.toTab (i.ops s) →
      Prompt d (promptly d s i) ∧
        (promptly d s i).toTab = run (step d.identity.isSome) s.toTab (i.ops s) := by
    intro s' hact hcalm htab
    obtain ⟨hsettle, hprompt⟩ := h.calm hcalm
    rw [promptly, hact, hsettle]
    exact ⟨hprompt, htab⟩
  rcases i with ⟨now, stores, state, verifier, path, happening⟩
  rcases happening with location | ⟨index, saves⟩ | ⟨state', redirect⟩ | _ | ⟨index, answer⟩ |
    skip | returnTo | _ | _
  · exact boot_settle s location ⟨rfl, rfl, rfl⟩
  · refine hcalm s ?_ (calm_refl s) rfl
    rw [act]
    rcases d.identity with _ | identity
    · rfl
    · simp [Session.digested, h.building]
  · rcases hid : d.identity with _ | identity
    · refine hcalm s ?_ (calm_refl s) ?_
      · simp [act, hid]
      · have hsilent : s.toTab.page.silent = false := h.silent hid
        simp [Input.ops, Input.event, step, apply, Tab.onMessage, hsilent]
    · refine hcalm (s.onMessage identity state' redirect).1 ?_ (calm_onMessage ..) ?_
      · simp [act, hid]
      · exact toTab_onMessage ..
  · rcases hsilent : s.memory.silent with _ | _
    · refine hcalm s (by simp [act, hsilent]) (calm_refl s) ?_
      have hsilent' : s.toTab.page.silent = false := hsilent
      simp [Input.ops, Input.event, step, apply, hsilent']
    · refine hcalm s.finish (by simp [act, hsilent]) (calm_refl s).finish ?_
      have hsilent' : s.toTab.page.silent = true := hsilent
      simp [Input.ops, Input.event, step, apply, hsilent']
      rfl
  · refine hcalm _ rfl (calm_exchanged ..) ?_
    by_cases hlt : index < s.memory.exchanging.length
    · simp only [Input.ops, Input.event, if_pos hlt]
      exact toTab_exchanged s index answer ⟨now, stores, state, .exchanged _⟩ hlt rfl _
    · simp only [Input.ops, Input.event, if_neg hlt]
      simp [act, Session.exchanged, List.getElem?_eq_none (Nat.le_of_not_lt hlt)]
  · rcases skip with _ | _
    · rcases hstarted : s.memory.reauthStarted with _ | _
      · let s₁ : Session :=
          { s with memory := { s.memory with stored := none, reauthStarted := true } }
        have hact : (act d s ⟨now, stores, state, verifier, path, .unauthorized false⟩).1 =
            s₁.signIn d ⟨now, stores, state, verifier, path, .unauthorized false⟩ (some path) := by
          simp [act, hstarted, s₁]
        have hstep : step d.identity.isSome s.toTab ⟨now, stores, state, .unauthorized false⟩ =
            (s₁.toTab.signIn d.identity.isSome ⟨now, stores, state, .unauthorized false⟩).1 :=
          congrArg Prod.fst (if_neg (ne_true_of_eq_false hstarted))
        rw [promptly, hact]
        exact (signIn_settle (s := s₁) ⟨h.building, h.silent⟩ ⟨rfl, rfl, rfl⟩ _).imp_right
          fun htab ↦ htab.trans hstep.symm
      · have hstarted' : s.toTab.page.reauthStarted = true := hstarted
        have hstep : step d.identity.isSome s.toTab ⟨now, stores, state, .unauthorized false⟩ =
            { s.toTab with page := { s.toTab.page with token := none } } := by
          simp only [step, apply, hstarted', Bool.false_eq_true, if_false, if_true]
        exact hcalm { s with memory := { s.memory with stored := none } }
          (congrArg Prod.fst (if_pos hstarted)) (calm_refl _) hstep.symm
    · exact hcalm _ rfl (calm_refl s) rfl
  · exact signIn_settle h ⟨rfl, rfl, rfl⟩ _
  · have hreason : s.toTab.page.blockedReason = s.memory.blockedReason := rfl
    by_cases hblocked : s.memory.blockedReason = some .signInFailed
    · have hact : (act d s ⟨now, stores, state, verifier, path, .retry⟩).1 =
          s.clearSignInAttempts.signIn d ⟨now, stores, state, verifier, path, .retry⟩
            (some postLoginRoute) := by
        simp [act, hblocked]
      have hstep : step d.identity.isSome s.toTab ⟨now, stores, state, .retry⟩ =
          (s.clearSignInAttempts.toTab.signIn d.identity.isSome
            ⟨now, stores, state, .retry⟩).1 := by
        simp only [step, apply, hreason, hblocked, if_true]
        rfl
      rw [promptly, hact]
      exact (signIn_settle (s := s.clearSignInAttempts) ⟨h.building, h.silent⟩
        ⟨rfl, rfl, rfl⟩ _).imp_right fun htab ↦ htab.trans hstep.symm
    · have hstep : step d.identity.isSome s.toTab ⟨now, stores, state, .retry⟩ = s.toTab := by
        simp only [step, apply, hreason, hblocked, if_false]
      exact hcalm s (congrArg Prod.fst (if_neg hblocked)) (calm_refl s) hstep.symm
  · exact hcalm _ rfl (calm_refl _) rfl

/-- A run of such a session is a run of the tab. -/
theorem run_promptly_toTab (h : Prompt d s) (ins : List Input) :
    ∃ ops : List Op, (ops.map Op.now).Sublist (ins.map Input.now) ∧
      (run (promptly d) s ins).toTab = run (step d.identity.isSome) s.toTab ops := by
  induction ins generalizing s with
  | nil => exact ⟨[], .refl _, rfl⟩
  | cons i ins ih =>
    obtain ⟨hprompt, htab⟩ := promptly_toTab h i
    obtain ⟨ops, htimes, hrun⟩ := ih hprompt
    refine ⟨i.ops s ++ ops, ?_, ?_⟩
    · rw [List.map_append]
      have hone : ((i.ops s).map Op.now).Sublist [i.now] := by
        rw [Input.ops]
        rcases i.event s with _ | event
        · exact List.nil_sublist _
        · exact .refl _
      exact hone.append htimes
    · rw [run_cons, hrun, run_append, htab]

end

/-! ## What can happen to the flows -/

/-- What a session knows of flows and tokens. -/
structure Flows where
  pending : Option PendingOAuthFlow
  building : List Building
  exchanging : List Exchange
  stored : Option StoredToken

/-- Nothing is known that was not known before. -/
structure Flows.Within (f' f : Flows) : Prop where
  pending : f'.pending = f.pending ∨ f'.pending = none
  building : f'.building.Sublist f.building
  exchanging : f'.exchanging.Sublist f.exchanging
  stored : f'.stored = f.stored ∨ f'.stored = none

theorem Flows.Within.refl (f : Flows) : f.Within f := ⟨.inl rfl, .refl _, .refl _, .inl rfl⟩

theorem Flows.Within.trans {f f' f'' : Flows} (h : f''.Within f') (h' : f'.Within f) :
    f''.Within f := by
  refine ⟨?_, h.building.trans h'.building, h.exchanging.trans h'.exchanging, ?_⟩
  · exact h.pending.elim (fun heq ↦ heq ▸ h'.pending) .inr
  · exact h.stored.elim (fun heq ↦ heq ▸ h'.stored) .inr

/-- The page that an attempt asks to come back to: the one that is loaded, the one that the sign-in
was given, or the ones that an answer of 401 and the blocked screen ask for.  No other event is an
attempt. -/
def Input.asked (i : Input) : Option String :=
  match i.happening with
  | .load .elsewhere => some i.path
  | .unauthorized false => some (signInTarget (some i.path) i.path)
  | .signIn returnTo => some (signInTarget returnTo i.path)
  | .retry => some (signInTarget (some postLoginRoute) i.path)
  | _ => none

section

variable {d : Deployment} {identity : IdentityConfig} {i : Input} {s : Session}

end

/-! ## What a token request answers -/

/-- The act is a request of the tab. -/
def Act.isRequest : Act → Bool
  | .authorize _ => true
  | .exchange _ _ => true
  | _ => false

/-- The verifier a token request gives away. -/
def Act.codeVerifier : Act → Option String
  | .exchange _ form => form.get "code_verifier"
  | _ => none

/-- A token request, made for a code that came with a state, answers an authorize request: it proves
the challenge, the state is the same, and it names the same client and the same address. -/
structure Answers (d : Deployment) (state : String) (form query : Query) : Prop where
  challenge : (form.get "code_verifier").map d.pkceChallenge = query.get "code_challenge"
  state : query.get "state" = some state
  redirect : form.get "redirect_uri" = query.get "redirect_uri"
  client : form.get "client_id" = query.get "client_id"

/-- Of all requests so far, the last one is an authorize request that satisfies the condition. -/
def LastAsked (wire : List Act) (p : Query → Prop) : Prop :=
  ∃ before query since, wire = before ++ .authorize query :: since ∧
    (∀ a ∈ since, a.isRequest = false) ∧ p query

theorem LastAsked.append {wire acts : List Act} {p : Query → Prop} (h : LastAsked wire p)
    (hacts : ∀ a ∈ acts, a.isRequest = false) : LastAsked (wire ++ acts) p := by
  obtain ⟨before, query, since, rfl, hsince, hp⟩ := h
  refine ⟨before, query, since ++ acts, by rw [List.append_assoc, List.cons_append],
    fun a ha ↦ ?_, hp⟩
  exact (List.mem_append.mp ha).elim (hsince a) (hacts a)

theorem get_authorizeQuery (d : Deployment) (identity : IdentityConfig) (flow : PendingOAuthFlow)
    (silent : Bool) {name : String} (ha : name ≠ "audience") (hp : name ≠ "prompt") :
    (d.authorizeQuery identity flow silent).get name =
      Query.get [("response_type", "code"), ("client_id", identity.clientId),
        ("redirect_uri", flow.redirectUri), ("scope", scopeFor identity), ("state", flow.state),
        ("code_challenge", d.pkceChallenge flow.codeVerifier),
        ("code_challenge_method", "S256")] name := by
  rw [Deployment.authorizeQuery]
  split <;> split <;> simp only [Query.get_set, if_neg ha, if_neg hp]

theorem answers_authorizeQuery (d : Deployment) (identity : IdentityConfig) (code : String)
    (flow : PendingOAuthFlow) (silent : Bool) :
    Answers d flow.state (tokenForm identity code flow)
      (d.authorizeQuery identity flow silent) := by
  constructor
  · rw [get_authorizeQuery d identity flow silent (by decide) (by decide)]
    rfl
  · rw [get_authorizeQuery d identity flow silent (by decide) (by decide)]
    rfl
  · rw [get_authorizeQuery d identity flow silent (by decide) (by decide)]
    rfl
  · rw [get_authorizeQuery d identity flow silent (by decide) (by decide)]
    rfl

/-- What a session knows is bound to what it has sent. -/
structure Bound (d : Deployment) (ins : List Input) (f : Flows) (wire : List Act) : Prop where
  answers : ∀ pre a post, wire = pre ++ a :: post → ∀ state form, a = .exchange state form →
    LastAsked pre (Answers d state form)
  asked : ∀ flow ∈ f.pending, ∃ identity silent, d.identity = some identity ∧
    LastAsked wire (· = d.authorizeQuery identity flow silent)
  exchanging : ∀ e ∈ f.exchanging, ∃ state, .exchange state e.form ∈ wire
  stored : ∀ t ∈ f.stored, ∃ state form,
    [.exchange state form, .received form t.accessToken].Sublist wire
  buildingTo : ∀ b ∈ f.building, b.flow.returnTo ∈ ins.filterMap Input.asked
  pendingTo : ∀ flow ∈ f.pending, flow.returnTo ∈ ins.filterMap Input.asked
  exchangingTo : ∀ e ∈ f.exchanging, ∀ path ∈ e.returnTo, path ∈ ins.filterMap Input.asked
  landed : ∀ path, .landed path ∈ wire →
    ∃ target ∈ ins.filterMap Input.asked, path = landing (some target)

section

variable {d : Deployment} {ins : List Input} {i : Input} {f f' : Flows} {wire acts : List Act}

theorem Bound.more (h : Bound d ins f wire) (i : Input) : Bound d (ins ++ [i]) f wire := by
  have hmem : ∀ path, path ∈ ins.filterMap Input.asked →
      path ∈ (ins ++ [i]).filterMap Input.asked := by
    intro path hpath
    rw [List.filterMap_append]
    exact List.mem_append_left _ hpath
  refine { h with
    buildingTo := fun b hb ↦ hmem _ (h.buildingTo b hb)
    pendingTo := fun flow hflow ↦ hmem _ (h.pendingTo flow hflow)
    exchangingTo := fun e he path hpath ↦ hmem _ (h.exchangingTo e he path hpath)
    landed := fun path hpath ↦ ?_ }
  obtain ⟨target, htarget, heq⟩ := h.landed path hpath
  exact ⟨target, hmem target htarget, heq⟩

theorem Bound.within (h : Bound d ins f wire) (hin : f'.Within f) : Bound d ins f' wire := by
  have hpending : ∀ flow ∈ f'.pending, flow ∈ f.pending := fun flow hflow ↦
    hin.pending.elim (fun heq ↦ heq ▸ hflow) fun heq ↦ absurd (heq ▸ hflow) (Option.not_mem_none _)
  have hstored : ∀ t ∈ f'.stored, t ∈ f.stored := fun t ht ↦
    hin.stored.elim (fun heq ↦ heq ▸ ht) fun heq ↦ absurd (heq ▸ ht) (Option.not_mem_none _)
  exact
    { answers := h.answers
      asked := fun flow hflow ↦ h.asked flow (hpending flow hflow)
      exchanging := fun e he ↦ h.exchanging e (hin.exchanging.subset he)
      stored := fun t ht ↦ h.stored t (hstored t ht)
      buildingTo := fun b hb ↦ h.buildingTo b (hin.building.subset hb)
      pendingTo := fun flow hflow ↦ h.pendingTo flow (hpending flow hflow)
      exchangingTo := fun e he ↦ h.exchangingTo e (hin.exchanging.subset he)
      landed := h.landed }

/-- The tab sends something.  It must not be another request while a flow is pending. -/
theorem Bound.append (h : Bound d ins f wire) (acts : List Act)
    (hquiet : f.pending = none ∨ ∀ a ∈ acts, a.isRequest = false)
    (hanswers : ∀ pre a post, acts = pre ++ a :: post → ∀ state form, a = .exchange state form →
      LastAsked (wire ++ pre) (Answers d state form))
    (hlanded : ∀ path, .landed path ∈ acts →
      ∃ target ∈ ins.filterMap Input.asked, path = landing (some target)) :
    Bound d ins f (wire ++ acts) := by
  refine
    { answers := forall_split_append h.answers hanswers
      asked := fun flow hflow ↦ ?_
      exchanging := fun e he ↦ ?_
      stored := fun t ht ↦ ?_
      buildingTo := h.buildingTo
      pendingTo := h.pendingTo
      exchangingTo := h.exchangingTo
      landed := fun path hpath ↦ (List.mem_append.mp hpath).elim (h.landed path) (hlanded path) }
  · obtain ⟨identity, silent, hid, hlast⟩ := h.asked flow hflow
    rcases hquiet with hnone | hquiet
    · exact absurd (hnone ▸ hflow) (Option.not_mem_none _)
    · exact ⟨identity, silent, hid, hlast.append hquiet⟩
  · obtain ⟨state, hmem⟩ := h.exchanging e he
    exact ⟨state, List.mem_append_left _ hmem⟩
  · obtain ⟨state, form, hsub⟩ := h.stored t ht
    exact ⟨state, form, hsub.trans (List.sublist_append_left ..)⟩

/-- A list of one act is split in one way. -/
theorem forall_split_singleton {P : List Act → Act → Prop} {a : Act} (h : P [] a) :
    ∀ pre a' post, [a] = pre ++ a' :: post → P pre a' := by
  rintro (_ | ⟨b, pre⟩) a' post heq
  · obtain ⟨rfl, -⟩ := List.cons.inj heq
    exact h
  · simp at heq

theorem Bound.authorize {identity : IdentityConfig} {b : Building} {bs : List Building}
    (h : Bound d ins f wire) (hid : d.identity = some identity)
    (hperm : (b :: bs).Perm f.building) :
    Bound d ins { f with pending := some b.flow, building := bs }
      (wire ++ [.authorize (d.authorizeQuery identity b.flow b.silent)]) := by
  have hb : b ∈ f.building := hperm.subset List.mem_cons_self
  have hnone : Bound d ins { f with pending := none } wire :=
    h.within ⟨.inr rfl, .refl _, .refl _, .inl rfl⟩
  have hsent := hnone.append [.authorize (d.authorizeQuery identity b.flow b.silent)]
    (.inl rfl) (forall_split_singleton (by simp)) (by simp)
  refine { hsent with
    asked := fun flow hflow ↦ ?_
    buildingTo := fun b' hb' ↦ h.buildingTo b' (hperm.subset (List.mem_cons_of_mem _ hb'))
    pendingTo := fun flow hflow ↦ ?_ }
  · obtain rfl := Option.some.inj hflow
    exact ⟨identity, b.silent, hid, wire, _, [], rfl, by simp, rfl⟩
  · obtain rfl := Option.some.inj hflow
    exact h.buildingTo b hb

theorem Bound.exchange {identity : IdentityConfig} {flow : PendingOAuthFlow} {code : String}
    {returnTo : Option String} (h : Bound d ins f wire) (hid : d.identity = some identity)
    (hpending : f.pending = some flow) (htarget : ∀ path ∈ returnTo, path = flow.returnTo)
    (hin : f'.Within f) :
    Bound d ins
      { f' with
        pending := none
        exchanging := f'.exchanging ++ [⟨tokenForm identity code flow, returnTo⟩] }
      (wire ++ [.exchange flow.state (tokenForm identity code flow)]) := by
  have hflow : flow ∈ f.pending := hpending
  have hanswered : LastAsked wire (Answers d flow.state (tokenForm identity code flow)) := by
    obtain ⟨identity', silent, hid', before, query, since, hwire, hsince, rfl⟩ := h.asked flow hflow
    obtain rfl := Option.some.inj (hid.symm.trans hid')
    exact ⟨before, _, since, hwire, hsince, answers_authorizeQuery ..⟩
  have hnone : Bound d ins { f' with pending := none } wire :=
    h.within ⟨.inr rfl, hin.building, hin.exchanging, hin.stored⟩
  have hsent := hnone.append [.exchange flow.state (tokenForm identity code flow)]
    (.inl rfl) (forall_split_singleton (by
      rintro state form ⟨⟩
      rwa [List.append_nil])) (by simp)
  refine { hsent with
    exchanging := fun e he ↦ ?_
    exchangingTo := fun e he path hpath ↦ ?_ }
  · rcases List.mem_append.mp he with he | he
    · exact hsent.exchanging e he
    · obtain rfl := List.mem_singleton.mp he
      exact ⟨flow.state, by simp⟩
  · rcases List.mem_append.mp he with he | he
    · exact hsent.exchangingTo e he path hpath
    · obtain rfl := List.mem_singleton.mp he
      rw [htarget path hpath]
      exact h.pendingTo flow hflow

end

end Console

end Maintainerd

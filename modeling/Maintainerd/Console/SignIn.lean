import Maintainerd.Lib.Run

/-!
# The redirect-loop budget of the console

`web/console/src/auth`: how a tab of the console signs in.  A sign-in is a navigation to the
identity provider and back, which throws away everything the page holds in memory, so the attempts
are counted in a ledger in `sessionStorage`: three in a minute, and the fourth is refused.

The loop the ledger is there for is written down next to it: land, call the API, get a 401, go to
the identity provider, come back with a fresh token, call the API, get a 401 again.  But a fresh
token is a successful exchange, and a successful exchange clears the ledger.  So the loop is not
seen by it (`loop_not_stopped`), and what the ledger does bound are attempts that fail.

`Tab` is what a tab holds, in storage and in memory, and `Console.apply` is what an event does to
it.  The router of the application decides when an attempt is made; here an event may come at any
time, which is every order the router can produce and more.  All that an event can do to the ledger
is a `Move`, and `apply_move` says so; the budget is counted over moves.
-/

set_option autoImplicit false

namespace Maintainerd

namespace Console

open Machine

/-! ## The ledger -/

/-- `ATTEMPT_LIMIT`. -/
def attemptLimit : ℕ := 3

/-- `ATTEMPT_WINDOW_MS`. -/
def attemptWindowMs : Int := 60000

/-- `AttemptLedger`. -/
structure AttemptLedger where
  first : Int
  count : ℕ
deriving DecidableEq, Repr

/-- What is stored under `ATTEMPT_KEY`; a text that is no ledger is read as nothing. -/
inductive Item where
  | ledger (l : AttemptLedger)
  | garbled
deriving DecidableEq, Repr

/-- `readLedger`. -/
def readLedger (now : Int) : Option Item → Option AttemptLedger
  | some (.ledger l) => if attemptWindowMs < now - l.first then none else some l
  | _ => none

/-- `signInAttemptsExhausted`. -/
def signInAttemptsExhausted (now : Int) (item : Option Item) : Bool :=
  (readLedger now item).any fun l ↦ attemptLimit ≤ l.count

/-- `claimSignInAttempt`; `stores` says that `setItem` goes through. -/
def claimSignInAttempt (now : Int) (stores : Bool) (item : Option Item) : Option Item × Bool :=
  let next : AttemptLedger :=
    match readLedger now item with
    | some l => ⟨l.first, l.count + 1⟩
    | none => ⟨now, 1⟩
  if stores then (some (.ledger next), decide (next.count ≤ attemptLimit)) else (item, false)

/-! ## The tab -/

/-- `BlockedReason`. -/
inductive BlockedReason where
  | identityMissing
  | signInFailed
deriving DecidableEq, Repr

/-- What a page holds in memory.  `token` is the expiry of the access token, if there is a token and
if it has one; `silent` says that the page waits for the hidden frame; `exchanges` counts the
requests at the token endpoint that are not answered yet. -/
structure Page where
  loginSettled : Bool := false
  blockedReason : Option BlockedReason := none
  token : Option (Option Int) := none
  reauthStarted : Bool := false
  silent : Bool := false
  exchanges : ℕ := 0
deriving DecidableEq, Repr

/-- A tab: the two items in `sessionStorage`, and the page.  Of the pending flow only its `state` is
kept; the rest of it is sent to the token endpoint. -/
structure Tab where
  attempts : Option Item
  pending : Option String
  page : Page
deriving DecidableEq, Repr

/-- A page that has just been loaded. -/
def Page.fresh : Page := {}

/-- `hasAccessToken`. -/
def Page.hasAccessToken (page : Page) (now : Int) : Bool :=
  page.token.any fun expiresAt ↦ !expiresAt.any fun t ↦ t ≤ now

/-- The empty text counts as no text. -/
def truthy (text : Option String) : Option String := text.filter fun s ↦ s != ""

/-- `consumePendingOAuthFlow`: the tab without the flow, if there is one of this state. -/
def Tab.consumePendingOAuthFlow (tab : Tab) (state : String) : Option Tab :=
  if tab.pending = some state then some { tab with pending := none } else none

/-- `discardPendingOAuthFlow`. -/
def Tab.discardPendingOAuthFlow (tab : Tab) (state : String) : Tab :=
  if tab.pending = some state then { tab with pending := none } else tab

/-! ## What happens -/

/-- Where a page is loaded: at the callback route, with the parameters of its query, or
elsewhere. -/
inductive Location where
  | callback (code state error : Option String)
  | elsewhere
deriving DecidableEq, Repr

/-- What happens in a tab. -/
inductive Event where
  /-- A full page load. -/
  | load (location : Location)
  /-- A message of the hidden frame: its state, and the code and state of the address it hands
  over, unless it declines. -/
  | silentMessage (state : String) (redirect : Option (Option String × Option String))
  /-- The hidden frame has not answered in time. -/
  | silentTimeout
  /-- The token endpoint answers a request: the expiry of the token, or a failure. -/
  | exchanged (token : Option (Option Int))
  /-- An API call is answered 401. -/
  | unauthorized (skipSessionRecovery : Bool)
  /-- The login page, or the operator on it, signs in. -/
  | signIn
  /-- The operator tries again on the blocked screen. -/
  | retry
  | signOut
deriving DecidableEq, Repr

/-- An event, with what it takes from outside: the clock, whether `sessionStorage` takes a write,
and the random state of a new flow. -/
structure Op where
  now : Int
  stores : Bool
  state : String
  event : Event
deriving DecidableEq, Repr

/-- A sign-in attempt: whether it is a silent one, whether it was granted, and whether it found no
live ledger. -/
structure Attempt where
  silent : Bool
  granted : Bool
  fresh : Bool
deriving DecidableEq, Repr

/-- What an event was for the ledger: the attempt it made, and whether it cleared the ledger
first. -/
structure Outcome where
  attempt : Option Attempt := none
  cleared : Bool := false
deriving DecidableEq, Repr

/-- The claim of an attempt, with its record. -/
def Tab.claim (tab : Tab) (silent : Bool) (o : Op) : Tab × Attempt :=
  let out := claimSignInAttempt o.now o.stores tab.attempts
  ({ tab with attempts := out.1 }, ⟨silent, out.2, (readLedger o.now tab.attempts).isNone⟩)

/-- `clearSignInAttempts`. -/
def Tab.clearSignInAttempts (tab : Tab) : Tab := { tab with attempts := none }

/-- `signIn`, and `startLogin` in it.  A granted attempt saves the pending flow and leaves the
page. -/
def Tab.signIn (configured : Bool) (tab : Tab) (o : Op) : Tab × Outcome :=
  if configured then
    let claimed := tab.claim false o
    if claimed.2.granted then
      ({ claimed.1 with pending := some o.state }, { attempt := some claimed.2 })
    else
      ({ claimed.1 with page := { claimed.1.page with blockedReason := some .signInFailed } },
        { attempt := some claimed.2 })
  else
    ({ tab with page := { tab.page with blockedReason := some .identityMissing } }, {})

/-- `trySilentLogin`, up to where it waits for the frame. -/
def Tab.trySilentLogin (tab : Tab) (o : Op) : Tab × Outcome :=
  let claimed := tab.claim true o
  if claimed.2.granted then
    ({ claimed.1 with pending := some o.state, page := { claimed.1.page with silent := true } },
      { attempt := some claimed.2 })
  else
    ({ claimed.1 with page := { claimed.1.page with loginSettled := true } },
      { attempt := some claimed.2 })

/-- The effect of the callback page. -/
def Tab.callback (configured : Bool) (tab : Tab) (code state error : Option String) : Tab :=
  match truthy error, truthy code, truthy state with
  | some _, _, some state => tab.discardPendingOAuthFlow state
  | none, some _, some state =>
    if configured then
      match tab.consumePendingOAuthFlow state with
      | none => tab
      | some tab => { tab with page := { tab.page with exchanges := tab.page.exchanges + 1 } }
    else tab
  | _, _, _ => tab

/-- The boot effect of `AuthProvider`, on a page that has just been loaded. -/
def Tab.boot (configured : Bool) (tab : Tab) (o : Op) (location : Location) : Tab × Outcome :=
  let tab : Tab := { tab with page := .fresh }
  let settled : Tab := { tab with page := { tab.page with loginSettled := true } }
  match location with
  | .callback code state error => (settled.callback configured code state error, {})
  | .elsewhere =>
    if !configured || tab.page.hasAccessToken o.now then (settled, {})
    else if signInAttemptsExhausted o.now tab.attempts then
      ({ settled with page := { settled.page with blockedReason := some .signInFailed } }, {})
    else tab.trySilentLogin o

/-- `finish`: the frame is done with. -/
def Tab.finish (tab : Tab) : Tab :=
  { tab with page := { tab.page with silent := false, loginSettled := true } }

/-- `onMessage`, for a message of the frame. -/
def Tab.onMessage (tab : Tab) (state : String)
    (redirect : Option (Option String × Option String)) : Tab :=
  if !tab.page.silent || state = "" then tab
  else
    match redirect.map fun (code, state') ↦ (truthy code, truthy state') with
    | some (some _, some state') =>
      if state' = state then
        match tab.consumePendingOAuthFlow state with
        | none => tab.finish
        | some tab => { tab with page := { tab.page with exchanges := tab.page.exchanges + 1 } }
      else (tab.discardPendingOAuthFlow state).finish
    | _ => (tab.discardPendingOAuthFlow state).finish

/-- What an event does. -/
def apply (configured : Bool) (tab : Tab) (o : Op) : Tab × Outcome :=
  match o.event with
  | .load location => tab.boot configured o location
  | .silentMessage state redirect => (tab.onMessage state redirect, {})
  | .silentTimeout => (if tab.page.silent then tab.finish else tab, {})
  | .exchanged token =>
    if tab.page.exchanges = 0 then (tab, {})
    else
      let answered : Tab :=
        { tab with page := { tab.page with exchanges := tab.page.exchanges - 1 } }
      match token with
      | none => (answered.finish, {})
      | some expiresAt =>
        ((({ answered with page := { answered.page with token := some expiresAt } } :
          Tab).clearSignInAttempts).finish, { cleared := true })
  | .unauthorized skipSessionRecovery =>
    if skipSessionRecovery then (tab, {})
    else
      let cleared : Tab := { tab with page := { tab.page with token := none } }
      if tab.page.reauthStarted then (cleared, {})
      else
        ({ cleared with page := { cleared.page with reauthStarted := true } } : Tab).signIn
          configured o
  | .signIn => tab.signIn configured o
  | .retry =>
    if tab.page.blockedReason = some .signInFailed then
      let out := tab.clearSignInAttempts.signIn configured o
      (out.1, { out.2 with cleared := true })
    else (tab, {})
  | .signOut =>
    (({ tab with page := { tab.page with token := none } } : Tab).clearSignInAttempts,
      { cleared := true })

/-- The tab after an event. -/
def step (configured : Bool) (tab : Tab) (o : Op) : Tab := (apply configured tab o).1

/-- A sign-in attempt was granted. -/
def Outcome.grants (out : Outcome) : Bool := out.attempt.any Attempt.granted

/-- The event is a sign-in attempt that was granted. -/
def grants (configured : Bool) (tab : Tab) (o : Op) : Bool := (apply configured tab o).2.grants

/-- The event is a granted attempt that found no live ledger. -/
def opens (configured : Bool) (tab : Tab) (o : Op) : Bool :=
  (apply configured tab o).2.attempt.any fun a ↦ a.granted && a.fresh

/-- The event clears the ledger: the token endpoint answers a request of the page with a token, or
the operator tries again after a sign-in that has failed, or signs out. -/
def clearsLedger (tab : Tab) (o : Op) : Bool :=
  match o.event with
  | .exchanged (some _) => decide (tab.page.exchanges ≠ 0)
  | .retry => decide (tab.page.blockedReason = some .signInFailed)
  | .signOut => true
  | _ => false

/-- The event does not clear the ledger. -/
def keepsLedger (tab : Tab) (o : Op) : Prop := clearsLedger tab o = false

instance (tab : Tab) (o : Op) : Decidable (keepsLedger tab o) :=
  inferInstanceAs (Decidable (_ = _))

/-! ## What an event does to the ledger -/

/-- What an event can do to the ledger. -/
inductive Move where
  | keep
  | claim (silent : Bool)
  | clear
  | clearAndClaim
deriving DecidableEq, Repr

/-- A claim, with its record. -/
def claimed (now : Int) (stores : Bool) (item : Option Item) (silent : Bool) : Attempt :=
  ⟨silent, (claimSignInAttempt now stores item).2, (readLedger now item).isNone⟩

/-- The ledger after a move, and what the move was. -/
def Move.run (now : Int) (stores : Bool) (item : Option Item) : Move → Option Item × Outcome
  | .keep => (item, {})
  | .claim silent =>
    ((claimSignInAttempt now stores item).1, { attempt := some (claimed now stores item silent) })
  | .clear => (none, { cleared := true })
  | .clearAndClaim =>
    ((claimSignInAttempt now stores none).1,
      { attempt := some (claimed now stores none false), cleared := true })

section

variable {configured : Bool} {tab : Tab} {o : Op}

@[simp] theorem attempts_finish (tab : Tab) : tab.finish.attempts = tab.attempts := rfl

@[simp] theorem attempts_discard (tab : Tab) (state : String) :
    (tab.discardPendingOAuthFlow state).attempts = tab.attempts := by
  rw [Tab.discardPendingOAuthFlow]
  split <;> rfl

theorem attempts_consume {tab' : Tab} {state : String}
    (h : tab.consumePendingOAuthFlow state = some tab') : tab'.attempts = tab.attempts := by
  rw [Tab.consumePendingOAuthFlow] at h
  split at h
  · cases h
    rfl
  · cases h

theorem attempts_callback (configured : Bool) (tab : Tab) (code state error : Option String) :
    (tab.callback configured code state error).attempts = tab.attempts := by
  rw [Tab.callback]
  split
  · exact attempts_discard ..
  · split
    · split
      · rfl
      · rename_i h
        have hsame := attempts_consume h
        exact hsame
    · rfl
  · rfl

theorem attempts_onMessage (tab : Tab) (state : String)
    (redirect : Option (Option String × Option String)) :
    (tab.onMessage state redirect).attempts = tab.attempts := by
  rw [Tab.onMessage]
  split
  · rfl
  split
  · split
    · split
      · rfl
      · rename_i h
        have hsame := attempts_consume h
        exact hsame
    · simp
  · simp

/-- The ledger makes the move, and the record is the move's. -/
def LedgerMoves (tab : Tab) (o : Op) (out : Tab × Outcome) (m : Move) : Prop :=
  (out.1.attempts, out.2) = m.run o.now o.stores tab.attempts

theorem moves_keep {out : Tab × Outcome} (h : out.1.attempts = tab.attempts) (h' : out.2 = {}) :
    LedgerMoves tab o out .keep := by
  rw [LedgerMoves, h, h']
  rfl

/-- Without an identity provider nothing is attempted. -/
theorem moves_signIn (configured : Bool) (tab : Tab) (o : Op) :
    LedgerMoves tab o (tab.signIn configured o) (if configured then .claim false else .keep) := by
  cases configured with
  | false => rfl
  | true =>
    rw [Tab.signIn, if_pos rfl]
    dsimp only
    split <;> rfl

/-- Trying again is signing in on a cleared ledger. -/
theorem moves_retry (configured : Bool) (tab : Tab) (o : Op) :
    LedgerMoves tab o
      ((tab.clearSignInAttempts.signIn configured o).1,
        { (tab.clearSignInAttempts.signIn configured o).2 with cleared := true })
      (if configured then .clearAndClaim else .clear) := by
  cases configured with
  | false => rfl
  | true =>
    rw [Tab.signIn, if_pos rfl]
    dsimp only
    split <;> rfl

theorem moves_trySilentLogin (tab : Tab) (o : Op) :
    LedgerMoves tab o (tab.trySilentLogin o) (.claim true) := by
  rw [Tab.trySilentLogin]
  dsimp only
  split <;> rfl

theorem moves_boot (configured : Bool) (tab : Tab) (o : Op) (location : Location) :
    ∃ m, LedgerMoves tab o (tab.boot configured o location) m := by
  cases location with
  | callback code state error => exact ⟨.keep, moves_keep (attempts_callback ..) rfl⟩
  | elsewhere =>
    simp only [Tab.boot]
    split
    · exact ⟨.keep, rfl⟩
    split
    · exact ⟨.keep, rfl⟩
    · exact ⟨.claim true, moves_trySilentLogin { tab with page := .fresh } o⟩

/-- **What an event can do to the ledger.** -/
theorem apply_move (configured : Bool) (tab : Tab) (o : Op) :
    ∃ m, LedgerMoves tab o (apply configured tab o) m := by
  rw [apply]
  split
  · exact moves_boot ..
  · exact ⟨.keep, moves_keep (attempts_onMessage ..) rfl⟩
  · exact ⟨.keep, moves_keep (by dsimp only; split <;> rfl) rfl⟩
  · split
    · exact ⟨.keep, rfl⟩
    split
    · exact ⟨.keep, rfl⟩
    · exact ⟨.clear, rfl⟩
  · split
    · exact ⟨.keep, rfl⟩
    dsimp only
    split
    · exact ⟨.keep, rfl⟩
    · exact ⟨_, moves_signIn ..⟩
  · exact ⟨_, moves_signIn ..⟩
  · split
    · exact ⟨_, moves_retry ..⟩
    · exact ⟨.keep, rfl⟩
  · exact ⟨.clear, rfl⟩

theorem cleared_signIn (configured : Bool) (tab : Tab) (o : Op) :
    (tab.signIn configured o).2.cleared = false := by
  rw [Tab.signIn]
  split
  · dsimp only
    split <;> rfl
  · rfl

theorem cleared_boot (configured : Bool) (tab : Tab) (o : Op) (location : Location) :
    (tab.boot configured o location).2.cleared = false := by
  cases location with
  | callback code state error => rfl
  | elsewhere =>
    simp only [Tab.boot, Tab.trySilentLogin]
    split
    · rfl
    split
    · rfl
    split <;> rfl

/-- **Which events clear the ledger.** -/
theorem cleared_apply (configured : Bool) (tab : Tab) (o : Op) :
    (apply configured tab o).2.cleared = clearsLedger tab o := by
  obtain ⟨now, stores, state, event⟩ := o
  cases event with
  | load location => exact cleared_boot ..
  | silentMessage state redirect => rfl
  | silentTimeout => rfl
  | exchanged token =>
    by_cases hnone : tab.page.exchanges = 0
    · cases token <;> simp [apply, clearsLedger, hnone]
    · cases token <;> simp [apply, clearsLedger, hnone]
  | unauthorized skipSessionRecovery =>
    simp only [apply]
    split
    · rfl
    split
    · rfl
    · exact cleared_signIn ..
  | signIn => exact cleared_signIn ..
  | retry =>
    by_cases hblocked : tab.page.blockedReason = some .signInFailed
    · simp [apply, clearsLedger, hblocked]
    · simp [apply, clearsLedger, hblocked]
  | signOut => rfl

/-- Without an identity provider there is no attempt. -/
theorem not_grants_unconfigured (tab : Tab) (o : Op) : grants false tab o = false := by
  have hboot : ∀ location, (tab.boot false o location).2.grants = false := by
    rintro (_ | _) <;> rfl
  rw [grants, apply]
  split
  · exact hboot _
  · rfl
  · rfl
  · split
    · rfl
    split <;> rfl
  · split
    · rfl
    dsimp only
    split <;> rfl
  · rfl
  · split <;> rfl
  · rfl

end

/-! ## Counting -/

section

variable {now t : Int} {stores : Bool} {item : Option Item} {n : ℕ}

/-- The ledger that an attempt at `t` opened is still there, and it has counted the attempts that
were granted. -/
def Spent (t : Int) (n : ℕ) (item : Option Item) : Prop :=
  ∃ c, item = some (.ledger ⟨t, c⟩) ∧ n ≤ c ∧ n ≤ attemptLimit

/-- Within the window, a move that does not clear the ledger keeps the count. -/
theorem Spent.move (h : Spent t n item) (m : Move) (hnow : now ≤ t + attemptWindowMs)
    (hkeeps : (m.run now stores item).2.cleared = false) :
    Spent t (n + (m.run now stores item).2.grants.toNat) (m.run now stores item).1 := by
  obtain ⟨c, rfl, hc, hn⟩ := h
  have hread : readLedger now (some (.ledger ⟨t, c⟩)) = some ⟨t, c⟩ :=
    if_neg (by dsimp only; omega)
  cases m with
  | keep => exact ⟨c, rfl, hc, hn⟩
  | claim silent =>
    cases stores with
    | false => exact ⟨c, rfl, hc, hn⟩
    | true =>
      have hclaim : claimSignInAttempt now true (some (.ledger ⟨t, c⟩)) =
          (some (.ledger ⟨t, c + 1⟩), decide (c + 1 ≤ attemptLimit)) := by
        rw [claimSignInAttempt, hread]
        rfl
      simp only [Move.run, claimed, Outcome.grants, hclaim, Option.any_some]
      by_cases hlimit : c + 1 ≤ attemptLimit
      · have hle : n + 1 ≤ c + 1 := Nat.add_le_add_right hc 1
        rw [decide_eq_true hlimit]
        exact ⟨c + 1, rfl, hle, Nat.le_trans hle hlimit⟩
      · rw [decide_eq_false hlimit]
        exact ⟨c + 1, rfl, Nat.le_succ_of_le hc, hn⟩
  | clear => cases hkeeps
  | clearAndClaim => cases hkeeps

/-- A granted attempt that found no live ledger opens one. -/
theorem spent_of_opens (m : Move)
    (h : (m.run now stores item).2.attempt.any (fun a ↦ a.granted && a.fresh) = true) :
    Spent now 1 (m.run now stores item).1 := by
  have hclaim : ∀ item, readLedger now item = none →
      (claimSignInAttempt now stores item).2 = true →
      (claimSignInAttempt now stores item).1 = some (.ledger ⟨now, 1⟩) := by
    intro item hread hgranted
    cases stores with
    | false => cases hgranted
    | true =>
      rw [claimSignInAttempt, hread]
      rfl
  cases m with
  | keep => cases h
  | claim silent =>
    simp only [Move.run, claimed, Option.any_some, Bool.and_eq_true, Option.isNone_iff_eq_none] at h
    exact ⟨1, hclaim item h.2 h.1, Nat.le_refl 1, by decide⟩
  | clear => cases h
  | clearAndClaim =>
    simp only [Move.run, claimed, Option.any_some, Bool.and_eq_true] at h
    exact ⟨1, hclaim none rfl h.1, Nat.le_refl 1, by decide⟩

/-- The count that is stored, live or not. -/
def storedCount : Option Item → ℕ
  | some (.ledger l) => l.count
  | _ => 0

theorem storedCount_of_readLedger {l : AttemptLedger} (h : readLedger now item = some l) :
    storedCount item = l.count := by
  rcases item with _ | _ | _
  · cases h
  · rw [readLedger] at h
    split at h
    · cases h
    · cases h
      rfl
  · cases h

/-- What the ledger has counted, up to the limit, was granted. -/
def Backed (n : ℕ) (item : Option Item) : Prop := min attemptLimit (storedCount item) ≤ n

theorem Backed.claim (h : Backed n item) (now : Int) (stores : Bool) :
    Backed (n + (claimSignInAttempt now stores item).2.toNat)
      (claimSignInAttempt now stores item).1 := by
  rw [Backed] at h ⊢
  cases stores with
  | false => exact h
  | true =>
    rcases hread : readLedger now item with _ | l
    · -- no live ledger: the attempt is the first one and is granted
      rw [claimSignInAttempt, hread]
      simp [storedCount, attemptLimit]
    · rw [storedCount_of_readLedger hread] at h
      rw [claimSignInAttempt, hread]
      by_cases hlimit : l.count + 1 ≤ attemptLimit
      · simp only [if_true, storedCount, decide_eq_true hlimit, Bool.toNat_true]
        omega
      · simp only [if_true, storedCount, decide_eq_false hlimit, Bool.toNat_false]
        omega

theorem Backed.move (h : Backed n item) (m : Move) :
    Backed (n + (m.run now stores item).2.grants.toNat) (m.run now stores item).1 := by
  have hnone : Backed n none := Nat.zero_le _
  cases m with
  | keep => exact h
  | claim silent => exact h.claim now stores
  | clear => exact hnone
  | clearAndClaim => exact hnone.claim now stores

/-- After a move that clears the ledger, it has counted nothing but that move's own attempt. -/
theorem backed_of_cleared (m : Move) (h : (m.run now stores item).2.cleared = true) :
    Backed (m.run now stores item).2.grants.toNat (m.run now stores item).1 := by
  have hnone : Backed 0 none := Nat.zero_le _
  cases m with
  | keep => cases h
  | claim silent => cases h
  | clear => exact hnone
  | clearAndClaim =>
    have hclaim := hnone.claim now stores
    rwa [Nat.zero_add] at hclaim

end

/-! ## The budget -/

section

variable {configured : Bool} {tab : Tab} {o : Op} {t : Int} {n : ℕ}

theorem Spent.step (h : Spent t n tab.attempts) (hnow : o.now ≤ t + attemptWindowMs)
    (hkeeps : keepsLedger tab o) :
    Spent t (n + (grants configured tab o).toNat) (step configured tab o).attempts := by
  obtain ⟨m, hm⟩ := apply_move configured tab o
  obtain ⟨hitem, hout⟩ := Prod.mk.inj hm
  rw [keepsLedger, ← cleared_apply configured, hout] at hkeeps
  rw [grants, hout, Console.step, hitem]
  exact h.move m hnow hkeeps

theorem Backed.step (h : Backed n tab.attempts) (configured : Bool) (o : Op) :
    Backed (n + (grants configured tab o).toNat) (step configured tab o).attempts := by
  obtain ⟨m, hm⟩ := apply_move configured tab o
  obtain ⟨hitem, hout⟩ := Prod.mk.inj hm
  rw [grants, hout, Console.step, hitem]
  exact h.move m

/-- After an event that clears the ledger, it has counted nothing but that event's own attempt. -/
theorem backed_of_not_keepsLedger (configured : Bool) (h : ¬ keepsLedger tab o) :
    Backed (grants configured tab o).toNat (step configured tab o).attempts := by
  obtain ⟨m, hm⟩ := apply_move configured tab o
  obtain ⟨hitem, hout⟩ := Prod.mk.inj hm
  rw [keepsLedger, Bool.not_eq_false, ← cleared_apply configured, hout] at h
  rw [grants, hout, Console.step, hitem]
  exact backed_of_cleared m h

/-- **What the ledger bounds.**  Within the window of an attempt that opened the ledger, and as long
as nothing clears it, no more attempts are granted than the limit. -/
theorem tally_le_limit {ops : List Op} (h : Spent t n tab.attempts)
    (hwindow : ∀ x ∈ ops, x.now ≤ t + attemptWindowMs)
    (hkeeps : Guarded (step configured) keepsLedger tab ops) :
    n + tally (step configured) (grants configured) tab ops ≤ attemptLimit := by
  have hnow : Guarded (step configured) (fun _ x ↦ x.now ≤ t + attemptWindowMs) tab ops :=
    guarded_of_forall fun _ x hx ↦ hwindow x hx
  obtain ⟨c, -, -, hn⟩ := (hkeeps.and hnow).tallied (I := fun n tab ↦ Spent t n tab.attempts) h
    fun n tab x hspent hx ↦ hspent.step hx.2 hx.1
  exact hn

theorem opens_spent (h : opens configured tab o = true) :
    Spent o.now 1 (step configured tab o).attempts := by
  obtain ⟨m, hm⟩ := apply_move configured tab o
  obtain ⟨hitem, hout⟩ := Prod.mk.inj hm
  rw [opens, hout] at h
  rw [Console.step, hitem]
  exact spent_of_opens m h

theorem grants_of_opens (h : opens configured tab o = true) : grants configured tab o = true := by
  rw [opens, Option.any_eq_true] at h
  obtain ⟨a, ha, hgranted⟩ := h
  rw [Bool.and_eq_true] at hgranted
  rw [grants, Outcome.grants, ha]
  exact hgranted.1

/-- A page load, at a time. -/
def loadAt (now : Int) : Op := ⟨now, true, "", .load .elsewhere⟩

/-- A page load makes a silent attempt, which is granted unless the budget is spent. -/
theorem grants_loadAt (now : Int) (h : Backed n tab.attempts) (hn : n < attemptLimit) :
    grants true tab (loadAt now) = true := by
  have hread : ∀ l, readLedger now tab.attempts = some l → l.count + 1 ≤ attemptLimit := by
    intro l hl
    rw [Backed, storedCount_of_readLedger hl] at h
    omega
  have hspent : signInAttemptsExhausted now tab.attempts = false := by
    rw [signInAttemptsExhausted, Bool.eq_false_iff, Ne, Option.any_eq_true]
    rintro ⟨l, hl, hcount⟩
    have := hread l hl
    have := of_decide_eq_true hcount
    omega
  have hclaim : (claimSignInAttempt now true tab.attempts).2 = true := by
    rcases hl : readLedger now tab.attempts with _ | l
    · rw [claimSignInAttempt, hl]
      rfl
    · rw [claimSignInAttempt, hl]
      exact decide_eq_true (hread l hl)
  have hload : apply true tab (loadAt now) =
      ({ tab with page := .fresh } : Tab).trySilentLogin (loadAt now) := by
    rw [apply]
    simp only [loadAt, Tab.boot, hspent]
    rfl
  rw [grants, hload, Tab.trySilentLogin]
  simp only [Tab.claim, loadAt, hclaim, if_true]
  rfl

/-- Page loads use up what is left of the budget. -/
theorem tally_loads (now : Int) (k : ℕ) (h : Backed n tab.attempts) :
    min attemptLimit (n + k) ≤
      n + tally (step true) (grants true) tab (List.replicate k (loadAt now)) := by
  induction k generalizing n tab with
  | zero =>
    rw [Nat.add_zero]
    exact Nat.le_trans (Nat.min_le_right ..) (Nat.le_add_right ..)
  | succ k ih =>
    rw [List.replicate_succ, tally]
    have hrest := ih (h.step true (loadAt now))
    by_cases hn : n < attemptLimit
    · rw [grants_loadAt now h hn, Bool.toNat_true] at hrest ⊢
      omega
    · omega

/-- A run in which the ledger is cleared, and the page loads after it. -/
theorem limit_lt_tally {ops : List Op} (hopens : opens true tab o = true) (now : Int)
    (hclears : ¬ Guarded (step true) keepsLedger (step true tab o) ops) :
    attemptLimit < tally (step true) (grants true) tab
      (o :: ops ++ List.replicate attemptLimit (loadAt now)) := by
  obtain ⟨pre, x, post, rfl, hclear⟩ := exists_of_not_guarded hclears
  -- once it was cleared, what the ledger has counted was granted since
  have hpost := invariant_tally (I := fun n tab ↦ Backed n tab.attempts) (p := grants true) post
    (backed_of_not_keepsLedger true hclear) fun n tab x h ↦ h.step true x
  have hloads := tally_loads now attemptLimit hpost
  rw [List.cons_append, tally, grants_of_opens hopens, Bool.toNat_true, List.append_assoc,
    tally_append, List.cons_append, tally, tally_append]
  omega

end

/-- **The budget holds exactly as long as nothing clears the ledger.**  Take any state of a tab and
an attempt that is granted there and finds no live ledger, and any events up to the end of its
window.  Then no more attempts than the limit are granted from that one on to the end of the window,
whatever else happens there without clearing the ledger, just in case none of the events cleared the
ledger.  A successful exchange clears it. -/
theorem redirect_budget_iff (configured : Bool) (tab : Tab) (o : Op) (ops : List Op)
    (hopens : opens configured tab o = true)
    (htimes : ((o :: ops).map Op.now).Pairwise (· ≤ ·))
    (hwindow : ∀ x ∈ ops, x.now ≤ o.now + attemptWindowMs) :
    (∀ more, ((o :: ops ++ more).map Op.now).Pairwise (· ≤ ·) →
        (∀ x ∈ more, x.now ≤ o.now + attemptWindowMs) →
        Guarded (step configured) keepsLedger
          (run (step configured) tab (o :: ops)) more →
        tally (step configured) (grants configured) tab (o :: ops ++ more) ≤ attemptLimit) ↔
      Guarded (step configured) keepsLedger (step configured tab o) ops := by
  constructor
  · intro h
    by_contra hclears
    cases configured with
    | false =>
      have hnot := grants_of_opens hopens
      rw [not_grants_unconfigured] at hnot
      cases hnot
    | true =>
      -- the tab is loaded again and again at the end of the window
      refine Nat.not_le_of_lt (limit_lt_tally hopens (o.now + attemptWindowMs) hclears)
        (h _ ?_ (fun x hx ↦ ?_) ?_)
      · rw [List.map_append, List.pairwise_append]
        refine ⟨htimes, ?_, ?_⟩
        · rw [List.map_replicate]
          exact List.pairwise_replicate.mpr (.inr (Int.le_refl _))
        · simp only [List.mem_map, List.map_replicate, List.mem_replicate, List.mem_cons]
          rintro a ⟨x, rfl | hx, rfl⟩ b ⟨-, rfl⟩
          · exact Int.le_add_of_nonneg_right (by decide)
          · exact hwindow x hx
      · rw [List.eq_of_mem_replicate hx]
        exact Int.le_refl _
      · refine guarded_of_forall fun tab x hx ↦ ?_
        rw [List.eq_of_mem_replicate hx]
        rfl
  · intro hkeeps more _ hmore hkeeps'
    have hall := guarded_append.mpr ⟨hkeeps, hkeeps'⟩
    have hlimit := tally_le_limit (opens_spent hopens)
      (fun x hx ↦ (List.mem_append.mp hx).elim (hwindow x) (hmore x)) hall
    rwa [List.cons_append, tally, grants_of_opens hopens, Bool.toNat_true]

/-- A tab that has just been opened. -/
def newTab : Tab := ⟨none, none, .fresh⟩

/-- The identity provider declines; the third attempt in the minute is the last one. -/
theorem redirect_budget_iff_declined :
    let o : Op := loadAt 0
    let ops : List Op :=
      [⟨5000, true, "", .silentTimeout⟩, ⟨5100, true, "b", .signIn⟩,
        ⟨9000, true, "", .load (.callback none (some "b") (some "access_denied"))⟩,
        ⟨12000, true, "c", .signIn⟩, loadAt 15000, ⟨16000, true, "d", .signIn⟩]
    opens true newTab o = true ∧
      ((run (step true) newTab (o :: ops)).page.blockedReason = some .signInFailed ∧
        tally (step true) (grants true) newTab (o :: ops ++ []) ≤ attemptLimit) := by
  intro o ops
  refine ⟨by decide, by decide, ?_⟩
  exact (redirect_budget_iff true newTab o ops (by decide) (by decide) (by decide)).mpr (by decide)
    [] (by decide) (by decide) trivial

/-- **The loop is not stopped.**  The page is loaded and signs in silently; the API refuses the
token, and the tab goes to the identity provider and comes back with another one, three times in
three seconds.  Every attempt finds an empty ledger. -/
theorem loop_not_stopped :
    let o : Op := ⟨0, true, "a", .load .elsewhere⟩
    let ops : List Op :=
      [⟨100, true, "", .silentMessage "a" (some (some "code", some "a"))⟩,
        ⟨200, true, "", .exchanged (some none)⟩, ⟨300, true, "b", .unauthorized false⟩,
        ⟨1000, true, "", .load (.callback (some "code") (some "b") none)⟩,
        ⟨1100, true, "", .exchanged (some none)⟩, ⟨1200, true, "c", .unauthorized false⟩,
        ⟨2000, true, "", .load (.callback (some "code") (some "c") none)⟩,
        ⟨2100, true, "", .exchanged (some none)⟩, ⟨2200, true, "d", .unauthorized false⟩]
    opens true newTab o = true ∧ ((o :: ops).map Op.now).Pairwise (· ≤ ·) ∧
      (∀ x ∈ ops, x.now ≤ o.now + attemptWindowMs) ∧
      attemptLimit < tally (step true) (grants true) newTab (o :: ops) ∧
      tally (step true) (opens true) newTab (o :: ops) = 4 := by
  decide

end Console

end Maintainerd

import Maintainerd.Agents.Enrolment
import Maintainerd.Lib.Run

/-!
# Join tokens

A join token is good for one certificate.  Any number of calls of `Enroll` may be under way at once,
for any agents, and every statement of each may fail; `Enrolling` is the database with these calls,
and a move lets a call in or lets one of them make its next step.

Of one agent it matters whether its token is used and how many calls hold the mark, that is have
marked the row and have returned a certificate or may still do so.  Only three combinations occur,
and `TokenState` names them: the token is fresh, one call holds the mark, or the mark is lost.  A
call that has marked the row and then does not come to its end loses it, and nothing brings it back;
`Stands.run` follows the three states along any interleaving, and `enrolled_at_most_once` is what
the operator sees.
-/

set_option autoImplicit false

namespace Maintainerd

open Machine

/-! ## Calls at once -/

/-- The database, and the calls of `Enroll` so far. -/
structure Enrolling where
  fleet : Fleet
  calls : List EnrollCall

/-- A move of an interleaving. -/
inductive EnrollMove where
  | start (input : EnrollInput)
  /-- The i-th call makes its next step. -/
  | resume (i : ℕ) (told : EnrollTold)

/-- What a move does. -/
def Enrolling.step (pki : Pki) (s : Enrolling) : EnrollMove → Enrolling
  | .start input => { s with calls := s.calls ++ [.start input] }
  | .resume i told =>
    match s.calls[i]? with
    | none => s
    | some c =>
      let out := c.advance pki told s.fleet
      ⟨out.1, s.calls.set i ⟨c.input, out.2⟩⟩

/-- The call is for the agent and has returned a certificate. -/
def EnrollCall.certified (u : Uuid) (c : EnrollCall) : Bool :=
  c.input.agentUuid == u && c.stage.certificate.isSome

/-- The calls for an agent that have returned a certificate. -/
def certificates (u : Uuid) (s : Enrolling) : ℕ := s.calls.countP (EnrollCall.certified u)

/-- The call has returned. -/
def EnrollStage.final : EnrollStage → Bool
  | .returned _ => true
  | _ => false

/-- Every call for the agent has returned. -/
def quiet (u : Uuid) (s : Enrolling) : Bool :=
  s.calls.all fun c ↦ c.input.agentUuid != u || c.stage.final

/-- The step does not lose a mark: marking is not committed with its answer lost, and when the row
is marked the tenant is found. -/
def EnrollCall.keepsMark (pki : Pki) (told : EnrollTold) (fleet : Fleet) (c : EnrollCall) : Bool :=
  match c.stage with
  | .marking certificate _ =>
    told.outcome != .lost || (fleet.mark pki told.now c.input certificate).toOption.isNone
  | .resolving row _ _ =>
    told.outcome == .answered && (getTenantByID fleet.db row.tenantID).isSome
  | _ => true

/-- The move does not lose a mark of the agent. -/
def keepsMark (pki : Pki) (u : Uuid) (s : Enrolling) : EnrollMove → Bool
  | .start _ => true
  | .resume i told =>
    s.calls[i]?.all fun c ↦ c.input.agentUuid != u || c.keepsMark pki told s.fleet

/-! ## One step of a call -/

/-- The call has marked the row, and has returned a certificate or may still do so. -/
def EnrollStage.holds : EnrollStage → Bool
  | .resolving _ _ _ => true
  | stage => stage.certificate.isSome

/-- The call is for the agent and holds its mark. -/
def EnrollCall.holds (u : Uuid) (c : EnrollCall) : Bool := c.input.agentUuid == u && c.stage.holds

/-- What a step does to the token of an agent: nothing, or it marks the row, or it loses the
mark. -/
inductive TokenStep (used used' holds holds' : Bool) (keeps : Bool) : Prop where
  | nothing (hkeeps : keeps = true) (hused : used' = used) (hholds : holds' = holds)
  | marks (hkeeps : keeps = true) (hused : used = false) (hused' : used' = true)
      (hholds : holds = false) (hholds' : holds' = true)
  | marksInVain (hkeeps : keeps = false) (hused : used = false) (hused' : used' = true)
      (hholds : holds = false) (hholds' : holds' = false)
  | drops (hkeeps : keeps = false) (hused : used' = used) (hholds : holds = true)
      (hholds' : holds' = false)

theorem holds_checkToken (pki : Pki) (fleet : Fleet) (input : EnrollInput) :
    (fleet.checkToken pki input).holds = false := by
  rw [Fleet.checkToken]
  split
  · rfl
  · dsimp only
    split_ifs <;> rfl

theorem holds_start (input : EnrollInput) : (EnrollCall.start input).stage.holds = false := by
  rw [EnrollCall.start]
  dsimp only
  split_ifs <;> rfl

theorem holds_resolve (fleet : Fleet) (input : EnrollInput) (row : Agent)
    (certificate : Certificate) (expiresAt : Int) :
    (fleet.resolve input row certificate expiresAt).holds =
      (getTenantByID fleet.db row.tenantID).isSome := by
  rw [Fleet.resolve]
  split
  · rename_i hnone
    rw [hnone]
    rfl
  · rename_i hsome
    rw [hsome]
    rfl

/-- The step of a call for the agent. -/
theorem advance_tokenStep (pki : Pki) (told : EnrollTold) (fleet : Fleet) (c : EnrollCall) :
    TokenStep (fleet.used c.input.agentUuid)
      ((c.advance pki told fleet).1.used c.input.agentUuid) c.stage.holds
      (c.advance pki told fleet).2.holds (c.keepsMark pki told fleet) := by
  obtain ⟨input, stage⟩ := c
  cases stage with
  | reading =>
    refine .nothing rfl rfl ?_
    simp only [EnrollCall.advance]
    split
    · exact holds_checkToken pki fleet input
    · rfl
  | signing =>
    refine .nothing rfl rfl ?_
    simp only [EnrollCall.advance]
    split <;> rfl
  | marking certificate expiresAt =>
    simp only [EnrollCall.advance, EnrollCall.keepsMark]
    rcases hmark : fleet.mark pki told.now input certificate with e | ⟨fleet', row⟩
    · -- the statement fails by itself: nothing is marked, however it is answered
      refine .nothing (by simp [Except.toOption]) ?_ ?_
      · cases told.outcome <;> rfl
      · cases told.outcome with
        | answered => cases e <;> rfl
        | lost => rfl
        | refused => rfl
    · obtain ⟨hused, hused', -⟩ := markAgentEnrolled_spec hmark
      cases told.outcome with
      | answered => exact .marks rfl hused hused' rfl rfl
      | lost => exact .marksInVain rfl hused hused' rfl rfl
      | refused => exact .nothing rfl rfl rfl
  | resolving row certificate expiresAt =>
    simp only [EnrollCall.advance, EnrollCall.keepsMark]
    by_cases ho : told.outcome = .answered
    · rw [if_pos ho, ho, holds_resolve]
      rcases hsome : (getTenantByID fleet.db row.tenantID).isSome with _ | _
      · exact .drops rfl rfl rfl rfl
      · exact .nothing rfl rfl rfl
    · rw [if_neg ho]
      exact .drops (by simp [ho]) rfl rfl rfl
  | returned result => exact .nothing rfl rfl rfl

/-- A step of a call for another agent leaves the token alone. -/
theorem used_advance_of_ne (pki : Pki) (told : EnrollTold) (fleet : Fleet) {c : EnrollCall}
    {u : Uuid} (hu : c.input.agentUuid ≠ u) :
    (c.advance pki told fleet).1.used u = fleet.used u := by
  obtain ⟨input, stage⟩ := c
  cases stage with
  | marking certificate expiresAt =>
    have hcommitted : (fleet.committed (fleet.mark pki told.now input certificate)).used u =
        fleet.used u := by
      rcases hmark : fleet.mark pki told.now input certificate with e | ⟨fleet', row⟩
      · rfl
      · obtain ⟨-, -, hother, -⟩ := markAgentEnrolled_spec hmark
        exact hother u (Ne.symm hu)
    simp only [EnrollCall.advance]
    cases told.outcome with
    | answered => exact hcommitted
    | lost => exact hcommitted
    | refused => rfl
  | reading => rfl
  | signing => rfl
  | resolving row certificate expiresAt => rfl
  | returned result => rfl

/-! ## The token of one agent -/

/-- How the token of an agent stands. -/
inductive TokenState where
  /-- It is not used, and no call holds a mark. -/
  | fresh
  /-- It is used, and one call holds the mark. -/
  | held
  /-- It is used, and no call holds the mark. -/
  | lost
deriving DecidableEq, Repr

/-- The number of calls that hold the mark of an agent. -/
def holders (u : Uuid) (s : Enrolling) : ℕ := s.calls.countP (EnrollCall.holds u)

/-- The token of the agent stands so. -/
def Stands (u : Uuid) (s : Enrolling) : TokenState → Prop
  | .fresh => s.fleet.used u = false ∧ holders u s = 0
  | .held => s.fleet.used u = true ∧ holders u s = 1
  | .lost => s.fleet.used u = true ∧ holders u s = 0

/-- What replacing a call does to the number of holders. -/
theorem countP_set_holds {u : Uuid} {calls : List EnrollCall} {i : ℕ} {c : EnrollCall}
    (hc : calls[i]? = some c) (c' : EnrollCall) :
    (calls.set i c').countP (EnrollCall.holds u) + (c.holds u).toNat =
      calls.countP (EnrollCall.holds u) + (c'.holds u).toNat := by
  induction calls generalizing i with
  | nil => cases hc
  | cons x calls ih =>
    cases i with
    | zero =>
      obtain rfl : x = c := Option.some.inj hc
      simp only [List.set_cons_zero, List.countP_cons]
      cases EnrollCall.holds u x <;> cases EnrollCall.holds u c' <;> simp
    | succ i =>
      have hrest := ih hc
      simp only [List.set_cons_succ, List.countP_cons]
      omega

/-- A step of one call, seen from the token of the agent. -/
theorem Stands.resume {u : Uuid} {s s' : Enrolling} {st : TokenState} {keeps holds holds' : Bool}
    (h : Stands u s st) (hstep : TokenStep (s.fleet.used u) (s'.fleet.used u) holds holds' keeps)
    (hcount : holders u s' + holds.toNat = holders u s + holds'.toNat) :
    ∃ st', Stands u s' st' ∧ (keeps = true → (st' = .lost ↔ st = .lost)) ∧
      (keeps = false → st' = .lost) := by
  cases hstep with
  | nothing hkeeps hused hholds =>
    rw [hholds, Nat.add_right_cancel_iff] at hcount
    refine ⟨st, ?_, fun _ ↦ Iff.rfl, by simp [hkeeps]⟩
    cases st <;> exact ⟨hused.trans h.1, hcount.trans h.2⟩
  | marks hkeeps hused hused' hholds hholds' =>
    rw [hholds, hholds', Bool.toNat_false, Bool.toNat_true, Nat.add_zero] at hcount
    cases st with
    | fresh => exact ⟨.held, ⟨hused', by rw [hcount, h.2]⟩, by simp, by simp [hkeeps]⟩
    | held => exact absurd (hused.symm.trans h.1) (by decide)
    | lost => exact absurd (hused.symm.trans h.1) (by decide)
  | marksInVain hkeeps hused hused' hholds hholds' =>
    rw [hholds, hholds', Nat.add_right_cancel_iff] at hcount
    cases st with
    | fresh => exact ⟨.lost, ⟨hused', hcount.trans h.2⟩, by simp [hkeeps], fun _ ↦ rfl⟩
    | held => exact absurd (hused.symm.trans h.1) (by decide)
    | lost => exact absurd (hused.symm.trans h.1) (by decide)
  | drops hkeeps hused hholds hholds' =>
    rw [hholds, hholds', Bool.toNat_false, Bool.toNat_true, Nat.add_zero] at hcount
    cases st with
    | fresh => rw [h.2] at hcount; omega
    | held =>
      refine ⟨.lost, ⟨hused.trans h.1, ?_⟩, by simp [hkeeps], fun _ ↦ rfl⟩
      rw [h.2] at hcount
      omega
    | lost => rw [h.2] at hcount; omega

/-- **One move.**  A move that loses no mark of the agent leaves its token as lost as it was; one
that does loses it. -/
theorem Stands.step {u : Uuid} {s : Enrolling} {st : TokenState} (h : Stands u s st) (pki : Pki)
    (m : EnrollMove) :
    ∃ st', Stands u (s.step pki m) st' ∧
      (keepsMark pki u s m = true → (st' = .lost ↔ st = .lost)) ∧
      (keepsMark pki u s m = false → st' = .lost) := by
  cases m with
  | start input =>
    refine ⟨st, ?_, fun _ ↦ Iff.rfl, by simp [keepsMark]⟩
    have hholders : holders u (s.step pki (.start input)) = holders u s := by
      simp [holders, Enrolling.step, List.countP_append, EnrollCall.holds, holds_start]
    cases st <;> exact ⟨h.1, hholders.trans h.2⟩
  | resume i told =>
    rw [keepsMark, Enrolling.step]
    rcases hc : s.calls[i]? with _ | c
    · exact ⟨st, h, fun _ ↦ Iff.rfl, by simp⟩
    have hcount := countP_set_holds (u := u) hc ⟨c.input, (c.advance pki told s.fleet).2⟩
    rw [Option.all_some]
    by_cases hu : c.input.agentUuid = u
    · subst hu
      have hstep := advance_tokenStep pki told s.fleet c
      simp only [EnrollCall.holds, beq_self_eq_true, Bool.true_and] at hcount
      simp only [bne_self_eq_false, Bool.false_or]
      exact h.resume hstep hcount
    · have hused := used_advance_of_ne pki told s.fleet hu
      have hholds : ∀ stage, EnrollCall.holds u ⟨c.input, stage⟩ = false := by
        simp [EnrollCall.holds, hu]
      rw [hholds, hholds] at hcount
      have hkeeps : (c.input.agentUuid != u || c.keepsMark pki told s.fleet) = true := by
        simp [hu]
      rw [hkeeps]
      exact h.resume (.nothing rfl hused rfl) hcount

/-- A token that is lost stays lost. -/
theorem Stands.run_of_lost {pki : Pki} {u : Uuid} {s : Enrolling} (h : Stands u s .lost)
    (ms : List EnrollMove) : Stands u (run (Enrolling.step pki) s ms) .lost := by
  induction ms generalizing s with
  | nil => exact h
  | cons m ms ih =>
    obtain ⟨st', hst', hkeeps, hloses⟩ := h.step pki m
    obtain rfl : st' = .lost := by
      rcases hk : keepsMark pki u s m with _ | _
      · exact hloses hk
      · exact (hkeeps hk).mpr rfl
    exact ih hst'

/-- **Any interleaving.**  A token that is not lost is lost in the end exactly when one of the moves
has lost a mark. -/
theorem Stands.run {u : Uuid} {s : Enrolling} {st : TokenState} (h : Stands u s st)
    (hst : st ≠ .lost) (pki : Pki) (ms : List EnrollMove) :
    ∃ st', Stands u (run (Enrolling.step pki) s ms) st' ∧
      (st' ≠ .lost ↔ Guarded (Enrolling.step pki) (fun s m ↦ keepsMark pki u s m = true) s ms) := by
  induction ms generalizing s st with
  | nil => exact ⟨st, h, iff_of_true hst trivial⟩
  | cons m ms ih =>
    obtain ⟨st', hst', hkeeps, hloses⟩ := h.step pki m
    rcases hk : keepsMark pki u s m with _ | _
    · rw [hloses hk] at hst'
      refine ⟨.lost, hst'.run_of_lost ms, iff_of_false (by simp) fun hg ↦ ?_⟩
      exact absurd (hk.symm.trans hg.1) (by decide)
    · obtain ⟨st'', hst'', hiff⟩ := ih hst' fun hlost ↦ hst ((hkeeps hk).mp hlost)
      exact ⟨st'', hst'', hiff.trans (and_iff_right hk).symm⟩

/-! ## What the operator sees -/

theorem certified_imp_holds {u : Uuid} {c : EnrollCall} (h : c.certified u = true) :
    c.holds u = true := by
  rw [EnrollCall.certified, Bool.and_eq_true] at h
  rw [EnrollCall.holds, h.1, Bool.true_and]
  obtain ⟨input, stage⟩ := c
  cases stage with
  | resolving row certificate expiresAt => rfl
  | _ => exact h.2

theorem certificates_le_holders (u : Uuid) (s : Enrolling) : certificates u s ≤ holders u s :=
  List.countP_mono_left fun _ _ h ↦ certified_imp_holds h

/-- When every call has returned, the ones that hold the mark are the ones with a certificate. -/
theorem certificates_of_quiet {u : Uuid} {s : Enrolling} (h : quiet u s = true) :
    certificates u s = holders u s := by
  refine List.countP_congr fun c hc ↦ ⟨certified_imp_holds, fun hholds ↦ ?_⟩
  rw [EnrollCall.holds, Bool.and_eq_true] at hholds
  have hfinal := List.all_eq_true.mp h c hc
  rw [bne, hholds.1, Bool.not_true, Bool.false_or] at hfinal
  rw [EnrollCall.certified, hholds.1, Bool.true_and]
  obtain ⟨input, stage⟩ := c
  cases stage with
  | returned result => exact hholds.2
  | _ => cases hfinal

/-- **An agent is enrolled at most once**, however the calls of `Enroll` are interleaved and
whatever fails.  When all calls for the agent have returned and none with a certificate, its token
is still unused exactly if no call has lost its mark: no marking was committed with its answer lost,
and every call that had marked the row found the tenant. -/
theorem enrolled_at_most_once (pki : Pki) (fleet : Fleet) (u : Uuid)
    (hunused : fleet.used u = false) (ms : List EnrollMove) :
    let s := run (Enrolling.step pki) ⟨fleet, []⟩ ms
    certificates u s ≤ 1 ∧
      (quiet u s = true → ((certificates u s = 0 → s.fleet.used u = false) ↔
        Guarded (Enrolling.step pki) (fun s m ↦ keepsMark pki u s m = true) ⟨fleet, []⟩ ms)) := by
  intro s
  have hfresh : Stands u ⟨fleet, []⟩ .fresh := ⟨hunused, rfl⟩
  obtain ⟨st, hst, hiff⟩ := hfresh.run (by decide) pki ms
  have hle := certificates_le_holders u s
  rw [← hiff]
  cases st with
  | fresh =>
    rw [show holders u s = 0 from hst.2] at hle
    exact ⟨by omega, fun _ ↦ iff_of_true (fun _ ↦ hst.1) (by decide)⟩
  | held =>
    rw [show holders u s = 1 from hst.2] at hle
    refine ⟨hle, fun hquiet ↦ iff_of_true (fun hnone ↦ ?_) (by decide)⟩
    rw [certificates_of_quiet hquiet, show holders u s = 1 from hst.2] at hnone
    cases hnone
  | lost =>
    rw [show holders u s = 0 from hst.2] at hle
    refine ⟨by omega, fun _ ↦ iff_of_false (fun hno ↦ ?_) (by decide)⟩
    exact absurd ((hno (by omega)).symm.trans hst.1) (by decide)

/-- The next steps of the calls of the list, each answered. -/
def answeredSteps (calls : List ℕ) : List EnrollMove :=
  calls.map fun i ↦ .resume i ⟨10, .answered, 10, .ok 7⟩

/-- Two calls that are both past their checks when the first one marks the row: the other one is
refused. -/
theorem enrolled_at_most_once_raced :
    let ms := [.start (askFor "agent:III"), .start (askFor "agent:IIII")] ++
      answeredSteps [0, 1, 0, 1, 0, 1, 0, 1]
    let s := run (Enrolling.step plainPki) ⟨newFleet, []⟩ ms
    (certificates 3 s = 1 ∧ quiet 3 s = true) ∧ certificates 3 s ≤ 1 :=
  ⟨by decide, (enrolled_at_most_once plainPki newFleet 3 rfl _).1⟩

/-- **A token is used up without a certificate.**  The row is marked, and then the tenant cannot be
read: the call returns an error, and a second one is refused. -/
theorem token_lost_after_mark :
    let ms := .start (askFor "agent:III") :: answeredSteps [0, 0, 0] ++
      [.resume 0 ⟨10, .refused, 10, .ok 7⟩, .start (askFor "agent:III")] ++ answeredSteps [1]
    let s := run (Enrolling.step plainPki) ⟨newFleet, []⟩ ms
    newFleet.used 3 = false ∧ quiet 3 s = true ∧ certificates 3 s = 0 ∧ s.fleet.used 3 = true := by
  decide

end Maintainerd

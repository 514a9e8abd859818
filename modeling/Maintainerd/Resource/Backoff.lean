import Maintainerd.Lib.Backoff
import Maintainerd.Resource.Service

/-!
# The backoff of a failed attempt, in the integers of the source

`nextBackoff` of `internal/resource/service.go`.  `Maintainerd.Resource.Service` has it as a
function of integers whose loop counts the rounds that are left.  Here the attempts and the counter
`i` are `int32`, the delay `d` is `int64`, all of them wrap round, and a call also says which rounds
its loop has made.

* The loop ends for every `int32`, because its counter does not wrap round below `attempts`
  (`toInt_succ`).
* `toInt_nextBackoff` says that the service's function is this one, whatever the loop computes, and
  `nextAttemptAt_of_failed` where its delay goes.
* Every round is entered with a positive delay below `retryCap`, which keeps its double within 64
  bits (`bounds_of_mem_rounds`).  Each round doubles the delay, which keeps the number of rounds
  small (`mul_pow_rounds_lt`).

The comment above the two constants has `retryBase * 2^attempts`.  The loop starts its counter at 1,
so that the first attempt waits for `retryBase` itself, and the exponent is one less.
-/

set_option autoImplicit false

namespace Maintainerd

namespace FixedWidth

/-! ## The function -/

/-- `retryBase` -/
def retryBase : Int64 := 5 * Backoff.second

/-- `retryCap` -/
def retryCap : Int64 := 5 * (60 * Backoff.second)

/-- A round of the loop of `nextBackoff`: its variables when the body is entered. -/
structure Round where
  i : Int32
  d : Int64
deriving DecidableEq, Repr

/-- A call of `nextBackoff`: what it returns, and the rounds of its loop. -/
structure Call where
  delay : Int64
  rounds : List Round
deriving DecidableEq, Repr

theorem toInt_one : (1 : Int32).toInt = 1 := by decide

/-- The counter does not wrap round. -/
theorem toInt_succ {i attempts : Int32} (h : i < attempts) : (i + 1).toInt = i.toInt + 1 := by
  have hupper := attempts.toInt_lt
  have hlower := i.le_toInt
  rw [Int32.lt_iff_toInt_lt] at h
  rw [Int32.toInt_add, toInt_one]
  exact Int.bmod_eq_of_le (by omega) (by omega)

/-- The rounds that are left. -/
def roundsLeft (attempts i : Int32) : ℕ := (attempts.toInt - i.toInt).toNat

theorem roundsLeft_of_lt {attempts i : Int32} (h : i < attempts) :
    roundsLeft attempts i = roundsLeft attempts (i + 1) + 1 := by
  rw [roundsLeft, roundsLeft, toInt_succ h]
  rw [Int32.lt_iff_toInt_lt] at h
  omega

theorem roundsLeft_of_not_lt {attempts i : Int32} (h : ¬ i < attempts) :
    roundsLeft attempts i = 0 := by
  rw [Int32.lt_iff_toInt_lt] at h
  rw [roundsLeft]
  omega

/-- The loop of `nextBackoff`, and what is returned after it. -/
def nextBackoffLoop (attempts i : Int32) (d : Int64) : Call :=
  if i < attempts then
    if retryCap ≤ d * 2 then ⟨retryCap, [⟨i, d⟩]⟩
    else
      let rest := nextBackoffLoop attempts (i + 1) (d * 2)
      ⟨rest.delay, ⟨i, d⟩ :: rest.rounds⟩
  else ⟨if retryCap < d then retryCap else d, []⟩
termination_by roundsLeft attempts i
decreasing_by
  rename_i hlt _
  rw [roundsLeft_of_lt hlt]
  exact Nat.lt_succ_self _

/-- `nextBackoff` -/
def nextBackoff (attempts : Int32) : Call :=
  nextBackoffLoop (if attempts < 1 then 1 else attempts) 1 retryBase

/-! ## The service's function is this one -/

theorem toInt_retryBase : retryBase.toInt = Maintainerd.retryBase := by decide

theorem toInt_retryCap : retryCap.toInt = Maintainerd.retryCap := by decide

theorem toInt_nextBackoffLoop (attempts i : Int32) (d : Int64) :
    (nextBackoffLoop attempts i d).delay.toInt =
      Maintainerd.nextBackoffLoop (roundsLeft attempts i) d.toInt := by
  fun_induction nextBackoffLoop attempts i d with
  | case1 i d hlt hcap =>
    rw [Int64.le_iff_toInt_le, Backoff.toInt_mul_two, toInt_retryCap] at hcap
    rw [roundsLeft_of_lt hlt, Maintainerd.nextBackoffLoop, Text.int64, if_pos hcap, toInt_retryCap]
  | case2 i d hlt hcap rest ih =>
    rw [Int64.le_iff_toInt_le, Backoff.toInt_mul_two, toInt_retryCap] at hcap
    rw [roundsLeft_of_lt hlt, Maintainerd.nextBackoffLoop, Text.int64, if_neg hcap, ih,
      Backoff.toInt_mul_two]
  | case3 i d hlt =>
    rw [roundsLeft_of_not_lt hlt, Maintainerd.nextBackoffLoop, ← toInt_retryCap]
    simp only [Int64.lt_iff_toInt_lt, apply_ite Int64.toInt]

/-- **The service's `nextBackoff`** is the one of the source, on every `int32`. -/
theorem toInt_nextBackoff (attempts : Int32) :
    (nextBackoff attempts).delay.toInt = Maintainerd.nextBackoff attempts.toInt := by
  rw [nextBackoff, toInt_nextBackoffLoop, Maintainerd.nextBackoff, toInt_retryBase, roundsLeft,
    apply_ite Int32.toInt, toInt_one]
  simp only [Int32.lt_iff_toInt_lt, toInt_one]

/-- What a report of a failure writes, as long as there are attempts left, is the delay of the count
it writes with it. -/
theorem nextAttemptAt_of_failed (env : Env) (now : Int) (r : Resource) {input : AgentReportInput}
    {attemptBudget : Int} (hfailed : input.state = "failed")
    (hleft : (agentReportParams env now r input attemptBudget).attempts <
      effectiveBudget attemptBudget) :
    (agentReportParams env now r input attemptBudget).nextAttemptAt =
      some (now + (nextBackoff (Int32.ofInt (r.attempts + 1))).delay.toInt / 1000) := by
  rw [agentReportParams_attempts, hfailed, if_neg (by decide), if_pos rfl] at hleft
  rw [agentReportParams_nextAttemptAt, hfailed, if_neg (by decide), if_pos rfl,
    if_neg (Int.not_le.mpr hleft), toInt_nextBackoff, Int32.toInt_ofInt]
  rfl

/-! ## The rounds -/

section

variable {d : Int64}

/-- A delay below the cap is doubled without wrapping round. -/
theorem toInt_mul_two_of_lt (hpos : 0 < d.toInt) (hlt : d.toInt < retryCap.toInt) :
    (d * 2).toInt = d.toInt * 2 := by
  rw [toInt_retryCap, Maintainerd.retryCap] at hlt
  rw [Backoff.toInt_mul_two]
  exact Int.bmod_eq_of_le (by omega) (by omega)

/-- The invariant of the loop: what the body is entered with. -/
theorem bounds_of_mem_rounds {attempts i : Int32} (hpos : 0 < d.toInt)
    (hlt : d.toInt < retryCap.toInt) {r : Round} (hr : r ∈ (nextBackoffLoop attempts i d).rounds) :
    0 < r.d.toInt ∧ r.d.toInt < retryCap.toInt := by
  fun_induction nextBackoffLoop attempts i d with
  | case1 i d _ _ =>
    rw [List.mem_singleton.mp hr]
    exact ⟨hpos, hlt⟩
  | case2 i d _ hcap rest ih =>
    rcases List.mem_cons.mp hr with rfl | hr
    · exact ⟨hpos, hlt⟩
    · have hdouble := toInt_mul_two_of_lt hpos hlt
      rw [Int64.le_iff_toInt_le] at hcap
      exact ih (by omega) (by omega) hr
  | case3 i d _ => exact absurd hr List.not_mem_nil

/-- Each round doubles the delay, and only the last one may reach the cap. -/
theorem mul_pow_rounds_lt {attempts i : Int32} (hpos : 0 < d.toInt)
    (hlt : d.toInt < retryCap.toInt) :
    d.toInt * 2 ^ (nextBackoffLoop attempts i d).rounds.length < retryCap.toInt * 2 := by
  fun_induction nextBackoffLoop attempts i d with
  | case1 i d _ _ =>
    rw [List.length_singleton, pow_one]
    omega
  | case2 i d _ hcap rest ih =>
    have hdouble := toInt_mul_two_of_lt hpos hlt
    rw [Int64.le_iff_toInt_le] at hcap
    have hrest := ih (by omega) (by omega)
    rwa [hdouble, mul_assoc, ← pow_succ'] at hrest
  | case3 i d _ =>
    rw [List.length_nil, pow_zero]
    omega

end

theorem retryBase_pos : 0 < retryBase.toInt := by decide

theorem retryBase_lt : retryBase.toInt < retryCap.toInt := by decide

theorem length_rounds_le (attempts : Int32) : (nextBackoff attempts).rounds.length ≤ 6 := by
  by_contra hmany
  have hlt : retryBase.toInt * 2 ^ (nextBackoff attempts).rounds.length < retryCap.toInt * 2 :=
    mul_pow_rounds_lt retryBase_pos retryBase_lt
  have hpow : (2 : Int) ^ 7 ≤ 2 ^ (nextBackoff attempts).rounds.length :=
    pow_le_pow_right₀ (by decide) (by omega)
  rw [toInt_retryBase, toInt_retryCap, Maintainerd.retryBase, Maintainerd.retryCap] at hlt
  omega

-- the bound is attained: with seven attempts the delays are doubled from 5 seconds to 320
example : (nextBackoff 7).rounds.map Round.d =
    [retryBase, 2 * retryBase, 4 * retryBase, 8 * retryBase, 16 * retryBase, 32 * retryBase] := by
  simp [nextBackoff, nextBackoffLoop, retryBase, retryCap, Backoff.second]

/-! ## The closed form -/

/-- **The backoff in closed form.**  For every attempt count the delay is the base times a power of
two, or the cap, in integers that do not wrap round: no round of the loop doubles a delay past 64
bits, and there are at most six of them.  More attempts never mean a shorter delay. -/
theorem nextBackoff_closed_form (attempts : Int32) :
    (nextBackoff attempts).delay.toInt =
        min (5 * 60 * 10 ^ 9) (5 * 10 ^ 9 * 2 ^ (max attempts.toInt 1 - 1).toNat) ∧
      (∀ r ∈ (nextBackoff attempts).rounds, (r.d * 2).toInt = r.d.toInt * 2) ∧
      (∀ later : Int32, attempts ≤ later →
        (nextBackoff attempts).delay ≤ (nextBackoff later).delay) ∧
      (nextBackoff attempts).rounds.length ≤ 6 := by
  refine ⟨?_, fun r hr ↦ ?_, fun later hle ↦ ?_, length_rounds_le attempts⟩
  · rw [toInt_nextBackoff, nextBackoff_eq]
    rfl
  · obtain ⟨hpos, hlt⟩ := bounds_of_mem_rounds retryBase_pos retryBase_lt hr
    exact toInt_mul_two_of_lt hpos hlt
  · rw [Int64.le_iff_toInt_le, toInt_nextBackoff, toInt_nextBackoff]
    exact nextBackoff_mono (Int32.le_iff_toInt_le.mp hle)

/-- The sixth attempt and the last one there can be. -/
theorem nextBackoff_closed_form_six :
    (nextBackoff 6).delay.toInt = 160 * 10 ^ 9 ∧
      (⟨1, retryBase⟩ ∈ (nextBackoff 6).rounds ∧ (retryBase * 2).toInt = retryBase.toInt * 2) ∧
      ((6 : Int32) ≤ Int32.maxValue ∧
        (nextBackoff 6).delay ≤ (nextBackoff Int32.maxValue).delay) ∧
      (nextBackoff 6).rounds.length ≤ 6 := by
  obtain ⟨hdelay, hexact, hmono, hrounds⟩ := nextBackoff_closed_form 6
  have hround : ⟨1, retryBase⟩ ∈ (nextBackoff 6).rounds := by
    rw [nextBackoff, nextBackoffLoop, if_pos (by decide), if_neg (by decide)]
    exact List.mem_cons_self
  have hle : (6 : Int32) ≤ Int32.maxValue := by decide
  refine ⟨?_, ⟨hround, hexact ⟨1, retryBase⟩ hround⟩, ⟨hle, hmono _ hle⟩, hrounds⟩
  rw [hdelay]
  decide

end FixedWidth

end Maintainerd

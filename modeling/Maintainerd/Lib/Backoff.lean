import Mathlib.Algebra.Order.Ring.Int
import Mathlib.Logic.Function.Iterate

/-!
# Exponential backoff

A delay that doubles until it reaches a maximum, in the integers it is computed with.  A delay is an
`Int64`, a number of nanoseconds, and its double wraps round: `grow` is the doubling as it is
usually written, which compares before it doubles and again after.

* `toInt_iterate_grow` says what `n` doublings give, `min max (base * 2 ^ n)`, as long as none of
  them wraps round.
* `toInt_grow_neg` says what happens if one does: the delay is negative.
* `retry` is a loop that makes an attempt, waits and makes another one, and `getElem?_retry` says
  what its waits are.
* `Stretch` is for loops that do not end with a success: a maximal sequence of failures, from its
  beginning on.
-/

set_option autoImplicit false

namespace Backoff

/-! ## Doubling -/

/-- A second. -/
def second : Int64 := 1000000000

/-- The delay after this one, if there is to be a longer one. -/
def grow (max delay : Int64) : Int64 :=
  if delay < max then if max < delay * 2 then max else delay * 2 else delay

section

variable {max delay : Int64}

theorem grow_of_le (h : max.toInt ≤ delay.toInt) : grow max delay = delay := by
  rw [grow, if_neg]
  rwa [Int64.lt_iff_toInt_lt, Int.not_lt]

theorem toInt_mul_two (delay : Int64) :
    (delay * 2).toInt = (delay.toInt * 2).bmod (2 ^ 64) :=
  Int64.toInt_mul delay 2

/-- A delay that is doubled without wrapping round. -/
theorem toInt_grow (h : 0 < delay.toInt) (hle : delay.toInt ≤ max.toInt)
    (hfits : delay.toInt < max.toInt → delay.toInt < 2 ^ 62) :
    (grow max delay).toInt = min max.toInt (delay.toInt * 2) := by
  by_cases hlt : delay.toInt < max.toInt
  · have hdouble : (delay * 2).toInt = delay.toInt * 2 := by
      have hsmall := hfits hlt
      rw [toInt_mul_two]
      exact Int.bmod_eq_of_le (by omega) (by omega)
    rw [grow, if_pos (Int64.lt_iff_toInt_lt.mpr hlt)]
    split_ifs with hmax <;> rw [Int64.lt_iff_toInt_lt, hdouble] at hmax <;> omega
  · rw [grow_of_le (by omega)]
    omega

/-- A delay that wraps round is negative. -/
theorem toInt_grow_neg (hlt : delay.toInt < max.toInt) (hbig : 2 ^ 62 ≤ delay.toInt) :
    (grow max delay).toInt < 0 := by
  have hupper := delay.toInt_lt
  have hdouble : (delay * 2).toInt < 0 := by
    rw [toInt_mul_two, Int.bmod_def]
    split_ifs <;> omega
  rw [grow, if_pos (Int64.lt_iff_toInt_lt.mpr hlt), if_neg]
  · exact hdouble
  · rw [Int64.lt_iff_toInt_lt]
    omega

/-- **The law of the doublings.**  They give the base times a power of two, or the maximum, if none
of them wraps round. -/
theorem toInt_iterate_grow {base : Int64} (h : 0 < base.toInt) (hle : base.toInt ≤ max.toInt)
    (n : ℕ) (hfits : ∀ j < n, base.toInt * 2 ^ j < max.toInt → base.toInt * 2 ^ j < 2 ^ 62) :
    ((grow max)^[n] base).toInt = min max.toInt (base.toInt * 2 ^ n) := by
  induction n with
  | zero => simpa using hle
  | succ n ih =>
    have hn := ih fun j hj ↦ hfits j (Nat.lt_succ_of_lt hj)
    have hpos : 0 < base.toInt * 2 ^ n := Int.mul_pos h (Int.pow_pos (by decide))
    have hlast := hfits n (Nat.lt_succ_self n)
    rw [Function.iterate_succ_apply', toInt_grow (by omega) (by omega) (by omega), hn, Int.pow_succ,
      ← Int.mul_assoc]
    omega

/-- Below a maximum of `2 ^ 62` no doubling wraps round. -/
theorem toInt_iterate_grow_of_le {base : Int64} (h : 0 < base.toInt)
    (hle : base.toInt ≤ max.toInt) (hmax : max.toInt ≤ 2 ^ 62) (n : ℕ) :
    ((grow max)^[n] base).toInt = min max.toInt (base.toInt * 2 ^ n) :=
  toInt_iterate_grow h hle n fun _ _ hlt ↦ Int.lt_of_lt_of_le hlt hmax

end

/-- The wait a loop is meant to make after `n` others. -/
def capped (base max : Int64) (n : ℕ) : Int := min max.toInt (base.toInt * 2 ^ n)

/-! ## Loops that end with a success -/

/-- An attempt, by what it meets with, and whether the loop is cancelled in the wait after it. -/
structure Turn (R : Type) where
  attempt : R
  cancelled : Bool

section

variable {R : Type} (succeeded : R → Bool) (next : Int64 → Int64)

/-- The waits of a loop that attempts something until it succeeds. -/
def retry : Int64 → List (Turn R) → List Int64
  | _, [] => []
  | backoff, turn :: turns =>
    if succeeded turn.attempt then []
    else if turn.cancelled then [backoff]
    else backoff :: retry (next backoff) turns

/-- The loop comes to its `n`-th wait, counted from zero: every attempt up to there failed, and it
was not cancelled before. -/
def Fails : ℕ → List (Turn R) → Prop
  | _, [] => False
  | 0, turn :: _ => succeeded turn.attempt = false
  | n + 1, turn :: turns =>
    succeeded turn.attempt = false ∧ turn.cancelled = false ∧ Fails n turns

variable {succeeded next}

/-- **The waits of a loop** are what it makes of the first one. -/
theorem getElem?_retry {n : ℕ} {turns : List (Turn R)} (h : Fails succeeded n turns)
    (base : Int64) : (retry succeeded next base turns)[n]? = some (next^[n] base) := by
  induction turns generalizing n base with
  | nil => cases n <;> exact h.elim
  | cons turn turns ih =>
    cases n with
    | zero =>
      rw [retry, if_neg (Bool.eq_false_iff.mp h)]
      split_ifs <;> rfl
    | succ n =>
      rw [retry, if_neg (Bool.eq_false_iff.mp h.1), if_neg (Bool.eq_false_iff.mp h.2.1),
        List.getElem?_cons_succ, ih h.2.2, Function.iterate_succ_apply]

theorem Fails.take {n m : ℕ} {turns : List (Turn R)} (h : Fails succeeded n turns) (hlt : n < m) :
    Fails succeeded n (turns.take m) := by
  induction turns generalizing n m with
  | nil => cases n <;> exact h.elim
  | cons turn turns ih =>
    obtain ⟨m, rfl⟩ := Nat.exists_eq_succ_of_ne_zero (Nat.ne_zero_of_lt hlt)
    cases n with
    | zero => exact h
    | succ n => exact ⟨h.1, h.2.1, ih h.2.2 (Nat.lt_of_succ_lt_succ hlt)⟩

/-- **The waits of a loop that doubles up to its maximum.** -/
theorem getElem?_retry_grow {n : ℕ} {turns : List (Turn R)} (h : Fails succeeded n turns)
    {base max : Int64} (hbase : 0 < base.toInt) (hle : base.toInt ≤ max.toInt)
    (hmax : max.toInt ≤ 2 ^ 62) :
    (retry succeeded (grow max) base turns)[n]?.map Int64.toInt = some (capped base max n) := by
  rw [getElem?_retry h, Option.map_some, toInt_iterate_grow_of_le hbase hle hmax, capped]

end

/-! ## Loops that go on -/

/-- A stretch of failures that begins with the pass `n` and goes on for `k` more. -/
structure Stretch (settled : ℕ → Prop) (n k : ℕ) : Prop where
  begins : ∀ m, n = m + 1 → settled m
  fails : ∀ i ≤ k, ¬ settled (n + i)

theorem Stretch.mono {settled : ℕ → Prop} {n k k' : ℕ} (h : Stretch settled n k) (hle : k' ≤ k) :
    Stretch settled n k' :=
  ⟨h.begins, fun i hi ↦ h.fails i (Nat.le_trans hi hle)⟩

theorem Stretch.succ {settled : ℕ → Prop} {n k : ℕ} (h : Stretch settled n k)
    (hfail : ¬ settled (n + k + 1)) : Stretch settled n (k + 1) := by
  refine ⟨h.begins, fun i hi ↦ ?_⟩
  rcases Nat.le_succ_iff.mp hi with hle | rfl
  · exact h.fails i hle
  · exact hfail

/-- Every failure is in a stretch. -/
theorem exists_stretch {settled : ℕ → Prop} {n : ℕ} (h : ¬ settled n) :
    ∃ m k, n = m + k ∧ Stretch settled m k := by
  induction n with
  | zero =>
    refine ⟨0, 0, rfl, fun m hm ↦ by omega, fun i hi ↦ ?_⟩
    rwa [Nat.le_zero.mp hi]
  | succ n ih =>
    by_cases hn : settled n
    · refine ⟨n + 1, 0, rfl, fun m hm ↦ ?_, fun i hi ↦ ?_⟩
      · rwa [← Nat.succ.inj hm]
      · rwa [Nat.le_zero.mp hi]
    · obtain ⟨m, k, rfl, hs⟩ := ih hn
      exact ⟨m, k + 1, rfl, hs.succ h⟩

end Backoff

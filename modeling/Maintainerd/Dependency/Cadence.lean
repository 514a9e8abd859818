import Mathlib.Data.List.Induction
import Mathlib.Logic.Function.Basic
import Maintainerd.Lib.Backoff

/-!
# How often the dependencies are probed

`internal/dependency/dependency.go`: core probes the services it depends on in a loop that never
ends.  Once every one of them answers, it looks again every `Interval`; while one does not,
`InitialBackoff` and `MaxBackoff` "bound the retry cadence", which "starts fast because a cold stack
usually settles in seconds, and backs off".

One variable serves for both, and it is doubled *before* the wait.  So the first wait is not the
initial one but twice that; and after a settled pass the doubling starts from the interval, which
with the defaults is half a minute, the maximum, where a second was meant (`slow_to_start`).
An interval above the maximum is left as it is.

`Reconciler.after` is the loop, one turn after the other, and `Kept` is what is claimed for its
waits.  `settled_pass_iff` says which passes are settled, by the answers of the probes alone.
`cadence_iff` is the condition under which the claim holds: in the first place that the initial and
the maximal backoff are the same, unless the first pass settles.
-/

set_option autoImplicit false

namespace Maintainerd

namespace Dependency

open Backoff

/-! ## The loop -/

/-- `Probe`: its name, and whether it has a check. -/
structure Probe where
  name : String
  check : Bool

/-- `Options` -/
structure Options where
  interval : Int64
  initialBackoff : Int64
  maxBackoff : Int64
  passTimeout : Int64

/-- A default for a duration that is not set. -/
def orDefault (value default : Int64) : Int64 := if value ≤ 0 then default else value

/-- The options as `New` keeps them. -/
def Options.withDefaults (opts : Options) : Options where
  interval := orDefault opts.interval (15 * second)
  initialBackoff := orDefault opts.initialBackoff second
  maxBackoff := orDefault opts.maxBackoff (30 * second)
  passTimeout := orDefault opts.passTimeout (10 * second)

/-- What is known against a dependency. -/
inductive Failure (E : Type) where
  | notProbed
  | failed (err : E)

/-- `Reconciler`.  The keys of its map are the names of the probes. -/
structure Reconciler (E : Type) where
  probes : List Probe
  opts : Options
  state : String → Option (Failure E)

section

variable {E : Type}

/-- `New` -/
def Reconciler.new (probes : List Probe) (opts : Options) : Reconciler E :=
  ⟨probes, opts.withDefaults, fun _ ↦ some .notProbed⟩

/-- `Settled` -/
def Reconciler.settled (r : Reconciler E) : Bool := r.probes.all fun p ↦ (r.state p.name).isNone

/-- What a probe records, by the answers to the checks of the pass. -/
def Probe.outcome (answers : ℕ → Option E) (p : Probe) (i : ℕ) : Option (Failure E) :=
  if p.check then (answers i).map .failed else none

/-- The records of a pass, in the order of the probes. -/
def recordAll (answers : ℕ → Option E) (probes : List Probe)
    (state : String → Option (Failure E)) : String → Option (Failure E) :=
  probes.zipIdx.foldl (fun state p ↦ Function.update state p.1.name (p.1.outcome answers p.2)) state

/-- `pass` -/
def Reconciler.pass (r : Reconciler E) (answers : ℕ → Option E) : Reconciler E :=
  { r with state := recordAll answers r.probes r.state }

/-- The loop of `Run` and its variable. -/
structure Loop (E : Type) where
  reconciler : Reconciler E
  delay : Int64

/-- A turn of the loop up to its wait. -/
def Loop.turn (l : Loop E) (answers : ℕ → Option E) : Loop E :=
  let r := l.reconciler.pass answers
  -- the delay is doubled before the wait, also from the interval of a settled pass
  ⟨r, if r.settled then r.opts.interval else grow r.opts.maxBackoff l.delay⟩

/-- The loop after the pass `n`. -/
def Reconciler.after (r : Reconciler E) (answers : ℕ → ℕ → Option E) : ℕ → Loop E
  | 0 => Loop.turn ⟨r, r.opts.initialBackoff⟩ (answers 0)
  | n + 1 => (r.after answers n).turn (answers (n + 1))

/-- The wait after the pass `n` of `Run`.  Without probes it returns at once. -/
def Reconciler.wait (r : Reconciler E) (answers : ℕ → ℕ → Option E) (n : ℕ) : Option Int64 :=
  if r.probes.isEmpty then none else some (r.after answers n).delay

/-! ## Which passes are settled -/

/-- Every dependency answered.  Of probes of one name the last one counts. -/
def Reached (probes : List Probe) (answers : ℕ → Option E) : Prop :=
  ∀ (i : ℕ) (p : Probe), probes[i]? = some p →
    (∀ (j : ℕ) (q : Probe), i < j → probes[j]? = some q → q.name ≠ p.name) →
    p.check = true → answers i = none

/-- What is recorded for a name is the outcome of the last probe of that name. -/
theorem exists_last (answers : ℕ → Option E) (probes : List Probe)
    (state : String → Option (Failure E)) {name : String} (h : ∃ p ∈ probes, p.name = name) :
    ∃ (i : ℕ) (p : Probe), probes[i]? = some p ∧ p.name = name ∧
      (∀ (j : ℕ) (q : Probe), i < j → probes[j]? = some q → q.name ≠ name) ∧
      recordAll answers probes state name = p.outcome answers i := by
  -- from the end of the list, since the last record for a name is the one that stays
  induction probes using List.reverseRecOn with
  | nil => simp at h
  | append_singleton probes last ih =>
    have hrecord : recordAll answers (probes ++ [last]) state =
        Function.update (recordAll answers probes state) last.name
          (last.outcome answers probes.length) := by
      rw [recordAll, List.zipIdx_append, List.foldl_append]
      simp [recordAll]
    by_cases hlast : last.name = name
    · refine ⟨probes.length, last, by simp, hlast, fun j q hj hq ↦ ?_, ?_⟩
      · rw [List.getElem?_eq_none (by rw [List.length_append, List.length_singleton]; omega)] at hq
        cases hq
      · rw [hrecord, ← hlast, Function.update_self]
    · obtain ⟨p, hp, hname⟩ := h
      have hbefore : p ∈ probes := by
        rcases List.mem_append.mp hp with hmem | hmem
        · exact hmem
        · exact absurd (List.mem_singleton.mp hmem ▸ hname) hlast
      obtain ⟨i, q, hq, hqname, hafter, houtcome⟩ := ih ⟨p, hbefore, hname⟩
      have hi : i < probes.length := (List.getElem?_eq_some_iff.mp hq).1
      refine ⟨i, q, by rw [List.getElem?_append_left hi, hq], hqname, fun j q' hj hq' ↦ ?_, ?_⟩
      · by_cases hjlen : j < probes.length
        · rw [List.getElem?_append_left hjlen] at hq'
          exact hafter j q' hj hq'
        · rw [List.getElem?_append_right (by omega), List.getElem?_singleton] at hq'
          split_ifs at hq' with hzero
          cases hq'
          exact hlast
      · rw [hrecord, Function.update_of_ne (Ne.symm hlast), houtcome]

/-- **A pass is settled exactly if every dependency answered.** -/
theorem settled_pass_iff (r : Reconciler E) (answers : ℕ → Option E) :
    (r.pass answers).settled = true ↔ Reached r.probes answers := by
  rw [Reconciler.settled, List.all_eq_true]
  constructor
  · intro h i p hp hlast hcheck
    have hmem : p ∈ r.probes := List.mem_of_getElem? hp
    obtain ⟨j, q, hq, hname, hafter, houtcome⟩ :=
      exists_last answers r.probes r.state ⟨p, hmem, rfl⟩
    have hij : i = j := by
      rcases Nat.lt_trichotomy i j with hlt | heq | hlt
      · exact absurd hname (hlast j q hlt hq)
      · exact heq
      · exact absurd rfl (hafter i p hlt hp)
    subst hij
    obtain rfl : p = q := Option.some.inj (hp.symm.trans hq)
    have hnone := h p hmem
    rw [show (r.pass answers).state p.name = _ from houtcome, Probe.outcome, if_pos hcheck] at hnone
    simpa using hnone
  · intro h p hp
    obtain ⟨i, q, hq, hname, hafter, houtcome⟩ := exists_last answers r.probes r.state ⟨p, hp, rfl⟩
    rw [show (r.pass answers).state p.name = _ from houtcome, Probe.outcome]
    split_ifs with hcheck
    · rw [h i q hq (hname ▸ hafter) hcheck]
      rfl
    · rfl

end

/-! ## The cadence -/

/-- What the waits of the loop are, by the passes that are settled. -/
structure Waits (o : Options) (settled : ℕ → Prop) (wait : ℕ → Int64) : Prop where
  steady : ∀ n, settled n → wait n = o.interval
  zero : ¬ settled 0 → wait 0 = grow o.maxBackoff o.initialBackoff
  succ : ∀ n, ¬ settled (n + 1) → wait (n + 1) = grow o.maxBackoff (wait n)

/-- **What the waits are meant to be.** -/
structure Kept (o : Options) (settled : ℕ → Prop) (wait : ℕ → Int64) : Prop where
  steady : ∀ n, settled n → wait n = o.interval
  bounded : ∀ n, ¬ settled n → o.initialBackoff ≤ wait n ∧ wait n ≤ o.maxBackoff
  monotone : ∀ n, ¬ settled n → ¬ settled (n + 1) → wait n ≤ wait (n + 1)
  first : ∀ n, ¬ settled n → (∀ m, n = m + 1 → settled m) → wait n = o.initialBackoff

/-- The doubling of the interval gives the initial backoff. -/
def Options.Restarts (o : Options) : Prop :=
  if o.interval < o.maxBackoff then
    o.interval.toInt < 2 ^ 62 ∧
      min o.maxBackoff.toInt (o.interval.toInt * 2) = o.initialBackoff.toInt
  else o.interval = o.initialBackoff

/-- When the waits are what they are meant to be. -/
structure Paced (o : Options) (settled : ℕ → Prop) : Prop where
  start : ¬ settled 0 → o.initialBackoff = o.maxBackoff
  restart : ∀ n, settled n → ¬ settled (n + 1) → o.Restarts
  fits : ∀ n k, Stretch settled n (k + 1) →
    o.initialBackoff.toInt * 2 ^ k < o.maxBackoff.toInt → o.initialBackoff.toInt * 2 ^ k < 2 ^ 62

/-- Options with the defaults in place. -/
structure Options.Valid (o : Options) : Prop where
  interval : 0 < o.interval.toInt
  initial : 0 < o.initialBackoff.toInt
  le : o.initialBackoff.toInt ≤ o.maxBackoff.toInt

section

variable {o : Options} {settled : ℕ → Prop} {wait : ℕ → Int64}

theorem grow_initial_iff (h : o.Valid) :
    grow o.maxBackoff o.initialBackoff = o.initialBackoff ↔ o.initialBackoff = o.maxBackoff := by
  have hinitial := h.initial
  have hle := h.le
  rw [← Int64.toInt_inj, ← Int64.toInt_inj]
  by_cases hlt : o.initialBackoff.toInt < o.maxBackoff.toInt
  · by_cases hbig : 2 ^ 62 ≤ o.initialBackoff.toInt
    · have hneg := toInt_grow_neg hlt hbig
      omega
    · rw [toInt_grow hinitial hle fun _ ↦ by omega]
      omega
  · rw [grow_of_le (by omega)]
    omega

theorem grow_interval_iff (h : o.Valid) :
    grow o.maxBackoff o.interval = o.initialBackoff ↔ o.Restarts := by
  have hinitial := h.initial
  have hinterval := h.interval
  rw [Options.Restarts]
  split_ifs with hlt
  · rw [Int64.lt_iff_toInt_lt] at hlt
    rw [← Int64.toInt_inj]
    by_cases hbig : 2 ^ 62 ≤ o.interval.toInt
    · have hneg := toInt_grow_neg hlt hbig
      omega
    · rw [toInt_grow hinterval (by omega) fun _ ↦ by omega]
      exact ⟨fun heq ↦ ⟨by omega, heq⟩, fun heq ↦ heq.2⟩
  · rw [Int64.lt_iff_toInt_lt] at hlt
    rw [grow_of_le (by omega)]

/-- The first wait of a stretch. -/
theorem Waits.first (h : Waits o settled wait) (ho : o.Valid) (hp : Paced o settled) {n : ℕ}
    (hn : ¬ settled n) (hbegins : ∀ m, n = m + 1 → settled m) : wait n = o.initialBackoff := by
  cases n with
  | zero => exact (h.zero hn).trans ((grow_initial_iff ho).mpr (hp.start hn))
  | succ n =>
    rw [h.succ n hn, h.steady n (hbegins n rfl)]
    exact (grow_interval_iff ho).mpr (hp.restart n (hbegins n rfl) hn)

/-- **The waits of a stretch** are what the doublings make of the first one. -/
theorem Waits.toInt_eq_min (h : Waits o settled wait) (ho : o.Valid) {n k : ℕ}
    (hs : Stretch settled n k) (hfirst : wait n = o.initialBackoff)
    (hfits : ∀ j < k, o.initialBackoff.toInt * 2 ^ j < o.maxBackoff.toInt →
      o.initialBackoff.toInt * 2 ^ j < 2 ^ 62) :
    (wait (n + k)).toInt = min o.maxBackoff.toInt (o.initialBackoff.toInt * 2 ^ k) := by
  have hiterate : ∀ i ≤ k, wait (n + i) = (grow o.maxBackoff)^[i] o.initialBackoff := by
    intro i hi
    induction i with
    | zero => exact hfirst
    | succ i ih =>
      rw [← Nat.add_assoc, h.succ (n + i) (hs.fails (i + 1) hi), ih (Nat.le_of_succ_le hi),
        Function.iterate_succ_apply']
  rw [hiterate k (Nat.le_refl k), toInt_iterate_grow ho.initial ho.le k hfits]

/-- Waits that are kept in bounds do not wrap round: a wait at or above `2 ^ 62` would be followed
by a negative one. -/
theorem Kept.fits (hk : Kept o settled wait) (h : Waits o settled wait) (ho : o.Valid) {n k : ℕ}
    (hs : Stretch settled n (k + 1)) (hlt : o.initialBackoff.toInt * 2 ^ k < o.maxBackoff.toInt) :
    o.initialBackoff.toInt * 2 ^ k < 2 ^ 62 := by
  induction k using Nat.strong_induction_on with
  | h k ih =>
    have hfirst := hk.first n (hs.fails 0 (Nat.zero_le _)) hs.begins
    have hwait := h.toInt_eq_min ho (hs.mono (Nat.le_succ k)) hfirst
      fun j hj hjlt ↦ ih j hj (hs.mono (Nat.succ_le_succ (Nat.le_of_lt hj))) hjlt
    have hfail := hs.fails (k + 1) (Nat.le_refl _)
    have hbound := Int64.le_iff_toInt_le.mp (hk.bounded _ hfail).1
    rw [← Nat.add_assoc, h.succ (n + k) hfail] at hbound
    by_contra hbig
    have hneg : (grow o.maxBackoff (wait (n + k))).toInt < 0 :=
      toInt_grow_neg (by omega) (by omega)
    have hinitial := ho.initial
    omega

/-- The waits are what they are meant to be exactly if the options and the passes are such. -/
theorem kept_iff_paced (h : Waits o settled wait) (ho : o.Valid) :
    Kept o settled wait ↔ Paced o settled := by
  constructor
  · intro hk
    refine ⟨fun hzero ↦ ?_, fun n hn hfail ↦ ?_, fun n k hs ↦ hk.fits h ho hs⟩
    · rw [← grow_initial_iff ho, ← h.zero hzero]
      exact hk.first 0 hzero fun m hm ↦ by omega
    · rw [← grow_interval_iff ho, ← h.steady n hn, ← h.succ n hfail]
      exact hk.first (n + 1) hfail fun m hm ↦ Nat.succ.inj hm ▸ hn
  · intro hp
    have hwait : ∀ n k, Stretch settled n k →
        (wait (n + k)).toInt = min o.maxBackoff.toInt (o.initialBackoff.toInt * 2 ^ k) :=
      fun n k hs ↦ h.toInt_eq_min ho hs (h.first ho hp (hs.fails 0 (Nat.zero_le k)) hs.begins)
        fun j hj ↦ hp.fits n j (hs.mono hj)
    refine ⟨h.steady, fun n hn ↦ ?_, fun n hn hn' ↦ ?_, fun n hn hbegins ↦ h.first ho hp hn hbegins⟩
    · obtain ⟨m, k, rfl, hs⟩ := exists_stretch hn
      rw [Int64.le_iff_toInt_le, Int64.le_iff_toInt_le, hwait m k hs]
      have hpow := Int.mul_le_mul_of_nonneg_left (Int.pow_pos (n := 2) (m := k) (by decide))
        (Int.le_of_lt ho.initial)
      have hle := ho.le
      omega
    · obtain ⟨m, k, rfl, hs⟩ := exists_stretch hn
      have hpos : 0 < o.initialBackoff.toInt * 2 ^ k :=
        Int.mul_pos ho.initial (Int.pow_pos (by decide))
      rw [Int64.le_iff_toInt_le, Nat.add_assoc, hwait m k hs, hwait m (k + 1) (hs.succ hn'),
        Int.pow_succ, ← Int.mul_assoc]
      omega

end

/-! ## The waits of the loop -/

section

variable {E : Type}

/-- What the loop keeps: the probes and the options. -/
theorem after_reconciler (r : Reconciler E) (answers : ℕ → ℕ → Option E) (n : ℕ) :
    ∃ r' : Reconciler E, r'.probes = r.probes ∧ r'.opts = r.opts ∧
      (r.after answers n).reconciler = r'.pass (answers n) := by
  induction n with
  | zero => exact ⟨r, rfl, rfl, rfl⟩
  | succ n ih =>
    obtain ⟨r', hprobes, hopts, hafter⟩ := ih
    refine ⟨(r.after answers n).reconciler, ?_, ?_, rfl⟩
    · rw [hafter]
      exact hprobes
    · rw [hafter]
      exact hopts

theorem settled_after_iff (r : Reconciler E) (answers : ℕ → ℕ → Option E) (n : ℕ) :
    (r.after answers n).reconciler.settled = true ↔ Reached r.probes (answers n) := by
  obtain ⟨r', hprobes, -, hafter⟩ := after_reconciler r answers n
  rw [hafter, settled_pass_iff, hprobes]

theorem delay_turn (l : Loop E) (answers : ℕ → Option E) :
    (l.turn answers).delay = if (l.turn answers).reconciler.settled then
      l.reconciler.opts.interval else grow l.reconciler.opts.maxBackoff l.delay :=
  rfl

theorem waits_after (r : Reconciler E) (answers : ℕ → ℕ → Option E) :
    Waits r.opts (fun n ↦ Reached r.probes (answers n)) fun n ↦ (r.after answers n).delay where
  steady n hn := by
    have hsettled := (settled_after_iff r answers n).mpr hn
    cases n with
    | zero => rw [Reconciler.after, delay_turn, ← Reconciler.after, if_pos hsettled]
    | succ n =>
      obtain ⟨r', -, hopts, hafter⟩ := after_reconciler r answers n
      rw [Reconciler.after, delay_turn, ← Reconciler.after, if_pos hsettled, hafter]
      exact congrArg Options.interval hopts
  zero hn := by
    have hsettled := mt (settled_after_iff r answers 0).mp hn
    rw [Reconciler.after, delay_turn, ← Reconciler.after, if_neg hsettled]
  succ n hn := by
    have hsettled := mt (settled_after_iff r answers (n + 1)).mp hn
    obtain ⟨r', -, hopts, hafter⟩ := after_reconciler r answers n
    rw [Reconciler.after, delay_turn, ← Reconciler.after, if_neg hsettled, hafter]
    exact congrArg (fun o ↦ grow (Options.maxBackoff o) _) hopts

/-- **What `Run` is for**, as far as its waits go. -/
def Cadence (r : Reconciler E) (answers : ℕ → ℕ → Option E) : Prop :=
  ∀ wait : ℕ → Int64, (∀ n, r.wait answers n = some (wait n)) →
    Kept r.opts (fun n ↦ (r.after answers n).reconciler.settled = true) wait

theorem orDefault_pos (value : Int64) {default : Int64} (h : 0 < default.toInt) :
    0 < (orDefault value default).toInt := by
  rw [orDefault]
  split_ifs with hle
  · exact h
  · rw [Int64.le_iff_toInt_le] at hle
    exact Int.not_le.mp hle

theorem Options.valid_withDefaults {opts : Options}
    (h : opts.withDefaults.initialBackoff ≤ opts.withDefaults.maxBackoff) :
    opts.withDefaults.Valid where
  interval := orDefault_pos _ (by decide)
  initial := orDefault_pos _ (by decide)
  le := Int64.le_iff_toInt_le.mp h

/-- **When the cadence is kept.**  Between the passes of `Run` the loop waits as it is meant to
exactly if, first, the initial and the maximal backoff are the same, unless the first pass settles;
second, the double of the interval is the initial backoff, if ever a pass that settles is followed
by one that does not; and third, no stretch is so long that the doubling wraps round. -/
theorem cadence_iff (probes : List Probe) (opts : Options)
    (hle : opts.withDefaults.initialBackoff ≤ opts.withDefaults.maxBackoff)
    (answers : ℕ → ℕ → Option E) :
    Cadence (.new probes opts) answers ↔
      probes = [] ∨ Paced opts.withDefaults fun n ↦ Reached probes (answers n) := by
  have hvalid := Options.valid_withDefaults hle
  have hwaits := waits_after (.new probes opts) answers
  have hsettled : (fun n ↦ ((Reconciler.new probes opts).after answers n).reconciler.settled = true)
      = fun n ↦ Reached probes (answers n) :=
    funext fun n ↦ propext (settled_after_iff (.new probes opts) answers n)
  rw [Cadence, hsettled]
  rcases probes with _ | ⟨p, probes⟩
  · refine ⟨fun _ ↦ Or.inl rfl, fun _ wait hwait ↦ ?_⟩
    cases hwait 0
  · constructor
    · intro h
      exact Or.inr ((kept_iff_paced hwaits hvalid).mp (h _ fun n ↦ rfl))
    · rintro (hnil | hpaced) wait hwait
      · cases hnil
      · obtain rfl : (fun n ↦ ((Reconciler.new (p :: probes) opts).after answers n).delay) = wait :=
          funext fun n ↦ Option.some.inj (hwait n)
        exact (kept_iff_paced hwaits hvalid).mpr hpaced

end

/-- One dependency. -/
def vault : List Probe := [⟨"secret", true⟩]

/-- The dependency answers on some passes only. -/
def answersOn (up : ℕ → Bool) (n _i : ℕ) : Option String :=
  if up n then none else some "connection refused"

/-- Half a minute between retries, and half of that between settled passes. -/
def even : Options := ⟨15 * second, 30 * second, 30 * second, 0⟩

theorem cadence_iff_even :
    even.withDefaults.initialBackoff ≤ even.withDefaults.maxBackoff ∧
    Cadence (.new vault even) (answersOn fun n ↦ n % 2 == 1) := by
  refine ⟨by decide, (cadence_iff vault even (by decide) _).mpr (Or.inr ?_)⟩
  refine ⟨fun _ ↦ by decide, fun _ _ _ ↦ by unfold Options.Restarts; decide, fun n k _ hlt ↦ ?_⟩
  have hpow : (1 : Int) ≤ 2 ^ k := Int.pow_pos (by decide)
  have hinitial : even.withDefaults.initialBackoff.toInt = 30000000000 := by decide
  have hmax : even.withDefaults.maxBackoff.toInt = 30000000000 := by decide
  omega

/-- Options with nothing set but the interval. -/
def every (interval : Int64) : Options := ⟨interval, 0, 0, 0⟩

/-- With the defaults the first retry is after two seconds, not one, and after a settled pass it is
after half a minute.  An interval of a minute is kept while nothing answers, past the maximum. -/
theorem slow_to_start :
    (every 0).withDefaults.initialBackoff = second ∧
    (every (60 * second)).withDefaults.maxBackoff = 30 * second ∧
    (Reconciler.new vault (every 0)).wait (answersOn fun _ ↦ false) 0 = some (2 * second) ∧
    (Reconciler.new vault (every 0)).wait (answersOn fun n ↦ n == 0) 1 = some (30 * second) ∧
    (Reconciler.new vault (every (60 * second))).wait (answersOn fun n ↦ n == 0) 1 =
      some (60 * second) := by
  decide

end Dependency

end Maintainerd

import HttpRetry.Policy.Basic
import HttpRetry.Proofs.Act
import HttpRetry.Proofs.Number.Range

/-!
# The waits of a policy

`Policy.wait` is the sequence that a policy describes, by itself. `Serves` ties a
generator to the waits that were made of it: they are the first of the sequence,
and the generator holds the next. Every draw keeps this.
-/

namespace HttpRetry

/-! ## Draws -/

namespace Backoff

inductive Drawn (b : Backoff) : Except Fault (Option Number) × Backoff → Prop
  | kept {result} (started : Option Int) (nothing : ∀ m, result ≠ .ok (some m)) :
      Drawn b (result, { b with startedAt := started })
  /-- The wait after the next is out of range: the draw counts but hands nothing out. -/
  | lost {e started} (unspent : b.isSpent = false) :
      Drawn b (.error e, { b with attempts := b.attempts + 1, startedAt := started })
  | handed {interval started} (unspent : b.isSpent = false)
      (next : grow b.schedule b.interval = .ok interval) :
      Drawn b (.ok (some b.interval),
        { b with attempts := b.attempts + 1, interval, startedAt := started })

theorem nextAt_drawn (ambient : Except RangeError Int) (b : Backoff) :
    Drawn b (b.nextAt ambient) := by
  unfold nextAt
  cases b.reading ambient with
  | error e =>
    simp only
    split
    · exact .kept b.startedAt (by simp)
    · exact .kept b.startedAt (by simp)
  | ok now =>
    simp only [next]
    by_cases stop : ((b.begin now).isSpent || (b.begin now).isLate now) = true
    · rw [if_pos stop]
      exact .kept (some (b.startedAt.getD now)) fun _ h => by cases h
    · rw [if_neg stop]
      have unspent : b.isSpent = false := by
        simp only [Bool.or_eq_true, not_or, Bool.not_eq_true] at stop
        exact stop.1
      cases next : grow (b.begin now).schedule (b.begin now).interval with
      | error e => exact .lost unspent
      | ok interval => exact .handed unspent next

section
variable {b : Backoff} (noClock : b.givenClock = none) {now : Int}
include noClock

theorem reading_eq (ambient : Except RangeError Int) : b.reading ambient = ofRange ambient := by
  simp only [reading, noClock]

theorem nextAt_of_stop (stop : (b.isSpent || (b.begin now).isLate now) = true) :
    b.nextAt (.ok now) = (.ok none, b.begin now) := by
  have stopped : ((b.begin now).isSpent || (b.begin now).isLate now) = true := stop
  simp only [nextAt, reading_eq noClock, ofRange_ok, next, if_pos stopped]

variable (going : ¬(b.isSpent || (b.begin now).isLate now) = true)
include going

theorem nextAt_of_grow_error {e : RangeError} (grown : grow b.schedule b.interval = .error e) :
    b.nextAt (.ok now) =
      (.error (.range e), { b.begin now with attempts := b.attempts + 1 }) := by
  have begun : ¬((b.begin now).isSpent || (b.begin now).isLate now) = true := going
  have step : grow (b.begin now).schedule (b.begin now).interval = .error e := grown
  simp only [nextAt, reading_eq noClock, ofRange_ok, next, if_neg begun, step]
  rfl

theorem nextAt_of_grow_ok {interval : Number} (grown : grow b.schedule b.interval = .ok interval) :
    b.nextAt (.ok now) = (.ok (some b.interval),
      { b.begin now with attempts := b.attempts + 1, interval }) := by
  have begun : ¬((b.begin now).isSpent || (b.begin now).isLate now) = true := going
  have step : grow (b.begin now).schedule (b.begin now).interval = .ok interval := grown
  simp only [nextAt, reading_eq noClock, ofRange_ok, next, if_neg begun, step]
  rfl

end

end Backoff

/-! ## Growth -/

namespace Schedule

variable (schedule : Schedule)

theorem ceiling_pos : Number.lt 0 schedule.ceiling = true := by
  obtain ⟨first, hf⟩ := Number.toRat?_isSome schedule.initial_finite
  obtain ⟨most, hm⟩ := Number.toRat?_isSome schedule.ceiling_finite
  have pos := (Number.lt_iff (Number.toRat?_int 0) hf).mp schedule.initial_pos
  have le := (Number.le_iff hf hm).mp schedule.initial_le_ceiling
  exact (Number.lt_iff (Number.toRat?_int 0) hm).mpr (pos.trans_le le)

theorem isUnsigned_least {i : Int} (h : 0 ≤ i) :
    (Number.least i schedule.ceiling).IsUnsigned := by
  unfold Number.least
  split
  · exact Number.isUnsigned_of_lt schedule.ceiling_pos
  · exact h

theorem isUnsigned_multiplier : schedule.multiplier.IsUnsigned := by
  obtain ⟨q, hq⟩ := Number.toRat?_isSome schedule.multiplier_finite
  have le := (Number.le_iff (Number.toRat?_int 1) hq).mp schedule.one_le_multiplier
  refine Number.isUnsigned_of_lt ((Number.lt_iff (Number.toRat?_int 0) hq).mpr ?_)
  exact lt_of_lt_of_le (by norm_num) le

end Schedule

namespace Backoff

variable {schedule : Schedule} {last m : Number}

theorem exists_of_grow (h : grow schedule last = .ok m) :
    ∃ product whole, last.mul schedule.multiplier = .ok product ∧
      product.truncate = .ok whole ∧ m = Number.least whole schedule.ceiling := by
  obtain ⟨product, product_eq, h⟩ := exists_of_bind_ok h
  obtain ⟨whole, whole_eq, h⟩ := exists_of_bind_ok h
  exact ⟨product, whole, product_eq, whole_eq, (Except.ok.inj h).symm⟩

theorem grow_of_truncate {whole : Int}
    (h : (do (← last.mul schedule.multiplier).truncate) = .ok whole) :
    grow schedule last = .ok (Number.least whole schedule.ceiling) := by
  obtain ⟨product, product_eq, truncated⟩ := exists_of_bind_ok h
  simp [grow, product_eq, truncated, bind, Except.bind, pure, Except.pure]

theorem truncate_of_grow (h : grow schedule last = .ok m) :
    ∃ whole : Int, (do (← last.mul schedule.multiplier).truncate) = .ok whole ∧
      m = Number.least whole schedule.ceiling := by
  obtain ⟨product, whole, product_eq, truncated, m_eq⟩ := exists_of_grow h
  refine ⟨whole, ?_, m_eq⟩
  rw [product_eq]
  exact truncated

theorem isUnsigned_of_grow (h : grow schedule last = .ok m) (unsigned : last.IsUnsigned) :
    m.IsUnsigned := by
  obtain ⟨product, whole, hp, hw, rfl⟩ := exists_of_grow h
  exact schedule.isUnsigned_least
    ((unsigned.mul schedule.isUnsigned_multiplier hp).truncate hw)

end Backoff

/-! ## The sequence -/

namespace Policy

/-- The waits that a policy describes, in milliseconds: first the initial interval, and
after each wait the whole part of its multiple, within the ceiling. -/
def wait (p : Policy) : Nat → Except RangeError Number
  | 0 => .ok (.int Defaults.initialIntervalMillis)
  | k + 1 => do
    let product ← (← p.wait k).mul p.multiplier
    let whole ← product.truncate
    return Number.least whole p.ceiling

def seconds (p : Policy) (k : Nat) : Except RangeError Double := do
  (← p.wait k).millisToSeconds

structure Allows (p : Policy) (millis : Number) : Prop where
  nonneg : Number.le 0 millis = true
  le_ceiling : millis.le p.ceiling = true

variable {p : Policy} {m : Number} {k : Nat}

theorem wait_succ (h : p.wait k = .ok m) : p.wait (k + 1) = Backoff.grow p.schedule m := by
  simp only [wait, h]
  rfl

theorem ceiling_pos : Number.lt 0 p.ceiling = true :=
  p.schedule.ceiling_pos

theorem Allows.isFinite (h : p.Allows m) : m.isFinite = true :=
  Number.isFinite_of_le h.nonneg p.ceiling_finite h.le_ceiling

theorem Allows.millisToSeconds (h : p.Allows m) : ∃ w, m.millisToSeconds = .ok w := by
  have finite := h.isFinite
  unfold Number.isFinite at finite
  cases hd : m.toDouble with
  | error => simp [hd] at finite
  | ok d => exact ⟨d.divNat 1000, by simp [Number.millisToSeconds, hd, bind, Except.bind]; rfl⟩

theorem allows_least {i : Int} (h : 0 ≤ i) : p.Allows (Number.least i p.ceiling) := by
  obtain ⟨q, hq⟩ := Number.toRat?_isSome p.ceiling_finite
  have pos := (Number.lt_iff (Number.toRat?_int 0) hq).mp ceiling_pos
  have least_eq := Number.toRat?_least (Number.toRat?_int i) hq
  constructor
  · refine (Number.le_iff (Number.toRat?_int 0) least_eq).mpr (le_min ?_ pos.le)
    exact_mod_cast h
  · rw [Number.le_iff least_eq hq]
    exact min_le_right _ _

theorem isUnsigned_least {i : Int} (h : 0 ≤ i) : (Number.least i p.ceiling).IsUnsigned :=
  p.schedule.isUnsigned_least h

theorem isUnsigned_multiplier : p.multiplier.IsUnsigned :=
  p.schedule.isUnsigned_multiplier

theorem exists_of_grow {last : Number} (h : Backoff.grow p.schedule last = .ok m) :
    ∃ product whole, last.mul p.multiplier = .ok product ∧ product.truncate = .ok whole ∧
      m = Number.least whole p.ceiling :=
  Backoff.exists_of_grow h

theorem allows_wait (h : p.wait k = .ok m) : p.Allows m ∧ m.IsUnsigned := by
  induction k generalizing m with
  | zero =>
    cases h
    have nonneg : (0 : Int) ≤ Defaults.initialIntervalMillis := by decide
    exact ⟨⟨by decide +kernel, p.initial_le_ceiling⟩, nonneg⟩
  | succ k ih =>
    cases before : p.wait k with
    | error => simp [wait, before, bind, Except.bind] at h
    | ok last =>
      obtain ⟨-, unsigned⟩ := ih before
      rw [wait_succ before] at h
      obtain ⟨product, whole, hp, hw, rfl⟩ := exists_of_grow h
      have nonneg := (unsigned.mul isUnsigned_multiplier hp).truncate hw
      exact ⟨allows_least nonneg, isUnsigned_least nonneg⟩

/-! ## Generators of a policy -/

structure Follows (p : Policy) (waits : List Double) : Prop where
  length_le : waits.length ≤ p.maxRetries
  map_eq : waits.map .ok = (List.range waits.length).map p.seconds

theorem follows_nil : p.Follows [] :=
  ⟨Nat.zero_le _, rfl⟩

/-- A generator of the policy after the given waits. It holds the next wait as long as
there is something to wait by. -/
structure Serves (p : Policy) (waits : List Double) (b : Backoff) : Prop where
  schedule : b.schedule = p.schedule
  attempts_le : b.attempts ≤ p.maxRetries
  follows : p.Follows waits
  current : p.sleeper = .sleeper →
    waits.length ≤ b.attempts ∧ p.wait waits.length = .ok b.interval

theorem serves_newBackoff : p.Serves [] p.newBackoff :=
  ⟨rfl, Nat.zero_le _, follows_nil, fun _ => ⟨Nat.le_refl _, rfl⟩⟩

variable {waits : List Double} {b : Backoff}

theorem Serves.lt_of_unspent (h : p.Serves waits b) (unspent : b.isSpent = false) :
    b.attempts < p.maxRetries := by
  simpa [Backoff.isSpent, h.schedule, Policy.schedule] using unspent

/-- A draw that is not waited for leaves the generator with the waits there were. -/
theorem Serves.nextAt (h : p.Serves waits b) (ambient : Except RangeError Int)
    (nothing : p.sleeper = .sleeper → ∀ m, (b.nextAt ambient).1 ≠ .ok (some m)) :
    p.Serves waits (b.nextAt ambient).2 := by
  have drawn := Backoff.nextAt_drawn ambient b
  generalize b.nextAt ambient = reply at drawn nothing
  cases drawn with
  | kept => exact ⟨h.schedule, h.attempts_le, h.follows, h.current⟩
  | lost unspent =>
    refine ⟨h.schedule, h.lt_of_unspent unspent, h.follows, fun callable => ?_⟩
    obtain ⟨length_le, interval⟩ := h.current callable
    exact ⟨Nat.le_succ_of_le length_le, interval⟩
  | handed unspent next =>
    exact ⟨h.schedule, h.lt_of_unspent unspent, h.follows, fun callable =>
      absurd rfl (nothing callable _)⟩

/-- What is handed out is the next wait, and the generator then holds the one after. -/
theorem Serves.nextAt_some (h : p.Serves waits b) {ambient : Except RangeError Int}
    (handed : (b.nextAt ambient).1 = .ok (some m)) (callable : p.sleeper = .sleeper) :
    p.Allows m ∧ ∃ w, m.millisToSeconds = .ok w ∧
      p.Serves (waits ++ [w]) (b.nextAt ambient).2 := by
  obtain ⟨length_le, interval⟩ := h.current callable
  have drawn := Backoff.nextAt_drawn ambient b
  generalize b.nextAt ambient = reply at drawn handed
  cases drawn with
  | kept _ nothing => exact absurd handed (nothing m)
  | lost => cases handed
  | handed unspent next =>
    cases handed
    have lt := h.lt_of_unspent unspent
    obtain ⟨allowed, -⟩ := allows_wait interval
    obtain ⟨w, hw⟩ := allowed.millisToSeconds
    have seconds_eq : p.seconds waits.length = .ok w := by
      simp [seconds, interval, hw, bind, Except.bind]
    refine ⟨allowed, w, hw, h.schedule, lt, ⟨?_, ?_⟩, fun _ => ⟨?_, ?_⟩⟩
    · rw [List.length_append, List.length_singleton]
      omega
    · rw [List.length_append, List.length_singleton, List.range_succ, List.map_append,
        List.map_append, h.follows.map_eq]
      simp [seconds_eq]
    · rw [List.length_append, List.length_singleton]
      exact Nat.succ_le_succ length_le
    · rw [List.length_append, List.length_singleton, wait_succ interval, ← h.schedule]
      exact next

end Policy

end HttpRetry

import HttpRetry.Policy.Build
import HttpRetry.Proofs.Backoff.Waits
import HttpRetry.Proofs.Number.Product

/-!
# Growth within a policy

A generator of a policy can fail in one way only: the wait after the next is computed
before the next is handed out, and the product of the interval and the multiplier may
be rounded to infinity, since a policy bounds each of its numbers and not their product.
-/

namespace HttpRetry.Policy

variable {p : Policy} {b : Backoff} {m : Number}

inductive Reaches (p : Policy) : Backoff → Prop
  | start : Reaches p p.newBackoff
  | nextAt {b : Backoff} (ambient : Except RangeError Int) (before : Reaches p b) :
      Reaches p (b.nextAt ambient).2
  | reset {b : Backoff} (before : Reaches p b) : Reaches p b.reset

/-- What calls on a generator of the policy keep. An interval is the whole part of a
product, or the ceiling with the ceiling's own kind. -/
structure Runs (p : Policy) (b : Backoff) : Prop where
  schedule : b.schedule = p.schedule
  noClock : b.givenClock = none
  allows : p.Allows b.interval
  unsigned : b.interval.IsUnsigned
  whole_or_ceiling : (∃ i, b.interval = .int i) ∨ b.interval = p.ceiling

theorem runs_newBackoff : p.Runs p.newBackoff := by
  obtain ⟨allows, unsigned⟩ := allows_wait (p := p) (k := 0) rfl
  exact ⟨rfl, rfl, allows, unsigned, .inl ⟨_, rfl⟩⟩

theorem Runs.reset_eq (h : p.Runs b) : b.reset = p.newBackoff := by
  simp only [Backoff.reset, h.schedule, h.noClock]
  rfl

theorem Runs.reset (h : p.Runs b) : p.Runs b.reset :=
  h.reset_eq ▸ runs_newBackoff

theorem whole_or_ceiling_least (i : Int) :
    (∃ j, Number.least i p.ceiling = .int j) ∨ Number.least i p.ceiling = p.ceiling := by
  unfold Number.least
  split
  · exact .inr rfl
  · exact .inl ⟨i, rfl⟩

theorem Runs.of_drawn (h : p.Runs b) {reply : Except Fault (Option Number) × Backoff}
    (drawn : Backoff.Drawn b reply) : p.Runs reply.2 := by
  cases drawn with
  | kept => exact ⟨h.schedule, h.noClock, h.allows, h.unsigned, h.whole_or_ceiling⟩
  | lost => exact ⟨h.schedule, h.noClock, h.allows, h.unsigned, h.whole_or_ceiling⟩
  | handed unspent next =>
    rw [h.schedule] at next
    obtain ⟨product, whole, hp, hw, rfl⟩ := exists_of_grow next
    have nonneg := (h.unsigned.mul isUnsigned_multiplier hp).truncate hw
    exact ⟨h.schedule, h.noClock, allows_least nonneg, isUnsigned_least nonneg,
      whole_or_ceiling_least whole⟩

theorem Runs.nextAt (h : p.Runs b) (ambient : Except RangeError Int) :
    p.Runs (b.nextAt ambient).2 :=
  h.of_drawn (Backoff.nextAt_drawn ambient b)

theorem Reaches.runs (h : p.Reaches b) : p.Runs b := by
  induction h with
  | start => exact runs_newBackoff
  | nextAt ambient _ ih => exact ih.nextAt ambient
  | reset _ ih => exact ih.reset

/-! ## What a call comes to -/

theorem Runs.overflows_ceiling (h : p.Runs b) (overflows : b.interval.Overflows p.multiplier) :
    p.ceiling.Overflows p.multiplier := by
  obtain ⟨interval, hi⟩ := Number.toRat?_isSome h.allows.isFinite
  obtain ⟨factor, hf⟩ := Number.toRat?_isSome p.multiplier_finite
  obtain ⟨ceiling, hc⟩ := Number.toRat?_isSome p.ceiling_finite
  have one_le := (Number.le_iff (Number.toRat?_int 1) hf).mp p.one_le_multiplier
  have nonneg := (Number.le_iff (Number.toRat?_int 0) hi).mp h.allows.nonneg
  have le := (Number.le_iff hi hc).mp h.allows.le_ceiling
  have doubles : (p.ceiling.isExact && p.multiplier.isExact) = false := by
    -- an interval that is an integer needs a multiplier that is a double
    rcases h.whole_or_ceiling with ⟨i, eq⟩ | eq
    · have mixed := overflows.1
      rw [eq, Number.isExact_int, Bool.true_and] at mixed
      rw [mixed, Bool.and_false]
    · exact eq ▸ overflows.1
  refine overflows.of_le hi hf ?_ ?_ hc le doubles
  · exact_mod_cast nonneg
  · exact le_trans (by norm_num) one_le

theorem grow_eq_error_iff (m : Number) (e : RangeError) :
    Backoff.grow p.schedule m = .error e ↔ (do (← m.mul p.multiplier).truncate) = .error e := by
  unfold Backoff.grow
  cases hp : m.mul p.multiplier with
  | error => simp [hp, schedule, bind, Except.bind]
  | ok product =>
    cases hw : product.truncate with
    | error => simp [hp, hw, schedule, bind, Except.bind]
    | ok => simp [hp, hw, schedule, bind, Except.bind, pure, Except.pure]

theorem Runs.grow_eq_error_iff (h : p.Runs b) (e : RangeError) :
    Backoff.grow b.schedule b.interval = .error e ↔
      e = .infinityToInteger ∧ b.interval.Overflows p.multiplier := by
  obtain ⟨interval, hi⟩ := Number.toRat?_isSome h.allows.isFinite
  obtain ⟨factor, hf⟩ := Number.toRat?_isSome p.multiplier_finite
  have one_le := (Number.le_iff (Number.toRat?_int 1) hf).mp p.one_le_multiplier
  have nonneg := (Number.le_iff (Number.toRat?_int 0) hi).mp h.allows.nonneg
  rw [h.schedule, Policy.grow_eq_error_iff]
  refine Number.truncate_mul_iff hi hf ?_ ?_ h.allows.isFinite p.multiplier_finite e
  · exact_mod_cast nonneg
  · exact le_trans (by norm_num) one_le

theorem Runs.nextAt_eq_error_iff (h : p.Runs b) (now : Int) (e : Fault) :
    (b.nextAt (.ok now)).1 = .error e ↔ e = .range .infinityToInteger ∧
      b.isSpent = false ∧ (b.begin now).isLate now = false ∧
      b.interval.Overflows p.multiplier := by
  by_cases stop : (b.isSpent || (b.begin now).isLate now) = true
  · rw [Backoff.nextAt_of_stop h.noClock stop]
    constructor
    · intro failed
      cases failed
    · rintro ⟨-, unspent, early, -⟩
      rw [unspent, early] at stop
      cases stop
  · have going := stop
    rw [Bool.not_eq_true, Bool.or_eq_false_iff] at going
    simp only [going, true_and]
    cases grown : Backoff.grow b.schedule b.interval with
    | ok interval =>
      rw [Backoff.nextAt_of_grow_ok h.noClock stop grown]
      constructor
      · intro failed
        cases failed
      · rintro ⟨-, overflows⟩
        have failed := (h.grow_eq_error_iff .infinityToInteger).mpr ⟨rfl, overflows⟩
        rw [grown] at failed
        cases failed
    | error reason =>
      obtain ⟨rfl, overflows⟩ := (h.grow_eq_error_iff reason).mp grown
      rw [Backoff.nextAt_of_grow_error h.noClock stop grown]
      constructor
      · intro failed
        cases failed
        exact ⟨rfl, overflows⟩
      · rintro ⟨rfl, -⟩
        rfl

theorem Runs.allows_nextAt (h : p.Runs b) (ambient : Except RangeError Int)
    (handed : (b.nextAt ambient).1 = .ok (some m)) : p.Allows m := by
  have drawn := Backoff.nextAt_drawn ambient b
  generalize b.nextAt ambient = reply at drawn handed
  cases drawn with
  | kept _ nothing => exact absurd handed (nothing m)
  | lost => cases handed
  | handed =>
    cases handed
    exact h.allows

theorem newBackoff_going (granted : 0 < p.maxRetries) (now : Int) :
    ¬(p.newBackoff.isSpent || (p.newBackoff.begin now).isLate now) = true := by
  have unspent : p.newBackoff.isSpent = false := decide_eq_false (Nat.not_le.mpr granted)
  have early : (p.newBackoff.begin now).isLate now = false := by
    simp [newBackoff, Backoff.start, Backoff.begin, Backoff.isLate, Backoff.elapsed, schedule,
      Defaults.maxElapsedMillis]
  rw [unspent, early]
  decide

/-- What a generator of a policy hands out is from 0 to the ceiling. A call at a clock
reading raises exactly when a wait is due but the one after it overflows, and never if
the ceiling times the multiplier is in range. -/
theorem nextAt_of_reaches (h : p.Reaches b) (now : Int) :
    (∀ m, (b.nextAt (.ok now)).1 = .ok (some m) → p.Allows m) ∧
    (∀ e, (b.nextAt (.ok now)).1 = .error e ↔ e = .range .infinityToInteger ∧
      b.isSpent = false ∧ (b.begin now).isLate now = false ∧
      b.interval.Overflows p.multiplier) ∧
    (¬p.ceiling.Overflows p.multiplier → ∃ result, (b.nextAt (.ok now)).1 = .ok result) := by
  refine ⟨fun m => h.runs.allows_nextAt _, h.runs.nextAt_eq_error_iff now, fun within => ?_⟩
  cases reply : (b.nextAt (.ok now)).1 with
  | ok result => exact ⟨result, rfl⟩
  | error e =>
    obtain ⟨-, -, -, overflows⟩ := (h.runs.nextAt_eq_error_iff now e).mp reply
    exact absurd (h.runs.overflows_ceiling overflows) within

def steep : Policy :=
  { clientDefault with
    maxRetries := 2
    multiplier := .double (Double.ofInt (10 ^ 308))
    multiplier_finite := by decide +kernel
    one_le_multiplier := by decide +kernel }

/-- The first wait of a steep policy is due, and the one after it overflows. -/
theorem nextAt_of_reaches_steep :
    steep.Reaches steep.newBackoff ∧ steep.newBackoff.interval.Overflows steep.multiplier := by
  have raised : (steep.newBackoff.nextAt (.ok 0)).1 = .error (.range .infinityToInteger) :=
    congrArg Prod.fst
      (Backoff.nextAt_of_grow_error rfl (newBackoff_going two_pos 0) (by decide +kernel))
  exact ⟨.start, (((nextAt_of_reaches .start 0).2.1 _).mp raised).2.2.2⟩

/-- A policy is accepted whose generator fails at the first call. -/
theorem build_steep_raises :
    ∃ p, build (.map [(.text "max_retries", .int 1),
        (.text "backoff_multiplier", .double (Double.ofInt (10 ^ 308)))]) = .ok p ∧
      (p.newBackoff.nextAt (.ok 0)).1 = .error (.range .infinityToInteger) := by
  generalize options_eq : Value.map _ = options
  have accepted : (build options).toOption.map
      (fun p => (p.maxRetries, Backoff.grow p.schedule p.newBackoff.interval)) =
        some (1, .error .infinityToInteger) := by
    subst options_eq
    decide +kernel
  cases built : build options with
  | error => simp [built, Except.toOption] at accepted
  | ok p =>
    simp only [built, Except.toOption, Option.map_some, Option.some.injEq, Prod.mk.injEq] at accepted
    refine ⟨p, rfl, congrArg Prod.fst (Backoff.nextAt_of_grow_error rfl ?_ accepted.2)⟩
    exact newBackoff_going (by rw [accepted.1]; exact one_pos) 0

end HttpRetry.Policy

import HttpRetry.Proofs.Backoff.Asking
import HttpRetry.Proofs.Backoff.Requested

/-!
# Waits that are powers

Where the first wait, the ceiling and the multiplier are integers nothing is rounded. The waits
are the multiples of the first by the powers of the multiplier, and to take the ceiling for one
that is above it comes to the same as to cap each wait before the next is computed from it.
-/

namespace HttpRetry.Backoff

variable {schedule : Schedule} {calls : List Call} {b : Backoff}
variable {first most factor : Int}

def powerWait (first most factor : Int) (k : Nat) : Int :=
  min (first * factor ^ k) most

/-- A wait that is capped grows past the ceiling again, unless the ceiling is negative. -/
theorem powerWait_succ (nonneg : 0 ≤ most) (one_le : 1 ≤ factor) (k : Nat) :
    min (powerWait first most factor k * factor) most = powerWait first most factor (k + 1) := by
  unfold powerWait
  rw [pow_succ, ← mul_assoc]
  rcases le_total (first * factor ^ k) most with below | above
  · rw [min_eq_left below]
  · have capped : most ≤ most * factor := le_mul_of_one_le_right nonneg one_le
    have uncapped : most * factor ≤ first * factor ^ k * factor :=
      mul_le_mul_of_nonneg_right above (by omega)
    rw [min_eq_right above, min_eq_right capped, min_eq_right (capped.trans uncapped)]

structure OfInts (schedule : Schedule) (first most factor : Int) : Prop where
  initial : schedule.initial = .int first
  ceiling : schedule.ceiling = .int most
  multiplier : schedule.multiplier = .int factor

theorem OfInts.bounds (h : OfInts schedule first most factor) :
    0 < first ∧ first ≤ most ∧ 1 ≤ factor := by
  have pos := schedule.initial_pos
  have le := schedule.initial_le_ceiling
  have one_le := schedule.one_le_multiplier
  rw [h.initial] at pos le
  rw [h.ceiling] at le
  rw [h.multiplier] at one_le
  exact ⟨of_decide_eq_true ((Number.lt_int 0 first).symm.trans pos),
    of_decide_eq_true ((Number.le_int first most).symm.trans le),
    of_decide_eq_true ((Number.le_int 1 factor).symm.trans one_le)⟩

theorem OfInts.grow (h : OfInts schedule first most factor) (wait : Int) :
    grow schedule (.int wait) = .ok (.int (min (wait * factor) most)) := by
  unfold Backoff.grow
  rw [h.multiplier, h.ceiling]
  exact congrArg Except.ok (Number.least_int _ _)

structure Multiplies (first most factor : Int) (found : List Number) (interval : Number) :
    Prop where
  interval_eq : interval = .int (powerWait first most factor found.length)
  found_eq : found = (List.range found.length).map fun k => .int (powerWait first most factor k)

theorem OfInts.multiplies_initial (h : OfInts schedule first most factor) :
    Multiplies first most factor [] schedule.initial := by
  obtain ⟨-, le, -⟩ := h.bounds
  refine ⟨?_, rfl⟩
  unfold powerWait
  rw [List.length_nil, pow_zero, mul_one, min_eq_left le]
  exact h.initial

theorem OfInts.multiplies_handed (h : OfInts schedule first most factor) {found : List Number}
    {interval next : Number} (before : Multiplies first most factor found interval)
    (grown : Backoff.grow schedule interval = .ok next) :
    Multiplies first most factor (found ++ [interval]) next := by
  obtain ⟨pos, le, one_le⟩ := h.bounds
  obtain ⟨interval_eq, found_eq⟩ := before
  constructor
  · rw [interval_eq, h.grow, powerWait_succ (by omega) one_le] at grown
    rw [List.length_append, List.length_singleton]
    exact (Except.ok.inj grown).symm
  · rw [List.length_append, List.length_singleton, List.range_succ, List.map_append,
      List.map_singleton, ← found_eq, interval_eq]

/-- However a generator of integers is asked, the waits that it has handed out since it was
made, or since it was started anew, are the capped multiples of the first one by powers. -/
theorem waits_of_ints {request : Schedule.Request} {fresh : Backoff}
    (built : ofRequest request = .ok fresh) (initial : request.initial = .int first)
    (ceiling : request.ceiling = .int most) (multiplier : request.multiplier = .int factor)
    (run : Run fresh.schedule fresh.givenClock calls b) :
    waits calls =
      (List.range (waits calls).length).map fun k => .int (min (first * factor ^ k) most) := by
  obtain ⟨schedule, rfl, meets⟩ := exists_of_ofRequest built
  have ints : OfInts schedule first most factor :=
    { initial := Value.number.inj (meets.initial.symm.trans initial)
      ceiling := Value.number.inj (meets.ceiling.symm.trans ceiling)
      multiplier := Value.number.inj (meets.multiplier.symm.trans multiplier) }
  have multiplies := run.waits_induction ints.multiplies_initial
    fun _ _ _ before grown => ints.multiplies_handed before grown
  exact multiplies.found_eq

def doubling : Schedule.Request :=
  { ceiling := .int 3000, multiplier := .int 2 }

/-- The fourth wait is the first that is capped. -/
theorem waits_of_ints_doubling : ∃ fresh calls b, ofRequest doubling = .ok fresh ∧
    Run fresh.schedule fresh.givenClock calls b ∧
      waits calls = [.int 500, .int 1000, .int 2000, .int 3000] ∧
      waits calls = (List.range 4).map fun k => .int (min (500 * 2 ^ k) 3000) := by
  generalize request_eq : doubling = request
  have computed : (ofRequest request).toOption.bind (fun fresh =>
      (fresh.take (.ok 0) 4).1.toOption) =
        some ([.int 500, .int 1000, .int 2000, .int 3000], false) := by
    subst request_eq
    decide
  obtain ⟨fresh, built, taken⟩ := Option.bind_eq_some_iff.mp computed
  have built := eq_ok_of_toOption built
  obtain ⟨schedule, rfl, -⟩ := exists_of_ofRequest built
  have unasked : Run schedule request.clock [] (start schedule request.clock) := .start
  obtain ⟨calls, iterated, run⟩ := unasked.take (eq_ok_of_toOption taken)
  rw [List.nil_append] at run
  have initial : request.initial = .int 500 := request_eq ▸ rfl
  have ceiling : request.ceiling = .int 3000 := request_eq ▸ rfl
  have multiplier : request.multiplier = .int 2 := request_eq ▸ rfl
  have powers := waits_of_ints built initial ceiling multiplier run
  have length_eq : (waits calls).length = 4 := congrArg List.length iterated.waits_eq
  rw [length_eq] at powers
  exact ⟨_, calls, _, built, run, iterated.waits_eq, powers⟩

end HttpRetry.Backoff

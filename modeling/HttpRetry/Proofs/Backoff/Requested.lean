import HttpRetry.Backoff.Basic
import HttpRetry.Proofs.Act

/-!
# Generators that were asked for

A request that is accepted gives a new generator, and the numbers of its schedule are the
values that were requested.
-/

namespace HttpRetry

namespace Schedule

variable {request : Request} {schedule : Schedule}

theorem eq_of_requireFinite {name : String} {v : Value} {n : FiniteNumber}
    (h : requireFinite name v = .ok n) : v = .number n.1 := by
  unfold requireFinite at h
  split at h
  · split at h
    · cases h
    · split at h
      · cases h
        rfl
      · obtain ⟨text, -, refused⟩ := exists_of_bind_ok h
        cases refused
  · obtain ⟨text, -, refused⟩ := exists_of_bind_ok h
    cases refused

structure Meets (request : Request) (schedule : Schedule) : Prop where
  initial : request.initial = .number schedule.initial
  ceiling : request.ceiling = .number schedule.ceiling
  multiplier : request.multiplier = .number schedule.multiplier
  allowance : request.allowance = .number schedule.allowance

theorem numbers_of_make {initial ceiling multiplier allowance : FiniteNumber}
    {limit : Option Int} (h : make initial ceiling multiplier allowance limit = .ok schedule) :
    initial.1 = schedule.initial ∧ ceiling.1 = schedule.ceiling ∧
      multiplier.1 = schedule.multiplier ∧ allowance.1 = schedule.allowance := by
  unfold make at h
  split at h
  · split at h
    · split at h
      · split at h
        · match limit, h with
          | none, h =>
            cases h
            exact ⟨rfl, rfl, rfl, rfl⟩
          | some (.ofNat n), h =>
            cases h
            exact ⟨rfl, rfl, rfl, rfl⟩
          | some (.negSucc n), h => cases h
        · cases h
      · cases h
    · cases h
  · cases h

theorem meets_of_accept (h : accept request = .ok schedule) : Meets request schedule := by
  unfold accept at h
  obtain ⟨initial, initial_eq, h⟩ := exists_of_bind_ok h
  obtain ⟨ceiling, ceiling_eq, h⟩ := exists_of_bind_ok h
  obtain ⟨multiplier, multiplier_eq, h⟩ := exists_of_bind_ok h
  obtain ⟨allowance, allowance_eq, h⟩ := exists_of_bind_ok h
  obtain ⟨limit, -, h⟩ := exists_of_bind_ok h
  cases made : make initial ceiling multiplier allowance limit with
  | error problem =>
    rw [made] at h
    cases h
  | ok found =>
    rw [made] at h
    cases h
    obtain ⟨first, most, factor, time⟩ := numbers_of_make made
    exact ⟨first ▸ eq_of_requireFinite initial_eq, most ▸ eq_of_requireFinite ceiling_eq,
      factor ▸ eq_of_requireFinite multiplier_eq, time ▸ eq_of_requireFinite allowance_eq⟩

end Schedule

namespace Backoff

theorem exists_of_ofRequest {request : Schedule.Request} {fresh : Backoff}
    (h : ofRequest request = .ok fresh) :
    ∃ schedule, fresh = start schedule request.clock ∧ Schedule.Meets request schedule := by
  unfold ofRequest at h
  obtain ⟨schedule, accepted, h⟩ := exists_of_bind_ok h
  cases h
  exact ⟨schedule, rfl, Schedule.meets_of_accept accepted⟩

end Backoff

end HttpRetry

import HttpRetry.Proofs.Backoff.Waits

/-!
# The allowance of a generator

A generator of a policy that has retries to spare is never spent, so it stops for one
reason only: that its clock has run for longer than waits are given for.
-/

namespace HttpRetry

/-- From the first reading of a clock to the last, more time has passed than generators of
policies give waits for. -/
def Overdue (readings : List Int) : Prop :=
  ∃ first last, readings.head? = some first ∧ readings.getLast? = some last ∧
    Defaults.maxElapsedMillis < last - first

namespace Policy

/-- A generator of the policy after the given readings of its clock, which has been asked for
so few waits that it has `n` of them left or more. -/
structure Paces (p : Policy) (n : Nat) (readings : List Int) (b : Backoff) : Prop where
  schedule : b.schedule = p.schedule
  noClock : b.givenClock = none
  attempts_le : b.attempts + n ≤ p.maxRetries
  startedAt : b.startedAt = readings.head?

variable {p : Policy} {n : Nat} {readings : List Int} {b : Backoff}

theorem paces_newBackoff : p.Paces p.maxRetries [] p.newBackoff :=
  ⟨rfl, rfl, (Nat.zero_add _).le, rfl⟩

theorem Paces.pred (h : p.Paces (n + 1) readings b) : p.Paces n readings b :=
  ⟨h.schedule, h.noClock, (Nat.le_succ _).trans h.attempts_le, h.startedAt⟩

theorem Paces.isSpent (h : p.Paces (n + 1) readings b) : b.isSpent = false := by
  have lt := h.attempts_le
  simp only [Backoff.isSpent, h.schedule, Policy.schedule, decide_eq_false_iff_not]
  omega

theorem Paces.begin (h : p.Paces n readings b) (now : Int) :
    p.Paces n (readings ++ [now]) (b.begin now) := by
  refine ⟨h.schedule, h.noClock, h.attempts_le, ?_⟩
  rw [Backoff.begin, h.startedAt]
  cases readings <;> rfl

theorem Paces.overdue_of_isLate (h : p.Paces n readings b) {now : Int}
    (late : (b.begin now).isLate now = true) : Overdue (readings ++ [now]) := by
  obtain ⟨first, started⟩ : ∃ first, (readings ++ [now]).head? = some first := by
    cases readings <;> exact ⟨_, rfl⟩
  refine ⟨first, now, started, List.getLast?_concat, ?_⟩
  have started_eq := (h.begin now).startedAt.trans started
  simpa [Backoff.isLate, Backoff.elapsed, (h.begin now).schedule, Policy.schedule,
    started_eq] using late

/-- A draw from a generator that has a wait left fails, hands the wait out, or is overdue. -/
theorem Paces.nextAt (h : p.Paces (n + 1) readings b) (ambient : Except RangeError Int) :
    p.Paces n (readings ++ ambient.toOption.toList) (b.nextAt ambient).2 ∧
      ((b.nextAt ambient).1 = .ok none → Overdue (readings ++ ambient.toOption.toList)) := by
  have unspent := h.isSpent
  cases ambient with
  | error e =>
    have next_eq : b.nextAt (.error e) = (.error (.range e), b) := by
      simp [Backoff.nextAt, Backoff.reading_eq h.noClock, unspent]
    rw [next_eq]
    exact ⟨by simpa [Except.toOption] using h.pred, by simp⟩
  | ok now =>
    by_cases stop : (b.isSpent || (b.begin now).isLate now) = true
    · rw [Backoff.nextAt_of_stop h.noClock stop]
      rw [unspent, Bool.false_or] at stop
      exact ⟨(h.begin now).pred, fun _ => h.overdue_of_isLate stop⟩
    · have counted : b.attempts + 1 + n ≤ p.maxRetries := by
        have le := h.attempts_le
        omega
      have begun := h.begin now
      cases grown : Backoff.grow b.schedule b.interval with
      | error e =>
        rw [Backoff.nextAt_of_grow_error h.noClock stop grown]
        exact ⟨⟨begun.schedule, begun.noClock, counted, begun.startedAt⟩, by simp⟩
      | ok interval =>
        rw [Backoff.nextAt_of_grow_ok h.noClock stop grown]
        exact ⟨⟨begun.schedule, begun.noClock, counted, begun.startedAt⟩, by simp⟩

end Policy

end HttpRetry

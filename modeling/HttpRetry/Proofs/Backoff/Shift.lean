import HttpRetry.Proofs.Backoff.Asking
import HttpRetry.Proofs.Backoff.Requested
import HttpRetry.Rehearsal.Waits

/-!
# Generators at other times

A generator measures time from its own start. If its start and its clock are moved by the same
distance, every call comes to the same, and the generators stay apart by that distance. One that
was started anew holds no start, so it does not differ from a new one at any other time.
-/

namespace HttpRetry.Backoff

/-! ## Calls -/

def shift (d : Int) (b : Backoff) : Backoff :=
  { b with startedAt := b.startedAt.map (· + d) }

section
variable {b : Backoff} {now : Int} (d : Int)

theorem shift_of_fresh (fresh : b.startedAt = none) : b.shift d = b := by
  have kept : b.startedAt.map (· + d) = b.startedAt := by
    rw [fresh]
    rfl
  rw [shift, kept]

@[simp] theorem schedule_shift : (b.shift d).schedule = b.schedule := rfl

@[simp] theorem interval_shift : (b.shift d).interval = b.interval := rfl

@[simp] theorem attempts_shift : (b.shift d).attempts = b.attempts := rfl

@[simp] theorem isSpent_shift : (b.shift d).isSpent = b.isSpent := rfl

@[simp] theorem isSome_startedAt_shift : (b.shift d).startedAt.isSome = b.startedAt.isSome :=
  Option.isSome_map

@[simp] theorem begin_shift : (b.shift d).begin (now + d) = (b.begin now).shift d := by
  unfold begin shift
  cases b.startedAt <;> rfl

@[simp] theorem isLate_shift : (b.shift d).isLate (now + d) = b.isLate now := by
  have elapsed_eq : (b.shift d).elapsed (now + d) = b.elapsed now := by
    unfold elapsed shift
    cases b.startedAt with
    | none => rfl
    | some t => exact add_sub_add_right_eq_sub now t d
  unfold isLate
  rw [elapsed_eq, schedule_shift]

/-- A clock that can be read shows the distance; one that cannot be called fails at any time. -/
@[simp] theorem reading_shift :
    (b.shift d).reading (.ok (now + d)) = (b.reading (.ok now)).map (· + d) := by
  have clock_eq : (b.shift d).givenClock = b.givenClock := rfl
  unfold reading
  rw [clock_eq]
  cases b.givenClock <;> rfl

theorem next_shift : (b.shift d).next (now + d) = ((b.next now).1, (b.next now).2.shift d) := by
  unfold next
  simp only [begin_shift, isSpent_shift, isLate_shift, schedule_shift, interval_shift]
  by_cases stop : ((b.begin now).isSpent || (b.begin now).isLate now) = true
  · rw [if_pos stop, if_pos stop]
  · rw [if_neg stop, if_neg stop]
    cases grow (b.begin now).schedule (b.begin now).interval <;> rfl

theorem nextAt_shift : (b.shift d).nextAt (.ok (now + d)) =
    ((b.nextAt (.ok now)).1, (b.nextAt (.ok now)).2.shift d) := by
  unfold nextAt
  rw [reading_shift]
  cases b.reading (.ok now) with
  | ok t => simp only [Except.map, next_shift]
  | error e =>
    simp only [Except.map, isSome_startedAt_shift, isSpent_shift]
    split <;> rfl

theorem take_shift (n : Nat) : (b.shift d).take (.ok (now + d)) n =
    ((b.take (.ok now) n).1, (b.take (.ok now) n).2.shift d) := by
  induction n generalizing b with
  | zero => rfl
  | succ n ih =>
    unfold take
    rw [nextAt_shift]
    cases reply_eq : b.nextAt (.ok now) with | mk answer after =>
    cases answer with
    | error e => rfl
    | ok reply =>
      cases reply with
      | none => rfl
      | some wait => simp only [ih]

theorem snapshot_shift : (b.shift d).snapshot (.ok (now + d)) = b.snapshot (.ok now) := by
  cases started : b.startedAt with
  | none =>
    rw [shift_of_fresh d started]
    simp only [snapshot, started]
  | some t =>
    have moved : (b.shift d).startedAt = some (t + d) := by
      rw [shift, started]
      rfl
    simp only [snapshot, started, moved, reading_shift, attempts_shift, interval_shift]
    cases b.reading (.ok now) with
    | error e => rfl
    | ok now' => simp only [Except.map, add_sub_add_right_eq_sub]

end

end HttpRetry.Backoff

namespace HttpRetry.Rehearsal.Waits

/-! ## Scripts -/

def outcomes : List Step → Waits → List (Except Fault Answer × Except Fault Backoff.Snapshot)
  | [], _ => []
  | step :: rest, w =>
    ((w.perform step).1, (w.perform step).2.snapshot) :: outcomes rest (w.perform step).2

inductive Apart (d : Int) : Waits → Waits → Prop
  | millis (now : Int) (b : Backoff) : Apart d ⟨.millis now, b⟩ ⟨.millis (now + d), b.shift d⟩

variable {d : Int} {w w' : Waits}

theorem Apart.snapshot (h : Apart d w w') : w.snapshot = w'.snapshot := by
  cases h with
  | millis now b => exact (Backoff.snapshot_shift d).symm

theorem Apart.perform (h : Apart d w w') (step : Step) :
    (w.perform step).1 = (w'.perform step).1 ∧
      Apart d (w.perform step).2 (w'.perform step).2 := by
  cases h with
  | millis now b =>
    cases step with
    | next =>
      simp only [Waits.perform, Clock.read, Backoff.nextAt_shift]
      exact ⟨trivial, .millis now _⟩
    | take count =>
      simp only [Waits.perform, Clock.read, Backoff.take_shift]
      exact ⟨trivial, .millis now _⟩
    | reset => exact ⟨rfl, .millis now b.reset⟩
    | advance amount =>
      cases whole : amount.truncate with
      | error e =>
        simp only [Waits.perform, Clock.advance, whole, bind, Except.bind]
        exact ⟨trivial, .millis now b⟩
      | ok millis =>
        simp only [Waits.perform, Clock.advance, whole, bind, Except.bind, pure, Except.pure]
        rw [add_right_comm now d millis]
        exact ⟨trivial, .millis (now + millis) b⟩

theorem Apart.outcomes (h : Apart d w w') (script : List Step) :
    outcomes script w = outcomes script w' := by
  induction script generalizing w w' with
  | nil => rfl
  | cons step rest ih =>
    obtain ⟨answer, after⟩ := h.perform step
    unfold Waits.outcomes
    rw [answer, after.snapshot, ih after]

/-- A generator that was started anew, after whatever calls, answers a script as a new one does
that is given the same values, wherever their clocks stand, and time that passes before the
first call makes no difference. -/
theorem outcomes_of_reset {request : Schedule.Request} {fresh b : Backoff}
    {calls : List Backoff.Call} (built : Backoff.ofRequest request = .ok fresh)
    (run : Backoff.Run fresh.schedule fresh.givenClock calls b) (script : List Step)
    (now now' passed : Int) :
    outcomes script ⟨.millis now, b.reset⟩ = outcomes script ⟨.millis now', fresh⟩ ∧
      outcomes (.advance (.int passed) :: script) ⟨.millis now, b.reset⟩ =
        (.ok .nothing, .ok ⟨0, fresh.interval, 0⟩) :: outcomes script ⟨.millis now', fresh⟩ := by
  obtain ⟨schedule, rfl, -⟩ := Backoff.exists_of_ofRequest built
  obtain ⟨schedule_eq, clock_eq⟩ := run.kept
  have reset_eq : b.reset = Backoff.start schedule request.clock := by
    rw [Backoff.reset, schedule_eq, clock_eq]
    rfl
  have anywhen (now : Int) : outcomes script ⟨.millis now, Backoff.start schedule request.clock⟩ =
      outcomes script ⟨.millis now', Backoff.start schedule request.clock⟩ := by
    have apart := Apart.millis (d := now' - now) now (Backoff.start schedule request.clock)
    rw [Backoff.shift_of_fresh (now' - now) rfl, add_sub_cancel] at apart
    exact apart.outcomes script
  rw [reset_eq]
  exact ⟨anywhen now, congrArg _ (anywhen (now + passed))⟩

/-- A generator that was asked, and then too late, and that is started anew long after. -/
theorem outcomes_of_reset_late : ∃ fresh calls b, Backoff.ofRequest {} = .ok fresh ∧
    Backoff.Run fresh.schedule fresh.givenClock calls b ∧ calls.length = 2 ∧
      outcomes [.next, .advance 900001, .next] ⟨.millis 5000000, b.reset⟩ =
        outcomes [.next, .advance 900001, .next] ⟨.millis 0, fresh⟩ := by
  generalize request_eq : ({} : Schedule.Request) = request
  have accepted : (Backoff.ofRequest request).toOption.isSome = true := by
    subst request_eq
    decide +kernel
  obtain ⟨fresh, built⟩ := Option.isSome_iff_exists.mp accepted
  have built := eq_ok_of_toOption built
  obtain ⟨schedule, rfl, -⟩ := Backoff.exists_of_ofRequest built
  have unasked : Backoff.Run schedule request.clock [] (Backoff.start schedule request.clock) :=
    .start
  have run := (unasked.ask (.ok 0) (.ok 0)).ask (.ok 900001) (.ok 900001)
  exact ⟨_, _, _, built, run, rfl, (outcomes_of_reset built run _ 5000000 0 0).1⟩

end HttpRetry.Rehearsal.Waits

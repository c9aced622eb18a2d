import HttpRetry.Proofs.Backoff.Descent
import HttpRetry.Proofs.Backoff.Requested
import Mathlib.Algebra.Order.BigOperators.Group.List
import Mathlib.Algebra.Order.Floor.Semiring

/-!
# Waits that are waited for

A caller that lets each wait pass before it asks again is late once the waits add up to the
allowance, so where no wait is shorter than the first the waits come to an end. Where the waits
after the first are zero, no time has to pass, and they need not end at all.
-/

namespace HttpRetry.Backoff

variable {schedule : Schedule} {clock : Option Value} {calls : List Call} {call : Call}
variable {b : Backoff} {began measured : Except RangeError Int} {i e f c : Rat}

/-! ## Patient callers -/

def Call.due (call : Call) : Number :=
  call.answer.toOption.join.getD 0

def Call.Passed (call next : Call) : Prop :=
  ∃ t t', call.measured = .ok t ∧ next.began = .ok t' ∧ call.due.le (t' - t : Int) = true

/-- A caller whose clock does not go back during a call, and who waits between the calls. -/
structure Patient (calls : List Call) : Prop where
  timed : ∀ call ∈ calls, ∃ t t', call.began = .ok t ∧ call.measured = .ok t' ∧ t ≤ t'
  passed : calls.IsChain Call.Passed

theorem patient_nil : Patient [] :=
  ⟨by simp, .nil⟩

def Rested (calls : List Call) (t : Int) : Prop :=
  ∀ last ∈ calls.getLast?, ∃ s, last.measured = .ok s ∧ last.due.le (t - s : Int) = true

theorem rested_append (t : Int) :
    Rested (calls ++ [call]) t ↔ ∃ s, call.measured = .ok s ∧ call.due.le (t - s : Int) = true := by
  simp [Rested]

theorem Patient.append (h : Patient calls) {t t' : Int} (rested : Rested calls t) (le : t ≤ t')
    (answer : Except Fault (Option Number)) : Patient (calls ++ [⟨.ok t, .ok t', answer⟩]) := by
  constructor
  · intro call mem
    rcases List.mem_append.mp mem with earlier | last
    · exact h.timed call earlier
    · obtain rfl := List.mem_singleton.mp last
      exact ⟨t, t', rfl, rfl, le⟩
  · refine List.isChain_append.mpr ⟨h.passed, List.isChain_singleton _, ?_⟩
    intro last mem next next_mem
    obtain rfl : _ = next := by simpa using next_mem
    obtain ⟨s, measured_eq, due_le⟩ := rested last mem
    exact ⟨s, t, measured_eq, rfl, due_le⟩

theorem Patient.of_append (h : Patient (calls ++ [call])) :
    Patient calls ∧ ∃ t t', call.began = .ok t ∧ call.measured = .ok t' ∧ t ≤ t' ∧
      Rested calls t := by
  obtain ⟨before, -, joint⟩ := List.isChain_append.mp h.passed
  obtain ⟨t, t', began_eq, measured_eq, le⟩ := h.timed call (by simp)
  refine ⟨⟨fun call mem => h.timed call (List.mem_append_left _ mem), before⟩, t, t', began_eq,
    measured_eq, le, ?_⟩
  intro last mem
  obtain ⟨s, t₂, last_eq, next_eq, due_le⟩ := joint last mem call (by simp)
  obtain rfl : t = t₂ := Except.ok.inj (began_eq.symm.trans next_eq)
  exact ⟨s, last_eq, due_le⟩

/-! ## Elapsed time -/

def total (found : List Number) : Rat :=
  (found.map fun m => m.toRat?.getD 0).sum

theorem total_append (found more : List Number) :
    total (found ++ more) = total found + total more := by
  simp [total]

theorem startedAt_nextAt (b : Backoff) (ambient : Except RangeError Int) :
    (b.nextAt ambient).2.startedAt = b.startedAt ∨
      ∃ t, (b.nextAt ambient).2.startedAt = some (b.startedAt.getD t) := by
  unfold nextAt
  cases b.reading ambient with
  | error e =>
    left
    simp only
    split <;> rfl
  | ok now =>
    right
    refine ⟨now, ?_⟩
    simp only [next]
    split
    · rfl
    · split <;> rfl

/-- A generator that has started keeps its start. -/
theorem startedAt_nextAt_of_started {t : Int} (started : b.startedAt = some t)
    (ambient : Except RangeError Int) : (b.nextAt ambient).2.startedAt = some t := by
  rcases b.startedAt_nextAt ambient with kept | ⟨now, begun⟩
  · exact kept.trans started
  · rw [begun, started]
    rfl

theorem startedAt_ask_of_started {t : Int} (started : b.startedAt = some t) :
    (b.ask began measured).2.startedAt = some t := by
  rw [ask_of_started started]
  exact startedAt_nextAt_of_started started measured

theorem startsAt_of_ask {s : Int} (started : (b.ask began measured).2.startedAt = some s) :
    b.StartsAt began s := by
  cases before : b.startedAt with
  | some t =>
    rw [startedAt_ask_of_started before] at started
    exact .inl (before.trans started)
  | none =>
    cases read : b.reading began with
    | error e =>
      rw [ask_of_unread before read, before] at started
      cases started
    | ok t =>
      obtain ⟨noClock, began_eq⟩ := reading_eq_ok_iff.mp read
      have begun : (b.begin t).startedAt = some t := by
        rw [begin, before]
        rfl
      rw [ask_of_read before read, startedAt_nextAt_of_started begun] at started
      obtain rfl := Option.some.inj started
      exact .inr ⟨before, noClock, began_eq⟩

/-- What a patient run keeps: once the last wait has passed all have, and without the last one
they are within the allowance. -/
structure Paced (e : Rat) (calls : List Call) (b : Backoff) : Prop where
  unstarted : b.startedAt = none → waits calls = []
  total_le : ∀ s, b.startedAt = some s → ∀ t, Rested calls t → total (waits calls) ≤ (t - s : Int)
  dropLast_le : total (waits calls).dropLast ≤ ⌊e⌋

theorem paced_start (nonneg : 0 ≤ e) : Paced e [] (Backoff.start schedule clock) := by
  refine ⟨fun _ => rfl, ?_, ?_⟩
  · rintro s ⟨⟩
  · show (0 : Rat) ≤ ⌊e⌋
    exact_mod_cast Int.floor_nonneg.mpr nonneg

/-- The waits before a call have passed when it begins. -/
theorem Paced.total_le_of_startsAt (h : Paced e calls b) {t s : Int}
    (starts : b.StartsAt (.ok t) s) (rested : Rested calls t) :
    total (waits calls) ≤ (t - s : Int) := by
  rcases starts with started | ⟨fresh, -, began_eq⟩
  · exact h.total_le s started t rested
  · obtain rfl := Except.ok.inj began_eq
    rw [h.unstarted fresh, Int.sub_self]
    exact le_rfl

/-- Nothing is added by a call that hands nothing out. -/
theorem Paced.ask_of_none (h : Paced e calls b) {t t' : Int} (le : t ≤ t')
    (rested : Rested calls t) (nothing : (b.ask (.ok t) (.ok t')).1.toOption.join = none) :
    Paced e (calls ++ [⟨.ok t, .ok t', (b.ask (.ok t) (.ok t')).1⟩])
      (b.ask (.ok t) (.ok t')).2 := by
  have same : waits (calls ++ [⟨.ok t, .ok t', (b.ask (.ok t) (.ok t')).1⟩]) = waits calls := by
    simp [waits, nothing]
  refine ⟨fun unstarted => ?_, fun s started now rested_after => ?_, same.symm ▸ h.dropLast_le⟩
  · rw [same]
    apply h.unstarted
    cases before : b.startedAt with
    | none => rfl
    | some s =>
      rw [startedAt_ask_of_started before] at unstarted
      cases unstarted
  · rw [same]
    have before := h.total_le_of_startsAt (startsAt_of_ask started) rested
    obtain ⟨_, measured_eq, passed⟩ := (rested_append now).mp rested_after
    obtain rfl := Except.ok.inj measured_eq
    rw [Call.due, nothing] at passed
    have later : 0 ≤ now - t' := of_decide_eq_true ((Number.le_int _ _).symm.trans passed)
    exact before.trans (by exact_mod_cast (by omega : t - s ≤ now - s))

/-- A wait is handed out only while the waits before it are within the allowance. -/
theorem Paced.ask_of_some (h : Paced e calls b) (allowance : b.schedule.allowance.toRat? = some e)
    {m : Number} {a : Rat} (value : m.toRat? = some a) {t t' : Int} (le : t ≤ t')
    (rested : Rested calls t) (handed : (b.ask (.ok t) (.ok t')).1 = .ok (some m)) :
    Paced e (calls ++ [⟨.ok t, .ok t', (b.ask (.ok t) (.ok t')).1⟩])
      (b.ask (.ok t) (.ok t')).2 := by
  have more : waits (calls ++ [⟨.ok t, .ok t', (b.ask (.ok t) (.ok t')).1⟩]) =
      waits calls ++ [m] := by
    rw [waits_append, waits_handed handed]
  obtain ⟨s, starts, found⟩ := ask_answers handed
  have before := h.total_le_of_startsAt starts rested
  have le_elapsed : total (waits calls) ≤ (t' - s : Int) :=
    before.trans (by exact_mod_cast Int.sub_le_sub_right le s)
  have started : (b.ask (.ok t) (.ok t')).2.startedAt = some s := by
    generalize (b.ask (.ok t) (.ok t')).2 = after at found
    cases found
    rfl
  refine ⟨fun unstarted => ?_, fun s' started' now rested_after => ?_, ?_⟩
  · rw [started] at unstarted
    cases unstarted
  · obtain rfl := Option.some.inj (started.symm.trans started')
    obtain ⟨_, measured_eq, passed⟩ := (rested_append now).mp rested_after
    obtain rfl := Except.ok.inj measured_eq
    rw [Call.due, handed] at passed
    have later : a ≤ (now - t' : Int) := (Number.le_iff value (Number.toRat?_int _)).mp passed
    have last : total [m] = a := by simp [total, value]
    rw [more, total_append, last]
    push_cast at le_elapsed later ⊢
    linarith
  · rw [more, List.dropLast_concat]
    generalize (b.ask (.ok t) (.ok t')).2 = after at found
    cases found with
    | handed unspent read early grown =>
      obtain rfl := Except.ok.inj read
      have within : ((t' - s : Int) : Rat) ≤ e := by
        rw [← not_lt, ← Number.lt_iff allowance (Number.toRat?_int _), early]
        exact Bool.false_ne_true
      have whole : t' - s ≤ ⌊e⌋ := Int.le_floor.mpr within
      exact le_elapsed.trans (by exact_mod_cast whole)

theorem Run.paced (run : Run schedule clock calls b) (patient : Patient calls)
    (allowance : schedule.allowance.toRat? = some e) : Paced e calls b := by
  have pos : 0 < e := by
    exact_mod_cast (Number.lt_iff (Number.toRat?_int 0) allowance).mp schedule.allowance_pos
  induction run with
  | start => exact paced_start pos.le
  | @ask calls b began measured before ih =>
    obtain ⟨patient_before, t, t', rfl, rfl, le, rested⟩ := patient.of_append
    have paced := ih patient_before
    cases handed : (b.ask (.ok t) (.ok t')).1.toOption.join with
    | none => exact paced.ask_of_none le rested handed
    | some m =>
      have answer : (b.ask (.ok t) (.ok t')).1 = .ok (some m) := by
        generalize (b.ask (.ok t) (.ok t')).1 = answer at handed ⊢
        match answer, handed with
        | .ok (some m), rfl => rfl
      obtain ⟨a, value, -⟩ := (before.ask (.ok t) (.ok t')).atLeast_zero m (by
        rw [waits_append, waits_handed answer]
        exact List.mem_append_right _ (List.mem_singleton_self m))
      exact paced.ask_of_some (before.kept.1 ▸ allowance) value le rested answer
  | @reset calls b before =>
    obtain ⟨rfl, rfl⟩ := before.kept
    exact paced_start pos.le

/-! ## How many waits there are -/

/-- At most so many waits that are no shorter than the first are within the allowance. -/
theorem Run.length_le_of_steady (run : Run schedule clock calls b) (patient : Patient calls)
    (v : Values schedule i f c) (allowance : schedule.allowance.toRat? = some e)
    (steady : Steady schedule) : (waits calls).length ≤ ⌊e / i⌋₊ + 1 := by
  have within := (run.paced patient allowance).dropLast_le
  have each : ∀ a ∈ (waits calls).dropLast.map fun m => m.toRat?.getD 0, i ≤ a := by
    intro a mem
    obtain ⟨m, m_mem, rfl⟩ := List.mem_map.mp mem
    obtain ⟨a, value, le⟩ := run.atLeast_waits v steady m (List.mem_of_mem_dropLast m_mem)
    rw [value]
    exact le
  have sum_le := List.card_nsmul_le_sum _ i each
  rw [List.length_map, List.length_dropLast, nsmul_eq_mul] at sum_le
  have quotient : (((waits calls).length - 1 : Nat) : Rat) ≤ e / i := by
    rw [le_div_iff₀ v.pos]
    exact sum_le.trans (within.trans (Int.floor_le e))
  have counted := Nat.le_floor quotient
  omega

theorem Run.le_allowance_of_shrinks (run : Run schedule clock calls b) (patient : Patient calls)
    (v : Values schedule i f c) (allowance : schedule.allowance.toRat? = some e)
    (shrinks : Shrinks schedule whole) {n k : Nat} (lt : k < n)
    (found : waits calls = schedule.initial :: List.replicate n (.int whole)) :
    i + k * whole ≤ ⌊e⌋ := by
  have within := (run.paced patient allowance).dropLast_le
  obtain ⟨l, rfl⟩ := Nat.exists_eq_succ_of_ne_zero (by omega : n ≠ 0)
  have le : k ≤ l := by omega
  have without_last : (waits calls).dropLast =
      schedule.initial :: List.replicate l (.int whole) := by
    rw [found, List.replicate_succ', ← List.cons_append, List.dropLast_concat]
  have sum_eq : total (waits calls).dropLast = i + l * whole := by
    rw [without_last]
    simp [total, v.initial, Number.toRat?_int]
  rw [sum_eq] at within
  have nonneg : (0 : Rat) ≤ whole := by exact_mod_cast shrinks.nonneg v
  have product_le : (k : Rat) * whole ≤ l * whole :=
    mul_le_mul_of_nonneg_right (by exact_mod_cast le) nonneg
  linarith

/-! ## Waits without end -/

structure Idle (schedule : Schedule) (n : Nat) (calls : List Call) (b : Backoff) : Prop where
  run : Run schedule none calls b
  patient : Patient calls
  answered : Answered calls
  waits_eq : waits calls = schedule.initial :: List.replicate n (.int 0)
  interval_eq : b.interval = .int 0
  startedAt_eq : b.startedAt = some 0
  rested : Rested calls 1

/-- A generator without a limit hands out its interval unless it is late. -/
theorem ask_of_early (noClock : b.givenClock = none) (unlimited : b.schedule.limit = none)
    {now : Int} (early : b.schedule.allowance.lt (now - b.startedAt.getD now : Int) = false)
    {interval : Number} (grown : grow b.schedule b.interval = .ok interval) :
    b.ask (.ok now) (.ok now) = (.ok (some b.interval),
      { b with
        attempts := b.attempts + 1
        interval
        startedAt := some (b.startedAt.getD now) }) := by
  have going : ¬(b.isSpent || (b.begin now).isLate now) = true := by
    have unspent : b.isSpent = false := by
      rw [isSpent, unlimited]
    have punctual : (b.begin now).isLate now = false := early
    rw [unspent, punctual]
    decide
  rw [ask_self, nextAt_of_grow_ok noClock going grown]
  rfl

section
variable (shrinks : Shrinks schedule 0) (unlimited : schedule.limit = none)
include shrinks unlimited

/-- The first wait is less than one, so it has passed at the next reading. -/
theorem exists_idle_zero (v : Values schedule i f c)
    (allowance : schedule.allowance.toRat? = some e) :
    ∃ calls b, Idle schedule 0 calls b := by
  have early : schedule.allowance.lt (0 - 0 : Int) = false := by
    rw [← Bool.not_eq_true, Number.lt_iff allowance (Number.toRat?_int _), not_lt]
    have pos := (Number.lt_iff (Number.toRat?_int 0) allowance).mp schedule.allowance_pos
    exact pos.le
  have asked : (Backoff.start schedule none).ask (.ok 0) (.ok 0) = _ :=
    ask_of_early rfl unlimited early (Drops.next shrinks)
  have run : Run schedule none _ _ := .ask (.ok 0) (.ok 0) .start
  rw [asked] at run
  refine ⟨_, _, run, patient_nil.append (by simp [Rested]) le_rfl _, by simp [Answered], rfl, rfl,
    rfl, ?_⟩
  refine (rested_append 1).mpr ⟨0, rfl, ?_⟩
  have small := (shrinks.eq_zero_iff v).mp rfl
  exact (Number.le_iff v.initial (Number.toRat?_int 1)).mpr (by exact_mod_cast small.le)

theorem Idle.ask {n : Nat} (h : Idle schedule n calls b) (v : Values schedule i f c)
    (allowance : schedule.allowance.toRat? = some e) (one_le : 1 ≤ e) :
    ∃ calls b, Idle schedule (n + 1) calls b := by
  obtain ⟨schedule_eq, noClock⟩ := h.run.kept
  have early : b.schedule.allowance.lt (1 - b.startedAt.getD 1 : Int) = false := by
    rw [h.startedAt_eq, schedule_eq, ← Bool.not_eq_true,
      Number.lt_iff allowance (Number.toRat?_int _), not_lt]
    simpa using one_le
  have grown : grow b.schedule b.interval = .ok (.int 0) := by
    rw [schedule_eq, h.interval_eq]
    exact shrinks.grow_whole v
  have asked := ask_of_early noClock (schedule_eq ▸ unlimited) early grown
  have run := h.run.ask (.ok 1) (.ok 1)
  rw [asked] at run
  refine ⟨_, _, run, h.patient.append h.rested le_rfl _, ?_, ?_, rfl, ?_, ?_⟩
  · intro call mem
    rcases List.mem_append.mp mem with earlier | last
    · exact h.answered call earlier
    · obtain rfl := List.mem_singleton.mp last
      exact ⟨_, rfl⟩
  · rw [waits_append, waits_handed rfl, h.waits_eq, h.interval_eq, List.replicate_succ',
      List.cons_append]
  · rw [h.startedAt_eq]
    rfl
  · refine (rested_append 1).mpr ⟨1, rfl, ?_⟩
    rw [Call.due, h.interval_eq]
    exact Number.le_int 0 0

theorem exists_idle (v : Values schedule i f c) (allowance : schedule.allowance.toRat? = some e)
    (one_le : 1 ≤ e) (n : Nat) : ∃ calls b, Idle schedule n calls b := by
  induction n with
  | zero => exact exists_idle_zero shrinks unlimited v allowance
  | succ n ih =>
    obtain ⟨calls, b, idle⟩ := ih
    exact idle.ask shrinks unlimited v allowance one_le

end

/-- In a steady schedule a patient caller gets no more waits than fit into the allowance, and one.
A schedule is steady if the first wait is an integer of up to 53 bits, or any integer that is
multiplied exactly. If the second wait is shorter than the first, all waits after the first are
one smaller integer. If they are zero, which is the case for a first wait of less than a
millisecond, and the allowance is a millisecond or more, nothing but a limit makes them end. -/
theorem waits_of_patient (initial : schedule.initial.toRat? = some i)
    (allowance : schedule.allowance.toRat? = some e) :
    (Steady schedule → ∀ clock calls b, Run schedule clock calls b → Patient calls →
      (waits calls).length ≤ ⌊e / i⌋₊ + 1) ∧
    (∀ n : Int, i = n → (n ≤ 2 ^ 53 ∨
      (schedule.initial.isExact && schedule.multiplier.isExact) = true) → Steady schedule) ∧
    ∀ w, Shrinks schedule w →
      (w : Rat) < i ∧ (w = 0 ↔ i < 1) ∧
      (schedule.initial.isExact = false ∨ schedule.multiplier.isExact = true → w = ⌊i⌋) ∧
      (∀ clock calls b, Run schedule clock calls b → Patient calls → waits calls = [] ∨
        ∃ n, waits calls = schedule.initial :: List.replicate n (.int w) ∧
          ∀ k < n, i + k * w ≤ ⌊e⌋) ∧
      (w = 0 → schedule.limit = none → 1 ≤ e → ∀ n, ∃ calls b, Run schedule none calls b ∧
        Patient calls ∧ Answered calls ∧
          waits calls = schedule.initial :: List.replicate n (.int 0)) := by
  obtain ⟨f, c, v⟩ := exists_values initial
  refine ⟨?_, fun n => steady_of_int v, fun w shrinks => ⟨shrinks.less v, shrinks.eq_zero_iff v,
    shrinks.whole_eq_floor v, ?_, ?_⟩⟩
  · intro steady clock calls b run patient
    exact run.length_le_of_steady patient v allowance steady
  · intro clock calls b run patient
    refine (run.waits_of_shrinks v shrinks).imp_right ?_
    rintro ⟨n, found⟩
    exact ⟨n, found, fun k lt => run.le_allowance_of_shrinks patient v allowance shrinks lt found⟩
  · rintro rfl unlimited one_le n
    obtain ⟨calls, b, idle⟩ := exists_idle shrinks unlimited v allowance one_le n
    exact ⟨calls, b, idle.run, idle.patient, idle.answered, idle.waits_eq⟩

def half : Schedule.Request :=
  { initial := .double (Double.ofRat (1 / 2) false), multiplier := .int 1, allowance := .int 1 }

/-- The second half is truncated to nothing. -/
theorem exists_of_half : ∃ schedule, ofRequest half = .ok (Backoff.start schedule none) ∧
    schedule.limit = none ∧ schedule.initial.toRat? = some (1 / 2) ∧
      schedule.allowance.toRat? = some 1 ∧ Shrinks schedule 0 := by
  generalize request_eq : half = request
  have computed : (ofRequest request).toOption.map (fun fresh =>
      (fresh.schedule.limit, fresh.schedule.initial.toRat?, fresh.schedule.allowance.toRat?,
        (grow fresh.schedule fresh.schedule.initial).toOption,
        Number.lt 0 fresh.schedule.initial)) =
      some (none, some (1 / 2), some 1, some (.int 0), true) := by
    subst request_eq
    decide +kernel
  obtain ⟨fresh, built, values⟩ := Option.map_eq_some_iff.mp computed
  have built := eq_ok_of_toOption built
  obtain ⟨schedule, rfl, -⟩ := exists_of_ofRequest built
  have clock_eq : request.clock = none := by rw [← request_eq]; rfl
  rw [clock_eq] at built
  simp only [Backoff.start, Prod.mk.injEq] at values
  obtain ⟨unlimited, initial, allowance, second, less⟩ := values
  exact ⟨schedule, built, unlimited, initial, allowance, eq_ok_of_toOption second, less⟩

theorem waits_of_patient_half : ∃ schedule, ofRequest half = .ok (Backoff.start schedule none) ∧
    ∀ n, ∃ calls b, Run schedule none calls b ∧ Patient calls ∧ Answered calls ∧
      waits calls = schedule.initial :: List.replicate n (.int 0) := by
  obtain ⟨schedule, built, unlimited, initial, allowance, shrinks⟩ := exists_of_half
  obtain ⟨-, -, shrunk⟩ := waits_of_patient initial allowance
  obtain ⟨-, -, -, -, endless⟩ := shrunk 0 shrinks
  exact ⟨schedule, built, endless rfl unlimited le_rfl⟩

/-- Within a millisecond a patient caller gets four waits, although only three waits of half a
millisecond are within the allowance. -/
theorem waits_exceed : ∃ fresh calls b, ∃ i e : Rat, ofRequest half = .ok fresh ∧
    fresh.schedule.limit = none ∧ fresh.schedule.initial.toRat? = some i ∧
      fresh.schedule.allowance.toRat? = some e ∧
        Run fresh.schedule fresh.givenClock calls b ∧ Patient calls ∧ Answered calls ∧
          ⌊e / i⌋₊ + 1 < (waits calls).length := by
  obtain ⟨schedule, built, unlimited, initial, allowance, shrinks⟩ := exists_of_half
  obtain ⟨f, c, v⟩ := exists_values initial
  obtain ⟨calls, b, idle⟩ := exists_idle shrinks unlimited v allowance le_rfl 3
  refine ⟨_, calls, b, 1 / 2, 1, built, unlimited, initial, allowance, idle.run, idle.patient,
    idle.answered, ?_⟩
  have fitting : ⌊(1 : Rat) / (1 / 2)⌋₊ = 2 := by
    rw [one_div_one_div]
    exact Nat.floor_ofNat 2
  rw [fitting, idle.waits_eq, List.length_cons, List.length_replicate]
  decide

end HttpRetry.Backoff

import HttpRetry.Policy.Build
import HttpRetry.Proofs.Act
import HttpRetry.Proofs.Backoff.Waits

/-!
# Runs of a generator

A clock can move on while a generator is asked: the generator reads it when it is first asked,
and again to measure the time since. A run is any order of asking and starting anew. In a run of
answered calls the generator counts the waits that it handed out, stops at its limit or past its
allowance and nowhere else, and is not asked out of stopping by anything but starting anew.
-/

namespace HttpRetry

namespace Backoff

/-! ## Calls -/

/-- Asks for the next wait where the clock may move on during the call. It is read at first if
the generator has not started, and read again to measure the time since. An iteration asks in
the same way, and ends where there is no wait. -/
def ask (began measured : Except RangeError Int) (b : Backoff) :
    Except Fault (Option Number) × Backoff :=
  match b.startedAt with
  | some _ => b.nextAt measured
  | none =>
    match b.reading began with
    | .ok t => (b.begin t).nextAt measured
    | .error e => (.error e, b)

variable {b : Backoff} {t : Int} {began measured ambient : Except RangeError Int}

theorem ask_of_started (started : b.startedAt = some t) :
    b.ask began measured = b.nextAt measured := by
  simp only [ask, started]

theorem ask_of_read (fresh : b.startedAt = none) (read : b.reading began = .ok t) :
    b.ask began measured = (b.begin t).nextAt measured := by
  simp only [ask, fresh, read]

theorem ask_of_unread {e : Fault} (fresh : b.startedAt = none)
    (unread : b.reading began = .error e) : b.ask began measured = (.error e, b) := by
  simp only [ask, fresh, unread]

/-- A clock that stands still during a call is read once as well as twice. -/
theorem ask_self (ambient : Except RangeError Int) (b : Backoff) :
    b.ask ambient ambient = b.nextAt ambient := by
  cases started : b.startedAt with
  | some t => exact ask_of_started started
  | none =>
    cases read : b.reading ambient with
    | error e =>
      rw [ask_of_unread started read]
      simp [nextAt, read, started]
    | ok t =>
      have again : (b.begin t).reading ambient = .ok t := read
      have begun : (b.begin t).begin t = b.begin t := rfl
      rw [ask_of_read started read]
      simp only [nextAt, read, again, next, begun]

theorem begin_of_started (started : b.startedAt = some t) (now : Int) : b.begin now = b := by
  have kept : some (b.startedAt.getD now) = b.startedAt := by
    rw [started]
    rfl
  rw [begin, kept]

inductive Answers (b : Backoff) (t : Int) (measured : Except RangeError Int) :
    Option Number × Backoff → Prop
  | spent (spent : b.isSpent = true) : Answers b t measured (none, { b with startedAt := some t })
  | late {now : Int} (unspent : b.isSpent = false) (read : measured = .ok now)
      (late : b.schedule.allowance.lt (now - t : Int) = true) :
      Answers b t measured (none, { b with startedAt := some t })
  | handed {now : Int} {interval : Number} (unspent : b.isSpent = false)
      (read : measured = .ok now) (early : b.schedule.allowance.lt (now - t : Int) = false)
      (grown : grow b.schedule b.interval = .ok interval) :
      Answers b t measured
        (some b.interval, { b with attempts := b.attempts + 1, interval, startedAt := some t })

theorem reading_eq_ok_iff : b.reading ambient = .ok t ↔ b.givenClock = none ∧ ambient = .ok t := by
  unfold reading
  cases b.givenClock with
  | some v => simp
  | none => cases ambient <;> simp

theorem nextAt_answers (started : b.startedAt = some t) {reply : Option Number}
    (answered : (b.nextAt measured).1 = .ok reply) :
    Answers b t measured (reply, (b.nextAt measured).2) := by
  have same : { b with startedAt := some t } = b := by rw [← started]
  cases spent : b.isSpent with
  | true =>
    have stopped : b.nextAt measured = (.ok none, b) := by
      cases read : b.reading measured with
      | error e => simp [nextAt, read, started, spent]
      | ok now => simp [nextAt, read, next, begin_of_started started, spent]
    rw [stopped] at answered ⊢
    cases answered
    have reached : Answers b t measured (none, { b with startedAt := some t }) := .spent spent
    rwa [same] at reached
  | false =>
    cases read : b.reading measured with
    | error e => simp [nextAt, read, started, spent] at answered
    | ok now =>
      obtain ⟨noClock, rfl⟩ := reading_eq_ok_iff.mp read
      have begun := begin_of_started started now
      have measure : b.isLate now = b.schedule.allowance.lt (now - t : Int) := by
        simp [isLate, elapsed, started]
      cases late : b.schedule.allowance.lt (now - t : Int) with
      | true =>
        have stop : (b.isSpent || (b.begin now).isLate now) = true := by
          rw [begun, measure, late, Bool.or_true]
        rw [nextAt_of_stop noClock stop, begun] at answered ⊢
        cases answered
        have reached : Answers b t (.ok now) (none, { b with startedAt := some t }) :=
          .late spent rfl late
        rwa [same] at reached
      | false =>
        have going : ¬(b.isSpent || (b.begin now).isLate now) = true := by
          rw [begun, measure, late, spent]
          decide
        cases grown : grow b.schedule b.interval with
        | error e =>
          rw [nextAt_of_grow_error noClock going grown] at answered
          cases answered
        | ok interval =>
          rw [nextAt_of_grow_ok noClock going grown, begun] at answered ⊢
          cases answered
          have reached : Answers b t (.ok now) (some b.interval,
              { b with attempts := b.attempts + 1, interval, startedAt := some t }) :=
            .handed spent rfl late grown
          rwa [← started] at reached

/-- A generator that is asked starts at `t`, or did so before. -/
def StartsAt (b : Backoff) (began : Except RangeError Int) (t : Int) : Prop :=
  b.startedAt = some t ∨ b.startedAt = none ∧ b.givenClock = none ∧ began = .ok t

theorem StartsAt.unique {t t' : Int} (h : b.StartsAt began t) (h' : b.StartsAt began t') :
    t = t' := by
  rcases h with started | ⟨fresh, -, began_eq⟩
  · rcases h' with started' | ⟨fresh', -⟩
    · exact Option.some.inj (started.symm.trans started')
    · cases started.symm.trans fresh'
  · rcases h' with started' | ⟨-, -, began_eq'⟩
    · cases fresh.symm.trans started'
    · exact Except.ok.inj (began_eq.symm.trans began_eq')

theorem ask_answers {reply : Option Number} (answered : (b.ask began measured).1 = .ok reply) :
    ∃ t, b.StartsAt began t ∧ Answers b t measured (reply, (b.ask began measured).2) := by
  cases started : b.startedAt with
  | some t =>
    rw [ask_of_started started] at answered ⊢
    exact ⟨t, .inl started, nextAt_answers started answered⟩
  | none =>
    cases read : b.reading began with
    | error e =>
      rw [ask_of_unread started read] at answered
      cases answered
    | ok t =>
      obtain ⟨noClock, rfl⟩ := reading_eq_ok_iff.mp read
      rw [ask_of_read started read] at answered ⊢
      have begun : (b.begin t).startedAt = some t := by simp [begin, started]
      have found := nextAt_answers begun answered
      refine ⟨t, .inr ⟨started, noClock, rfl⟩, ?_⟩
      generalize ((b.begin t).nextAt measured).2 = after at found ⊢
      -- only the start differs between the two generators, and the answer replaces it
      cases found with
      | spent spent => exact .spent spent
      | late unspent read late => exact .late unspent read late
      | handed unspent read early grown => exact .handed unspent read early grown

/-! ## Runs -/

structure Call where
  began : Except RangeError Int
  measured : Except RangeError Int
  answer : Except Fault (Option Number)

def waits (calls : List Call) : List Number :=
  calls.filterMap (·.answer.toOption.join)

def times (calls : List Call) : List Int :=
  calls.flatMap fun call => call.began.toOption.toList ++ call.measured.toOption.toList

def firstTime (calls : List Call) : Option Int :=
  calls.head?.bind (·.began.toOption)

def Answered (calls : List Call) : Prop :=
  ∀ call ∈ calls, ∃ reply, call.answer = .ok reply

/-- The generators that a new one becomes as it is asked and started anew, and how it was asked
since it started the last time. -/
inductive Run (schedule : Schedule) (clock : Option Value) : List Call → Backoff → Prop
  | start : Run schedule clock [] (Backoff.start schedule clock)
  | ask {calls : List Call} {b : Backoff} (began measured : Except RangeError Int)
      (before : Run schedule clock calls b) :
      Run schedule clock (calls ++ [⟨began, measured, (b.ask began measured).1⟩])
        (b.ask began measured).2
  | reset {calls : List Call} {b : Backoff} (before : Run schedule clock calls b) :
      Run schedule clock [] b.reset

variable {schedule : Schedule} {clock : Option Value} {calls more : List Call} {call : Call}

@[simp] theorem waits_nil : waits [] = [] := rfl

@[simp] theorem waits_append : waits (calls ++ more) = waits calls ++ waits more :=
  List.filterMap_append

@[simp] theorem waits_handed {m : Number} (h : call.answer = .ok (some m)) :
    waits [call] = [m] := by
  simp [waits, h, Except.toOption]

@[simp] theorem waits_stopped (h : call.answer = .ok none) : waits [call] = [] := by
  simp [waits, h, Except.toOption]

@[simp] theorem waits_failed {e : Fault} (h : call.answer = .error e) : waits [call] = [] := by
  simp [waits, h, Except.toOption]

theorem firstTime_append (asked : calls ≠ []) : firstTime (calls ++ more) = firstTime calls := by
  cases calls with
  | nil => exact absurd rfl asked
  | cons => rfl

theorem times_append : times (calls ++ more) = times calls ++ times more :=
  List.flatMap_append

theorem Answered.of_append (h : Answered (calls ++ more)) : Answered calls :=
  fun call mem => h call (List.mem_append_left more mem)

structure Counts (schedule : Schedule) (clock : Option Value) (calls : List Call) (b : Backoff) :
    Prop where
  schedule_eq : b.schedule = schedule
  clock_eq : b.givenClock = clock
  attempts_eq : b.attempts = (waits calls).length
  attempts_le : ∀ limit, schedule.limit = some limit → b.attempts ≤ limit
  startedAt_eq : b.startedAt = firstTime calls
  fresh : b.startedAt = none → calls = []
  readable : calls ≠ [] → clock = none
  unsigned : b.interval.IsUnsigned
  waits_unsigned : ∀ m ∈ waits calls, m.IsUnsigned

theorem counts_start : Counts schedule clock [] (Backoff.start schedule clock) :=
  { schedule_eq := rfl, clock_eq := rfl, attempts_eq := rfl, attempts_le := fun _ _ => Nat.zero_le _
    startedAt_eq := rfl, fresh := fun _ => rfl, readable := fun asked => absurd rfl asked
    unsigned := Number.isUnsigned_of_lt schedule.initial_pos, waits_unsigned := by simp }

theorem isSpent_iff :
    b.isSpent = true ↔ ∃ limit, b.schedule.limit = some limit ∧ limit ≤ b.attempts := by
  unfold isSpent
  cases b.schedule.limit <;> simp

theorem Counts.isSpent_iff (h : Counts schedule clock calls b) :
    b.isSpent = true ↔ schedule.limit = some b.attempts := by
  rw [Backoff.isSpent_iff, h.schedule_eq]
  constructor
  · rintro ⟨limit, given, le⟩
    rw [given, Nat.le_antisymm le (h.attempts_le limit given)]
  · intro given
    exact ⟨_, given, le_rfl⟩

/-- The time from which a call measures is that of the first call, which it may be itself. -/
theorem Counts.startsAt (h : Counts schedule clock calls b) (starts : b.StartsAt began t)
    (measured : Except RangeError Int) (answer : Except Fault (Option Number)) :
    firstTime (calls ++ [⟨began, measured, answer⟩]) = some t ∧ clock = none := by
  rcases starts with started | ⟨fresh, noClock, rfl⟩
  · have asked : calls ≠ [] := by
      rintro rfl
      rw [h.startedAt_eq] at started
      cases started
    rw [firstTime_append asked, ← h.startedAt_eq]
    exact ⟨started, h.readable asked⟩
  · obtain rfl := h.fresh fresh
    exact ⟨rfl, h.clock_eq.symm.trans noClock⟩

theorem Counts.ask (h : Counts schedule clock calls b) {reply : Option Number}
    (answered : (b.ask began measured).1 = .ok reply) :
    Counts schedule clock (calls ++ [⟨began, measured, .ok reply⟩]) (b.ask began measured).2 := by
  obtain ⟨t, starts, found⟩ := ask_answers answered
  obtain ⟨first, noClock⟩ := h.startsAt starts measured (.ok reply)
  generalize (b.ask began measured).2 = after at found ⊢
  have stopped (none_eq : reply = none) (after_eq : after = { b with startedAt := some t }) :
      Counts schedule clock (calls ++ [⟨began, measured, .ok reply⟩]) after := by
    subst none_eq after_eq
    have same : waits (calls ++ [⟨began, measured, .ok none⟩]) = waits calls := by simp
    exact
      { schedule_eq := h.schedule_eq, clock_eq := h.clock_eq, attempts_eq := same ▸ h.attempts_eq
        attempts_le := h.attempts_le, startedAt_eq := first.symm, fresh := by simp
        readable := fun _ => noClock, unsigned := h.unsigned
        waits_unsigned := same ▸ h.waits_unsigned }
  cases found with
  | spent => exact stopped rfl rfl
  | late => exact stopped rfl rfl
  | handed unspent read early grown =>
    have more : waits (calls ++ [⟨began, measured, .ok (some b.interval)⟩]) =
        waits calls ++ [b.interval] := by simp
    refine
      { schedule_eq := h.schedule_eq, clock_eq := h.clock_eq, attempts_eq := ?_, attempts_le := ?_
        startedAt_eq := first.symm, fresh := by simp, readable := fun _ => noClock
        unsigned := isUnsigned_of_grow grown h.unsigned, waits_unsigned := ?_ }
    · rw [more, List.length_append, h.attempts_eq, List.length_singleton]
    · intro limit given
      -- the generator was not spent, so one more attempt is within the limit
      have not_reached : schedule.limit ≠ some b.attempts :=
        mt h.isSpent_iff.mpr (by simp [unspent])
      have le := h.attempts_le limit given
      have ne : limit ≠ b.attempts := by
        rintro rfl
        exact not_reached given
      change b.attempts + 1 ≤ limit
      omega
    · rw [more]
      intro m mem
      rcases List.mem_append.mp mem with before | last
      · exact h.waits_unsigned m before
      · obtain rfl := List.mem_singleton.mp last
        exact h.unsigned

theorem Drawn.of_begin {reply : Except Fault (Option Number) × Backoff}
    (h : Drawn (b.begin t) reply) : Drawn b reply := by
  cases h with
  | kept started nothing => exact .kept started nothing
  | lost unspent => exact .lost unspent
  | handed unspent next => exact .handed unspent next

theorem ask_drawn (began measured : Except RangeError Int) (b : Backoff) :
    Drawn b (b.ask began measured) := by
  cases started : b.startedAt with
  | some t =>
    rw [ask_of_started started]
    exact nextAt_drawn measured b
  | none =>
    cases read : b.reading began with
    | error e =>
      rw [ask_of_unread started read]
      exact .kept b.startedAt (by simp)
    | ok t =>
      rw [ask_of_read started read]
      exact (nextAt_drawn measured (b.begin t)).of_begin

theorem Run.kept (run : Run schedule clock calls b) :
    b.schedule = schedule ∧ b.givenClock = clock := by
  induction run with
  | start => exact ⟨rfl, rfl⟩
  | @ask calls b began measured _ ih =>
    have drawn := ask_drawn began measured b
    generalize b.ask began measured = reply at drawn ⊢
    cases drawn <;> exact ih
  | reset _ ih => exact ih

/-- What holds of the waits so far and the interval that is held, if it does at the start and
handing the interval out keeps it. -/
theorem Run.waits_induction {P : List Number → Number → Prop} (none_yet : P [] schedule.initial)
    (handed : ∀ found m next, P found m → grow schedule m = .ok next → P (found ++ [m]) next)
    (run : Run schedule clock calls b) : P (waits calls) b.interval := by
  induction run with
  | start => exact none_yet
  | @ask calls b began measured before ih =>
    have drawn := ask_drawn began measured b
    generalize b.ask began measured = reply at drawn ⊢
    cases drawn with
    | @kept answer started nothing =>
      have same : waits [⟨began, measured, answer⟩] = [] := by
        match answer, nothing with
        | .ok none, _ => exact waits_stopped rfl
        | .ok (some m), nothing => exact absurd rfl (nothing m)
        | .error e, _ => exact waits_failed rfl
      rwa [waits_append, same, List.append_nil]
    | lost => rwa [waits_append, waits_failed rfl, List.append_nil]
    | handed unspent next =>
      rw [waits_append, waits_handed rfl]
      exact handed _ _ _ ih (before.kept.1 ▸ next)
  | @reset calls b before =>
    obtain ⟨rfl, rfl⟩ := before.kept
    exact none_yet

theorem Run.counts (run : Run schedule clock calls b) (answered : Answered calls) :
    Counts schedule clock calls b := by
  induction run with
  | start => exact counts_start
  | ask began measured _ ih =>
    obtain ⟨reply, answer⟩ := answered _ (List.mem_append_right _ (List.mem_singleton_self _))
    have counted := (ih answered.of_append).ask answer
    rwa [← answer] at counted
  | @reset calls b before =>
    obtain ⟨rfl, rfl⟩ := before.kept
    exact counts_start

/-! ## Stopping -/

def PastAllowance (schedule : Schedule) (calls : List Call) (now : Int) : Prop :=
  ∃ first, firstTime calls = some first ∧ schedule.allowance.lt (now - first : Int) = true

theorem PastAllowance.mono {now later : Int} (h : PastAllowance schedule calls now)
    (le : now ≤ later) : PastAllowance schedule calls later := by
  obtain ⟨first, first_eq, past⟩ := h
  obtain ⟨q, hq⟩ := Number.toRat?_isSome schedule.allowance_finite
  refine ⟨first, first_eq, ?_⟩
  rw [Number.lt_iff hq (Number.toRat?_int _)] at past ⊢
  exact past.trans_le (by exact_mod_cast Int.sub_le_sub_right le first)

theorem PastAllowance.append {now : Int} (h : PastAllowance schedule calls now)
    (more : List Call) : PastAllowance schedule (calls ++ more) now := by
  obtain ⟨first, first_eq, past⟩ := h
  have asked : calls ≠ [] := by
    rintro rfl
    cases first_eq
  exact ⟨first, (firstTime_append asked).trans first_eq, past⟩

theorem not_pastAllowance_at_once {now : Int} (at_once : ∀ call ∈ calls, call.began = .ok now) :
    ¬PastAllowance schedule calls now := by
  rintro ⟨first, first_eq, past⟩
  cases calls with
  | nil => cases first_eq
  | cons call rest =>
    have began_eq := at_once call List.mem_cons_self
    obtain rfl : now = first := by simpa [firstTime, began_eq, Except.toOption] using first_eq
    obtain ⟨q, hq⟩ := Number.toRat?_isSome schedule.allowance_finite
    have pos := (Number.lt_iff (Number.toRat?_int 0) hq).mp schedule.allowance_pos
    have neg := (Number.lt_iff hq (Number.toRat?_int _)).mp past
    rw [Int.sub_self] at neg
    exact lt_asymm pos neg

theorem Counts.reply_eq_none_iff (h : Counts schedule clock calls b) {reply : Option Number}
    (answered : (b.ask began measured).1 = .ok reply) :
    reply = none ↔ schedule.limit = some b.attempts ∨ ∃ now, measured = .ok now ∧
      PastAllowance schedule (calls ++ [⟨began, measured, .ok reply⟩]) now := by
  obtain ⟨t, starts, found⟩ := ask_answers answered
  obtain ⟨first, -⟩ := h.startsAt starts measured (.ok reply)
  generalize (b.ask began measured).2 = after at found
  cases found with
  | spent spent => exact iff_of_true rfl (.inl (h.isSpent_iff.mp spent))
  | late unspent read late =>
    exact iff_of_true rfl (.inr ⟨_, read, t, first, h.schedule_eq ▸ late⟩)
  | handed unspent read early grown =>
    refine iff_of_false (by simp) ?_
    rintro (reached | ⟨now, read', first', first_eq, past⟩)
    · rw [h.isSpent_iff.mpr reached] at unspent
      cases unspent
    · cases read.symm.trans read'
      cases first.symm.trans first_eq
      rw [← h.schedule_eq, early] at past
      cases past

def Stops (schedule : Schedule) (calls : List Call) (b : Backoff) : Prop :=
  schedule.limit = some b.attempts ∨ ∃ t ∈ times calls, PastAllowance schedule calls t

theorem Counts.stops_ask (h : Counts schedule clock calls b) (stops : Stops schedule calls b)
    {reply : Option Number}
    (answered : (b.ask began measured).1 = .ok reply) :
    Stops schedule (calls ++ [⟨began, measured, .ok reply⟩]) (b.ask began measured).2 := by
  rcases stops with reached | ⟨t, mem, past⟩
  · obtain ⟨t, -, found⟩ := ask_answers answered
    generalize (b.ask began measured).2 = after at found ⊢
    cases found with
    | spent => exact .inl reached
    | late => exact .inl reached
    | handed unspent =>
      rw [h.isSpent_iff.mpr reached] at unspent
      cases unspent
  · refine .inr ⟨t, ?_, past.append _⟩
    rw [times_append]
    exact List.mem_append_left _ mem

theorem Run.stops (run : Run schedule clock calls b) (answered : Answered calls)
    (stopped : ∃ call ∈ calls, call.answer = .ok none) : Stops schedule calls b := by
  induction run with
  | start => simp at stopped
  | @ask calls b began measured before ih =>
    obtain ⟨reply, answer⟩ := answered _ (List.mem_append_right _ (List.mem_singleton_self _))
    have counts := before.counts answered.of_append
    rw [show (b.ask began measured).1 = .ok reply from answer] at stopped ⊢
    by_cases already : ∃ call ∈ calls, call.answer = .ok none
    · obtain ⟨call, mem, call_eq⟩ := already
      have stops := ih answered.of_append ⟨call, mem, call_eq⟩
      exact counts.stops_ask stops answer
    · -- then it is the last call that finds a reason to stop
      obtain rfl : reply = none := by
        obtain ⟨call, mem, call_eq⟩ := stopped
        rcases List.mem_append.mp mem with earlier | last
        · exact absurd ⟨call, earlier, call_eq⟩ already
        · obtain rfl := List.mem_singleton.mp last
          exact Except.ok.inj call_eq
      have attempts : (b.ask began measured).2.attempts = b.attempts := by
        obtain ⟨t, -, found⟩ := ask_answers answer
        generalize (b.ask began measured).2 = after at found ⊢
        cases found <;> rfl
      rcases (counts.reply_eq_none_iff answer).mp rfl with reached | ⟨now, rfl, past⟩
      · exact .inl (attempts ▸ reached)
      · exact .inr ⟨now, by simp [times, Except.toOption], past⟩
  | reset => simp at stopped

/-- A clock that has not gone back does not take a generator out of stopping. -/
theorem Counts.nextAt_of_stops (h : Counts schedule clock calls b)
    (stops : Stops schedule calls b) (asked : calls ≠ []) {now : Int}
    (forward : ∀ t ∈ times calls, t ≤ now) :
    b.nextAt (.ok now) = (.ok none, b) ∧ ∀ began, b.ask began (.ok now) = (.ok none, b) := by
  have noClock : b.givenClock = none := h.clock_eq.trans (h.readable asked)
  cases started : b.startedAt with
  | none => exact absurd (h.fresh started) asked
  | some first =>
    have begun := begin_of_started started now
    have stop : (b.isSpent || (b.begin now).isLate now) = true := by
      rw [begun, Bool.or_eq_true]
      rcases stops with reached | ⟨t, mem, past⟩
      · exact .inl (h.isSpent_iff.mpr reached)
      · obtain ⟨first', first_eq, past⟩ := past.mono (forward t mem)
        rw [← h.startedAt_eq, started, Option.some.injEq] at first_eq
        subst first_eq
        simp only [isLate, elapsed, started, h.schedule_eq]
        exact .inr past
    have stays : b.nextAt (.ok now) = (.ok none, b) := by
      rw [nextAt_of_stop noClock stop, begun]
    exact ⟨stays, fun began => (ask_of_started started).trans stays⟩

/-! ## Iterating -/

theorem take_of_none {n : Nat} (stopped : b.nextAt ambient = (.ok none, b)) :
    b.take ambient (n + 1) = (.ok ([], true), b) := by
  simp only [take, stopped]

structure Taken (ambient : Except RangeError Int) (n : Nat) (found : List Number)
    (stopped : Bool) (calls : List Call) : Prop where
  answered : Answered calls
  at_once : ∀ call ∈ calls, call.began = ambient ∧ call.measured = ambient
  waits_eq : waits calls = found
  length_eq : calls.length = found.length + stopped.toNat
  length_le : calls.length ≤ n
  whole : stopped = false → calls.length = n

theorem Run.take (run : Run schedule clock calls b) {n : Nat} {found : List Number}
    {stopped : Bool} (taken : (b.take ambient n).1 = .ok (found, stopped)) :
    ∃ more, Taken ambient n found stopped more ∧
      Run schedule clock (calls ++ more) (b.take ambient n).2 := by
  induction n generalizing calls b found stopped with
  | zero =>
    cases taken
    exact ⟨[], ⟨by simp [Answered], by simp, rfl, rfl, le_rfl, fun _ => rfl⟩,
      by simpa [Backoff.take] using run⟩
  | succ n ih =>
    have asked := run.ask ambient ambient
    rw [ask_self] at asked
    cases reply_eq : b.nextAt ambient with | mk answer after =>
    cases answer with
    | error e => simp [Backoff.take, reply_eq] at taken
    | ok reply =>
      rw [reply_eq] at asked
      cases reply with
      | none =>
        simp only [Backoff.take, reply_eq, Except.ok.injEq, Prod.mk.injEq] at taken ⊢
        obtain ⟨rfl, rfl⟩ := taken
        exact ⟨_, ⟨by simp [Answered], by simp, by simp, rfl, by simp, by simp⟩, asked⟩
      | some wait =>
        simp only [Backoff.take, reply_eq] at taken ⊢
        obtain ⟨⟨rest, stops⟩, rest_taken, found_eq⟩ := exists_of_map_ok taken
        simp only [Prod.mk.injEq] at found_eq
        obtain ⟨rfl, rfl⟩ := found_eq
        obtain ⟨more, later, later_run⟩ := ih asked rest_taken
        rw [List.append_assoc] at later_run
        refine ⟨_, ⟨?_, ?_, ?_, ?_, ?_, ?_⟩, later_run⟩
        · simpa [Answered] using later.answered
        · simpa using later.at_once
        · rw [waits_append, waits_handed rfl, later.waits_eq]
          rfl
        · rw [List.length_append, later.length_eq, List.length_singleton, List.length_cons]
          omega
        · have le := later.length_le
          rw [List.length_append, List.length_singleton]
          omega
        · intro going
          rw [List.length_append, later.whole going, List.length_singleton, Nat.add_comm]

/-- In a run of answered calls a generator has counted the waits since it started, no more of
them than its limit, and none is the number that says that there is none. A call stops exactly at
the limit or past the allowance. After a call that stopped, every later one stops and changes
nothing, and an iteration ends at once. -/
theorem stops_of_run (run : Run schedule clock calls b) (answered : Answered calls) :
    b.attempts = (waits calls).length ∧
      (∀ limit, schedule.limit = some limit → b.attempts ≤ limit) ∧
      (∀ m ∈ waits calls, m.same (.int (-1)) = false) ∧
      (∀ began measured reply, (b.ask began measured).1 = .ok reply →
        (reply = none ↔ schedule.limit = some b.attempts ∨ ∃ now, measured = .ok now ∧
          PastAllowance schedule (calls ++ [⟨began, measured, .ok reply⟩]) now)) ∧
      ((∃ call ∈ calls, call.answer = .ok none) → ∀ now, (∀ t ∈ times calls, t ≤ now) →
        (∀ began, b.ask began (.ok now) = (.ok none, b)) ∧
          ∀ n, b.take (.ok now) (n + 1) = (.ok ([], true), b)) := by
  have counts := run.counts answered
  refine ⟨counts.attempts_eq, counts.attempts_le, ?_, ?_, ?_⟩
  · intro m mem
    exact (counts.waits_unsigned m mem).same_neg_one
  · intro began measured reply reply_eq
    exact counts.reply_eq_none_iff reply_eq
  · rintro ⟨call, mem, stopped⟩ now forward
    have stops := run.stops answered ⟨call, mem, stopped⟩
    have asked := List.ne_nil_of_mem mem
    obtain ⟨stays, asks⟩ := counts.nextAt_of_stops stops asked forward
    exact ⟨asks, fun n => take_of_none stays⟩

/-- A client's generator hands out one wait, and is asked again too late. -/
theorem stops_of_run_late : ∃ calls b, Run Policy.clientDefault.schedule none calls b ∧
    Answered calls ∧ b.attempts = 1 ∧
      ∀ now, 900001 ≤ now → ∀ began, b.ask began (.ok now) = (.ok none, b) := by
  have unasked : Run Policy.clientDefault.schedule none [] _ := .start
  have run := (unasked.ask (.ok 0) (.ok 0)).ask (.ok 900001) (.ok 900001)
  generalize first_eq : (Backoff.start Policy.clientDefault.schedule none).ask (.ok 0) (.ok 0) =
    first at run
  generalize second_eq : first.2.ask (.ok 900001) (.ok 900001) = second at run
  have first_answer : first.1 = .ok (some 500) := by
    subst first_eq
    exact eq_ok_of_toOption (by decide +kernel)
  have second_answer : second.1 = .ok none := by
    subst first_eq second_eq
    exact eq_ok_of_toOption (by decide +kernel)
  rw [first_answer, second_answer] at run
  have answered : Answered ([] ++ [⟨.ok 0, .ok 0, .ok (some 500)⟩] ++
      [⟨.ok 900001, .ok 900001, .ok none⟩]) := by simp [Answered]
  obtain ⟨attempts, -, -, -, stays⟩ := stops_of_run run answered
  refine ⟨_, _, run, answered, attempts, fun now le => ?_⟩
  have forward : ∀ t ∈ times ([] ++ [⟨.ok 0, .ok 0, .ok (some 500)⟩] ++
      [⟨.ok 900001, .ok 900001, .ok none⟩]), t ≤ now := by
    simp [times, Except.toOption]
    omega
  exact (stays (by simp) now forward).1

end Backoff

end HttpRetry

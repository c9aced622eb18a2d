import HttpRetry.Proofs.Act
import HttpRetry.Proofs.Backoff.Growth

/-!
# Generators of equal policies

Policies are equal if their numbers are equal in value, whatever the kinds. Generators of equal
policies that are asked at the same readings of a clock stop at the same calls. They hand out
equal waits if they compute in the same way. If one computes exactly and the other in doubles,
the waits drift apart above 53 bits, unless the ceiling brings them together again.
-/

namespace HttpRetry.Backoff

variable {b : Backoff}

/-! ## Calls -/

def handOut (b : Backoff) (started : Option Int) :
    Except RangeError Number → Except Fault (Option Number) × Backoff
  | .ok interval =>
    (.ok (some b.interval),
      { b with attempts := b.attempts + 1, interval, startedAt := started })
  | .error e => (.error (.range e), { b with attempts := b.attempts + 1, startedAt := started })

theorem handOut_spec (b : Backoff) (started : Option Int) (r : Except RangeError Number) :
    (b.handOut started r).1 ≠ .ok none ∧ (b.handOut started r).2.attempts = b.attempts + 1 ∧
      (b.handOut started r).2.startedAt = started := by
  cases r with
  | ok => exact ⟨by simp [handOut], rfl, rfl⟩
  | error => exact ⟨by simp [handOut], rfl, rfl⟩

theorem nextAt_of_going {now : Int} (noClock : b.givenClock = none)
    (going : ¬(b.isSpent || (b.begin now).isLate now) = true) :
    b.nextAt (.ok now) =
      b.handOut (b.begin now).startedAt (grow b.schedule b.interval) := by
  cases grown : grow b.schedule b.interval with
  | ok interval =>
    rw [nextAt_of_grow_ok noClock going grown]
    rfl
  | error e =>
    rw [nextAt_of_grow_error noClock going grown]
    rfl

inductive AskedAtOnce (b b' : Backoff) : Except Fault (Option Number) × Backoff →
    Except Fault (Option Number) × Backoff → Prop
  | unread (fault : Fault) : AskedAtOnce b b' (.error fault, b) (.error fault, b')
  | stopped (started : Option Int) : AskedAtOnce b b'
      (.ok none, { b with startedAt := started }) (.ok none, { b' with startedAt := started })
  | due (started : Option Int) : AskedAtOnce b b'
      (b.handOut started (grow b.schedule b.interval))
      (b'.handOut started (grow b'.schedule b'.interval))

end HttpRetry.Backoff

namespace HttpRetry.Policy

variable {p q : Policy} {b b' : Backoff} {a f c : Rat}

/-! ## How a wait grows -/

/-- What growing an interval of value `a` by a factor of value `f` comes to, exactly or rounded
to doubles. -/
inductive Grown (p : Policy) (a f : Rat) : Bool → Except RangeError Number → Prop
  | exact {i : Int} (value : i = ⌊a * f⌋) :
      Grown p a f true (.ok (Number.least i p.ceiling))
  | rounded {i : Int} (value : i = ⌊Double.rounded (Double.rounded a * Double.rounded f)⌋)
      (within : Double.rounded a * Double.rounded f < Double.overflow) :
      Grown p a f false (.ok (Number.least i p.ceiling))
  | beyond (overflows : Double.overflow ≤ Double.rounded a * Double.rounded f) :
      Grown p a f false (.error .infinityToInteger)

theorem grow_of_truncate {m : Number} {i : Int}
    (h : (do (← m.mul p.multiplier).truncate) = .ok i) :
    Backoff.grow p.schedule m = .ok (Number.least i p.ceiling) :=
  Backoff.grow_of_truncate h

theorem Runs.grown (h : p.Runs b) (ha : b.interval.toRat? = some a)
    (hf : p.multiplier.toRat? = some f) :
    Grown p a f (b.interval.isExact && p.multiplier.isExact)
      (Backoff.grow b.schedule b.interval) := by
  have one_le := (Number.le_iff (Number.toRat?_int 1) hf).mp p.one_le_multiplier
  have nonneg_a : 0 ≤ a := by
    exact_mod_cast (Number.le_iff (Number.toRat?_int 0) ha).mp h.allows.nonneg
  have nonneg_f : 0 ≤ f := le_trans (by norm_num) one_le
  rw [h.schedule]
  cases doubles : b.interval.isExact && p.multiplier.isExact with
  | false =>
    by_cases within : Double.rounded a * Double.rounded f < Double.overflow
    · rw [grow_of_truncate (Number.truncate_mul_of_doubles ha hf nonneg_a nonneg_f
        h.allows.isFinite p.multiplier_finite doubles within)]
      exact .rounded rfl within
    · have overflows : b.interval.Overflows p.multiplier :=
        ⟨doubles, a, f, ha, hf, not_lt.mp within⟩
      have failed := (h.grow_eq_error_iff .infinityToInteger).mpr ⟨rfl, overflows⟩
      rw [← h.schedule, failed]
      exact .beyond (not_lt.mp within)
  | true =>
    obtain ⟨exact_a, exact_f⟩ := Bool.and_eq_true_iff.mp doubles
    rw [grow_of_truncate (Number.truncate_mul_of_exact ha hf nonneg_a nonneg_f exact_a exact_f)]
    exact .exact rfl

/-! ## Equal intervals -/

structure Valued (p : Policy) (b : Backoff) (a f c : Rat) : Prop where
  runs : p.Runs b
  interval : b.interval.toRat? = some a
  multiplier : p.multiplier.toRat? = some f
  ceiling : p.ceiling.toRat? = some c

structure OfOneKind (p q : Policy) : Prop where
  multiplier : p.multiplier.isExact = q.multiplier.isExact
  ceiling : p.ceiling.isExact = q.ceiling.isExact

theorem OfOneKind.symm (h : OfOneKind p q) : OfOneKind q p :=
  ⟨h.multiplier.symm, h.ceiling.symm⟩

/-- The kinds of the numbers make no difference between two policies: both multiply doubles, or
the kinds are the same, or no product overflows and a product that only one of them rounds is
one of integers that the ceiling takes over or that has 53 bits at most. -/
inductive Alike (p q : Policy) : Prop
  | rounding (h : p.multiplier.isExact = false) (h' : q.multiplier.isExact = false)
  | kinds (h : OfOneKind p q)
  | within (h : ¬p.ceiling.Overflows p.multiplier) (h' : ¬q.ceiling.Overflows q.multiplier)
      (whole : p.ceiling.isFraction = false) (whole' : q.ceiling.isFraction = false)
      (small : p.multiplier.isExact = q.multiplier.isExact ∨ p.multiplier.isFraction = false ∧
        q.multiplier.isFraction = false ∧ p.ceiling.le (.int (2 ^ 53)) = true)

inductive Agree (p q : Policy) (c : Rat) :
    Except RangeError Number → Except RangeError Number → Prop
  | raised (e : RangeError) : Agree p q c (.error e) (.error e)
  | grown {i j : Int} (value : min (i : Rat) c = min (j : Rat) c) (kind : OfOneKind p q → i = j) :
      Agree p q c (.ok (Number.least i p.ceiling)) (.ok (Number.least j q.ceiling))

theorem Agree.symm {r r' : Except RangeError Number} (h : Agree p q c r r') : Agree q p c r' r := by
  cases h with
  | raised e => exact .raised e
  | grown value kind => exact .grown value.symm fun h => (kind h.symm).symm

theorem Grown.agree {exact : Bool} {r r' : Except RangeError Number} (h : Grown p a f exact r)
    (h' : Grown q a f exact r') : Agree p q c r r' := by
  cases h with
  | exact value =>
    cases h' with
    | exact value' => exact .grown (by rw [value, value']) fun _ => value.trans value'.symm
  | rounded value within =>
    cases h' with
    | rounded value' => exact .grown (by rw [value, value']) fun _ => value.trans value'.symm
    | beyond overflows => exact absurd within (not_lt.mpr overflows)
  | beyond overflows =>
    cases h' with
    | rounded _ within => exact absurd within (not_lt.mpr overflows)
    | beyond => exact .raised _

theorem Valued.exists_int (v : Valued p b a f c) (exact : b.interval.isExact = true)
    (whole : p.ceiling.isFraction = false) : ∃ n : Int, a = n := by
  have whole_interval : b.interval.isFraction = false := by
    obtain ⟨i, eq⟩ | eq := v.runs.whole_or_ceiling
    · rw [eq]
      rfl
    · rwa [eq]
  exact Number.exists_int exact whole_interval v.interval

theorem Valued.eq_ceiling (v : Valued p b a f c) (rounds : b.interval.isExact = false) :
    a = c := by
  obtain ⟨i, eq⟩ | eq := v.runs.whole_or_ceiling
  · rw [eq] at rounds
    cases rounds
  · exact Option.some.inj (v.interval.symm.trans (eq ▸ v.ceiling))

/-- One product is exact and the other is rounded. -/
theorem Valued.agree_mixed (v : Valued p b a f c) (v' : Valued q b' a f c)
    (exact : (b.interval.isExact && p.multiplier.isExact) = true)
    (rounded : (b'.interval.isExact && q.multiplier.isExact) = false)
    (within : ¬q.ceiling.Overflows q.multiplier) (whole : p.ceiling.isFraction = false)
    (small : p.multiplier.isExact = q.multiplier.isExact ∨
      p.multiplier.isFraction = false ∧ c ≤ 2 ^ 53)
    (mixed : ¬OfOneKind p q) :
    Agree p q c (Backoff.grow b.schedule b.interval) (Backoff.grow b'.schedule b'.interval) := by
  have grown := v.runs.grown v.interval v.multiplier
  have grown' := v'.runs.grown v'.interval v'.multiplier
  have nonneg := (Number.le_iff (Number.toRat?_int 0) v.interval).mp v.runs.allows.nonneg
  have le_ceiling := (Number.le_iff v.interval v.ceiling).mp v.runs.allows.le_ceiling
  have one_le := (Number.le_iff (Number.toRat?_int 1) v.multiplier).mp p.one_le_multiplier
  obtain ⟨exact_interval, factor⟩ := Bool.and_eq_true_iff.mp exact
  obtain ⟨n, rfl⟩ := v.exists_int exact_interval whole
  rw [exact] at grown
  rw [rounded] at grown'
  generalize Backoff.grow b.schedule b.interval = r at grown ⊢
  generalize Backoff.grow b'.schedule b'.interval = r' at grown' ⊢
  cases grown with
  | @exact i value =>
    cases grown' with
    | beyond overflows =>
      exact absurd (v'.runs.overflows_ceiling
        ⟨rounded, n, f, v'.interval, v'.multiplier, overflows⟩) within
    | @rounded j value' _ =>
      refine .grown ?_ fun h => absurd h mixed
      rw [value, value']
      rcases small with same | small
      · -- the interval that is no integer is the ceiling
        have interval : b'.interval.isExact = false := by
          rwa [← same, factor, Bool.and_true] at rounded
        obtain rfl : (n : Rat) = c := v'.eq_ceiling interval
        have fixed := Number.rounded_of_double interval v'.interval (by exact_mod_cast nonneg)
        exact (Double.min_floor_rounded_ceiling (by exact_mod_cast nonneg) fixed
          (by exact_mod_cast one_le)).symm
      · obtain ⟨whole_factor, small⟩ := small
        obtain ⟨k, rfl⟩ := Number.exists_int factor whole_factor v.multiplier
        rw [← Int.cast_mul n k, Int.floor_intCast, Int.cast_mul]
        exact (Double.min_floor_rounded (by exact_mod_cast nonneg) (by exact_mod_cast one_le)
          le_ceiling small).symm

theorem Valued.agree (v : Valued p b a f c) (v' : Valued q b' a f c) (alike : p.Alike q)
    (kind : OfOneKind p q → b.interval.isExact = b'.interval.isExact) :
    Agree p q c (Backoff.grow b.schedule b.interval) (Backoff.grow b'.schedule b'.interval) := by
  have grown := v.runs.grown v.interval v.multiplier
  have grown' := v'.runs.grown v'.interval v'.multiplier
  cases alike with
  | rounding h h' =>
    rw [h, Bool.and_false] at grown
    rw [h', Bool.and_false] at grown'
    exact grown.agree grown'
  | kinds h =>
    rw [kind h, h.multiplier] at grown
    exact grown.agree grown'
  | within h h' whole whole' small =>
    have ceiling_le (le : p.ceiling.le (.int (2 ^ 53)) = true) : c ≤ 2 ^ 53 := by
      exact_mod_cast (Number.le_iff v.ceiling (Number.toRat?_int (2 ^ 53))).mp le
    cases exact : b.interval.isExact && p.multiplier.isExact with
    | true =>
      cases exact' : b'.interval.isExact && q.multiplier.isExact with
      | true =>
        rw [exact] at grown
        rw [exact'] at grown'
        exact grown.agree grown'
      | false =>
        have small' := small.imp_right fun ⟨whole, _, le⟩ => And.intro whole (ceiling_le le)
        refine v.agree_mixed v' exact exact' h' whole small' fun one => ?_
        rw [kind one, one.multiplier, exact'] at exact
        cases exact
    | false =>
      cases exact' : b'.interval.isExact && q.multiplier.isExact with
      | true =>
        have small' := small.imp Eq.symm fun ⟨_, whole, le⟩ => And.intro whole (ceiling_le le)
        refine (v'.agree_mixed v exact' exact h whole' small' fun one => ?_).symm
        rw [kind one.symm, one.symm.multiplier, exact'] at exact
        cases exact
      | false =>
        rw [exact] at grown
        rw [exact'] at grown'
        exact grown.agree grown'

/-! ## Calls at once -/

structure Abreast (p q : Policy) (b b' : Backoff) : Prop where
  runs : p.Runs b
  runs' : q.Runs b'
  attempts : b.attempts = b'.attempts
  startedAt : b.startedAt = b'.startedAt

theorem abreast_newBackoff : Abreast p q p.newBackoff q.newBackoff :=
  ⟨runs_newBackoff, runs_newBackoff, rfl, rfl⟩

theorem Abreast.askedAtOnce (h : Abreast p q b b') (limit : p.maxRetries = q.maxRetries)
    (ambient : Except RangeError Int) :
    Backoff.AskedAtOnce b b' (b.nextAt ambient) (b'.nextAt ambient) := by
  have spent : b.isSpent = b'.isSpent := by
    simp only [Backoff.isSpent, h.runs.schedule, h.runs'.schedule, schedule, limit, h.attempts]
  cases ambient with
  | error e =>
    -- a generator that has started and is spent stops without the clock
    have unread (b : Backoff) (noClock : b.givenClock = none) : b.nextAt (.error e) =
        if b.startedAt.isSome && b.isSpent then (.ok none, b) else (.error (.range e), b) := by
      simp [Backoff.nextAt, Backoff.reading_eq noClock]
    rw [unread b h.runs.noClock, unread b' h.runs'.noClock, ← h.startedAt, ← spent]
    split
    · have unchanged : { b' with startedAt := b.startedAt } = b' := by rw [h.startedAt]
      have stopped : Backoff.AskedAtOnce b b' (.ok none, b)
          (.ok none, { b' with startedAt := b.startedAt }) := .stopped b.startedAt
      rw [unchanged] at stopped
      exact stopped
    · exact .unread _
  | ok now =>
    have started : (b.begin now).startedAt = (b'.begin now).startedAt := by
      simp only [Backoff.begin, h.startedAt]
    have late : (b.begin now).isLate now = (b'.begin now).isLate now := by
      simp only [Backoff.isLate, Backoff.elapsed, Backoff.begin, h.runs.schedule,
        h.runs'.schedule, h.startedAt, schedule]
    by_cases stop : (b.isSpent || (b.begin now).isLate now) = true
    · rw [Backoff.nextAt_of_stop h.runs.noClock stop]
      rw [spent, late] at stop
      have begun : b'.begin now = { b' with startedAt := (b.begin now).startedAt } := by
        rw [started]
        rfl
      rw [Backoff.nextAt_of_stop h.runs'.noClock stop, begun]
      exact .stopped _
    · rw [Backoff.nextAt_of_going h.runs.noClock stop]
      rw [spent, late] at stop
      rw [Backoff.nextAt_of_going h.runs'.noClock stop, ← started]
      exact .due _

theorem Abreast.nextAt (h : Abreast p q b b') (limit : p.maxRetries = q.maxRetries)
    (ambient : Except RangeError Int) :
    Abreast p q (b.nextAt ambient).2 (b'.nextAt ambient).2 ∧
      ((b.nextAt ambient).1 = .ok none ↔ (b'.nextAt ambient).1 = .ok none) := by
  have runs := h.runs.nextAt ambient
  have runs' := h.runs'.nextAt ambient
  have asked := h.askedAtOnce limit ambient
  generalize b.nextAt ambient = reply at runs asked
  generalize b'.nextAt ambient = reply' at runs' asked
  cases asked with
  | unread fault => exact ⟨⟨runs, runs', h.attempts, h.startedAt⟩, by simp⟩
  | stopped started => exact ⟨⟨runs, runs', h.attempts, rfl⟩, by simp⟩
  | due started =>
    obtain ⟨handed, attempts, begun⟩ := b.handOut_spec started (Backoff.grow b.schedule b.interval)
    obtain ⟨handed', attempts', begun'⟩ :=
      b'.handOut_spec started (Backoff.grow b'.schedule b'.interval)
    refine ⟨⟨runs, runs', ?_, begun.trans begun'.symm⟩, iff_of_false handed handed'⟩
    rw [attempts, attempts', h.attempts]

structure Level (p q : Policy) (b b' : Backoff) : Prop extends Abreast p q b b' where
  same : b.interval.same b'.interval = true
  kind : OfOneKind p q → b.interval.isExact = b'.interval.isExact

inductive SameAnswer : Except Fault (Option Number) → Except Fault (Option Number) → Prop
  | raised (fault : Fault) : SameAnswer (.error fault) (.error fault)
  | stopped : SameAnswer (.ok none) (.ok none)
  | handed {m n : Number} (same : m.same n = true) : SameAnswer (.ok (some m)) (.ok (some n))

theorem SameAnswer.same {x y : Except Fault (Option Number)} (h : SameAnswer x y) {m n : Number}
    (hx : x.toOption.join = some m) (hy : y.toOption.join = some n) : m.same n = true := by
  cases h with
  | raised => cases hx
  | stopped => cases hx
  | handed same =>
    cases hx
    cases hy
    exact same

theorem Agree.same_least {i j : Int} (hc : p.ceiling.toRat? = some c)
    (hc' : q.ceiling.toRat? = some c) (value : min (i : Rat) c = min (j : Rat) c)
    (kind : OfOneKind p q → i = j) :
    (Number.least i p.ceiling).same (Number.least j q.ceiling) = true ∧
      (OfOneKind p q → (Number.least i p.ceiling).isExact = (Number.least j q.ceiling).isExact) := by
  constructor
  · have least := Number.toRat?_least (Number.toRat?_int i) hc
    have least' := Number.toRat?_least (Number.toRat?_int j) hc'
    exact (Number.same_iff least least').mpr value
  · intro one
    obtain rfl := kind one
    have lt_eq : p.ceiling.lt i = q.ceiling.lt i := by
      rw [Bool.eq_iff_iff, Number.lt_iff hc (Number.toRat?_int i),
        Number.lt_iff hc' (Number.toRat?_int i)]
    unfold Number.least
    rw [lt_eq]
    split
    · exact one.ceiling
    · rfl

theorem Level.nextAt (h : Level p q b b') (equal : p.same q = true) (alike : p.Alike q)
    (ambient : Except RangeError Int) :
    Level p q (b.nextAt ambient).2 (b'.nextAt ambient).2 ∧
      SameAnswer (b.nextAt ambient).1 (b'.nextAt ambient).1 := by
  simp only [Policy.same, Bool.and_eq_true, beq_iff_eq] at equal
  obtain ⟨⟨⟨-, limit⟩, ceilings⟩, multipliers⟩ := equal
  obtain ⟨a, ha⟩ := Number.toRat?_isSome h.runs.allows.isFinite
  obtain ⟨a', ha'⟩ := Number.toRat?_isSome h.runs'.allows.isFinite
  obtain ⟨f, hf⟩ := Number.toRat?_isSome p.multiplier_finite
  obtain ⟨f', hf'⟩ := Number.toRat?_isSome q.multiplier_finite
  obtain ⟨c, hc⟩ := Number.toRat?_isSome p.ceiling_finite
  obtain ⟨c', hc'⟩ := Number.toRat?_isSome q.ceiling_finite
  obtain rfl := (Number.same_iff ha ha').mp h.same
  obtain rfl := (Number.same_iff hf hf').mp multipliers
  obtain rfl := (Number.same_iff hc hc').mp ceilings
  have agree := Valued.agree ⟨h.runs, ha, hf, hc⟩ ⟨h.runs', ha', hf', hc'⟩ alike h.kind
  obtain ⟨abreast, -⟩ := h.toAbreast.nextAt limit ambient
  have asked := h.toAbreast.askedAtOnce limit ambient
  generalize b.nextAt ambient = reply at abreast asked ⊢
  generalize b'.nextAt ambient = reply' at abreast asked ⊢
  cases asked with
  | unread fault => exact ⟨h, .raised fault⟩
  | stopped started => exact ⟨⟨abreast, h.same, h.kind⟩, .stopped⟩
  | due started =>
    generalize Backoff.grow b.schedule b.interval = r at agree abreast ⊢
    generalize Backoff.grow b'.schedule b'.interval = r' at agree abreast ⊢
    -- the interval that is handed out is the one before; the grown ones are for the next call
    cases agree with
    | raised e => exact ⟨⟨abreast, h.same, h.kind⟩, .raised _⟩
    | grown value kind =>
      obtain ⟨same, kind⟩ := Agree.same_least hc hc' value kind
      exact ⟨⟨abreast, same, kind⟩, .handed h.same⟩

/-! ## Runs -/

def answers : List (Except RangeError Int) → Backoff → List (Except Fault (Option Number))
  | [], _ => []
  | ambient :: rest, b => (b.nextAt ambient).1 :: answers rest (b.nextAt ambient).2

theorem Abreast.answers (h : Abreast p q b b') (limit : p.maxRetries = q.maxRetries)
    (readings : List (Except RangeError Int)) :
    List.Forall₂ (fun x y => x = .ok none ↔ y = .ok none) (answers readings b)
      (answers readings b') := by
  induction readings generalizing b b' with
  | nil => exact .nil
  | cons ambient rest ih =>
    obtain ⟨after, stops⟩ := h.nextAt limit ambient
    exact .cons stops (ih after)

theorem Level.answers (h : Level p q b b') (equal : p.same q = true) (alike : p.Alike q)
    (readings : List (Except RangeError Int)) :
    List.Forall₂ SameAnswer (answers readings b) (answers readings b') := by
  induction readings generalizing b b' with
  | nil => exact .nil
  | cons ambient rest ih =>
    obtain ⟨after, answer⟩ := h.nextAt equal alike ambient
    exact .cons answer (ih after)

/-- New generators of equal policies that are asked at the same readings of a clock stop at the
same calls, and give answers of the same value if the policies are alike. -/
theorem answers_of_same (equal : p.same q = true) (readings : List (Except RangeError Int)) :
    List.Forall₂ (fun x y => x = .ok none ↔ y = .ok none) (answers readings p.newBackoff)
        (answers readings q.newBackoff) ∧
      (p.Alike q → List.Forall₂ SameAnswer (answers readings p.newBackoff)
        (answers readings q.newBackoff)) := by
  have limit : p.maxRetries = q.maxRetries := by
    simp only [same, Bool.and_eq_true, beq_iff_eq] at equal
    exact equal.1.1.2
  refine ⟨abreast_newBackoff.answers limit readings, fun alike => ?_⟩
  have first : Number.same (.int Defaults.initialIntervalMillis)
      (.int Defaults.initialIntervalMillis) = true := by decide +kernel
  have level : Level p q p.newBackoff q.newBackoff :=
    ⟨abreast_newBackoff, first, fun _ => rfl⟩
  exact level.answers equal alike readings

def wholeDefault : Policy :=
  { clientDefault with
    multiplier := .int 2
    multiplier_finite := by decide +kernel
    one_le_multiplier := by decide +kernel }

theorem alike_wholeDefault : wholeDefault.Alike clientDefault := by
  have ceiling : clientDefault.ceiling.toRat? =
      some ((Defaults.clientMaxIntervalMillis : Int) : Rat) := rfl
  have multiplier : clientDefault.multiplier.toRat? = some 2 := by decide +kernel
  refine .within ?_ ?_ rfl rfl (.inr ⟨rfl, rfl, by decide +kernel⟩)
  · rintro ⟨exact, -⟩
    cases exact
  · rintro ⟨-, a, b, ha, hb, overflows⟩
    obtain rfl := Option.some.inj (ceiling.symm.trans ha)
    obtain rfl := Option.some.inj (multiplier.symm.trans hb)
    have rounded_ceiling : Double.rounded ((Defaults.clientMaxIntervalMillis : Int) : Rat) =
        ((Defaults.clientMaxIntervalMillis : Int) : Rat) :=
      Double.rounded_intCast (by decide) (by decide)
    have rounded_two : Double.rounded 2 = 2 := by
      simpa using Double.rounded_two_pow (k := 1) (by decide)
    have within := Double.two_pow_lt_overflow (k := 53) (by decide)
    rw [rounded_ceiling, rounded_two, Defaults.clientMaxIntervalMillis] at overflows
    norm_num at overflows within
    linarith

theorem answers_of_same_wholeDefault : wholeDefault.same clientDefault = true ∧
    List.Forall₂ SameAnswer (answers [.ok 0, .ok 0, .ok 0] wholeDefault.newBackoff)
      (answers [.ok 0, .ok 0, .ok 0] clientDefault.newBackoff) := by
  have equal : wholeDefault.same clientDefault = true := by decide +kernel
  exact ⟨equal, (answers_of_same equal _).2 alike_wholeDefault⟩

def steepOptions (multiplier : Number) : Value :=
  .map [(.text "max_retries", .int 3), (.text "max_interval_millis", .int (10 ^ 40)),
    (.text "backoff_multiplier", .number multiplier)]

def givenWaits (readings : List (Except RangeError Int)) (p : Policy) : List (Option Number) :=
  (answers readings p.newBackoff).map fun answer => answer.toOption.join

/-- Two equal policies whose generators do not give equal waits. -/
theorem answers_drift : ∃ p q, build (steepOptions (.int (10 ^ 16))) = .ok p ∧
    build (steepOptions (.double (Double.ofInt (10 ^ 16)))) = .ok q ∧ p.same q = true ∧
      ¬List.Forall₂ SameAnswer (answers [.ok 0, .ok 0, .ok 0] p.newBackoff)
        (answers [.ok 0, .ok 0, .ok 0] q.newBackoff) := by
  generalize options_eq : steepOptions (.int (10 ^ 16)) = options
  generalize options_eq' : steepOptions (.double (Double.ofInt (10 ^ 16))) = options'
  have computed : ((build options).toOption.bind fun p => (build options').toOption.map fun q =>
      (p.same q, givenWaits [.ok 0, .ok 0, .ok 0] p, givenWaits [.ok 0, .ok 0, .ok 0] q)) =
      some (true, [some 500, some (.int (5 * 10 ^ 18)), some (.int (5 * 10 ^ 34))],
        [some 500, some (.int (5 * 10 ^ 18)),
          some (.int 49999999999999998431683053958987776)]) := by
    subst options_eq options_eq'
    decide +kernel
  obtain ⟨p, built, computed⟩ := Option.bind_eq_some_iff.mp computed
  obtain ⟨q, built', computed⟩ := Option.map_eq_some_iff.mp computed
  simp only [Prod.mk.injEq] at computed
  obtain ⟨equal, waits, waits'⟩ := computed
  refine ⟨p, q, eq_ok_of_toOption built, eq_ok_of_toOption built', equal, fun same => ?_⟩
  have pairs : List.Forall₂ (fun u v => ∀ m n, u = some m → v = some n → m.same n = true)
      (givenWaits [.ok 0, .ok 0, .ok 0] p) (givenWaits [.ok 0, .ok 0, .ok 0] q) := by
    unfold givenWaits
    rw [List.forall₂_map_left_iff, List.forall₂_map_right_iff]
    refine same.imp ?_
    intro x y answer m n hm hn
    exact answer.same hm hn
  rw [waits, waits'] at pairs
  cases pairs with
  | cons _ pairs =>
    cases pairs with
    | cons _ pairs =>
      cases pairs with
      | cons third _ => exact absurd (third _ _ rfl rfl) (by decide +kernel)

end HttpRetry.Policy

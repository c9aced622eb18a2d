import HttpRetry.Proofs.Backoff.Asking
import HttpRetry.Proofs.Backoff.Lockstep

/-!
# Waits do not become shorter

A wait is the whole part of a product, exact or of doubles that is rounded three times, or a
ceiling that may be a fraction or have no double of its own. A whole part is an integer that
neither rounding nor dropping a fraction takes back, and a multiple that passes the ceiling
passes it again. Within the allowance a generator of a policy hands out as many waits as there
are retries.
-/

namespace HttpRetry.Policy

open Backoff (Call Answered waits times firstTime)
open Number (WholeProduct)

variable {p : Policy} {b : Backoff} {a f c : Rat}

/-! ## One step -/

theorem Grown.exists_product {exact : Bool} {m : Number} (h : Grown p a f exact (.ok m)) :
    ∃ i, WholeProduct a f exact i ∧ m = Number.least i p.ceiling := by
  cases h with
  | exact value => exact ⟨_, .exact value, rfl⟩
  | rounded value within => exact ⟨_, .rounded value within, rfl⟩

def Grows (p : Policy) (m : Number) (a f : Rat) : Prop :=
  ∀ i, WholeProduct a f (m.isExact && p.multiplier.isExact) i → a ≤ i

/-- If the multiple of an interval passes the ceiling, then no multiple of the ceiling is below
it. The one is exact and the other rounded only if the interval is an integer. -/
theorem Valued.grows_ceiling (v : Valued p b a f c) (nonneg : 0 ≤ a) (one_le : 1 ≤ f) {i : Int}
    (product : WholeProduct a f (b.interval.isExact && p.multiplier.isExact) i) (passes : c < i) :
    Grows p p.ceiling c f := by
  intro j again
  have le_ceiling := (Number.le_iff v.interval v.ceiling).mp v.runs.allows.le_ceiling
  by_cases kinds : (b.interval.isExact && p.multiplier.isExact) =
      (p.ceiling.isExact && p.multiplier.isExact)
  · have le_j := (kinds ▸ product).mono nonneg one_le again le_ceiling
    exact passes.le.trans (by exact_mod_cast le_j)
  · rcases v.runs.whole_or_ceiling with ⟨n, eq⟩ | eq
    · have value := v.interval
      rw [eq, Number.toRat?_int, Option.some.injEq] at value
      subst value
      rw [eq, Number.isExact_int, Bool.true_and] at product kinds
      obtain ⟨factor, rounds⟩ : p.multiplier.isExact = true ∧ p.ceiling.isExact = false := by
        cases factor : p.multiplier.isExact <;> cases rounds : p.ceiling.isExact <;>
          simp_all
      rw [factor] at product again
      rw [rounds] at again
      have ceiling_nonneg := nonneg.trans le_ceiling
      exact product.le_of_passed again (by exact_mod_cast nonneg) one_le
        (Number.rounded_of_double rounds v.ceiling ceiling_nonneg) le_ceiling passes
    · rw [eq] at kinds
      exact absurd rfl kinds

/-- An interval that grows is followed by one that is not below it and grows in turn: it is a
multiple itself, or the ceiling. -/
theorem Valued.climbs (v : Valued p b a f c) (nonneg : 0 ≤ a) (one_le : 1 ≤ f)
    (grows : Grows p b.interval a f) {interval : Number}
    (grown : Backoff.grow b.schedule b.interval = .ok interval) :
    ∃ a', interval.toRat? = some a' ∧ a ≤ a' ∧ Grows p interval a' f := by
  have step := v.runs.grown v.interval v.multiplier
  rw [grown] at step
  obtain ⟨i, product, rfl⟩ := step.exists_product
  rcases le_or_gt (i : Rat) c with within | passes
  · rw [Number.least_of_le (Number.toRat?_int i) v.ceiling within]
    refine ⟨i, Number.toRat?_int i, grows i product, fun j again => ?_⟩
    rw [Number.isExact_int, Bool.true_and] at again
    exact_mod_cast product.le_again again nonneg one_le fun rounds => by rw [rounds, Bool.and_false]
  · rw [Number.least_of_lt (Number.toRat?_int i) v.ceiling passes]
    refine ⟨c, v.ceiling, ?_, v.grows_ceiling nonneg one_le product passes⟩
    exact (Number.le_iff v.interval v.ceiling).mp v.runs.allows.le_ceiling

theorem grows_initial (one_le : 1 ≤ f) : Grows p (.int Defaults.initialIntervalMillis) 500 f := by
  intro i product
  have kept : Double.rounded (500 : Int) = (500 : Int) :=
    Double.rounded_intCast (by decide) (by decide)
  have value : (500 : Rat) = (500 : Int) := by norm_num
  rw [value] at product ⊢
  exact_mod_cast product.le_of_fixed (by decide) one_le fun _ => kept

/-! ## Runs -/

/-- What a generator of the policy keeps that has handed out waits: the interval is the initial
one until there are waits, and none of them is above it or its multiples. -/
structure Climbs (p : Policy) (handed : List Number) (b : Backoff) (a f c : Rat) : Prop
    extends Valued p b a f c where
  le_interval : 500 ≤ a
  grows : Grows p b.interval a f
  first : (handed ++ [b.interval]).head? = some (.int Defaults.initialIntervalMillis)
  between : ∀ m ∈ handed, ∃ v, m.toRat? = some v ∧ 500 ≤ v ∧ v ≤ a
  sorted : handed.Pairwise fun m n => m.le n = true

theorem one_le_factor (hf : p.multiplier.toRat? = some f) : 1 ≤ f := by
  exact_mod_cast (Number.le_iff (Number.toRat?_int 1) hf).mp p.one_le_multiplier

theorem climbs_newBackoff (hf : p.multiplier.toRat? = some f) (hc : p.ceiling.toRat? = some c) :
    Climbs p [] p.newBackoff 500 f c :=
  { runs := runs_newBackoff, interval := rfl, multiplier := hf, ceiling := hc, le_interval := le_rfl
    grows := grows_initial (one_le_factor hf), first := rfl, between := by simp, sorted := .nil }

variable {handed : List Number}

/-- A wait that is handed out is the interval, and the next interval is not below it. -/
theorem Climbs.handOut (h : Climbs p handed b a f c) {interval : Number}
    (grown : Backoff.grow b.schedule b.interval = .ok interval) {after : Backoff}
    (runs : p.Runs after) (interval_eq : after.interval = interval) :
    ∃ a', Climbs p (handed ++ [b.interval]) after a' f c := by
  have nonneg : 0 ≤ a := h.le_interval.trans' (by norm_num)
  obtain ⟨a', value, le, grows⟩ := h.climbs nonneg (one_le_factor h.multiplier) h.grows grown
  subst interval_eq
  refine ⟨a', { runs, interval := value, multiplier := h.multiplier, ceiling := h.ceiling
                le_interval := h.le_interval.trans le, grows
                first := ?_, between := ?_, sorted := ?_ }⟩
  · simp [List.head?_append, ← h.first]
  · intro m mem
    rcases List.mem_append.mp mem with earlier | last
    · obtain ⟨v, hv, initial_le, le_a⟩ := h.between m earlier
      exact ⟨v, hv, initial_le, le_a.trans le⟩
    · obtain rfl := List.mem_singleton.mp last
      exact ⟨a, h.interval, h.le_interval, le⟩
  · refine List.pairwise_append.mpr ⟨h.sorted, List.pairwise_singleton _ _, ?_⟩
    intro m mem n last
    obtain rfl := List.mem_singleton.mp last
    obtain ⟨v, hv, -, le_a⟩ := h.between m mem
    exact (Number.le_iff hv h.interval).mpr le_a

theorem Climbs.drawn (h : Climbs p handed b a f c) {call : Call} {after : Backoff}
    (drawn : Backoff.Drawn b (call.answer, after)) :
    ∃ a', Climbs p (handed ++ waits [call]) after a' f c := by
  have runs := h.runs.of_drawn drawn
  -- a call that hands nothing out leaves the interval
  have kept (nothing : waits [call] = []) (interval_eq : after.interval = b.interval) :
      ∃ a', Climbs p (handed ++ waits [call]) after a' f c := by
    rw [nothing, List.append_nil]
    exact ⟨a, { h with
                runs, interval := interval_eq ▸ h.interval, grows := interval_eq ▸ h.grows
                first := interval_eq ▸ h.first }⟩
  generalize answer_eq : call.answer = answer at drawn
  cases drawn with
  | kept started nothing =>
    refine kept ?_ rfl
    match answer, nothing with
    | .ok none, _ => exact Backoff.waits_stopped answer_eq
    | .ok (some m), nothing => exact absurd rfl (nothing m)
    | .error e, _ => exact Backoff.waits_failed answer_eq
  | lost => exact kept (Backoff.waits_failed answer_eq) rfl
  | handed unspent next =>
    rw [Backoff.waits_handed answer_eq]
    exact h.handOut next runs rfl

variable {calls : List Call}

theorem Climbs.of_run (run : Backoff.Run p.schedule none calls b)
    (hf : p.multiplier.toRat? = some f) (hc : p.ceiling.toRat? = some c) :
    ∃ a, Climbs p (waits calls) b a f c := by
  induction run with
  | start => exact ⟨500, climbs_newBackoff hf hc⟩
  | @ask calls b began measured _ ih =>
    obtain ⟨a, climbs⟩ := ih
    rw [Backoff.waits_append]
    exact climbs.drawn (Backoff.ask_drawn began measured b)
  | reset _ ih =>
    obtain ⟨a, climbs⟩ := ih
    exact ⟨500, climbs.runs.reset_eq ▸ climbs_newBackoff hf hc⟩

/-! ## Failing calls -/

theorem runs_of_run (run : Backoff.Run p.schedule none calls b) : p.Runs b := by
  induction run with
  | start => exact runs_newBackoff
  | ask began measured _ ih => exact ih.of_drawn (Backoff.ask_drawn began measured _)
  | reset _ ih => exact ih.reset

/-- Where the clock can be read nothing but the growth of the interval fails. -/
theorem Runs.fault_of_ask (h : p.Runs b) {began measured : Int} {e : Fault}
    (failed : (b.ask (.ok began) (.ok measured)).1 = .error e) : e = .range .infinityToInteger := by
  cases started : b.startedAt with
  | some t =>
    rw [Backoff.ask_of_started started] at failed
    exact ((h.nextAt_eq_error_iff measured e).mp failed).1
  | none =>
    rw [Backoff.ask_of_read started (Backoff.reading_eq h.noClock _)] at failed
    have begun : p.Runs (b.begin began) :=
      ⟨h.schedule, h.noClock, h.allows, h.unsigned, h.whole_or_ceiling⟩
    exact ((begun.nextAt_eq_error_iff measured e).mp failed).1

theorem Runs.fault_of_take (h : p.Runs b) {now : Int} {n : Nat} {e : Fault}
    (failed : (b.take (.ok now) n).1 = .error e) : e = .range .infinityToInteger := by
  induction n generalizing b with
  | zero => cases failed
  | succ n ih =>
    have runs := h.nextAt (.ok now)
    have fault := (h.nextAt_eq_error_iff now e).mp
    unfold Backoff.take at failed
    cases reply_eq : b.nextAt (.ok now) with | mk answer after =>
    rw [reply_eq] at runs fault failed
    cases answer with
    | error e' =>
      cases failed
      exact (fault rfl).1
    | ok reply =>
      cases reply with
      | none => cases failed
      | some wait =>
        dsimp only at failed
        cases rest : (after.take (.ok now) n).1 with
        | ok found =>
          rw [rest] at failed
          cases failed
        | error e' =>
          rw [rest] at failed
          cases failed
          exact ih runs rest

theorem answered_of_run (run : Backoff.Run p.schedule none calls b)
    (readable : ∀ call ∈ calls, ∃ began now, call.began = .ok began ∧ call.measured = .ok now)
    (in_range : ∀ call ∈ calls, call.answer ≠ .error (.range .infinityToInteger)) :
    Answered calls := by
  induction run with
  | start => simp [Answered]
  | @ask calls b began measured before ih =>
    intro call mem
    rcases List.mem_append.mp mem with earlier | last
    · exact ih (fun call mem => readable call (List.mem_append_left _ mem))
        (fun call mem => in_range call (List.mem_append_left _ mem)) call earlier
    · obtain ⟨t, now, began_eq, measured_eq⟩ := readable call mem
      have no_fault := in_range call mem
      obtain rfl := List.mem_singleton.mp last
      dsimp only at began_eq measured_eq no_fault ⊢
      subst began_eq measured_eq
      cases answer : (b.ask (.ok t) (.ok now)).1 with
      | ok reply => exact ⟨reply, rfl⟩
      | error e =>
        obtain rfl := (runs_of_run before).fault_of_ask answer
        exact absurd answer no_fault
  | reset => simp [Answered]

/-! ## How many waits there are -/

/-- Within the allowance every call hands out a wait as long as there are retries. -/
theorem length_waits (run : Backoff.Run p.schedule none calls b) (answered : Answered calls)
    (within : ∀ call ∈ calls, ∀ now, call.measured = .ok now →
      ¬Backoff.PastAllowance p.schedule calls now) :
    (waits calls).length = min calls.length p.maxRetries := by
  induction run with
  | start => simp
  | @ask calls b began measured before ih =>
    obtain ⟨reply, answer⟩ := answered _ (List.mem_append_right _ (List.mem_singleton_self _))
    have counts := before.counts answered.of_append
    have counted := ih answered.of_append fun call mem now read past =>
      within call (List.mem_append_left _ mem) now read (past.append _)
    rw [← counts.attempts_eq] at counted
    -- the time is no reason to stop, so the limit is the only one
    have stops : reply = none ↔ p.maxRetries = b.attempts := by
      refine (counts.reply_eq_none_iff answer).trans ⟨?_, fun eq => .inl (congrArg some eq)⟩
      rintro (reached | ⟨now, read, past⟩)
      · exact Option.some.inj reached
      · rw [← show (b.ask began measured).1 = .ok reply from answer] at past
        exact absurd past (within _ (List.mem_append_right _ (List.mem_singleton_self _)) now read)
    rw [Backoff.waits_append, List.length_append, List.length_append, ← counts.attempts_eq]
    cases reply with
    | none =>
      rw [Backoff.waits_stopped answer, List.length_nil, List.length_singleton]
      have reached := stops.mp rfl
      omega
    | some m =>
      rw [Backoff.waits_handed answer, List.length_singleton, List.length_singleton]
      have going : p.maxRetries ≠ b.attempts := mt stops.mpr (by simp)
      omega
  | reset => simp

theorem length_take {now : Int} {n : Nat} {found : List Number} {stopped : Bool}
    (taken : (p.newBackoff.take (.ok now) n).1 = .ok (found, stopped)) :
    found.length = min n p.maxRetries ∧ (stopped = true ↔ p.maxRetries < n) := by
  have unasked : Backoff.Run p.schedule none [] p.newBackoff := .start
  obtain ⟨calls, iterated, run⟩ := unasked.take taken
  have at_once : ∀ call ∈ calls, call.began = .ok now :=
    fun call mem => (iterated.at_once call mem).1
  have counted := length_waits run iterated.answered fun call mem t read => by
    rw [(iterated.at_once call mem).2, Except.ok.injEq] at read
    exact read ▸ Backoff.not_pastAllowance_at_once at_once
  have length_le := iterated.length_le
  have whole := iterated.whole
  rw [List.nil_append, iterated.waits_eq, iterated.length_eq] at counted
  rw [iterated.length_eq] at length_le whole
  cases stopped with
  | true =>
    rw [Bool.toNat_true] at counted length_le
    simp only [true_iff]
    omega
  | false =>
    have all := whole rfl
    rw [Bool.toNat_false] at counted all
    simp only [Bool.false_eq_true, false_iff]
    omega

/-- The waits of a generator of the policy begin with the initial interval, do not become
shorter, and are from the initial interval to the ceiling. Of calls within the allowance as many
hand out a wait as there are retries, and an iteration hands out as many, unless an interval
overflows as it grows. -/
theorem ascent_of_run (run : Backoff.Run p.schedule none calls b) :
    (∀ m, (waits calls).head? = some m → m = .int Defaults.initialIntervalMillis) ∧
      (waits calls).Pairwise (fun m n => m.le n = true) ∧
      (∀ m ∈ waits calls,
        Number.le (.int Defaults.initialIntervalMillis) m = true ∧ m.le p.ceiling = true) ∧
      ((∀ call ∈ calls, ∃ began now, call.began = .ok began ∧ call.measured = .ok now ∧
          ¬Backoff.PastAllowance p.schedule calls now) →
        (∀ call ∈ calls, call.answer ≠ .error (.range .infinityToInteger)) →
        (waits calls).length = min calls.length p.maxRetries) ∧
      ∀ now n, match (p.newBackoff.take (.ok now) n).1 with
        | .ok (found, stopped) =>
          found.length = min n p.maxRetries ∧ (stopped = true ↔ p.maxRetries < n)
        | .error fault => fault = .range .infinityToInteger := by
  obtain ⟨f, hf⟩ := Number.toRat?_isSome p.multiplier_finite
  obtain ⟨c, hc⟩ := Number.toRat?_isSome p.ceiling_finite
  obtain ⟨a, climbs⟩ := Climbs.of_run run hf hc
  have le_ceiling := (Number.le_iff climbs.interval hc).mp climbs.runs.allows.le_ceiling
  refine ⟨?_, climbs.sorted, ?_, ?_, ?_⟩
  · intro m first
    have head := climbs.first
    rw [List.head?_append, first] at head
    exact Option.some.inj head
  · intro m mem
    obtain ⟨v, hv, initial_le, le_a⟩ := climbs.between m mem
    constructor
    · exact (Number.le_iff (Number.toRat?_int 500) hv).mpr (by exact_mod_cast initial_le)
    · exact (Number.le_iff hv hc).mpr (le_a.trans le_ceiling)
  · intro timely in_range
    have readable : ∀ call ∈ calls, ∃ began now, call.began = .ok began ∧
        call.measured = .ok now := by
      intro call mem
      obtain ⟨began, now, began_eq, measured_eq, -⟩ := timely call mem
      exact ⟨began, now, began_eq, measured_eq⟩
    refine length_waits run (answered_of_run run readable in_range) ?_
    intro call mem now read
    obtain ⟨-, now', -, measured_eq, early⟩ := timely call mem
    cases read.symm.trans measured_eq
    exact early
  · intro now n
    split
    · next found stopped taken => exact length_take taken
    · next fault failed => exact runs_newBackoff.fault_of_take failed

/-- Iterating a generator of a client hands out four waits and ends at the fifth call. -/
theorem ascent_of_run_default : ∃ calls b, Backoff.Run clientDefault.schedule none calls b ∧
    waits calls = [.int 500, .int 1000, .int 2000, .int 4000] ∧
      (waits calls).Pairwise (fun m n => m.le n = true) ∧
      calls.length = 5 ∧ (waits calls).length = min calls.length 4 ∧
      (waits calls).length = min 7 4 := by
  have unasked : Backoff.Run clientDefault.schedule none [] clientDefault.newBackoff := .start
  have taken : (clientDefault.newBackoff.take (.ok 0) 7).1 =
      .ok ([.int 500, .int 1000, .int 2000, .int 4000], true) :=
    eq_ok_of_toOption (by decide +kernel)
  obtain ⟨calls, iterated, run⟩ := unasked.take taken
  obtain ⟨-, sorted, -, counts, iteration⟩ := ascent_of_run run
  refine ⟨calls, _, run, iterated.waits_eq, sorted, iterated.length_eq, ?_, ?_⟩
  · have at_once : ∀ call ∈ calls, call.began = .ok 0 :=
      fun call mem => (iterated.at_once call mem).1
    refine counts ?_ ?_
    · intro call mem
      exact ⟨0, 0, at_once call mem, (iterated.at_once call mem).2,
        Backoff.not_pastAllowance_at_once at_once⟩
    · intro call mem failed
      obtain ⟨reply, answer⟩ := iterated.answered call mem
      cases answer.symm.trans failed
  · have counted := iteration 0 7
    rw [taken] at counted
    rw [iterated.waits_eq]
    exact counted.1

end HttpRetry.Policy

import HttpRetry.Proofs.Backoff.Asking
import HttpRetry.Proofs.Number.Product

/-!
# Waits that become shorter

A wait is the whole part of a multiple, so a fraction of the first wait is lost unless the
multiplier makes up for it, and an integer of more than 53 bits may be rounded down. If the
second wait is no shorter than the first then none is, as long as the ceiling and the first wait
are multiplied in the same way. If it is shorter, it is an integer that no later product leaves,
so all waits after the first are the same, and they are zero if the first is less than one.
-/

namespace HttpRetry.Backoff

open Number (WholeProduct)

variable {schedule : Schedule} {m next : Number} {whole : Int} {i f c a : Rat}

/-! ## Products in a schedule -/

structure Values (schedule : Schedule) (i f c : Rat) : Prop where
  initial : schedule.initial.toRat? = some i
  multiplier : schedule.multiplier.toRat? = some f
  ceiling : schedule.ceiling.toRat? = some c

theorem exists_values (initial : schedule.initial.toRat? = some i) :
    ∃ f c, Values schedule i f c := by
  obtain ⟨f, multiplier⟩ := Number.toRat?_isSome schedule.multiplier_finite
  obtain ⟨c, ceiling⟩ := Number.toRat?_isSome schedule.ceiling_finite
  exact ⟨f, c, initial, multiplier, ceiling⟩

namespace Values

variable (v : Values schedule i f c)
include v

theorem pos : 0 < i := by
  exact_mod_cast (Number.lt_iff (Number.toRat?_int 0) v.initial).mp schedule.initial_pos

theorem le_ceiling : i ≤ c :=
  (Number.le_iff v.initial v.ceiling).mp schedule.initial_le_ceiling

theorem one_le : 1 ≤ f := by
  exact_mod_cast (Number.le_iff (Number.toRat?_int 1) v.multiplier).mp schedule.one_le_multiplier

theorem grow_eq_ok_iff (value : m.toRat? = some a) (nonneg : 0 ≤ a) (le : a ≤ c) :
    grow schedule m = .ok next ↔
      ∃ whole, WholeProduct a f (m.isExact && schedule.multiplier.isExact) whole ∧
        next = Number.least whole schedule.ceiling := by
  have finite : m.isFinite = true := by
    refine Number.isFinite_of_le ?_ schedule.ceiling_finite
      ((Number.le_iff value v.ceiling).mpr le)
    exact (Number.le_iff (Number.toRat?_int 0) value).mpr (by exact_mod_cast nonneg)
  have truncates (whole : Int) := Number.truncate_mul_eq_ok_iff value v.multiplier nonneg
    (zero_le_one.trans v.one_le) finite schedule.multiplier_finite (i := whole)
  constructor
  · intro grown
    obtain ⟨whole, truncated, next_eq⟩ := truncate_of_grow grown
    exact ⟨whole, (truncates whole).mp truncated, next_eq⟩
  · rintro ⟨whole, product, rfl⟩
    exact grow_of_truncate ((truncates whole).mpr product)

end Values

/-! ## Waits below the first -/

structure Drops (schedule : Schedule) (m : Number) (whole : Int) : Prop where
  next : grow schedule m = .ok (.int whole)
  less : (Number.int whole).lt schedule.initial = true

/-- The second wait is less than the first. -/
def Shrinks (schedule : Schedule) (whole : Int) : Prop :=
  Drops schedule schedule.initial whole

/-- Of the first wait and the ceiling one is a fraction and multiplied exactly, and the other is
multiplied as a double. -/
structure Mixed (schedule : Schedule) : Prop where
  multiplier : schedule.multiplier.isExact = true
  kinds : schedule.initial.isExact ≠ schedule.ceiling.isExact
  fraction : schedule.initial.isFraction = true ∨ schedule.ceiling.isFraction = true

/-- The second wait is not less than the first. Where the ceiling is multiplied in a way of its
own, the wait after it is not less either. -/
structure Steady (schedule : Schedule) : Prop where
  second : ∀ w, ¬Shrinks schedule w
  after_ceiling : Mixed schedule → ∀ w, ¬Drops schedule schedule.ceiling w

theorem Drops.product (h : Drops schedule m whole) (v : Values schedule i f c)
    (value : m.toRat? = some a) (nonneg : 0 ≤ a) (le : a ≤ c) :
    WholeProduct a f (m.isExact && schedule.multiplier.isExact) whole ∧ (whole : Rat) < i := by
  have less : (whole : Rat) < i := (Number.lt_iff (Number.toRat?_int whole) v.initial).mp h.less
  obtain ⟨next, product, least_eq⟩ := (v.grow_eq_ok_iff value nonneg le).mp h.next
  rcases le_or_gt (next : Rat) c with within | beyond
  · rw [Number.least_of_le (Number.toRat?_int next) v.ceiling within] at least_eq
    obtain rfl := Number.int.inj least_eq
    exact ⟨product, less⟩
  · rw [Number.least_of_lt (Number.toRat?_int next) v.ceiling beyond] at least_eq
    have ceiling : (whole : Rat) = c := by
      rw [← Option.some.injEq, ← Number.toRat?_int, least_eq, v.ceiling]
    exact absurd v.le_ceiling (not_le.mpr (ceiling ▸ less))

namespace Values

variable (v : Values schedule i f c)
include v

theorem le_of_not_drops (value : m.toRat? = some a) (nonneg : 0 ≤ a) (le : a ≤ c)
    (kept : ∀ w, ¬Drops schedule m w)
    (product : WholeProduct a f (m.isExact && schedule.multiplier.isExact) whole) :
    i ≤ whole := by
  by_contra less
  have less := not_le.mp less
  have grown := (v.grow_eq_ok_iff value nonneg le).mpr ⟨whole, product, rfl⟩
  rw [Number.least_of_le (Number.toRat?_int whole) v.ceiling (less.le.trans v.le_ceiling)] at grown
  exact kept whole ⟨grown, (Number.lt_iff (Number.toRat?_int whole) v.initial).mpr less⟩

/-- What is multiplied as the first wait is does not drop unless the first wait does. -/
theorem le_whole_of_kind (second : ∀ w, ¬Shrinks schedule w) (le : i ≤ a) {exact : Bool}
    (kind : exact = (schedule.initial.isExact && schedule.multiplier.isExact))
    (product : WholeProduct a f exact whole) : i ≤ whole := by
  obtain ⟨first, shorter, le_whole⟩ := (kind ▸ product).exists_le v.pos.le v.one_le le
  exact (v.le_of_not_drops v.initial v.pos.le v.le_ceiling second shorter).trans
    (by exact_mod_cast le_whole)

theorem le_whole_of_int (second : ∀ w, ¬Shrinks schedule w) {n : Int} (le : i ≤ n)
    (product : WholeProduct n f schedule.multiplier.isExact whole) : i ≤ whole := by
  cases factor : schedule.multiplier.isExact with
  | false => exact v.le_whole_of_kind second le (by rw [factor, Bool.and_false]) product
  | true =>
    have nonneg : 0 ≤ n := by exact_mod_cast v.pos.le.trans le
    have le_whole := product.le_of_fixed nonneg v.one_le fun rounds => by simp [factor] at rounds
    exact le.trans (by exact_mod_cast le_whole)

theorem floor_ceiling_le (factor : schedule.multiplier.isExact = true)
    (product : WholeProduct c f (schedule.ceiling.isExact && schedule.multiplier.isExact) whole) :
    ⌊c⌋ ≤ whole := by
  have nonneg : 0 ≤ c := v.pos.le.trans v.le_ceiling
  have within := Number.toRat?_lt_overflow schedule.ceiling_finite v.ceiling
  refine product.floor_le nonneg v.one_le (lt_of_abs_lt within) fun rounds => ?_
  rw [factor, Bool.and_true] at rounds
  exact Number.rounded_of_double rounds v.ceiling nonneg

theorem le_whole_of_ceiling (steady : Steady schedule)
    (product : WholeProduct c f (schedule.ceiling.isExact && schedule.multiplier.isExact) whole) :
    i ≤ whole := by
  by_cases kind : (schedule.ceiling.isExact && schedule.multiplier.isExact) =
      (schedule.initial.isExact && schedule.multiplier.isExact)
  · exact v.le_whole_of_kind steady.second v.le_ceiling kind product
  have factor : schedule.multiplier.isExact = true := by
    by_contra rounds
    rw [Bool.not_eq_true] at rounds
    simp [rounds] at kind
  rw [factor, Bool.and_true, Bool.and_true] at kind
  by_cases mixed : Mixed schedule
  · have nonneg : 0 ≤ c := v.pos.le.trans v.le_ceiling
    exact v.le_of_not_drops v.ceiling nonneg le_rfl (steady.after_ceiling mixed) product
  -- the one that is multiplied exactly is an integer, which is no matter of kinds
  have le_floor : i ≤ ⌊c⌋ := by
    have whole_initial : schedule.initial.isFraction = false := by
      by_contra fraction
      exact mixed ⟨factor, Ne.symm kind, .inl (by simpa using fraction)⟩
    have whole_ceiling : schedule.ceiling.isFraction = false := by
      by_contra fraction
      exact mixed ⟨factor, Ne.symm kind, .inr (by simpa using fraction)⟩
    cases exact : schedule.initial.isExact with
    | true =>
      obtain ⟨n, rfl⟩ := Number.exists_int exact whole_initial v.initial
      exact_mod_cast Int.le_floor.mpr v.le_ceiling
    | false =>
      rw [exact, Bool.not_eq_false] at kind
      obtain ⟨k, rfl⟩ := Number.exists_int kind whole_ceiling v.ceiling
      rw [Int.floor_intCast]
      exact v.le_ceiling
  exact le_floor.trans (by exact_mod_cast v.floor_ceiling_le factor product)

end Values

/-- An integer drops only if it is rounded. -/
theorem steady_of_int (v : Values schedule i f c) {n : Int} (value : i = n)
    (kept : n ≤ 2 ^ 53 ∨ (schedule.initial.isExact && schedule.multiplier.isExact) = true) :
    Steady schedule := by
  constructor
  · intro whole h
    obtain ⟨product, less⟩ := Drops.product h v v.initial v.pos.le v.le_ceiling
    have pos := v.pos
    subst value
    have le_whole := product.le_of_fixed (by exact_mod_cast pos.le) v.one_le fun rounds => by
      rcases kept with small | exact
      · exact Double.rounded_intCast (by exact_mod_cast pos.le) small
      · rw [exact] at rounds
        cases rounds
    exact absurd less (not_lt.mpr (by exact_mod_cast le_whole))
  · intro mixed whole h
    have nonneg : 0 ≤ c := v.pos.le.trans v.le_ceiling
    obtain ⟨product, less⟩ := h.product v v.ceiling nonneg le_rfl
    have le_floor : n ≤ ⌊c⌋ := Int.le_floor.mpr (value ▸ v.le_ceiling)
    have le_whole := le_floor.trans (v.floor_ceiling_le mixed.multiplier product)
    rw [value] at less
    exact absurd less (not_lt.mpr (by exact_mod_cast le_whole))

/-! ## A second wait below the first -/

section
variable (h : Shrinks schedule whole) (v : Values schedule i f c)
include h v

theorem Shrinks.less : (whole : Rat) < i :=
  (Drops.product h v v.initial v.pos.le v.le_ceiling).2

theorem Shrinks.product :
    WholeProduct i f (schedule.initial.isExact && schedule.multiplier.isExact) whole :=
  (Drops.product h v v.initial v.pos.le v.le_ceiling).1

theorem Shrinks.nonneg : 0 ≤ whole :=
  (h.product v).nonneg v.pos.le v.one_le

/-- The fraction is lost and no more, unless the first wait is itself rounded. -/
theorem Shrinks.whole_eq_floor
    (kinds : schedule.initial.isExact = false ∨ schedule.multiplier.isExact = true) :
    whole = ⌊i⌋ := by
  have within := Number.toRat?_lt_overflow schedule.initial_finite v.initial
  apply le_antisymm
  · exact Int.le_floor.mpr (h.less v).le
  · refine (h.product v).floor_le v.pos.le v.one_le (lt_of_abs_lt within) fun rounds => ?_
    have double : schedule.initial.isExact = false := by
      rcases kinds with double | factor
      · exact double
      · rwa [factor, Bool.and_true] at rounds
    exact Number.rounded_of_double double v.initial v.pos.le

theorem Shrinks.eq_zero_iff : whole = 0 ↔ i < 1 := by
  have less := h.less v
  have nonneg := h.nonneg v
  constructor
  · rintro rfl
    by_contra large
    have one_fixed : Double.rounded (1 : Int) = (1 : Int) :=
      Double.rounded_intCast (by decide) (by decide)
    obtain ⟨first, product, le⟩ := (h.product v).exists_le (a := (1 : Int)) (by norm_num) v.one_le
      (by exact_mod_cast not_lt.mp large)
    have pos := product.le_of_fixed (by decide) v.one_le fun _ => one_fixed
    omega
  · intro small
    have whole_lt : whole < 1 := by exact_mod_cast less.trans small
    omega

/-- Of the second wait there is a product too that is no greater. What a double loses the
multiplier does not make up for, or else it would have made up for it before. -/
theorem Shrinks.exists_again :
    ∃ again, WholeProduct whole f schedule.multiplier.isExact again ∧ again ≤ whole := by
  have product := h.product v
  have less := h.less v
  have nonneg := h.nonneg v
  have nonneg' : (0 : Rat) ≤ whole := by exact_mod_cast nonneg
  by_cases kinds : (schedule.initial.isExact && schedule.multiplier.isExact) =
      schedule.multiplier.isExact
  · rw [kinds] at product
    exact product.exists_le nonneg' v.one_le less.le
  have factor : schedule.multiplier.isExact = true := by
    by_contra rounds
    rw [Bool.not_eq_true] at rounds
    simp [rounds] at kinds
  rw [factor, Bool.and_true, Bool.not_eq_true] at kinds
  have floor_eq := h.whole_eq_floor v (.inl kinds)
  have fixed := Number.rounded_of_double kinds v.initial v.pos.le
  have fraction (n : Int) : i ≠ n := by
    rintro rfl
    rw [floor_eq, Int.floor_intCast] at less
    exact lt_irrefl _ less
  rw [factor]
  refine ⟨_, .exact rfl, ?_⟩
  by_contra greater
  have passes : ((⌊i⌋ + 1 : Int) : Rat) ≤ whole * f := by
    rw [← floor_eq]
    exact Int.le_floor.mp (Int.add_one_le_of_lt (not_le.mp greater))
  have longer := Double.floor_lt_floor_rounded fixed fraction v.one_le nonneg less.le passes
  rw [kinds, Bool.false_and] at product
  cases product with
  | rounded value =>
    rw [← value, floor_eq] at longer
    exact lt_irrefl _ longer

/-- No later product leaves the second wait. -/
theorem Shrinks.grow_whole : grow schedule (.int whole) = .ok (.int whole) := by
  obtain ⟨again, product, le⟩ := h.exists_again v
  have ge := (h.product v).le_again product v.pos.le v.one_le fun rounds => by
    rw [rounds, Bool.and_false]
  obtain rfl : again = whole := le_antisymm le ge
  have le_ceiling := (h.less v).le.trans v.le_ceiling
  refine (v.grow_eq_ok_iff (Number.toRat?_int again) ?_ le_ceiling).mpr
    ⟨again, product, (Number.least_of_le (Number.toRat?_int again) v.ceiling le_ceiling).symm⟩
  exact_mod_cast h.nonneg v

end

/-! ## Runs -/

variable {clock : Option Value} {calls : List Call} {b : Backoff}

def AtLeast (i : Rat) (m : Number) : Prop :=
  ∃ a, m.toRat? = some a ∧ i ≤ a

inductive Interval (schedule : Schedule) : Number → Prop
  | initial : Interval schedule schedule.initial
  | ceiling : Interval schedule schedule.ceiling
  | whole (i : Int) : Interval schedule (.int i)

theorem interval_least (whole : Int) : Interval schedule (Number.least whole schedule.ceiling) := by
  unfold Number.least
  split
  · exact .ceiling
  · exact .whole whole

/-- If no product of an interval falls below a bound, then no wait does. -/
theorem Run.atLeast_of_products (run : Run schedule clock calls b) (v : Values schedule i f c)
    {least : Rat} (nonneg : 0 ≤ least) (le_initial : least ≤ i)
    (keeps : ∀ {m a whole}, Interval schedule m → m.toRat? = some a → least ≤ a →
      WholeProduct a f (m.isExact && schedule.multiplier.isExact) whole → least ≤ whole) :
    ∀ m ∈ waits calls, AtLeast least m := by
  have invariant := run.waits_induction (P := fun found m =>
      (∀ m ∈ found, AtLeast least m) ∧ Interval schedule m ∧
        ∃ a, m.toRat? = some a ∧ least ≤ a ∧ a ≤ c)
    ⟨by simp, .initial, i, v.initial, le_initial, v.le_ceiling⟩ ?_
  · exact invariant.1
  · rintro found m next ⟨before, interval, a, value, le, le_ceiling⟩ grown
    obtain ⟨whole, product, rfl⟩ :=
      (v.grow_eq_ok_iff value (nonneg.trans le) le_ceiling).mp grown
    refine ⟨fun n mem => ?_, interval_least whole, min whole c,
      Number.toRat?_least (Number.toRat?_int whole) v.ceiling,
      le_min (keeps interval value le product) (le_initial.trans v.le_ceiling), min_le_right _ _⟩
    rcases List.mem_append.mp mem with earlier | last
    · exact before n earlier
    · obtain rfl := List.mem_singleton.mp last
      exact ⟨a, value, le⟩

theorem Run.atLeast_waits (run : Run schedule clock calls b) (v : Values schedule i f c)
    (steady : Steady schedule) : ∀ m ∈ waits calls, AtLeast i m := by
  refine run.atLeast_of_products v v.pos.le le_rfl fun interval value le product => ?_
  cases interval with
  | initial => exact v.le_whole_of_kind steady.second le rfl product
  | ceiling =>
    obtain rfl := Option.some.inj (v.ceiling.symm.trans value)
    exact v.le_whole_of_ceiling steady product
  | whole n =>
    obtain rfl := Option.some.inj value
    exact v.le_whole_of_int steady.second le product

theorem Run.atLeast_zero (run : Run schedule clock calls b) : ∀ m ∈ waits calls, AtLeast 0 m := by
  obtain ⟨i, initial⟩ := Number.toRat?_isSome schedule.initial_finite
  obtain ⟨f, c, v⟩ := exists_values initial
  refine run.atLeast_of_products v le_rfl v.pos.le fun _ _ le product => ?_
  exact_mod_cast product.nonneg le v.one_le

theorem Run.waits_of_shrinks (run : Run schedule clock calls b) (v : Values schedule i f c)
    (shrinks : Shrinks schedule whole) :
    waits calls = [] ∨ ∃ n, waits calls = schedule.initial :: List.replicate n (.int whole) := by
  have invariant := run.waits_induction (P := fun found m =>
      (found = [] ∧ m = schedule.initial) ∨
        ∃ n, found = schedule.initial :: List.replicate n (.int whole) ∧ m = .int whole)
    (.inl ⟨rfl, rfl⟩) ?_
  · rcases invariant with ⟨none_yet, -⟩ | ⟨n, found, -⟩
    · exact .inl none_yet
    · exact .inr ⟨n, found⟩
  · rintro found m next (⟨rfl, rfl⟩ | ⟨n, rfl, rfl⟩) grown
    · rw [Drops.next shrinks] at grown
      exact .inr ⟨0, rfl, (Except.ok.inj grown).symm⟩
    · rw [shrinks.grow_whole v] at grown
      refine .inr ⟨n + 1, ?_, (Except.ok.inj grown).symm⟩
      rw [List.replicate_succ', List.cons_append]

end HttpRetry.Backoff

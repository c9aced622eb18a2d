import HttpRetry.Proofs.Number.Range

/-!
# Products in range

The product of integers and fractions is exact. Any other product is one of doubles, which has
an integer part unless it is rounded to infinity.
-/

namespace HttpRetry

namespace Double

theorem mul_eq_ofRat {d e : Double} {a b : Rat} (ha : d.toRat? = some a) (hb : e.toRat? = some b) :
    d.mul e = ofRat (a * b) (d.isNegative != e.isNegative) := by
  cases d with
  | nan => cases ha
  | inf => cases ha
  | finite =>
    cases e with
    | nan => cases hb
    | inf => cases hb
    | finite => simp only [mul, ha, hb, Option.getD_some]

theorem isFinite_mul_iff {d e : Double} {a b : Rat} (ha : d.toRat? = some a)
    (hb : e.toRat? = some b) : (d.mul e).isFinite = true ↔ |a * b| < overflow := by
  rw [mul_eq_ofRat ha hb, isFinite_ofRat_iff]

theorem ofRat_ne_nan (x : Rat) (negative : Bool) : ofRat x negative ≠ nan := by
  unfold ofRat
  split
  · exact Double.noConfusion
  · unfold nearest pack
    split
    · exact Double.noConfusion
    · simp only
      split <;> split <;> exact Double.noConfusion

/-! ## Exact and rounded products -/

section
variable {f c : Rat}

theorem one_le_rounded (h : 1 ≤ f) : 1 ≤ rounded f := by
  have mono := rounded_mono zero_le_one h
  have one_eq : rounded 1 = 1 := by simpa using rounded_two_pow (k := 0) (by omega)
  rwa [one_eq] at mono

/-- Under a ceiling of up to 53 bits an exact product and a rounded one come to the same: the
rounded one is exact itself, or both are above the ceiling. -/
theorem min_floor_rounded {n k : Int} (nonneg : 0 ≤ n) (one_le : 1 ≤ k) (le : (n : Rat) ≤ c)
    (small : c ≤ 2 ^ 53) :
    min ((⌊rounded (rounded n * rounded k)⌋ : Int) : Rat) c =
      min ((n : Rat) * k) c := by
  have n_le : n ≤ 2 ^ 53 := by exact_mod_cast le.trans small
  have rounded_n := rounded_intCast nonneg n_le
  by_cases fits : n * k ≤ 2 ^ 53
  · congr 1
    rcases nonneg.eq_or_lt with rfl | pos
    · simp
    · have k_le : k ≤ 2 ^ 53 := le_trans (le_mul_of_one_le_left (by omega) pos) fits
      have product := rounded_intCast (Int.mul_nonneg nonneg (by omega)) fits
      rw [rounded_n, rounded_intCast (by omega) k_le, ← Int.cast_mul, product,
        Int.floor_intCast]
  · have above : (2 : Rat) ^ 53 ≤ n * k := by exact_mod_cast (not_le.mp fits).le
    have pos : 0 < n := by
      by_contra hn
      obtain rfl : n = 0 := by omega
      simp at fits
    have product : (2 : Rat) ^ 53 ≤ rounded n * rounded k := by
      by_cases k_le : k ≤ 2 ^ 53
      · rwa [rounded_n, rounded_intCast (by omega) k_le]
      · have beyond : (2 : Rat) ^ 53 ≤ k := by exact_mod_cast (not_le.mp k_le).le
        have mono := rounded_mono (by positivity) beyond
        rw [rounded_two_pow (by omega)] at mono
        rw [rounded_n]
        refine mono.trans (le_mul_of_one_le_left (mono.trans' (by positivity)) ?_)
        exact_mod_cast pos
    have fixed : rounded ((2 ^ 53 : Int) : Rat) = ((2 ^ 53 : Int) : Rat) :=
      rounded_intCast (by norm_num) le_rfl
    have floor_le := le_floor_rounded (by norm_num) fixed (by exact_mod_cast product)
    rw [min_eq_right (small.trans above), min_eq_right]
    exact small.trans (by exact_mod_cast floor_le)

/-- The ceiling is not left again. -/
theorem min_floor_rounded_ceiling {n : Int} (nonneg : 0 ≤ n) (fixed : rounded n = n)
    (one_le : 1 ≤ f) :
    min ((⌊rounded (rounded n * rounded f)⌋ : Int) : Rat) n = min ((⌊n * f⌋ : Int) : Rat) n := by
  have nonneg' : (0 : Rat) ≤ n := by exact_mod_cast nonneg
  have le : (n : Rat) ≤ rounded n * rounded f := by
    rw [fixed]
    exact le_mul_of_one_le_right nonneg' (one_le_rounded one_le)
  have floor_le := le_floor_rounded nonneg fixed le
  have floor_le' : n ≤ ⌊n * f⌋ := Int.le_floor.mpr (le_mul_of_one_le_right nonneg' one_le)
  rw [min_eq_right (by exact_mod_cast floor_le), min_eq_right (by exact_mod_cast floor_le')]

/-- The product with a double that is no integer passes the next integer if the product with an
integer below it does. -/
theorem floor_lt_floor_rounded {a : Rat} (fixed : rounded a = a) (fraction : ∀ n : Int, a ≠ n)
    (one_le : 1 ≤ f) {n : Int} (nonneg : 0 ≤ n) (le : (n : Rat) ≤ a)
    (passes : ((⌊a⌋ + 1 : Int) : Rat) ≤ n * f) :
    ⌊a⌋ < ⌊rounded (rounded a * rounded f)⌋ := by
  have nonneg_a : 0 ≤ a := le.trans' (by exact_mod_cast nonneg)
  have floor_nonneg : 0 ≤ ⌊a⌋ := Int.floor_nonneg.mpr nonneg_a
  have floor_le : ⌊a⌋ + 1 ≤ 2 ^ 53 := by
    by_contra large
    have le_floor : (2 : Rat) ^ 53 ≤ ⌊a⌋ := by exact_mod_cast (by omega : 2 ^ 53 ≤ ⌊a⌋)
    have pos : 0 < a := nonneg_a.lt_of_ne fun zero => fraction 0 (by exact_mod_cast zero.symm)
    obtain ⟨k, value⟩ := exists_int_of_le_rounded pos
      (fixed.symm ▸ le_floor.trans (Int.floor_le a))
    exact fraction k (fixed.symm.trans value)
  have next := rounded_intCast (n := ⌊a⌋ + 1) (by omega) floor_le
  refine Int.lt_iff_add_one_le.mpr (le_floor_rounded (by omega) next ?_)
  have factor_nonneg := rounded_nonneg (zero_le_one.trans one_le)
  calc ((⌊a⌋ + 1 : Int) : Rat) ≤ n * f := passes
    _ ≤ n * (rounded f * (1 + 1 / 2 ^ 53)) :=
      mul_le_mul_of_nonneg_left (le_rounded_mul one_le) (by exact_mod_cast nonneg)
    _ = n * (1 + 1 / 2 ^ 53) * rounded f := by ring
    _ ≤ a * rounded f :=
      mul_le_mul_of_nonneg_right (intCast_mul_le_of_fraction fixed fraction nonneg le)
        factor_nonneg
    _ = rounded a * rounded f := by rw [fixed]

end

end Double

namespace Number

def isExact (x : Number) : Bool :=
  x.exactValue?.isSome

def isFraction : Number → Bool
  | ratio q => q.den ≠ 1
  | _ => false

/-- The product of two numbers is one of doubles, and rounded to infinity. -/
def Overflows (x y : Number) : Prop :=
  (x.isExact && y.isExact) = false ∧ ∃ a b, x.toRat? = some a ∧ y.toRat? = some b ∧
    Double.overflow ≤ Double.rounded a * Double.rounded b

/-- The whole part of the product of numbers of values `a` and `b`, be they both exact or not. -/
inductive WholeProduct (a b : Rat) : Bool → Int → Prop
  | exact {i : Int} (value : i = ⌊a * b⌋) : WholeProduct a b true i
  | rounded {i : Int} (value : i = ⌊Double.rounded (Double.rounded a * Double.rounded b)⌋)
      (within : Double.rounded a * Double.rounded b < Double.overflow) : WholeProduct a b false i

/-! ## Whole parts of products -/

namespace WholeProduct

variable {a a' b : Rat} {exact : Bool} {i j : Int}

theorem unique (h : WholeProduct a b exact i) (h' : WholeProduct a b exact j) : i = j := by
  cases h with
  | exact value =>
    cases h' with
    | exact value' => exact value.trans value'.symm
  | rounded value =>
    cases h' with
    | rounded value' => exact value.trans value'.symm

section
variable (ha : 0 ≤ a) (hb : 1 ≤ b)
include ha hb

theorem nonneg (h : WholeProduct a b exact i) : 0 ≤ i := by
  have nonneg_b : 0 ≤ b := zero_le_one.trans hb
  cases h with
  | exact value => exact value ▸ Int.floor_nonneg.mpr (mul_nonneg ha nonneg_b)
  | rounded value =>
    rw [value]
    exact Int.floor_nonneg.mpr (Double.rounded_nonneg
      (mul_nonneg (Double.rounded_nonneg ha) (Double.rounded_nonneg nonneg_b)))

/-- A smaller number has a product too, which is no greater. -/
theorem exists_le (h : WholeProduct a' b exact j) (le : a ≤ a') :
    ∃ i, WholeProduct a b exact i ∧ i ≤ j := by
  have nonneg_b : 0 ≤ b := zero_le_one.trans hb
  cases h with
  | exact value =>
    refine ⟨_, .exact rfl, ?_⟩
    rw [value]
    exact Int.floor_mono (mul_le_mul_of_nonneg_right le nonneg_b)
  | rounded value within =>
    have product_le :
        Double.rounded a * Double.rounded b ≤ Double.rounded a' * Double.rounded b :=
      mul_le_mul_of_nonneg_right (Double.rounded_mono ha le) (Double.rounded_nonneg nonneg_b)
    refine ⟨_, .rounded rfl (product_le.trans_lt within), ?_⟩
    rw [value]
    exact Int.floor_mono (Double.rounded_mono
      (mul_nonneg (Double.rounded_nonneg ha) (Double.rounded_nonneg nonneg_b)) product_le)

theorem mono (h : WholeProduct a b exact i) (h' : WholeProduct a' b exact j) (le : a ≤ a') :
    i ≤ j := by
  obtain ⟨k, product, le_j⟩ := h'.exists_le ha hb le
  exact h.unique product ▸ le_j

/-- Rounding leaves the whole part of a rounded product alone. -/
theorem fixed (h : WholeProduct a b false i) : Double.rounded i = i := by
  cases h with
  | rounded value within =>
    have product_nonneg := mul_nonneg (Double.rounded_nonneg ha)
      (Double.rounded_nonneg (zero_le_one.trans hb))
    rw [value]
    exact Double.rounded_floor_rounded product_nonneg within

end

/-- The product of an integer is no less, unless the integer is rounded. -/
theorem le_of_fixed {n : Int} (h : WholeProduct n b exact j) (nonneg : 0 ≤ n) (one_le : 1 ≤ b)
    (fixed : exact = false → Double.rounded n = n) : n ≤ j := by
  have nonneg' : (0 : Rat) ≤ n := by exact_mod_cast nonneg
  cases h with
  | exact value =>
    rw [value]
    exact Int.le_floor.mpr (le_mul_of_one_le_right nonneg' one_le)
  | rounded value =>
    rw [value]
    refine Double.le_floor_rounded nonneg (fixed rfl) ?_
    rw [fixed rfl]
    exact le_mul_of_one_le_right nonneg' (Double.one_le_rounded one_le)

theorem floor_le (h : WholeProduct a b exact i) (nonneg : 0 ≤ a) (one_le : 1 ≤ b)
    (within : a < Double.overflow) (fixed : exact = false → Double.rounded a = a) : ⌊a⌋ ≤ i := by
  have floor_nonneg := Int.floor_nonneg.mpr nonneg
  obtain ⟨j, product, le⟩ := h.exists_le (a := (⌊a⌋ : Int)) (by exact_mod_cast floor_nonneg) one_le
    (Int.floor_le a)
  refine (product.le_of_fixed floor_nonneg one_le fun rounds => ?_).trans le
  have floor_fixed := Double.rounded_floor_rounded nonneg within
  rwa [fixed rounds] at floor_fixed

/-- A product that is a factor in turn is followed by none that is less. -/
theorem le_again (h : WholeProduct a b exact i) {again : Bool} (h' : WholeProduct i b again j)
    (nonneg : 0 ≤ a) (one_le : 1 ≤ b) (kinds : again = false → exact = false) : i ≤ j :=
  h'.le_of_fixed (h.nonneg nonneg one_le) one_le fun rounds =>
    (kinds rounds ▸ h).fixed nonneg one_le

/-- If the exact product of an integer is above a double, then the rounded product of the double
is no less than the double. -/
theorem le_of_passed {c : Rat} {n : Int} (h : WholeProduct n b true i)
    (h' : WholeProduct c b false j) (nonneg : 0 ≤ n) (one_le : 1 ≤ b)
    (fixed : Double.rounded c = c) (le : (n : Rat) ≤ c) (passes : c < i) : c ≤ j := by
  by_cases fraction : ∀ k : Int, c ≠ k
  · cases h with
    | exact value =>
      cases h' with
      | rounded value' =>
        have le_product : (i : Rat) ≤ n * b := by
          rw [value]
          exact Int.floor_le _
        have next : ((⌊c⌋ + 1 : Int) : Rat) ≤ n * b :=
          le_product.trans' (by exact_mod_cast Int.add_one_le_of_lt (Int.floor_lt.mpr passes))
        have above := Double.floor_lt_floor_rounded fixed fraction one_le nonneg le next
        rw [← value'] at above
        exact (Int.floor_lt.mp above).le
  · push Not at fraction
    obtain ⟨k, rfl⟩ := fraction
    have nonneg_k : 0 ≤ k := nonneg.trans (by exact_mod_cast le)
    exact_mod_cast h'.le_of_fixed nonneg_k one_le fun _ => fixed

end WholeProduct

/-! ## Products of numbers -/

variable {x y : Number} {a b : Rat}

@[simp] theorem isExact_int (i : Int) : (int i).isExact = true := rfl

theorem exactValue?_of_isExact (h : x.isExact = true) (value : x.toRat? = some a) :
    x.exactValue? = some a := by
  obtain ⟨b, exact⟩ := Option.isSome_iff_exists.mp h
  rwa [← Option.some.inj ((toRat?_of_exactValue? exact).symm.trans value)]

theorem exactValue?_eq_none (h : x.isExact = false) : x.exactValue? = none :=
  Option.not_isSome_iff_eq_none.mp (Bool.eq_false_iff.mp h)

theorem exists_int (h : x.isExact = true) (whole : x.isFraction = false)
    (value : x.toRat? = some a) : ∃ n : Int, a = n := by
  cases x with
  | int n => exact ⟨n, (Option.some.inj value).symm⟩
  | ratio q =>
    obtain rfl : q = a := Option.some.inj value
    exact ⟨q.num, (Rat.coe_int_num_of_den_eq_one (by simpa [isFraction] using whole)).symm⟩
  | double => cases h

theorem mul_eq_double (doubles : (x.isExact && y.isExact) = false) :
    x.mul y = (do return double ((← x.toDouble).mul (← y.toDouble))) := by
  rcases Bool.and_eq_false_iff.mp doubles with h | h
  · exact mul_of_double (.inl (exactValue?_eq_none h))
  · exact mul_of_double (.inr (exactValue?_eq_none h))

theorem truncate_eq_error_iff {d : Double} (number : d ≠ .nan) {e : RangeError} :
    (double d).truncate = .error e ↔ e = .infinityToInteger ∧ ¬d.isFinite = true := by
  cases d with
  | nan => exact absurd rfl number
  | inf => simp [truncate, Double.isFinite, eq_comm]
  | finite => simp [truncate, Double.isFinite]

theorem tdiv_eq_floor {q : Rat} (nonneg : 0 ≤ q) : q.num.tdiv q.den = ⌊q⌋ := by
  rw [Int.tdiv_eq_ediv_of_nonneg (Rat.num_nonneg.mpr nonneg), Rat.floor_def']

theorem truncate_of_toRat? (h : x.toRat? = some a) (nonneg : 0 ≤ a) : x.truncate = .ok ⌊a⌋ := by
  cases exact : x.isExact with
  | true => rw [truncate_of_exact (exactValue?_of_isExact exact h), tdiv_eq_floor nonneg]
  | false =>
    obtain ⟨d, rfl⟩ := exists_double (exactValue?_eq_none exact)
    rw [toRat?_double] at h
    cases d with
    | finite => simp [truncate, Double.truncate?, h, tdiv_eq_floor nonneg]
    | _ => cases h

theorem truncate_of_intCast {d : Double} {n : Int} (h : d.toRat? = some (n : Rat)) :
    (double d).truncate = .ok n := by
  cases d with
  | finite => simp [truncate, Double.truncate?, h]
  | _ => cases h

theorem exists_toDouble (finite : x.isFinite = true) (hx : x.toRat? = some a) (nonneg : 0 ≤ a) :
    ∃ d, x.toDouble = .ok d ∧ d.toRat? = some (Double.rounded a) := by
  cases exact : x.isExact with
  | true =>
    have value := exactValue?_of_isExact exact hx
    obtain ⟨beyond, converted⟩ := exists_toDouble_eq value
    have within : |a| < Double.overflow := (isFinite_iff value).mp finite
    exact ⟨_, converted.trans (nearestDouble_of_lt within beyond),
      Double.toRat?_ofRat_of_nonneg nonneg (lt_of_abs_lt within)⟩
  | false =>
    obtain ⟨d, rfl⟩ := exists_double (exactValue?_eq_none exact)
    refine ⟨d, rfl, ?_⟩
    rw [Double.rounded_of_toRat? hx nonneg]
    exact hx

theorem mul_of_doubles (doubles : (x.isExact && y.isExact) = false) {d e : Double}
    (hd : x.toDouble = .ok d) (he : y.toDouble = .ok e) : x.mul y = .ok (double (d.mul e)) := by
  simp [mul_eq_double doubles, hd, he, bind, Except.bind, pure, Except.pure]

theorem rounded_of_double (h : x.isExact = false) (value : x.toRat? = some a) (nonneg : 0 ≤ a) :
    Double.rounded a = a := by
  obtain ⟨d, rfl⟩ := exists_double (exactValue?_eq_none h)
  exact Double.rounded_of_toRat? value nonneg

section
variable (hx : x.toRat? = some a) (hy : y.toRat? = some b) (ha : 0 ≤ a) (hb : 0 ≤ b)
include hx hy ha hb

theorem truncate_mul_of_exact (exact_x : x.isExact = true) (exact_y : y.isExact = true) :
    (do (← x.mul y).truncate) = .ok ⌊a * b⌋ := by
  obtain ⟨z, multiplied, value⟩ :=
    mul_of_exact (exactValue?_of_isExact exact_x hx) (exactValue?_of_isExact exact_y hy)
  rw [multiplied]
  exact truncate_of_toRat? (toRat?_of_exactValue? value) (mul_nonneg ha hb)

/-- The integer part of a product fails to be had only if the product overflows. -/
theorem truncate_mul_iff (finite_x : x.isFinite = true) (finite_y : y.isFinite = true)
    (e : RangeError) :
    (do (← x.mul y).truncate) = .error e ↔ e = .infinityToInteger ∧ x.Overflows y := by
  cases doubles : x.isExact && y.isExact with
  | false =>
    obtain ⟨c, hc, value_c⟩ := exists_toDouble finite_x hx ha
    obtain ⟨d, hd, value_d⟩ := exists_toDouble finite_y hy hb
    have nonneg := mul_nonneg (Double.rounded_nonneg ha) (Double.rounded_nonneg hb)
    have overflows_iff : x.Overflows y ↔ ¬(c.mul d).isFinite = true := by
      rw [Double.isFinite_mul_iff value_c value_d, abs_of_nonneg nonneg, not_lt]
      simp [Overflows, doubles, hx, hy]
    rw [overflows_iff, mul_of_doubles doubles hc hd]
    exact truncate_eq_error_iff (Double.mul_eq_ofRat value_c value_d ▸ Double.ofRat_ne_nan _ _)
  | true =>
    obtain ⟨exact_x, exact_y⟩ := Bool.and_eq_true_iff.mp doubles
    rw [truncate_mul_of_exact hx hy ha hb exact_x exact_y]
    simp [Overflows, doubles]

theorem truncate_mul_of_doubles (finite_x : x.isFinite = true) (finite_y : y.isFinite = true)
    (doubles : (x.isExact && y.isExact) = false)
    (within : Double.rounded a * Double.rounded b < Double.overflow) :
    (do (← x.mul y).truncate) = .ok ⌊Double.rounded (Double.rounded a * Double.rounded b)⌋ := by
  obtain ⟨c, hc, value_c⟩ := exists_toDouble finite_x hx ha
  obtain ⟨d, hd, value_d⟩ := exists_toDouble finite_y hy hb
  have nonneg := mul_nonneg (Double.rounded_nonneg ha) (Double.rounded_nonneg hb)
  rw [mul_of_doubles doubles hc hd]
  apply truncate_of_toRat?
  · rw [toRat?_double, Double.mul_eq_ofRat value_c value_d,
      Double.toRat?_ofRat_of_nonneg nonneg within]
  · exact Double.rounded_nonneg nonneg

theorem truncate_mul_eq_ok_iff (finite_x : x.isFinite = true) (finite_y : y.isFinite = true)
    {i : Int} :
    (do (← x.mul y).truncate) = .ok i ↔ WholeProduct a b (x.isExact && y.isExact) i := by
  cases doubles : x.isExact && y.isExact with
  | false =>
    by_cases within : Double.rounded a * Double.rounded b < Double.overflow
    · rw [truncate_mul_of_doubles hx hy ha hb finite_x finite_y doubles within]
      constructor
      · intro h
        exact .rounded (Except.ok.inj h).symm within
      · rintro (_ | ⟨value, -⟩)
        rw [value]
    · have failed := (truncate_mul_iff hx hy ha hb finite_x finite_y .infinityToInteger).mpr
        ⟨rfl, doubles, a, b, hx, hy, not_lt.mp within⟩
      rw [failed]
      constructor
      · intro h
        cases h
      · rintro (_ | ⟨-, within'⟩)
        exact absurd within' within
  | true =>
    obtain ⟨exact_x, exact_y⟩ := Bool.and_eq_true_iff.mp doubles
    rw [truncate_mul_of_exact hx hy ha hb exact_x exact_y]
    constructor
    · intro h
      exact .exact (Except.ok.inj h).symm
    · rintro (value | _)
      rw [value]

/-- A product that overflows does so with any greater factor. -/
theorem Overflows.of_le {z : Number} {c : Rat} (hz : z.toRat? = some c) (h : x.Overflows y)
    (le : a ≤ c) (doubles : (z.isExact && y.isExact) = false) : z.Overflows y := by
  obtain ⟨-, a', b', ha', hb', beyond⟩ := h
  rw [hx, Option.some.injEq] at ha'
  rw [hy, Option.some.injEq] at hb'
  subst ha' hb'
  refine ⟨doubles, c, b, hz, hy, beyond.trans ?_⟩
  exact mul_le_mul_of_nonneg_right (Double.rounded_mono ha le) (Double.rounded_nonneg hb)

end

end Number

end HttpRetry

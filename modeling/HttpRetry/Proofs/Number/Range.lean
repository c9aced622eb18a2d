import HttpRetry.Proofs.Number.Order
import HttpRetry.Proofs.Number.Rounding

/-!
# The range of doubles

The value of a finite number is below the bound from which magnitudes are rounded to
infinity, and whatever is from 0 to such a number has a nearest double. Products of
numbers that are not negative are not negative.
-/

namespace HttpRetry.Double

/-! ## The range -/

theorem toRat?_lt_overflow {d : Double} {q : Rat} (h : d.toRat? = some q) : |q| < overflow := by
  cases d with
  | nan => cases h
  | inf => cases h
  | finite negative mant exp fits =>
    simp only [toRat?, power_eq, Option.some.injEq] at h
    have magnitude : 0 ≤ (mant : Rat) * 2 ^ exp := by positivity
    have abs_eq : |q| = mant * 2 ^ exp := by
      rw [← h, ← abs_of_nonneg magnitude]
      split <;> simp
    rcases Nat.eq_zero_or_pos mant with rfl | pos
    · rw [abs_eq, Nat.cast_zero, zero_mul]
      exact overflow_pos
    · have value_pos : (0 : Rat) < mant * 2 ^ exp :=
        mul_pos (by exact_mod_cast pos) (zpow_pos two_pos _)
      rw [abs_eq, ← rounded_lt_iff value_pos, rounded_of_fits fits pos,
        ← fits_iff fits.1 fits.2.1 fits.2.2.2]
      exact fits

theorem power_nonneg (exp : Int) : 0 ≤ power exp := by
  rw [power_eq]
  positivity

/-! ## Signs -/

theorem isNegative_nearest (negative : Bool) (num den : Nat) :
    (nearest negative num den).isNegative = negative := by
  have pack_eq (mant : Nat) (exp : Int) : (pack negative mant exp).isNegative = negative := by
    unfold pack
    split <;> rfl
  unfold nearest
  split
  · rfl
  · simp only
    split
    · exact pack_eq _ _
    · exact pack_eq _ _

theorem isNegative_ofRat {x : Rat} (h : 0 ≤ x) : (ofRat x false).isNegative = false := by
  unfold ofRat
  split
  · rfl
  · rw [isNegative_nearest, decide_eq_false_iff_not, not_lt]
    exact Rat.num_nonneg.mpr h

theorem toRat?_nonneg {d : Double} (h : d.isNegative = false) {q : Rat}
    (hq : d.toRat? = some q) : 0 ≤ q := by
  cases d with
  | nan => cases hq
  | inf _ => cases hq
  | finite negative mant exp fits =>
    simp only [isNegative] at h
    simp only [toRat?, h, Bool.false_eq_true, if_false, Option.some.injEq] at hq
    subst hq
    exact mul_nonneg (Nat.cast_nonneg _) (power_nonneg exp)

theorem isNegative_mul {x y : Double} (hx : x.isNegative = false) (hy : y.isNegative = false) :
    (x.mul y).isNegative = false := by
  have sign_eq : (x.isNegative != y.isNegative) = false := by rw [hx, hy]; rfl
  cases x with
  | nan => cases y <;> rfl
  | inf =>
    cases y with
    | nan => rfl
    | inf => exact sign_eq
    | finite =>
      simp only [mul]
      split
      · rfl
      · exact sign_eq
  | finite =>
    cases y with
    | nan => rfl
    | inf =>
      simp only [mul]
      split
      · rfl
      · exact sign_eq
    | finite =>
      simp only [mul, sign_eq]
      exact isNegative_ofRat (mul_nonneg (toRat?_nonneg hx rfl) (toRat?_nonneg hy rfl))

end HttpRetry.Double

namespace HttpRetry.Number

/-! ## Nearest doubles -/

variable {x : Number} {a : Rat}

theorem toRat?_of_exactValue? (h : x.exactValue? = some a) : x.toRat? = some a := by
  cases x with
  | int | ratio => exact h
  | double => cases h

theorem exists_double (h : x.exactValue? = none) : ∃ d, x = double d := by
  cases x with
  | int | ratio => cases h
  | double d => exact ⟨d, rfl⟩

theorem exists_toDouble_eq (h : x.exactValue? = some a) :
    ∃ beyond, x.toDouble = nearestDouble beyond a := by
  cases x with
  | int | ratio =>
    cases h
    exact ⟨_, rfl⟩
  | double => cases h

theorem nearestDouble_of_lt {q : Rat} (within : |q| < Double.overflow) (beyond : RangeError) :
    nearestDouble beyond q = .ok (Double.ofRat q false) := by
  have finite : (Double.ofRat q false).isFinite = true := Double.isFinite_ofRat_iff.mpr within
  unfold nearestDouble
  cases h : Double.ofRat q false with
  | finite => rfl
  | nan | inf => simp [h, Double.isFinite] at finite

theorem nearestDouble_of_le {q : Rat} (le : Double.overflow ≤ |q|) (beyond : RangeError) :
    nearestDouble beyond q = .error beyond := by
  have infinite : ¬(Double.ofRat q false).isFinite = true :=
    mt Double.isFinite_ofRat_iff.mp (not_lt.mpr le)
  unfold nearestDouble
  cases h : Double.ofRat q false with
  | finite => simp [h, Double.isFinite] at infinite
  | nan | inf => rfl

theorem isFinite_iff (h : x.exactValue? = some a) : x.isFinite = true ↔ |a| < Double.overflow := by
  obtain ⟨beyond, converted⟩ := exists_toDouble_eq h
  rw [isFinite, converted]
  by_cases within : |a| < Double.overflow
  · rw [nearestDouble_of_lt within]
    exact Double.isFinite_ofRat_iff
  · rw [nearestDouble_of_le (not_lt.mp within)]
    simpa using within

theorem toRat?_isSome (h : x.isFinite = true) : ∃ q, x.toRat? = some q := by
  cases x with
  | int i => exact ⟨i, rfl⟩
  | ratio q => exact ⟨q, rfl⟩
  | double d =>
    cases d with
    | finite => exact ⟨_, rfl⟩
    | _ => cases h

/-- The exact value of a finite number is in the range of doubles. -/
theorem toRat?_lt_overflow (h : x.isFinite = true) {q : Rat} (hq : x.toRat? = some q) :
    |q| < Double.overflow := by
  cases exact : x.exactValue? with
  | some a =>
    obtain rfl : a = q := Option.some.inj ((toRat?_of_exactValue? exact).symm.trans hq)
    exact (isFinite_iff exact).mp h
  | none =>
    obtain ⟨d, rfl⟩ := exists_double exact
    exact Double.toRat?_lt_overflow hq

/-- Below a finite number everything from 0 on has a nearest double. -/
theorem isFinite_of_le {x c : Number} (nonneg : Number.le 0 x = true) (finite : c.isFinite = true)
    (h : x.le c = true) : x.isFinite = true := by
  cases exact : x.exactValue? with
  | some a =>
    obtain ⟨q, hq⟩ := toRat?_isSome finite
    have value := toRat?_of_exactValue? exact
    have le : a ≤ q := (le_iff value hq).mp h
    have nonneg' : ((0 : Int) : Rat) ≤ a := (le_iff (toRat?_int 0) value).mp nonneg
    rw [Int.cast_zero] at nonneg'
    rw [isFinite_iff exact]
    exact (abs_le_abs_of_nonneg nonneg' le).trans_lt (toRat?_lt_overflow finite hq)
  | none =>
    obtain ⟨d, rfl⟩ := exists_double exact
    cases d with
    | finite => rfl
    | nan => exact absurd nonneg (by decide)
    | inf negative =>
      cases negative with
      | true => exact absurd nonneg (by decide)
      | false =>
        cases c with
        | int | ratio => simp [le, lt, compare?] at h
        | double e => cases e <;> simp_all [le, lt, compare?, isFinite, toDouble, Double.isFinite]

/-! ## Numbers that are not negative -/

def IsUnsigned : Number → Prop
  | int i => 0 ≤ i
  | ratio q => 0 ≤ q
  | double d => d.isNegative = false

theorem isUnsigned_iff (h : x.exactValue? = some a) : x.IsUnsigned ↔ 0 ≤ a := by
  cases x with
  | int i =>
    cases h
    exact Int.cast_nonneg_iff.symm
  | ratio q =>
    cases h
    rfl
  | double => cases h

theorem isUnsigned_of_lt {x : Number} (h : Number.lt 0 x = true) : x.IsUnsigned := by
  have positive {q : Rat} (value : x.toRat? = some q) : 0 < q := by
    have pos := (lt_iff (toRat?_int 0) value).mp h
    rwa [Int.cast_zero] at pos
  cases exact : x.exactValue? with
  | some a => exact (isUnsigned_iff exact).mpr (positive (toRat?_of_exactValue? exact)).le
  | none =>
    obtain ⟨d, rfl⟩ := exists_double exact
    cases d with
    | nan => rfl
    | inf negative =>
      cases negative with
      | false => rfl
      | true => exact absurd h (by decide)
    | finite negative mant exp fits =>
      have pos := positive rfl
      simp only [IsUnsigned, Double.isNegative]
      by_contra hn
      rw [Bool.not_eq_false] at hn
      simp only [hn, if_true] at pos
      have nonneg := mul_nonneg (Nat.cast_nonneg (α := Rat) mant) (Double.power_nonneg exp)
      linarith

theorem IsUnsigned.toRat?_nonneg (h : x.IsUnsigned) {q : Rat} (hq : x.toRat? = some q) : 0 ≤ q := by
  cases exact : x.exactValue? with
  | some a =>
    obtain rfl : a = q := Option.some.inj ((toRat?_of_exactValue? exact).symm.trans hq)
    exact (isUnsigned_iff exact).mp h
  | none =>
    obtain ⟨d, rfl⟩ := exists_double exact
    exact Double.toRat?_nonneg h hq

theorem IsUnsigned.same_neg_one (h : x.IsUnsigned) : x.same (.int (-1)) = false := by
  rw [Bool.eq_false_iff, ne_eq, same_int_iff]
  intro value
  have nonneg := h.toRat?_nonneg value
  norm_num at nonneg

theorem isNegative_of_toDouble (h : x.IsUnsigned) {d : Double} (hd : x.toDouble = .ok d) :
    d.isNegative = false := by
  cases exact : x.exactValue? with
  | some a =>
    obtain ⟨beyond, converted⟩ := exists_toDouble_eq exact
    rw [converted] at hd
    have sign := Double.isNegative_ofRat ((isUnsigned_iff exact).mp h)
    unfold nearestDouble at hd
    split at hd
    · rename_i eq
      cases hd
      exact eq ▸ sign
    · cases hd
  | none =>
    obtain ⟨e, rfl⟩ := exists_double exact
    cases hd
    exact h

/-! ## Products -/

theorem mul_of_exact {y : Number} {b : Rat} (hx : x.exactValue? = some a)
    (hy : y.exactValue? = some b) :
    ∃ z, x.mul y = .ok z ∧ z.exactValue? = some (a * b) := by
  cases x with
  | int i =>
    cases hx
    cases y with
    | int j =>
      cases hy
      exact ⟨.int (i * j), rfl, congrArg some (Int.cast_mul i j)⟩
    | ratio =>
      cases hy
      exact ⟨_, rfl, rfl⟩
    | double => cases hy
  | ratio q =>
    cases hx
    cases y with
    | int | ratio =>
      cases hy
      exact ⟨_, rfl, rfl⟩
    | double => cases hy
  | double => cases hx

theorem mul_of_double {y : Number} (h : x.exactValue? = none ∨ y.exactValue? = none) :
    x.mul y = (do return double ((← x.toDouble).mul (← y.toDouble))) := by
  obtain h | h := h
  · obtain ⟨d, rfl⟩ := exists_double h
    rfl
  · obtain ⟨d, rfl⟩ := exists_double h
    cases x <;> rfl

theorem truncate_of_exact (h : x.exactValue? = some a) : x.truncate = .ok (a.num.tdiv a.den) := by
  cases x with
  | int i =>
    cases h
    simp [truncate]
  | ratio q =>
    cases h
    rfl
  | double => cases h

theorem IsUnsigned.mul {x y z : Number} (hx : x.IsUnsigned) (hy : y.IsUnsigned)
    (h : x.mul y = .ok z) : z.IsUnsigned := by
  have doubles (rounds : x.exactValue? = none ∨ y.exactValue? = none) : z.IsUnsigned := by
    rw [mul_of_double rounds] at h
    cases ha : x.toDouble with
    | error => simp [ha, bind, Except.bind] at h
    | ok a =>
      cases hb : y.toDouble with
      | error => simp [ha, hb, bind, Except.bind] at h
      | ok b =>
        simp only [ha, hb, bind, Except.bind, pure, Except.pure, Except.ok.injEq] at h
        subst h
        exact Double.isNegative_mul (isNegative_of_toDouble hx ha) (isNegative_of_toDouble hy hb)
  cases exact_x : x.exactValue? with
  | none => exact doubles (.inl exact_x)
  | some a =>
    cases exact_y : y.exactValue? with
    | none => exact doubles (.inr exact_y)
    | some b =>
      obtain ⟨product, multiplied, value⟩ := mul_of_exact exact_x exact_y
      obtain rfl : product = z := Except.ok.inj (multiplied.symm.trans h)
      rw [isUnsigned_iff value]
      exact mul_nonneg ((isUnsigned_iff exact_x).mp hx) ((isUnsigned_iff exact_y).mp hy)

theorem IsUnsigned.truncate (h : x.IsUnsigned) {i : Int} (hi : x.truncate = .ok i) : 0 ≤ i := by
  cases exact : x.exactValue? with
  | some a =>
    rw [truncate_of_exact exact, Except.ok.injEq] at hi
    subst hi
    exact Int.tdiv_nonneg (Rat.num_nonneg.mpr ((isUnsigned_iff exact).mp h)) (Int.natCast_nonneg _)
  | none =>
    obtain ⟨d, rfl⟩ := exists_double exact
    cases d with
    | finite negative mant exp fits =>
      have nonneg := Double.toRat?_nonneg h rfl
      simp only [Number.truncate, Double.truncate?, Double.toRat?, Option.map_some,
        Option.getD_some, Except.ok.injEq] at hi
      subst hi
      exact Int.tdiv_nonneg (Rat.num_nonneg.mpr nonneg) (Int.natCast_nonneg _)
    | _ => cases hi

end HttpRetry.Number

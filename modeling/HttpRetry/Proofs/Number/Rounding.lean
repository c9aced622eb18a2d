import HttpRetry.Number.Double
import Mathlib.Algebra.Order.Field.Power
import Mathlib.Data.Int.Log
import Mathlib.Data.Rat.Floor
import Mathlib.Tactic.Linarith
import Mathlib.Tactic.Positivity
import Mathlib.Tactic.FieldSimp
import Mathlib.Tactic.Ring

/-!
# Rounding to doubles

`rounded` says which rational the double nearest to a positive rational stands for,
without the digits of numerator and denominator by which the double is found. It keeps
the order of rationals and leaves the values of doubles alone. A rational has a nearest
double that is finite exactly if it is below `overflow`.
-/

namespace HttpRetry.Double

/-! ## Nearest integers -/

def roundEven (x : Rat) : Int :=
  if Int.fract x < 1 / 2 ∨ Int.fract x = 1 / 2 ∧ ⌊x⌋ % 2 = 0 then ⌊x⌋ else ⌊x⌋ + 1

theorem abs_roundEven_sub_le (x : Rat) : |(roundEven x : Rat) - x| ≤ 1 / 2 := by
  have parts := Int.floor_add_fract x
  have nonneg := Int.fract_nonneg x
  have lt_one := Int.fract_lt_one x
  unfold roundEven
  split
  · rename_i down
    have le : Int.fract x ≤ 1 / 2 := down.elim le_of_lt fun tie => tie.1.le
    rw [abs_le]
    constructor <;> linarith
  · rename_i up
    have ge : 1 / 2 ≤ Int.fract x := not_lt.mp fun h => up (.inl h)
    rw [Int.cast_add, Int.cast_one, abs_le]
    constructor <;> linarith

/-- Of two rationals that differ, a greater result for the smaller would take them both a
half away. -/
theorem roundEven_mono {x y : Rat} (h : x ≤ y) : roundEven x ≤ roundEven y := by
  by_contra greater
  have step : (roundEven y : Rat) + 1 ≤ roundEven x := by exact_mod_cast not_le.mp greater
  have near_x := abs_le.mp (abs_roundEven_sub_le x)
  have near_y := abs_le.mp (abs_roundEven_sub_le y)
  have same : x = y := by linarith
  exact greater (same ▸ le_rfl)

@[simp] theorem roundEven_intCast (i : Int) : roundEven i = i := by
  simp [roundEven]

theorem nearestNat_eq_roundEven (a : Nat) {b : Nat} (hb : 0 < b) :
    (nearestNat a b : Int) = roundEven (a / b) := by
  have pos : (0 : Rat) < b := by exact_mod_cast hb
  have floor_eq : ⌊(a / b : Rat)⌋ = (a / b : Nat) := Rat.floor_natCast_div_natCast a b
  have fract_eq : Int.fract (a / b : Rat) = (a % b : Nat) / b := by
    rw [Int.fract, floor_eq, Int.cast_natCast, eq_div_iff pos.ne', sub_mul,
      div_mul_cancel₀ _ pos.ne', sub_eq_iff_eq_add]
    exact_mod_cast (Nat.mod_add_div' a b).symm
  have lt_iff : Int.fract (a / b : Rat) < 1 / 2 ↔ 2 * (a % b) < b := by
    rw [fract_eq, div_lt_div_iff₀ pos two_pos, one_mul, mul_comm]
    exact_mod_cast Iff.rfl
  have eq_iff : Int.fract (a / b : Rat) = 1 / 2 ↔ 2 * (a % b) = b := by
    rw [fract_eq, div_eq_div_iff pos.ne' two_ne_zero, one_mul, mul_comm]
    exact_mod_cast Iff.rfl
  have even_iff : ((a / b : Nat) : Int) % 2 = 0 ↔ a / b % 2 = 0 := by omega
  unfold nearestNat roundEven
  simp only [lt_iff, eq_iff, floor_eq, even_iff]
  split <;> simp

/-! ## Scales -/

theorem power_eq (exp : Int) : power exp = 2 ^ exp := by
  rw [power, Rat.mkRat_eq_div, Nat.pow_eq, Nat.pow_eq, Int.cast_natCast, Nat.cast_pow, Nat.cast_pow,
    Nat.cast_ofNat]
  rcases Int.le_total exp 0 with neg | pos
  · rw [Int.toNat_of_nonpos neg, pow_zero, one_div, ← zpow_natCast,
      Int.toNat_of_nonneg (by omega), zpow_neg, inv_inv]
  · rw [Int.toNat_of_nonpos (by omega : -exp ≤ 0), pow_zero, div_one, ← zpow_natCast,
      Int.toNat_of_nonneg pos]

theorem le_two_zpow_iff {q : Rat} (hq : 0 < q) {k : Int} : 2 ^ k ≤ q ↔ k ≤ Int.log 2 q := by
  exact_mod_cast Int.zpow_le_iff_le_log (R := Rat) one_lt_two hq

theorem lt_two_zpow_iff {q : Rat} (hq : 0 < q) {k : Int} : q < 2 ^ k ↔ Int.log 2 q < k := by
  exact_mod_cast Int.lt_zpow_iff_log_lt (R := Rat) one_lt_two hq

/-- A fraction multiplied out by a scale, as rounding multiplies it out. -/
theorem scaled_div (num den : Nat) (k : Int) :
    ((num * Nat.pow 2 (-k).toNat : Nat) : Rat) / (den * Nat.pow 2 k.toNat : Nat) =
      num / den / 2 ^ k := by
  rcases Int.le_total k 0 with neg | pos
  · obtain ⟨n, rfl⟩ : ∃ n : Nat, k = -n := ⟨(-k).toNat, by omega⟩
    simp only [neg_neg, Int.toNat_natCast, Int.toNat_neg_natCast, Nat.pow_eq, pow_zero, mul_one,
      Nat.cast_mul, Nat.cast_pow, Nat.cast_ofNat, zpow_neg, zpow_natCast, div_inv_eq_mul]
    rw [mul_div_right_comm]
  · obtain ⟨n, rfl⟩ : ∃ n : Nat, k = n := ⟨k.toNat, by omega⟩
    simp only [Int.toNat_natCast, Int.toNat_neg_natCast, Nat.pow_eq, pow_zero, mul_one,
      Nat.cast_mul, Nat.cast_pow, Nat.cast_ofNat, zpow_natCast]
    rw [div_div]

theorem floorLog2_eq {num den : Nat} (hn : 0 < num) (hd : 0 < den) :
    floorLog2 num den = Int.log 2 (num / den : Rat) := by
  have num_pos : (0 : Rat) < num := by exact_mod_cast hn
  have den_pos : (0 : Rat) < den := by exact_mod_cast hd
  have pos : (0 : Rat) < num / den := div_pos num_pos den_pos
  have num_low : (2 : Rat) ^ (num.log2 : Int) ≤ num := by
    exact_mod_cast Nat.log2_self_le hn.ne'
  have num_high : (num : Rat) < 2 ^ (num.log2 + 1 : Int) := by
    exact_mod_cast Nat.lt_log2_self
  have den_low : (2 : Rat) ^ (den.log2 : Int) ≤ den := by
    exact_mod_cast Nat.log2_self_le hd.ne'
  have den_high : (den : Rat) < 2 ^ (den.log2 + 1 : Int) := by
    exact_mod_cast Nat.lt_log2_self
  -- The quotient lies between two powers on either side of the difference of logarithms.
  have low : (num.log2 : Int) - den.log2 - 1 ≤ Int.log 2 (num / den : Rat) := by
    rw [← le_two_zpow_iff pos, le_div_iff₀ den_pos]
    calc (2 : Rat) ^ ((num.log2 : Int) - den.log2 - 1) * den
        ≤ 2 ^ ((num.log2 : Int) - den.log2 - 1) * 2 ^ (den.log2 + 1 : Int) := by gcongr
      _ = 2 ^ (num.log2 : Int) := by rw [← zpow_add₀ two_ne_zero]; congr 1; ring
      _ ≤ num := num_low
  have high : Int.log 2 (num / den : Rat) < (num.log2 : Int) - den.log2 + 1 := by
    rw [← lt_two_zpow_iff pos, div_lt_iff₀ den_pos]
    calc (num : Rat) < 2 ^ (num.log2 + 1 : Int) := num_high
      _ = 2 ^ ((num.log2 : Int) - den.log2 + 1) * 2 ^ (den.log2 : Int) := by
        rw [← zpow_add₀ two_ne_zero]; congr 1; ring
      _ ≤ 2 ^ ((num.log2 : Int) - den.log2 + 1) * den := by gcongr
  have below_iff : num * Nat.pow 2 (-((num.log2 : Int) - den.log2)).toNat <
      den * Nat.pow 2 ((num.log2 : Int) - den.log2).toNat ↔
        Int.log 2 (num / den : Rat) < (num.log2 : Int) - den.log2 := by
    have scale_pos : (0 : Rat) < (den * Nat.pow 2 ((num.log2 : Int) - den.log2).toNat : Nat) := by
      exact_mod_cast Nat.mul_pos hd (Nat.two_pow_pos _)
    rw [← lt_two_zpow_iff pos, ← div_lt_one₀ (zpow_pos (two_pos (α := Rat)) _), ← scaled_div,
      div_lt_one₀ scale_pos, Nat.cast_lt]
  unfold floorLog2
  simp only [below_iff]
  split <;> omega

/-! ## The grid of doubles -/

/-- The exponent of the scale on which the doubles around a rational stand. -/
def gridExp (q : Rat) : Int :=
  max (Int.log 2 q - 52) (-1074)

def rounded (q : Rat) : Rat :=
  roundEven (q / 2 ^ gridExp q) * 2 ^ gridExp q

variable {q r : Rat}

theorem gridExp_mono (hq : 0 < q) (h : q ≤ r) : gridExp q ≤ gridExp r :=
  max_le_max (Int.sub_le_sub_right (Int.log_mono_right hq h) 52) le_rfl

theorem div_grid_lt (hq : 0 < q) : q / 2 ^ gridExp q < 2 ^ (53 : Int) := by
  have le : Int.log 2 q - 52 ≤ gridExp q := le_max_left _ _
  rw [div_lt_iff₀ (zpow_pos two_pos _), ← zpow_add₀ two_ne_zero, lt_two_zpow_iff hq]
  omega

theorem le_div_grid (hq : 0 < q) (h : -1074 < gridExp q) : 2 ^ (52 : Int) ≤ q / 2 ^ gridExp q := by
  have grid_eq : gridExp q = Int.log 2 q - 52 := by
    unfold gridExp at h ⊢
    omega
  rw [le_div_iff₀ (zpow_pos two_pos _), ← zpow_add₀ two_ne_zero, le_two_zpow_iff hq]
  omega

/-- The mantissa that rounding gives, which a carry can make a power of two. -/
theorem roundEven_grid_le (hq : 0 < q) : roundEven (q / 2 ^ gridExp q) ≤ 2 ^ 53 := by
  have h := roundEven_mono (y := ((2 ^ 53 : Int) : Rat)) (by exact_mod_cast (div_grid_lt hq).le)
  simpa only [roundEven_intCast] using h

theorem le_roundEven_grid (hq : 0 < q) (h : -1074 < gridExp q) :
    2 ^ 52 ≤ roundEven (q / 2 ^ gridExp q) := by
  have h := roundEven_mono (x := ((2 ^ 52 : Int) : Rat)) (by exact_mod_cast le_div_grid hq h)
  simpa only [roundEven_intCast] using h

theorem roundEven_grid_nonneg (hq : 0 < q) : 0 ≤ roundEven (q / 2 ^ gridExp q) := by
  have h := roundEven_mono (x := ((0 : Int) : Rat))
    (by exact_mod_cast (div_pos hq (zpow_pos two_pos (gridExp q))).le)
  simpa only [roundEven_intCast] using h

@[simp] theorem rounded_zero : rounded 0 = 0 := by
  simp [rounded, roundEven]

theorem rounded_nonneg (hq : 0 ≤ q) : 0 ≤ rounded q := by
  rcases hq.eq_or_lt with rfl | pos
  · exact rounded_zero.ge
  · have mant : (0 : Rat) ≤ roundEven (q / 2 ^ gridExp q) := by
      exact_mod_cast roundEven_grid_nonneg pos
    exact mul_nonneg mant (zpow_pos two_pos _).le

/-- On one scale rounding keeps the order of integers; where scales change, a power of two
lies in between. -/
theorem rounded_mono (hq : 0 ≤ q) (h : q ≤ r) : rounded q ≤ rounded r := by
  rcases hq.eq_or_lt with rfl | pos
  · rw [rounded_zero]
    exact rounded_nonneg h
  have hr : 0 < r := pos.trans_le h
  unfold rounded
  rcases (gridExp_mono pos h).lt_or_eq with less | same
  · have finer : gridExp q + 53 ≤ gridExp r + 52 := by omega
    have low : (2 : Rat) ^ 52 ≤ roundEven (r / 2 ^ gridExp r) := by
      exact_mod_cast le_roundEven_grid hr (lt_of_le_of_lt (le_max_right _ _) less)
    have high : (roundEven (q / 2 ^ gridExp q) : Rat) ≤ 2 ^ 53 := by
      exact_mod_cast roundEven_grid_le pos
    calc (roundEven (q / 2 ^ gridExp q) : Rat) * 2 ^ gridExp q
        ≤ 2 ^ 53 * 2 ^ gridExp q := by gcongr
      _ = 2 ^ (gridExp q + 53) := by
        rw [zpow_add₀ two_ne_zero, mul_comm]
        norm_cast
      _ ≤ 2 ^ (gridExp r + 52) := zpow_le_zpow_right₀ one_le_two finer
      _ = 2 ^ 52 * 2 ^ gridExp r := by
        rw [zpow_add₀ two_ne_zero, mul_comm]
        norm_cast
      _ ≤ roundEven (r / 2 ^ gridExp r) * 2 ^ gridExp r := by gcongr
  · rw [same]
    gcongr
    exact roundEven_mono (by gcongr)

/-- The exponent of a double's canonical form is that of the scale on which its value stands. -/
theorem gridExp_of_fits {mant : Nat} {exp : Int} (h : Fits mant exp) (pos : 0 < mant) :
    gridExp (mant * 2 ^ exp) = exp := by
  obtain ⟨lt, least, -, full⟩ := h
  have lt' : (mant : Rat) < 2 ^ (53 : Int) := by
    exact_mod_cast lt
  have value_pos : (0 : Rat) < mant * 2 ^ exp :=
    mul_pos (by exact_mod_cast pos) (zpow_pos two_pos _)
  have high : Int.log 2 ((mant : Rat) * 2 ^ exp) < 53 + exp := by
    rw [← lt_two_zpow_iff value_pos, zpow_add₀ two_ne_zero]
    gcongr
  unfold gridExp
  rcases full with full | rfl
  · have full' : (2 : Rat) ^ (52 : Int) ≤ mant := by exact_mod_cast full
    have low : 52 + exp ≤ Int.log 2 ((mant : Rat) * 2 ^ exp) := by
      rw [← le_two_zpow_iff value_pos, zpow_add₀ two_ne_zero]
      gcongr
    omega
  · omega

theorem rounded_of_fits {mant : Nat} {exp : Int} (h : Fits mant exp) (pos : 0 < mant) :
    rounded (mant * 2 ^ exp) = mant * 2 ^ exp := by
  have div_eq : (mant : Rat) * 2 ^ exp / 2 ^ exp = (mant : Int) := by
    rw [mul_div_cancel_right₀ _ (zpow_ne_zero _ two_ne_zero), Int.cast_natCast]
  rw [rounded, gridExp_of_fits h pos, div_eq, roundEven_intCast, Int.cast_natCast]

theorem rounded_two_pow {k : Nat} (h : k ≤ 1023) : rounded (2 ^ k) = 2 ^ k := by
  have fits : Fits leastFull ((k : Int) - 52) := by
    unfold Fits leastFull
    omega
  have shifted : ((leastFull : Nat) : Rat) * 2 ^ ((k : Int) - 52) = 2 ^ k := by
    have full : ((leastFull : Nat) : Rat) = 2 ^ (52 : Int) := by norm_num [leastFull]
    rw [full, ← zpow_add₀ two_ne_zero, add_sub_cancel, zpow_natCast]
  rw [← shifted]
  exact rounded_of_fits fits (by decide)

/-- Rounding leaves integers of up to 53 bits alone: their scale is not coarser than theirs. -/
theorem rounded_intCast {n : Int} (nonneg : 0 ≤ n) (le : n ≤ 2 ^ 53) : rounded n = n := by
  rcases nonneg.eq_or_lt with rfl | pos
  · exact_mod_cast rounded_zero
  rcases le.eq_or_lt with rfl | lt
  · exact_mod_cast rounded_two_pow (k := 53) (by norm_num)
  have pos' : (0 : Rat) < n := by exact_mod_cast pos
  have log_lt : Int.log 2 (n : Rat) < 53 := by
    rw [← lt_two_zpow_iff pos']
    exact_mod_cast lt
  obtain ⟨k, grid_eq⟩ : ∃ k : Nat, gridExp n = -k :=
    ⟨(-gridExp n).toNat, by unfold gridExp; omega⟩
  have scaled : (n : Rat) / 2 ^ gridExp n = (n * 2 ^ k : Int) := by
    rw [grid_eq, zpow_neg, div_inv_eq_mul, zpow_natCast]
    push_cast
    rfl
  rw [rounded, scaled, roundEven_intCast, ← scaled, div_mul_cancel₀ _ (zpow_ne_zero _ two_ne_zero)]

theorem le_floor_rounded {n : Int} (nonneg : 0 ≤ n) (fixed : rounded n = n) (le : (n : Rat) ≤ q) :
    n ≤ ⌊rounded q⌋ := by
  rw [Int.le_floor, ← fixed]
  exact rounded_mono (by exact_mod_cast nonneg) le

/-- Rounding takes off a number that is not below one half a step at most. -/
theorem le_rounded_mul (h : 1 ≤ q) : q ≤ rounded q * (1 + 1 / 2 ^ 53) := by
  have pos : 0 < q := one_pos.trans_le h
  have log_nonneg : 0 ≤ Int.log 2 q := by
    rw [← le_two_zpow_iff pos]
    exact_mod_cast h
  have mant : (2 : Rat) ^ 52 ≤ roundEven (q / 2 ^ gridExp q) := by
    exact_mod_cast le_roundEven_grid pos (by unfold gridExp; omega)
  have near := (abs_le.mp (abs_roundEven_sub_le (q / 2 ^ gridExp q))).1
  have step_pos : (0 : Rat) < 2 ^ gridExp q := zpow_pos two_pos _
  calc q = q / 2 ^ gridExp q * 2 ^ gridExp q := (div_mul_cancel₀ q step_pos.ne').symm
    _ ≤ roundEven (q / 2 ^ gridExp q) * (1 + 1 / 2 ^ 53) * 2 ^ gridExp q := by
      gcongr
      linarith
    _ = rounded q * (1 + 1 / 2 ^ 53) := by
      unfold rounded
      ring

/-! ## Nearest doubles -/

def limit : Rat :=
  2 ^ 53 * 2 ^ (971 : Int)

/-- From here on magnitudes are rounded to infinity: half a step past the greatest double. -/
def overflow : Rat :=
  (2 ^ 53 - 1 / 2) * 2 ^ (971 : Int)

theorem limit_eq : limit = 2 ^ (1024 : Int) := by
  rw [limit, show (1024 : Int) = (53 : Nat) + 971 from rfl, zpow_add₀ two_ne_zero, zpow_natCast]

theorem overflow_pos : 0 < overflow :=
  mul_pos (by norm_num) (zpow_pos two_pos _)

theorem overflow_lt_limit : overflow < limit :=
  mul_lt_mul_of_pos_right (by norm_num) (zpow_pos two_pos _)

/-- Half a step is a tie, and the mantissa below it is odd. -/
theorem rounded_overflow : rounded overflow = limit := by
  have low : 1023 ≤ Int.log 2 overflow := by
    rw [← le_two_zpow_iff overflow_pos, show (1023 : Int) = (52 : Nat) + 971 from rfl,
      zpow_add₀ two_ne_zero, zpow_natCast]
    exact mul_le_mul_of_nonneg_right (by norm_num) (zpow_pos two_pos _).le
  have high : Int.log 2 overflow < 1024 := by
    rw [← lt_two_zpow_iff overflow_pos, ← limit_eq]
    exact overflow_lt_limit
  have grid_eq : gridExp overflow = 971 := by
    unfold gridExp
    omega
  have half : overflow / 2 ^ (971 : Int) = ((2 ^ 53 - 1 : Int) : Rat) + 1 / 2 := by
    rw [overflow, mul_div_cancel_right₀ _ (zpow_ne_zero _ two_ne_zero)]
    norm_num
  have floor_eq : ⌊((2 ^ 53 - 1 : Int) : Rat) + 1 / 2⌋ = 2 ^ 53 - 1 := by
    rw [Int.floor_intCast_add]
    norm_num
  have fract_eq : Int.fract (((2 ^ 53 - 1 : Int) : Rat) + 1 / 2) = 1 / 2 := by
    rw [Int.fract_intCast_add]
    norm_num
  rw [rounded, grid_eq, half, roundEven, fract_eq, floor_eq, limit]
  norm_num

/-- Below `overflow` the mantissa on the uppermost scale has no carry. -/
theorem rounded_lt_iff (hq : 0 < q) : rounded q < limit ↔ q < overflow := by
  constructor
  · intro lt
    by_contra ge
    have le := rounded_mono overflow_pos.le (not_lt.mp ge)
    rw [rounded_overflow] at le
    exact absurd lt (not_lt.mpr le)
  · intro lt
    have log_le : Int.log 2 q < 1024 := by
      rw [← lt_two_zpow_iff hq, ← limit_eq]
      exact lt.trans overflow_lt_limit
    have mant_le : (roundEven (q / 2 ^ gridExp q) : Rat) ≤ 2 ^ 53 := by
      exact_mod_cast roundEven_grid_le hq
    rcases (show gridExp q < 971 ∨ gridExp q = 971 by unfold gridExp; omega) with below | top
    · calc rounded q ≤ 2 ^ 53 * 2 ^ gridExp q := by unfold rounded; gcongr
        _ < limit := mul_lt_mul_of_pos_left (zpow_lt_zpow_right₀ one_lt_two below) (by norm_num)
    · have near := abs_le.mp (abs_roundEven_sub_le (q / 2 ^ gridExp q))
      have quotient_lt : q / 2 ^ gridExp q < 2 ^ 53 - 1 / 2 := by
        rw [top, div_lt_iff₀ (zpow_pos two_pos _)]
        exact lt
      rw [rounded, limit, top]
      rw [top] at near quotient_lt
      exact mul_lt_mul_of_pos_right (by linarith) (zpow_pos two_pos _)

theorem two_pow_lt_overflow {k : Nat} (h : k ≤ 1023) : (2 : Rat) ^ k < overflow := by
  rw [← rounded_lt_iff (pow_pos two_pos k), rounded_two_pow h, limit_eq, ← zpow_natCast]
  exact zpow_lt_zpow_right₀ one_lt_two (by omega)

theorem isFinite_pack (negative : Bool) (mant : Nat) (exp : Int) :
    (pack negative mant exp).isFinite = true ↔ Fits mant exp := by
  unfold pack
  split <;> simp [isFinite, *]

theorem toRat?_pack {mant : Nat} {exp : Int} (h : Fits mant exp) (negative : Bool) :
    (pack negative mant exp).toRat? =
      some (if negative then -((mant : Rat) * 2 ^ exp) else mant * 2 ^ exp) := by
  rw [pack, dif_pos h, toRat?, power_eq]

/-- Of canonical forms those of doubles are the ones below the limit. -/
theorem fits_iff {mant : Nat} {exp : Int} (lt : mant < 2 * leastFull) (least : -1074 ≤ exp)
    (full : leastFull ≤ mant ∨ exp = -1074) : Fits mant exp ↔ (mant : Rat) * 2 ^ exp < limit := by
  constructor
  · rintro ⟨-, -, most, -⟩
    have lt' : (mant : Rat) < 2 ^ 53 := by exact_mod_cast lt
    calc (mant : Rat) * 2 ^ exp < 2 ^ 53 * 2 ^ exp := by gcongr
      _ ≤ limit := by unfold limit; gcongr; exact one_le_two
  · intro below
    refine ⟨lt, least, ?_, full⟩
    by_contra beyond
    have full' : (2 : Rat) ^ 52 ≤ mant := by
      have : leastFull ≤ mant := full.resolve_right (by omega)
      exact_mod_cast this
    have above : limit ≤ mant * 2 ^ exp := by
      calc limit = 2 ^ 52 * 2 ^ (972 : Int) := by
            rw [limit, show (972 : Int) = 1 + 971 from rfl, zpow_add₀ two_ne_zero, zpow_one]
            ring
        _ ≤ mant * 2 ^ exp := by
          gcongr
          · exact one_le_two
          · omega
    exact absurd below (not_lt.mpr above)

section
variable {num den : Nat} (hn : 0 < num) (hd : 0 < den)
include hn hd

theorem nearest_eq_pack (negative : Bool) : ∃ mant : Nat,
    (mant : Int) = roundEven (num / den / 2 ^ gridExp (num / den)) ∧
      nearest negative num den =
        if mant = 2 * leastFull then pack negative leastFull (gridExp (num / den) + 1)
        else pack negative mant (gridExp (num / den)) := by
  have grid_eq : max (floorLog2 num den - 52) (-1074) = gridExp (num / den) := by
    rw [floorLog2_eq hn hd, gridExp]
  refine ⟨nearestNat (num * Nat.pow 2 (-gridExp (num / den)).toNat)
    (den * Nat.pow 2 (gridExp (num / den)).toNat), ?_, by rw [nearest, if_neg hn.ne', grid_eq]⟩
  have scale_pos : 0 < den * Nat.pow 2 (gridExp (num / den)).toNat :=
    Nat.mul_pos hd (Nat.two_pow_pos _)
  rw [nearestNat_eq_roundEven _ scale_pos, scaled_div]

theorem pos_div : (0 : Rat) < num / den :=
  div_pos (by exact_mod_cast hn) (by exact_mod_cast hd)

/-- A carry moves the mantissa to the next scale, which keeps its value. -/
theorem nearest_spec (negative : Bool) :
    ((nearest negative num den).isFinite = true ↔ rounded (num / den) < limit) ∧
      ((nearest negative num den).isFinite = true → (nearest negative num den).toRat? =
        some (if negative then -rounded (num / den) else rounded (num / den))) := by
  obtain ⟨mant, mant_eq, nearest_eq⟩ := nearest_eq_pack hn hd negative
  have pos := pos_div hn hd
  have high := roundEven_grid_le pos
  have low := le_roundEven_grid pos
  have least : -1074 ≤ gridExp (num / den) := le_max_right _ _
  have full : leastFull = 2 ^ 52 := by decide
  have value_eq : rounded (num / den) = mant * 2 ^ gridExp (num / den) := by
    rw [rounded, ← mant_eq, Int.cast_natCast]
  rw [nearest_eq, value_eq]
  rw [← mant_eq] at high low
  generalize gridExp (num / den : Rat) = exp at *
  split
  · rename_i carry
    have carried : (mant : Rat) * 2 ^ exp = (leastFull : Nat) * 2 ^ (exp + 1) := by
      rw [carry, zpow_add₀ two_ne_zero, zpow_one]
      push_cast
      ring
    have fits : Fits leastFull (exp + 1) ↔ _ := fits_iff (by omega) (by omega) (.inl le_rfl)
    rw [carried, isFinite_pack]
    exact ⟨fits, fun canonical => toRat?_pack canonical negative⟩
  · rename_i uncarried
    have fits : Fits mant exp ↔ _ := fits_iff (by omega) least (by omega)
    rw [isFinite_pack]
    exact ⟨fits, fun canonical => toRat?_pack canonical negative⟩

end

theorem natAbs_div_den (x : Rat) : (x.num.natAbs / x.den : Rat) = |x| := by
  rw [Rat.abs_def, Rat.divInt_eq_div, Int.cast_natCast, Int.cast_natCast]

section
variable {x : Rat} {negative : Bool}

theorem isFinite_ofRat_iff : (ofRat x negative).isFinite = true ↔ |x| < overflow := by
  unfold ofRat
  split
  · rename_i zero
    rw [Rat.num_eq_zero.mp zero, abs_zero]
    exact ⟨fun _ => overflow_pos, fun _ => rfl⟩
  · rename_i nonzero
    rw [(nearest_spec (Int.natAbs_pos.mpr nonzero) x.den_pos _).1, natAbs_div_den, rounded_lt_iff]
    exact abs_pos.mpr (mt Rat.num_eq_zero.mpr nonzero)

theorem toRat?_ofRat (h : |x| < overflow) :
    (ofRat x negative).toRat? = some (if x < 0 then -rounded |x| else rounded |x|) := by
  have finite : (ofRat x negative).isFinite = true := isFinite_ofRat_iff.mpr h
  unfold ofRat at finite ⊢
  split
  · rename_i zero
    rw [Rat.num_eq_zero.mp zero, abs_zero, rounded_zero]
    simp [Double.zero, toRat?]
  · rename_i nonzero
    rw [if_neg nonzero] at finite
    rw [(nearest_spec (Int.natAbs_pos.mpr nonzero) x.den_pos _).2 finite, natAbs_div_den]
    simp only [decide_eq_true_eq, Rat.num_neg]

theorem exists_toRat?_ofRat (h : |x| < overflow) :
    ∃ q, (ofRat x negative).toRat? = some q ∧ |q| = rounded |x| := by
  refine ⟨_, toRat?_ofRat h, ?_⟩
  have nonneg := rounded_nonneg (abs_nonneg x)
  split
  · rw [abs_neg, abs_of_nonneg nonneg]
  · rw [abs_of_nonneg nonneg]

theorem toRat?_ofRat_of_nonneg (nonneg : 0 ≤ x) (h : x < overflow) :
    (ofRat x negative).toRat? = some (rounded x) := by
  have abs_eq : |x| = x := abs_of_nonneg nonneg
  rw [toRat?_ofRat (abs_eq.symm ▸ h), if_neg (not_lt.mpr nonneg), abs_eq]

end

/-- Rounding leaves the value of a double alone. -/
theorem rounded_of_toRat? {d : Double} (h : d.toRat? = some q) (nonneg : 0 ≤ q) :
    rounded q = q := by
  rcases nonneg.eq_or_lt with rfl | pos
  · exact rounded_zero
  cases d with
  | nan => cases h
  | inf => cases h
  | finite negative mant exp fits =>
    simp only [toRat?, power_eq, Option.some.injEq] at h
    have magnitude : 0 ≤ (mant : Rat) * 2 ^ exp := by positivity
    cases negative with
    | true =>
      simp only [if_true] at h
      linarith
    | false =>
      simp only [Bool.false_eq_true, if_false] at h
      subst h
      refine rounded_of_fits fits (Nat.pos_of_ne_zero ?_)
      rintro rfl
      simp at pos

/-! ## Whole parts -/

/-- An integer of up to 53 bits is a double, whatever its sign. -/
theorem toRat?_ofRat_intCast {n : Int} (le : |n| ≤ 2 ^ 53) (negative : Bool) :
    (ofRat n negative).toRat? = some (n : Rat) := by
  have magnitude : rounded |(n : Rat)| = |(n : Rat)| := by
    exact_mod_cast rounded_intCast (abs_nonneg n) le
  have within : |(n : Rat)| < overflow := by
    refine lt_of_le_of_lt ?_ (two_pow_lt_overflow (k := 53) (by decide))
    exact_mod_cast le
  rw [toRat?_ofRat within, magnitude]
  split
  · next below => rw [abs_of_neg below, neg_neg]
  · next above => rw [abs_of_nonneg (not_lt.mp above)]

theorem toRat?_ofInt {i : Int} (le : |i| ≤ 2 ^ 53) : (ofInt i).toRat? = some (i : Rat) :=
  toRat?_ofRat_intCast le false

/-- On scales of at least one all values are integers. -/
theorem exists_int_of_gridExp_nonneg (scale : 0 ≤ gridExp q) : ∃ n : Int, rounded q = n := by
  obtain ⟨k, grid_eq⟩ := Int.eq_ofNat_of_zero_le scale
  refine ⟨roundEven (q / 2 ^ gridExp q) * 2 ^ k, ?_⟩
  unfold rounded
  rw [grid_eq, Int.cast_mul, Int.cast_pow, Int.cast_ofNat, zpow_natCast]

theorem exists_mant_of_fraction (pos : 0 < q) (fixed : rounded q = q)
    (fraction : ∀ n : Int, q ≠ n) : ∃ k : Nat, ∃ mant : Int, q * 2 ^ k = mant ∧ mant ≤ 2 ^ 53 := by
  have scale : gridExp q < 0 := by
    by_contra coarse
    obtain ⟨n, value⟩ := exists_int_of_gridExp_nonneg (not_lt.mp coarse)
    exact fraction n (fixed.symm.trans value)
  obtain ⟨k, grid_eq⟩ : ∃ k : Nat, gridExp q = -k := ⟨(-gridExp q).toNat, by omega⟩
  refine ⟨k, roundEven (q / 2 ^ gridExp q), ?_, roundEven_grid_le pos⟩
  have value : (roundEven (q / 2 ^ gridExp q) : Rat) * (2 ^ k)⁻¹ = q := by
    rw [← zpow_natCast, ← zpow_neg, ← grid_eq]
    exact fixed
  calc q * 2 ^ k = roundEven (q / 2 ^ gridExp q) * (2 ^ k)⁻¹ * 2 ^ k := by rw [value]
    _ = roundEven (q / 2 ^ gridExp q) := inv_mul_cancel_right₀ (pow_ne_zero k two_ne_zero) _

/-- A double that is no integer is above an integer by a step at least, which is more than
rounding can take off a factor. -/
theorem intCast_mul_le_of_fraction (fixed : rounded q = q) (fraction : ∀ n : Int, q ≠ n) {n : Int}
    (nonneg : 0 ≤ n) (le : (n : Rat) ≤ q) : (n : Rat) * (1 + 1 / 2 ^ 53) ≤ q := by
  have nonneg' : (0 : Rat) ≤ n := by exact_mod_cast nonneg
  have lt : (n : Rat) < q := le.lt_of_ne (fraction n).symm
  obtain ⟨k, mant, value, mant_le⟩ := exists_mant_of_fraction (nonneg'.trans_lt lt) fixed fraction
  have scale_pos : (0 : Rat) < 2 ^ k := pow_pos two_pos k
  have step : n * 2 ^ k + 1 ≤ mant := by
    have below : (n : Rat) * 2 ^ k < mant := value ▸ mul_lt_mul_of_pos_right lt scale_pos
    exact_mod_cast below
  have step' : (n : Rat) * 2 ^ k + 1 ≤ q * 2 ^ k := by
    rw [value]
    exact_mod_cast step
  have short : (n : Rat) * 2 ^ k / 2 ^ 53 ≤ 1 := by
    rw [div_le_one₀ (by norm_num)]
    exact_mod_cast (by omega : n * 2 ^ k ≤ 2 ^ 53)
  refine le_of_mul_le_mul_right ?_ scale_pos
  calc (n : Rat) * (1 + 1 / 2 ^ 53) * 2 ^ k = n * 2 ^ k + n * 2 ^ k / 2 ^ 53 := by ring
    _ ≤ q * 2 ^ k := by linarith

/-- On the scales of magnitudes from `2 ^ 53` on all values are integers. -/
theorem exists_int_of_le_rounded (pos : 0 < q) (le : 2 ^ 53 ≤ rounded q) :
    ∃ n : Int, rounded q = n := by
  have mant_le : (roundEven (q / 2 ^ gridExp q) : Rat) ≤ 2 ^ 53 := by
    exact_mod_cast roundEven_grid_le pos
  apply exists_int_of_gridExp_nonneg
  by_contra neg
  have below : (2 : Rat) ^ gridExp q < 1 := zpow_lt_one_of_neg₀ one_lt_two (not_le.mp neg)
  have less : rounded q < 2 ^ 53 * 1 := by
    unfold rounded
    exact mul_lt_mul' mant_le below (zpow_pos two_pos _).le (by norm_num)
  linarith

theorem rounded_rounded (nonneg : 0 ≤ q) (within : q < overflow) :
    rounded (rounded q) = rounded q := by
  have value : (ofRat q false).toRat? = some (rounded q) := toRat?_ofRat_of_nonneg nonneg within
  exact rounded_of_toRat? value (rounded_nonneg nonneg)

/-- The whole part of a double is a double. -/
theorem rounded_floor_rounded (nonneg : 0 ≤ q) (within : q < overflow) :
    rounded (⌊rounded q⌋ : Int) = (⌊rounded q⌋ : Int) := by
  have floor_nonneg : 0 ≤ ⌊rounded q⌋ := Int.floor_nonneg.mpr (rounded_nonneg nonneg)
  by_cases small : rounded q ≤ 2 ^ 53
  · refine rounded_intCast floor_nonneg ?_
    exact_mod_cast (Int.floor_le (rounded q)).trans small
  · have pos : 0 < q := by
      apply nonneg.lt_of_ne
      rintro rfl
      exact small (by rw [rounded_zero]; norm_num)
    obtain ⟨n, value⟩ := exists_int_of_le_rounded pos (not_le.mp small).le
    have fixed := rounded_rounded nonneg within
    rw [value] at fixed ⊢
    rw [Int.floor_intCast]
    exact fixed

end HttpRetry.Double

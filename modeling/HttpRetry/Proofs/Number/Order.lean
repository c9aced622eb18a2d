import HttpRetry.Number.Basic
import Mathlib.Algebra.Order.Field.Rat
import Mathlib.Data.Rat.Cast.Order

/-!
# The order of numbers

Numbers that have an exact value are ordered as their values are.
-/

namespace HttpRetry.Number

theorem toRat?_int (i : Int) : (int i).toRat? = some (i : Rat) := rfl

theorem toRat?_double (d : Double) : (double d).toRat? = d.toRat? := rfl

theorem toRat?_ratio (q : Rat) : (ratio q).toRat? = some q := rfl

theorem compare?_of_toRat? {x y : Number} {a b : Rat} (hx : x.toRat? = some a)
    (hy : y.toRat? = some b) : x.compare? y = some (compareOfLessAndEq a b) := by
  unfold compare?
  split
  · cases hx
  · cases hy
  · cases hx
  · cases hx
  · cases hy
  · rw [hx, hy]
    rfl

section
variable {x y : Number} {a b : Rat} (hx : x.toRat? = some a) (hy : y.toRat? = some b)
include hx hy

theorem lt_iff : x.lt y = true ↔ a < b := by
  simp only [lt, compare?_of_toRat? hx hy, decide_eq_true_eq, Option.some.injEq]
  exact compareOfLessAndEq_eq_lt

theorem same_iff : x.same y = true ↔ a = b := by
  simp only [same, compare?_of_toRat? hx hy, decide_eq_true_eq, Option.some.injEq]
  unfold compareOfLessAndEq
  split
  · rename_i h; simp [h.ne]
  · split <;> simp [*]

theorem le_iff : x.le y = true ↔ a ≤ b := by
  have h : x.le y = true ↔ x.lt y = true ∨ x.same y = true := by simp [le, same]
  rw [h, lt_iff hx hy, same_iff hx hy]
  exact le_iff_lt_or_eq.symm

theorem least_of_le (h : a ≤ b) : x.least y = x := by
  unfold least
  rw [if_neg (mt (lt_iff hy hx).mp (not_lt.mpr h))]

theorem least_of_lt (h : b < a) : x.least y = y := by
  unfold least
  rw [if_pos ((lt_iff hy hx).mpr h)]

theorem toRat?_least : (x.least y).toRat? = some (min a b) := by
  rcases le_or_gt a b with le | lt
  · rw [least_of_le hx hy le, hx, min_eq_left le]
  · rw [least_of_lt hx hy lt, hy, min_eq_right lt.le]

end

theorem same_int_iff {x : Number} {i : Int} :
    x.same (int i) = true ↔ x.toRat? = some (i : Rat) := by
  cases value : x.toRat? with
  | some a => rw [same_iff value (toRat?_int i), Option.some.injEq]
  | none =>
    cases x with
    | int => cases value
    | ratio => cases value
    | double d =>
      cases d with
      | nan => simp [same, compare?]
      | inf negative => cases negative <;> simp [same, compare?]
      | finite => cases value

@[simp] theorem lt_int (i j : Int) : (int i).lt (int j) = decide (i < j) := by
  rw [Bool.eq_iff_iff, lt_iff (toRat?_int i) (toRat?_int j), Int.cast_lt, decide_eq_true_eq]

@[simp] theorem le_int (i j : Int) : (int i).le (int j) = decide (i ≤ j) := by
  rw [Bool.eq_iff_iff, le_iff (toRat?_int i) (toRat?_int j), Int.cast_le, decide_eq_true_eq]

theorem least_int (i j : Int) : (int i).least (int j) = int (min i j) := by
  rcases le_or_gt i j with le | lt
  · rw [least_of_le (toRat?_int i) (toRat?_int j) (by exact_mod_cast le), min_eq_left le]
  · rw [least_of_lt (toRat?_int i) (toRat?_int j) (by exact_mod_cast lt), min_eq_right lt.le]

end HttpRetry.Number

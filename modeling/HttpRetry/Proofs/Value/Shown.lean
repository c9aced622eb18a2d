import HttpRetry.Fault.Basic
import Mathlib.Order.Basic

/-!
# Values that are nested too deeply

A number may have too many digits to be shown, but it is not nested. Lists are, and are shown only
to a depth.
-/

namespace HttpRetry

theorem showInteger_ne_tooDeep (i : Int) : showInteger i ≠ .error .tooDeep := by
  unfold showInteger
  split <;> simp

theorem Number.shown_ne_tooDeep (n : Number) : n.shown ≠ .error .tooDeep := by
  cases n with
  | int i => exact showInteger_ne_tooDeep i
  | ratio q =>
    have num := showInteger_ne_tooDeep q.num
    have den := showInteger_ne_tooDeep q.den
    cases shown_num : showInteger q.num with
    | error problem =>
      rw [shown_num] at num
      simpa [Number.shown, shown_num, bind, Except.bind] using num
    | ok =>
      cases shown_den : showInteger q.den with
      | error problem =>
        rw [shown_den] at den
        simpa [Number.shown, shown_num, shown_den, bind, Except.bind] using den
      | ok => simp [Number.shown, shown_num, shown_den, bind, Except.bind, pure, Except.pure]
  | double => simp [Number.shown]

namespace Value

/-- So many lists around an empty one. -/
def nested : Nat → Value
  | 0 => list []
  | n + 1 => list [nested n]

theorem shownWithin_nested (n : Nat) : (nested n).shownWithin n = .error .tooDeep := by
  induction n with
  | zero => rfl
  | succ n ih =>
    simp only [nested, shownWithin, List.mapM_cons, ih]
    rfl

end Value

end HttpRetry

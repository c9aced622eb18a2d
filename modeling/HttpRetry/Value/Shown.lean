import HttpRetry.Text.Integer
import HttpRetry.Text.Quoted
import HttpRetry.Value.Basic

/-!
# Values as messages show them

Texts are quoted, collections are bracketed with their items separated by a
comma and a blank. Showing fails if some part of the value cannot be shown: an
object that fails by itself, an integer of too many digits, or a value inside more
others than are followed.
-/

namespace HttpRetry

inductive Unshowable where
  /-- An object in the value fails with this message. -/
  | failing (message : String)
  | tooManyDigits
  | tooDeep
deriving DecidableEq

def Unshowable.message : Unshowable → String
  | failing message => message
  | tooManyDigits =>
    s!"Exceeds the limit ({maxNumeralDigits} digits) for integer string conversion; " ++
      "use sys.set_int_max_str_digits() to increase the limit"
  | tooDeep => "maximum recursion depth exceeded while getting the repr of an object"

def showInteger (i : Int) : Except Unshowable String :=
  if (Nat.toDigits 10 i.natAbs).length ≤ maxNumeralDigits then .ok (toString i)
  else .error .tooManyDigits

def Number.shown : Number → Except Unshowable String
  | int i => showInteger i
  | ratio q => do return s!"Fraction({← showInteger q.num}, {← showInteger q.den})"
  | double d => .ok d.text

namespace Value

/-- How many values may stand inside one another, the innermost counted. -/
def maxNesting : Nat := 984

def shownWithin : (nesting : Nat) → Value → Except Unshowable String
  | 0, _ => .error .tooDeep
  | nesting + 1, v =>
    match v with
    | null => .ok "None"
    | bool b => .ok (if b then "True" else "False")
    | number n => n.shown
    | text s => .ok (quoted s)
    | list items => do
      let parts ← items.mapM (shownWithin nesting)
      return "[" ++ ", ".intercalate parts ++ "]"
    | map entries => do
      let parts ← entries.mapM fun (key, value) => do
        return (← shownWithin nesting key) ++ ": " ++ (← shownWithin nesting value)
      return "\x7b" ++ ", ".intercalate parts ++ "\x7d"
    | sleeper => .ok "<sleeper>"
    | unprintable message => .error (.failing message)

def shown (v : Value) : Except Unshowable String :=
  v.shownWithin maxNesting

/-- The value as plain text: a text is itself, a fraction stands without brackets, and
anything else is as shown. -/
def plain : Value → Except Unshowable String
  | text s => .ok s
  | number (.ratio q) =>
    if q.den = 1 then showInteger q.num
    else do return (← showInteger q.num) ++ "/" ++ (← showInteger q.den)
  | v => v.shown

end Value

end HttpRetry

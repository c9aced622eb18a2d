import HttpRetry.Text.Blank
import HttpRetry.Text.Digit
import HttpRetry.Number.Decimal

/-!
# Integer numerals

A numeral has an optional sign and decimal digits of any script, with single
underscores between digits, at most 4300 digits, and blanks around it.
-/

namespace HttpRetry

/-- The digits of a numeral without its sign. An underscore needs a digit on
both sides. -/
def numeralDigits? : List Char → Option (List Nat)
  | [] => none
  | [c] => (digit? c).map ([·])
  | c :: '_' :: rest => do return (← digit? c) :: (← numeralDigits? rest)
  | c :: rest => do return (← digit? c) :: (← numeralDigits? rest)

def maxNumeralDigits : Nat := 4300

def readNatural? (cs : List Char) : Option Nat := do
  let digits ← numeralDigits? cs
  if digits.length ≤ maxNumeralDigits then some (digitsValue digits) else none

def readSigned? : List Char → Option Int
  | '-' :: cs => (readNatural? cs).map fun n => -(n : Int)
  | '+' :: cs => (readNatural? cs).map fun n => (n : Int)
  | cs => (readNatural? cs).map fun n => (n : Int)

def readInteger? (cs : List Char) : Option Int :=
  readSigned? (trimBy isPlainBlank cs)

end HttpRetry

import HttpRetry.Number.Basic

/-!
# Clocks

A clock counts seconds as a double or milliseconds as an integer. It is read in
whole milliseconds.
-/

namespace HttpRetry

inductive Clock where
  | seconds (now : Double)
  | millis (now : Int)

namespace Clock

def read : Clock → Except RangeError Int
  | seconds now => (Number.double (now.mul (Double.ofInt 1000))).truncate
  | millis now => .ok now

def advance (amount : Number) : Clock → Except RangeError Clock
  | seconds now => do return seconds (now.add (← amount.toDouble))
  | millis now => do return millis (now + (← amount.truncate))

end Clock

end HttpRetry

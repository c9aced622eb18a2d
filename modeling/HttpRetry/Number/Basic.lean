import HttpRetry.Number.Decimal

/-!
# Numbers

A number is an integer of any size, an exact fraction or a double. The kinds compare
by exact value. An operation on a double and a number of another kind first rounds
the other one to a double, which fails beyond the range of doubles; integers and
fractions are computed with exactly.
-/

namespace HttpRetry

inductive Number where
  | int (value : Int)
  | ratio (value : Rat)
  | double (value : Double)
deriving DecidableEq, Inhabited

inductive RangeError where
  | integerBeyondDouble
  | fractionBeyondDouble
  | infinityToInteger
  | nanToInteger
deriving DecidableEq

namespace Number

instance : Coe Int Number := ⟨int⟩
instance (n : Nat) : OfNat Number n := ⟨int n⟩

/-! ## Order -/

def toRat? : Number → Option Rat
  | int i => some i
  | ratio q => some q
  | double d => d.toRat?

/-- Orders two numbers by exact value; a NaN is comparable with nothing. -/
def compare? : Number → Number → Option Ordering
  | double .nan, _ | _, double .nan => none
  | double (.inf a), double (.inf b) =>
    some (if a = b then .eq else if a then .lt else .gt)
  | double (.inf a), _ => some (if a then .lt else .gt)
  | _, double (.inf b) => some (if b then .gt else .lt)
  | x, y => some (compareOfLessAndEq (x.toRat?.getD 0) (y.toRat?.getD 0))

def lt (x y : Number) : Bool :=
  x.compare? y = some .lt

def le (x y : Number) : Bool :=
  x.lt y || x.compare? y = some .eq

def same (x y : Number) : Bool :=
  x.compare? y = some .eq

/-- The smaller of two numbers, the first on a tie. -/
def least (x y : Number) : Number :=
  if y.lt x then y else x

/-! ## Arithmetic -/

def nearestDouble (beyond : RangeError) (q : Rat) : Except RangeError Double :=
  match Double.ofRat q false with
  | .finite negative mant exp fits => .ok (.finite negative mant exp fits)
  | _ => .error beyond

def toDouble : Number → Except RangeError Double
  | int i => nearestDouble .integerBeyondDouble i
  | ratio q => nearestDouble .fractionBeyondDouble q
  | double d => .ok d

def isFinite (x : Number) : Bool :=
  match x.toDouble with
  | .ok d => d.isFinite
  | .error _ => false

/-- The value of a number that is computed with exactly. -/
def exactValue? : Number → Option Rat
  | int i => some i
  | ratio q => some q
  | double _ => none

def mul : Number → Number → Except RangeError Number
  | int a, int b => .ok (int (a * b))
  | x, y =>
    match x.exactValue?, y.exactValue? with
    | some a, some b => .ok (ratio (a * b))
    | _, _ => do return double ((← x.toDouble).mul (← y.toDouble))

def pred : Number → Number
  | int a => int (a - 1)
  | ratio q => ratio (q - 1)
  | double d => double (d.add (Double.ofInt (-1)))

def truncate : Number → Except RangeError Int
  | int i => .ok i
  | ratio q => .ok (q.num.tdiv q.den)
  | double .nan => .error .nanToInteger
  | double (.inf _) => .error .infinityToInteger
  | double d => .ok (d.truncate?.getD 0)

def millisToSeconds (x : Number) : Except RangeError Double := do
  return (← x.toDouble).divNat 1000

end Number

namespace RangeError

def message : RangeError → String
  | integerBeyondDouble => "int too large to convert to float"
  | fractionBeyondDouble => "integer division result too large for a float"
  | infinityToInteger => "cannot convert float infinity to integer"
  | nanToInteger => "cannot convert float NaN to integer"

end RangeError

end HttpRetry

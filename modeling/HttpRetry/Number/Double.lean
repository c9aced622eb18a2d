/-!
# Binary64 numbers

A finite double is a mantissa and an exponent in canonical form, so equal
numbers of one sign are equal values and every statement about rounding is a
statement about natural numbers. Arithmetic is exact on rationals and rounds
once, to the nearest double, a tie to the even mantissa.
-/

namespace HttpRetry

/-- The least mantissa of full precision, `2 ^ 52`. -/
def Double.leastFull : Nat := 0x10000000000000

/-- The canonical form of a magnitude `mant * 2 ^ exp`: 53 significant bits, or
fewer only at the least exponent. -/
def Double.Fits (mant : Nat) (exp : Int) : Prop :=
  mant < 2 * leastFull ∧ -1074 ≤ exp ∧ exp ≤ 971 ∧ (leastFull ≤ mant ∨ exp = -1074)

instance (mant : Nat) (exp : Int) : Decidable (Double.Fits mant exp) :=
  inferInstanceAs (Decidable (_ ∧ _))

inductive Double where
  | nan
  | inf (negative : Bool)
  | finite (negative : Bool) (mant : Nat) (exp : Int) (fits : Double.Fits mant exp)
deriving DecidableEq

namespace Double

/-! ## Values -/

def power (exp : Int) : Rat :=
  mkRat (Nat.pow 2 exp.toNat) (Nat.pow 2 (-exp).toNat)

def toRat? : Double → Option Rat
  | finite negative mant exp _ =>
    let magnitude := (mant : Rat) * power exp
    some (if negative then -magnitude else magnitude)
  | _ => none

def isFinite : Double → Bool
  | finite .. => true
  | _ => false

def isNegative : Double → Bool
  | nan => false
  | inf negative => negative
  | finite negative .. => negative

def zero (negative : Bool) : Double :=
  finite negative 0 (-1074) (by simp [Fits, leastFull])

instance : Inhabited Double := ⟨zero false⟩

def neg : Double → Double
  | nan => nan
  | inf negative => inf !negative
  | finite negative mant exp fits => finite (!negative) mant exp fits

/-! ## Rounding -/

/-- `num / den` to the nearest integer, a half to the even neighbour. -/
def nearestNat (num den : Nat) : Nat :=
  let quotient := num / den
  let twice := 2 * (num % den)
  if twice < den ∨ (twice = den ∧ quotient % 2 = 0) then quotient else quotient + 1

def floorLog2 (num den : Nat) : Int :=
  let k : Int := (Nat.log2 num : Int) - (Nat.log2 den : Int)
  if num * Nat.pow 2 (-k).toNat < den * Nat.pow 2 k.toNat then k - 1 else k

def pack (negative : Bool) (mant : Nat) (exp : Int) : Double :=
  if h : Fits mant exp then finite negative mant exp h else inf negative

def nearest (negative : Bool) (num den : Nat) : Double :=
  if num = 0 then zero negative
  else
    let exp := max (floorLog2 num den - 52) (-1074)
    let mant := nearestNat (num * Nat.pow 2 (-exp).toNat) (den * Nat.pow 2 exp.toNat)
    if mant = 2 * leastFull then pack negative leastFull (exp + 1) else pack negative mant exp

/-- The double nearest to a rational; `negative` is the sign that a zero gets. -/
def ofRat (x : Rat) (negative : Bool) : Double :=
  if x.num = 0 then zero negative else nearest (x.num < 0) x.num.natAbs x.den

def ofInt (i : Int) : Double :=
  ofRat i false

/-! ## Arithmetic -/

def mul (x y : Double) : Double :=
  let negative := x.isNegative != y.isNegative
  match x, y with
  | nan, _ | _, nan => nan
  | inf _, finite _ mant _ _ | finite _ mant _ _, inf _ => if mant = 0 then nan else inf negative
  | inf _, inf _ => inf negative
  | finite .., finite .. => ofRat (x.toRat?.getD 0 * y.toRat?.getD 0) negative

def add (x y : Double) : Double :=
  match x, y with
  | nan, _ | _, nan => nan
  | inf a, inf b => if a = b then inf a else nan
  | inf a, finite .. | finite .., inf a => inf a
  | finite .., finite .. =>
    ofRat (x.toRat?.getD 0 + y.toRat?.getD 0) (x.isNegative && y.isNegative)

def divNat (x : Double) (n : Nat) : Double :=
  match x with
  | finite negative .. => ofRat (x.toRat?.getD 0 / n) negative
  | _ => x

def truncate? (x : Double) : Option Int :=
  x.toRat?.map fun r => Int.tdiv r.num r.den

end Double

end HttpRetry

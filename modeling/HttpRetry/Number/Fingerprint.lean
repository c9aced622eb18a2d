import HttpRetry.Number.Basic

/-!
# Fingerprints of numbers

A number is reduced modulo the prime 2⁶¹ - 1, so that numbers of one value agree whatever
their kinds. Where the prime divides a denominator a number counts as infinite.
-/

namespace HttpRetry

namespace Number

def fingerprintPrime : Nat := 0x1fffffffffffffff

/-- `mant * 2 ^ exp` modulo the prime, of which 2 ^ 61 leaves 1. -/
def reduce (mant : Nat) (exp : Int) : Nat :=
  mant % fingerprintPrime * Nat.pow 2 (exp % 61).toNat % fingerprintPrime

/-- The power of a residue to the exponent `2 ^ bits - 1`. -/
def powerOfOnes (residue : Nat) : (bits : Nat) → Nat
  | 0 => 1
  | bits + 1 => Nat.pow (powerOfOnes residue bits) 2 * residue % fingerprintPrime

/-- The inverse of a residue, its power to the exponent `2 ^ 61 - 3`. -/
def inverse (residue : Nat) : Nat :=
  Nat.pow (powerOfOnes residue 59) 4 * residue % fingerprintPrime

def infiniteResidue : Nat := 314159

def reduceRatio (num den : Nat) : Nat :=
  if den % fingerprintPrime = 0 then infiniteResidue
  else num % fingerprintPrime * inverse (den % fingerprintPrime) % fingerprintPrime

/-- The residue with the number's sign; -1 is not used. -/
def fingerprint (n : Number) : Int :=
  let signed (negative : Bool) (residue : Nat) : Int := if negative then -residue else residue
  let residue : Int := match n with
    | int i => signed (i < 0) (reduce i.natAbs 0)
    | ratio q => signed (q.num < 0) (reduceRatio q.num.natAbs q.den)
    | double (.finite negative mant exp _) => signed negative (reduce mant exp)
    | double (.inf negative) => signed negative infiniteResidue
    | double .nan => 0
  if residue = -1 then -2 else residue

end Number

end HttpRetry

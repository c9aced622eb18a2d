import HttpRetry.Number.Double

/-!
# Decimal texts of doubles

A double is written with the fewest significant digits that read back as the
same double, the nearest such decimal where there is a choice, and read by
rounding the exact decimal once.
-/

namespace HttpRetry

def digitsValue (digits : List Nat) : Nat :=
  digits.foldl (fun value digit => 10 * value + digit) 0

def asciiDigit? (c : Char) : Option Nat :=
  if '0' ≤ c ∧ c ≤ '9' then some (c.toNat - '0'.toNat) else none

def isAsciiDigit (c : Char) : Bool :=
  (asciiDigit? c).isSome

def asciiValue (cs : List Char) : Nat :=
  digitsValue (cs.filterMap asciiDigit?)

namespace Double

/-! ## Reading -/

/-- The double nearest to `digits * 10 ^ exp`. An exponent far outside the range
of doubles is settled without forming the power. -/
def ofDecimal (negative : Bool) (digits : Nat) (exp : Int) : Double :=
  let magnitude : Int := exp + (Nat.log2 digits / 3 : Nat)
  if digits = 0 ∨ magnitude < -400 - (Nat.log2 digits : Int) then zero negative
  else if exp > 400 then inf negative
  else nearest negative (digits * Nat.pow 10 exp.toNat) (Nat.pow 10 (-exp).toNat)

def readExponent? : List Char → Option Int
  | [] => some 0
  | e :: cs =>
    if e ≠ 'e' ∧ e ≠ 'E' then none
    else
      let (negative, ds) := match cs with
        | '-' :: ds => (true, ds)
        | '+' :: ds => (false, ds)
        | ds => (false, ds)
      if ds.isEmpty ∨ !ds.all isAsciiDigit then none
      else some (if negative then -(asciiValue ds : Int) else asciiValue ds)

def readMagnitude? (negative : Bool) (cs : List Char) : Option Double :=
  let (whole, rest) := cs.span isAsciiDigit
  let (part, rest) := match rest with
    | '.' :: after => after.span isAsciiDigit
    | _ => ([], rest)
  if whole.isEmpty ∧ part.isEmpty then none
  else
    (readExponent? rest).map fun exp =>
      ofDecimal negative (asciiValue (whole ++ part)) (exp - part.length)

/-- Reads a decimal, an infinity or a NaN, with an optional sign. Letters are
ASCII of either case and nothing may surround the text. -/
def ofChars? (cs : List Char) : Option Double :=
  let (negative, body) := match cs with
    | '-' :: body => (true, body)
    | '+' :: body => (false, body)
    | _ => (false, cs)
  match String.ofList (body.map Char.toLower) with
  | "inf" | "infinity" => some (inf negative)
  | "nan" => some nan
  | _ => readMagnitude? negative body

/-! ## Writing -/

/-- The greatest `k` with `10 ^ k ≤ num / den`, for positive `num` and `den`. -/
def floorLog10 (num den : Nat) : Int :=
  let guess := floorLog2 num den * 30103 / 100000 + 1
  let reaches (k : Int) : Bool := den * Nat.pow 10 k.toNat ≤ num * Nat.pow 10 (-k).toNat
  if reaches guess then guess else if reaches (guess - 1) then guess - 1 else guess - 2

/-- A decimal with the given number of digits that reads back as the double
nearest to `num / den`: the value's neighbour below on that grid or the one
above, whichever reads back and is nearer. -/
def decimalOf? (num den : Nat) (digits : Nat) : Option (Nat × Int) :=
  let exp := floorLog10 num den + 1 - digits
  let num' := num * Nat.pow 10 (-exp).toNat
  let den' := den * Nat.pow 10 exp.toNat
  let below := num' / den'
  let readsBack (n : Nat) : Bool := ofDecimal false n exp = nearest false num den
  let twice := 2 * (num' % den')
  let belowNearer : Bool := twice < den' ∨ (twice = den' ∧ below % 2 = 0)
  match readsBack below, readsBack (below + 1) with
  | true, true => some (if belowNearer then below else below + 1, exp)
  | true, false => some (below, exp)
  | false, true => some (below + 1, exp)
  | false, false => none

/-- Seventeen digits always suffice. -/
def shortest (num den : Nat) : Nat × Int :=
  ((List.range 17).findSome? fun n => decimalOf? num den (n + 1)).getD (0, 0)

def stripTrailingZeros (cs : List Char) : List Char :=
  (cs.reverse.dropWhile (· = '0')).reverse

/-- Digits with the point after the first `point` of them: positional from
`10 ^ -4` up to below `10 ^ 16`, otherwise with an exponent of at least two
digits. A whole positional number ends in `.0`. -/
def layOut (digits : List Char) (point : Int) : List Char :=
  if -4 < point ∧ point ≤ 16 then
    if point ≤ 0 then
      '0' :: '.' :: List.replicate (-point).toNat '0' ++ digits
    else
      let whole := digits.take point.toNat
      let part := digits.drop point.toNat
      whole ++ List.replicate (point.toNat - whole.length) '0' ++
        '.' :: (if part.isEmpty then ['0'] else part)
  else
    let exp := point - 1
    let size := exp.natAbs.repr.toList
    digits.take 1 ++ (if digits.length ≤ 1 then [] else '.' :: digits.drop 1) ++
      'e' :: (if exp < 0 then '-' else '+') :: List.replicate (2 - size.length) '0' ++ size

def magnitudeText (num den : Nat) : List Char :=
  let (n, exp) := shortest num den
  let digits := n.repr.toList
  layOut (stripTrailingZeros digits) (exp + digits.length)

def text (x : Double) : String :=
  match x with
  | nan => "nan"
  | inf negative => if negative then "-inf" else "inf"
  | finite negative mant exp _ =>
    let magnitude :=
      if mant = 0 then "0.0"
      else String.ofList (magnitudeText (mant * Nat.pow 2 exp.toNat) (Nat.pow 2 (-exp).toNat))
    if negative then "-" ++ magnitude else magnitude

end Double

end HttpRetry

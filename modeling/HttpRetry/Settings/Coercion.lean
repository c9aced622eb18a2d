import HttpRetry.Fault.Basic
import HttpRetry.Log.Level
import HttpRetry.Text.Blank

/-!
# Reading settings leniently

Each type of setting has a reader of loosely typed values: it takes the values of
other types that stand for one of its own, and otherwise says what is wrong.
-/

namespace HttpRetry.Coercion

/-! ## Integers -/

def maxIntegerDigits : Nat := 4300

/-- An integer in plain form: a minus or no sign, and digits of which the first is
no zero unless it is the only one. The number of digits is limited. -/
def readPlainInteger (cs : List Char) : Except FieldDefect Int :=
  let (negative, digits) := match cs with
    | '-' :: digits => (true, digits)
    | digits => (false, digits)
  let (run, rest) := digits.span isAsciiDigit
  if run.isEmpty || (run.head? = some '0' && run.length ≠ 1) then .error .intParsing
  else if maxIntegerDigits < run.length then .error .intParsingSize
  else if !rest.isEmpty then .error .intParsing
  else .ok (if negative then -(asciiValue run : Int) else asciiValue run)

/-- Drops zeros before the first other digit or a minus, and underscores among them; one
stays where nothing or a point follows. -/
def dropLeadingZeros? (cs : List Char) : Option (List Char) :=
  match cs with
  | '0' :: _ =>
    let (zeros, rest) := cs.span fun c => c = '0' || c = '_'
    match rest with
    | [] => some (zeros.drop (zeros.length - 1))
    | '.' :: _ => some (zeros.drop (zeros.length - 1) ++ rest)
    | c :: _ => if isAsciiDigit c || c = '-' then some rest else none
  | c :: _ => if isAsciiDigit c then some cs else none
  | [] => none

def dropZeroFraction (cs : List Char) : List Char :=
  match cs.span (· ≠ '.') with
  | (whole, '.' :: fraction) =>
    if !fraction.isEmpty && fraction.all (· = '0') then whole else cs
  | _ => cs

/-- Without its underscores, if they stand one by one and not at an end. -/
def dropUnderscores? (cs : List Char) : Option (List Char) :=
  let groups := cs.splitOn '_'
  if groups.length ≤ 1 || groups.any (·.isEmpty) then none else some groups.flatten

def tidyDigits? (cs : List Char) : Option (List Char) :=
  (dropLeadingZeros? cs).map fun digits =>
    let whole := dropZeroFraction digits
    (dropUnderscores? whole).getD whole

def tidied? (cs : List Char) : Option (List Char) :=
  match trimBy isPlainBlank cs with
  | '-' :: digits => (tidyDigits? digits).map ('-' :: ·)
  | '+' :: digits => tidyDigits? digits
  | digits => tidyDigits? digits

/-- A text is an integer as it stands or tidied. Only as it stands it can have too
many digits; tidied it is then no integer. -/
def integerOfText (s : String) : Except FieldDefect Int :=
  match readPlainInteger s.toList with
  | .error .intParsing =>
    match (tidied? s.toList).map readPlainInteger with
    | some (.ok i) => .ok i
    | _ => .error .intParsing
  | result => result

/-- A double as an integer: it has to be finite, whole and of 64 bits. -/
def integerOfDouble (d : Double) : Except FieldDefect Int :=
  match d.toRat?, d.truncate? with
  | some r, some i =>
    if r.den ≠ 1 then .error .intFromFloat
    else if i.natAbs < 0x8000000000000000 then .ok i
    else .error .intParsingSize
  | _, _ => .error .finiteNumber

def ofText {α : Type} (read : String → Except FieldDefect α) (s : String) : Except FieldDefect α :=
  if CodePoint.hasHalf s then .error .stringUnicode else read s

/-- A fraction counts as the double nearest to it. -/
def integer : Value → Except FieldDefect Int
  | .number (.int i) => .ok i
  | .bool b => .ok (if b then 1 else 0)
  | .number n =>
    match n.toDouble with
    | .ok d => integerOfDouble d
    | .error _ => .error .intType
  | .text s => ofText integerOfText s
  | _ => .error .intType

/-! ## Truth values -/

def trueWords : List String := ["1", "on", "t", "true", "y", "yes"]
def falseWords : List String := ["0", "off", "f", "false", "n", "no"]

def truthOfText (s : String) : Except FieldDefect Bool :=
  let word := String.ofList (s.toList.map Char.toLower)
  if trueWords.contains word then .ok true
  else if falseWords.contains word then .ok false
  else .error .boolParsing

def truthOfInteger (i : Int) : Except FieldDefect Bool :=
  if i = 0 then .ok false else if i = 1 then .ok true else .error .boolParsing

/-- A number that is no integer of 64 bits is of the wrong type. -/
def truthOfNumber : Number → Except FieldDefect Bool
  | .int i =>
    if -0x8000000000000000 ≤ i ∧ i < 0x8000000000000000 then truthOfInteger i else .error .boolType
  | n =>
    match n.toDouble.toOption.map integerOfDouble with
    | some (.ok i) => truthOfInteger i
    | _ => .error .boolType

def truth : Value → Except FieldDefect Bool
  | .bool b => .ok b
  | .number n => truthOfNumber n
  | .text s => ofText truthOfText s
  | _ => .error .boolType

/-! ## Doubles -/

def doubleOfText (s : String) : Except FieldDefect Double :=
  match Double.ofChars? (trimBy isPlainBlank s.toList) with
  | some d => .ok d
  | none =>
    match (dropUnderscores? s.toList).bind Double.ofChars? with
    | some d => .ok d
    | none => .error .floatParsing

def double : Value → Except FieldDefect Double
  | .number n =>
    match n.toDouble with
    | .ok d => .ok d
    | .error _ => .error .floatType
  | .bool b => .ok (Double.ofInt (if b then 1 else 0))
  | .text s => ofText doubleOfText s
  | _ => .error .floatType

/-! ## Lists and texts -/

def integersFrom (index : Nat) : List Value → List (Nat × FieldDefect) × List Int
  | [] => ([], [])
  | v :: rest =>
    let (defects, integers) := integersFrom (index + 1) rest
    match integer v with
    | .ok i => (defects, i :: integers)
    | .error defect => ((index, defect) :: defects, integers)

def text : Value → Except FieldDefect String
  | .text s => .ok s
  | _ => .error .stringType

end HttpRetry.Coercion

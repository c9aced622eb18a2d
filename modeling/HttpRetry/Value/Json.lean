import HttpRetry.Text.CodePoint
import HttpRetry.Value.Basic

/-!
# Reading JSON texts

The usual grammar, with `NaN` and the infinities as numbers, the last of equal
names winning, and an integer literal kept exact. A refusal carries its cause
and place: the place counts code points, and lines end at line feeds. Collections
may be nested up to a limit, past which the text is given up.
-/

namespace HttpRetry.Json

inductive Collection where
  | array
  | object
deriving DecidableEq

inductive Cause where
  | expectingValue
  | expectingName
  | expectingColon
  | expectingComma
  | controlCharacter
  | unterminatedString
  | invalidEscape
  | invalidUnicodeEscape
  | extraData
  | byteOrderMark
  /-- An integer literal of more digits than are converted. -/
  | tooManyDigits (digits : Nat)
  /-- A collection inside more others than are followed. -/
  | tooDeep (collection : Collection)
deriving DecidableEq

structure Failure where
  cause : Cause
  left : Nat

structure Problem where
  cause : Cause
  line : Nat
  column : Nat
  position : Nat
deriving DecidableEq

abbrev Reading (α : Type) : Type := α × List Char

def fail {α : Type} (cause : Cause) (rest : List Char) : Except Failure α :=
  .error ⟨cause, rest.length⟩

def isSpace (c : Char) : Bool :=
  c = ' ' || c = '\t' || c = '\n' || c = '\r'

def skipSpace (cs : List Char) : List Char :=
  cs.dropWhile isSpace

/-! ## Strings -/

def hexDigit? (c : Char) : Option Nat :=
  if '0' ≤ c ∧ c ≤ '9' then some (c.toNat - '0'.toNat)
  else if 'a' ≤ c ∧ c ≤ 'f' then some (c.toNat - 'a'.toNat + 10)
  else if 'A' ≤ c ∧ c ≤ 'F' then some (c.toNat - 'A'.toNat + 10)
  else none

def hexValue? (cs : List Char) : Option Nat :=
  cs.foldl (fun value c => do return 16 * (← value) + (← hexDigit? c)) (some 0)

def escaped? (c : Char) : Option Char :=
  match c with
  | '"' | '\\' | '/' => some c
  | 'b' => some '\x08'
  | 'f' => some '\x0c'
  | 'n' => some '\n'
  | 'r' => some '\r'
  | 't' => some '\t'
  | _ => none

/-- A piece of a string: a character that stands for itself or a code unit that is
escaped by number. -/
inductive Piece where
  | plain (c : Char)
  | unit (unit : Nat)

/-- The characters of pieces. Two halves of a pair are one character if both are escaped. -/
def joinPieces : List Piece → List Char
  | [] => []
  | .plain c :: rest => c :: joinPieces rest
  | .unit high :: .unit low :: rest =>
    if CodePoint.isHigh high && CodePoint.isLow low then
      CodePoint.write (CodePoint.join high low) ++ joinPieces rest
    else CodePoint.write high ++ joinPieces (.unit low :: rest)
  | .unit unit :: rest => CodePoint.write unit ++ joinPieces rest

/-- The pieces of a string whose opening quote had `opened` characters left, up to its
closing quote. An escape by number must be followed by at least one character. -/
def readPieces (opened : Nat) : List Char → Except Failure (Reading (List Piece))
  | [] => .error ⟨.unterminatedString, opened⟩
  | '"' :: rest => .ok ([], rest)
  | ['\\'] => .error ⟨.unterminatedString, opened⟩
  | '\\' :: 'u' :: a :: b :: c :: d :: rest =>
    match hexValue? [a, b, c, d], rest.isEmpty with
    | some unit, false =>
      (readPieces opened rest).map fun (pieces, left) => (.unit unit :: pieces, left)
    | _, _ => fail .invalidUnicodeEscape ('u' :: a :: b :: c :: d :: rest)
  | '\\' :: c :: rest =>
    match escaped? c with
    | some image =>
      (readPieces opened rest).map fun (pieces, left) => (.plain image :: pieces, left)
    | none =>
      if c = 'u' then fail .invalidUnicodeEscape (c :: rest) else fail .invalidEscape ('\\' :: c :: rest)
  | c :: rest =>
    if c.toNat < 0x20 then fail .controlCharacter (c :: rest)
    else (readPieces opened rest).map fun (pieces, left) => (.plain c :: pieces, left)

def readString (opened : Nat) (cs : List Char) : Except Failure (Reading String) :=
  (readPieces opened cs).map fun (pieces, left) => (String.ofList (joinPieces pieces), left)

/-! ## Numbers -/

def splitFraction : List Char → List Char × List Char
  | '.' :: rest =>
    let (digits, after) := rest.span isAsciiDigit
    if digits.isEmpty then ([], '.' :: rest) else ('.' :: digits, after)
  | cs => ([], cs)

def splitExponent : List Char → List Char × List Char
  | e :: rest =>
    if e ≠ 'e' ∧ e ≠ 'E' then ([], e :: rest)
    else
      let (sign, body) := match rest with
        | '-' :: body => (['-'], body)
        | '+' :: body => (['+'], body)
        | body => ([], body)
      let (digits, after) := body.span isAsciiDigit
      if digits.isEmpty then ([], e :: rest) else (e :: sign ++ digits, after)
  | [] => ([], [])

def splitWhole : List Char → List Char × List Char
  | '0' :: rest => (['0'], rest)
  | cs => cs.span isAsciiDigit

def maxLiteralDigits : Nat := 4300

def readUnsigned (negative : Bool) (start cs : List Char) : Except Failure (Reading Value) :=
  let (whole, rest) := splitWhole cs
  if whole.isEmpty then fail .expectingValue start
  else
    let (fraction, rest) := splitFraction rest
    let (exponent, rest) := splitExponent rest
    if fraction.isEmpty && exponent.isEmpty then
      if whole.length > maxLiteralDigits then fail (.tooManyDigits whole.length) start
      else
        let n : Int := asciiValue whole
        .ok (Value.int (if negative then -n else n), rest)
    else
      let d := (Double.readMagnitude? negative (whole ++ fraction ++ exponent)).getD .nan
      .ok (Value.double d, rest)

/-! ## Values -/

def literals : List (List Char × Value) := [
  ("null".toList, .null), ("true".toList, .bool true), ("false".toList, .bool false),
  ("NaN".toList, .double .nan), ("Infinity".toList, .double (.inf false)),
  ("-Infinity".toList, .double (.inf true))]

def readLiteral? (cs : List Char) : Option (Reading Value) :=
  literals.findSome? fun (name, value) =>
    if name.isPrefixOf cs then some (value, cs.drop name.length) else none

def readScalar (cs : List Char) : Except Failure (Reading Value) :=
  match readLiteral? cs with
  | some reading => .ok reading
  | none =>
    match cs with
    | '-' :: rest => readUnsigned true cs rest
    | _ => readUnsigned false cs cs

def readName (cs : List Char) : Except Failure (Reading String) :=
  match cs with
  | '"' :: rest => do
    let (name, rest) ← readString cs.length rest
    match skipSpace rest with
    | ':' :: rest => .ok (name, skipSpace rest)
    | rest => fail .expectingColon rest
  | _ => fail .expectingName cs

/-- How many collections may stand inside one another. -/
def maxDepth : Nat := 984

mutual

/-- Reads one value within collections of which `depth` more may be opened. Each
item and each level uses fuel, so twice the length of the text is enough. -/
def readValue (depth : Nat) : (fuel : Nat) → List Char → Except Failure (Reading Value)
  | 0, cs => fail .expectingValue cs
  | fuel + 1, cs =>
    match cs, depth with
    | '"' :: rest, _ => do
      let (s, rest) ← readString cs.length rest
      return (.text s, rest)
    | '[' :: _, 0 => fail (.tooDeep .array) cs
    | '\x7b' :: _, 0 => fail (.tooDeep .object) cs
    | '[' :: rest, depth + 1 =>
      match skipSpace rest with
      | ']' :: rest => .ok (.list [], rest)
      | rest => do
        let (items, rest) ← readItems depth fuel rest
        return (.list items, rest)
    | '\x7b' :: rest, depth + 1 =>
      match skipSpace rest with
      | '\x7d' :: rest => .ok (.map [], rest)
      | rest => do
        let (entries, rest) ← readMembers depth fuel [] rest
        return (.map entries, rest)
    | cs, _ => readScalar cs

def readItems (depth : Nat) : (fuel : Nat) → List Char → Except Failure (Reading (List Value))
  | 0, cs => fail .expectingValue cs
  | fuel + 1, cs => do
    let (item, rest) ← readValue depth fuel cs
    match skipSpace rest with
    | ']' :: rest => return ([item], rest)
    | ',' :: rest =>
      let (items, rest) ← readItems depth fuel (skipSpace rest)
      return (item :: items, rest)
    | rest => fail .expectingComma rest

def readMembers (depth : Nat) : (fuel : Nat) → Entries → List Char →
    Except Failure (Reading Entries)
  | 0, _, cs => fail .expectingValue cs
  | fuel + 1, entries, cs => do
    let (name, rest) ← readName cs
    let (value, rest) ← readValue depth fuel rest
    let entries := Entries.put (.text name) value entries
    match skipSpace rest with
    | '\x7d' :: rest => return (entries, rest)
    | ',' :: rest => readMembers depth fuel entries (skipSpace rest)
    | rest => fail .expectingComma rest

end

def readDocument (cs : List Char) : Except Failure Value :=
  if cs.head? = some '\uFEFF' then .error ⟨.byteOrderMark, cs.length⟩
  else do
    let (value, rest) ← readValue maxDepth (2 * cs.length + 1) (skipSpace cs)
    match skipSpace rest with
    | [] => return value
    | rest => .error ⟨.extraData, rest.length⟩

def place (cs : List Char) (failure : Failure) : Problem :=
  let passed := cs.take (cs.length - failure.left)
  let count (cs : List Char) : Nat := (CodePoint.read cs).length
  { cause := failure.cause
    line := passed.count '\n' + 1
    column := count (passed.reverse.takeWhile (· ≠ '\n')).reverse + 1
    position := count passed }

def read (s : String) : Except Problem Value :=
  (readDocument s.toList).mapError (place s.toList)

def Collection.name : Collection → String
  | array => "array"
  | object => "object"

def Cause.message : Cause → String
  | expectingValue => "Expecting value"
  | expectingName => "Expecting property name enclosed in double quotes"
  | expectingColon => "Expecting ':' delimiter"
  | expectingComma => "Expecting ',' delimiter"
  | controlCharacter => "Invalid control character at"
  | unterminatedString => "Unterminated string starting at"
  | invalidEscape => "Invalid \\escape"
  | invalidUnicodeEscape => "Invalid \\uXXXX escape"
  | extraData => "Extra data"
  | byteOrderMark => "Unexpected UTF-8 BOM (decode using utf-8-sig)"
  | tooManyDigits digits =>
    s!"Exceeds the limit ({maxLiteralDigits} digits) for integer string conversion: " ++
      s!"value has {digits} digits; use sys.set_int_max_str_digits() to increase the limit"
  | tooDeep collection =>
    s!"maximum recursion depth exceeded while decoding a JSON {collection.name} from a unicode string"

def Problem.message (problem : Problem) : String :=
  match problem.cause with
  | .tooManyDigits _ | .tooDeep _ => problem.cause.message
  | cause =>
    s!"{cause.message}: line {problem.line} column {problem.column} (char {problem.position})"

end HttpRetry.Json

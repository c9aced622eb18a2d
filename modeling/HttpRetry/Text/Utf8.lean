import HttpRetry.Text.CodePoint

/-!
# UTF-8

Decoding is strict: no overlong forms, no surrogates, nothing past U+10FFFF. A
refusal tells where the bad sequence starts and how many bytes of it were looked
at. Names of the surroundings are bytes that need not be UTF-8: there each byte of a
bad sequence stands as half a surrogate pair.
-/

namespace HttpRetry

abbrev Bytes := List UInt8

namespace Utf8

/-- The bytes of a code point; a half that stands for a byte is that byte. -/
def encodePoint (point : Nat) : Bytes :=
  if CodePoint.isByte point then [UInt8.ofNat (point - CodePoint.byteBase)]
  else (String.singleton (Char.ofNat point)).toUTF8.toList

def encode (s : String) : Bytes :=
  (CodePoint.ofText s).flatMap encodePoint

inductive Defect where
  | invalidStart
  | invalidContinuation
  | unexpectedEnd
deriving DecidableEq

structure Problem where
  defect : Defect
  start : Nat
  length : Nat
  lead : UInt8
deriving DecidableEq

def isContinuation (b : UInt8) : Bool :=
  0x80 ≤ b && b < 0xC0

/-- Whether a byte may follow the lead byte: leads at the ends of their row
exclude overlong forms, surrogates and numbers past the last character. -/
def canFollow (lead second : UInt8) : Bool :=
  isContinuation second &&
    if lead = 0xE0 then 0xA0 ≤ second
    else if lead = 0xED then second < 0xA0
    else if lead = 0xF0 then 0x90 ≤ second
    else if lead = 0xF4 then second < 0x90
    else true

def sequenceLength? (lead : UInt8) : Option Nat :=
  if lead < 0x80 then some 1
  else if lead < 0xC2 then none
  else if lead < 0xE0 then some 2
  else if lead < 0xF0 then some 3
  else if lead < 0xF5 then some 4
  else none

/-- The number of bytes after the lead that are right, of those asked for. -/
def goodTail (lead : UInt8) (tail : Bytes) : Nat :=
  match tail with
  | [] => 0
  | second :: rest => if canFollow lead second then 1 + (rest.takeWhile isContinuation).length else 0

def assemble (lead : UInt8) (tail : Bytes) : Char :=
  let head := match tail.length with
    | 0 => lead.toNat
    | 1 => lead.toNat % 0x20
    | 2 => lead.toNat % 0x10
    | _ => lead.toNat % 0x08
  Char.ofNat (tail.foldl (fun code b => code * 0x40 + b.toNat % 0x40) head)

/-- A sequence at the front of bytes: its character and how many bytes follow the lead, or
what is wrong with it and how many bytes were looked at. -/
def next (lead : UInt8) (rest : Bytes) : Except (Defect × Nat) (Char × Nat) :=
  match sequenceLength? lead with
  | none => .error (.invalidStart, 1)
  | some size =>
    let tail := rest.take (size - 1)
    let good := goodTail lead tail
    if good = size - 1 then .ok (assemble lead tail, good)
    else if good = tail.length then .error (.unexpectedEnd, good + 1)
    else .error (.invalidContinuation, good + 1)

/-- Decodes from position `start`. `fuel` bounds the number of characters. -/
def decodeFrom : (fuel start : Nat) → Bytes → Except Problem (List Char)
  | 0, _, _ | _, _, [] => .ok []
  | fuel + 1, start, lead :: rest =>
    match next lead rest with
    | .ok (c, more) => (decodeFrom fuel (start + more + 1) (rest.drop more)).map (c :: ·)
    | .error (defect, length) => .error ⟨defect, start, length, lead⟩

def decode (bytes : Bytes) : Except Problem (List Char) :=
  decodeFrom bytes.length 0 bytes

def decodeText (bytes : Bytes) : Except Problem String :=
  (decode bytes).map CodePoint.textOf

def pointsOf : (fuel : Nat) → Bytes → List Nat
  | 0, _ | _, [] => []
  | fuel + 1, lead :: rest =>
    match next lead rest with
    | .ok (c, more) => c.toNat :: pointsOf fuel (rest.drop more)
    | .error (_, length) =>
      ((lead :: rest).take length).map (CodePoint.byteBase + ·.toNat) ++
        pointsOf fuel (rest.drop (length - 1))

def isEncodable (s : String) : Bool :=
  (CodePoint.findRun? CodePoint.isByte 0 (CodePoint.ofText s)).isNone

/-- How a text comes back that has been given as bytes: halves that together are UTF-8
are the character. -/
def throughBytes (s : String) : String :=
  if CodePoint.hasHalf s then
    let bytes := encode s
    CodePoint.toText (pointsOf bytes.length bytes)
  else s

end Utf8

end HttpRetry

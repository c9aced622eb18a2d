import HttpRetry.Text.Utf8

/-!
# Base 64, read leniently

Four characters stand for three bytes. Both spellings of the last two characters
of the alphabet are read, other characters are passed over, and nothing after a
complete padding is looked at. Only a group that is left unfinished is refused.
-/

namespace HttpRetry.Base64

def padding : UInt8 := 0x3D

def sextet? (b : UInt8) : Option Nat :=
  if 0x41 ≤ b ∧ b ≤ 0x5A then some (b.toNat - 0x41)
  else if 0x61 ≤ b ∧ b ≤ 0x7A then some (b.toNat - 0x61 + 26)
  else if 0x30 ≤ b ∧ b ≤ 0x39 then some (b.toNat - 0x30 + 52)
  else if b = 0x2B ∨ b = 0x2D then some 62
  else if b = 0x2F ∨ b = 0x5F then some 63
  else none

/-- How much of a group of four characters has been read, with the bits of it that
are in no byte yet. -/
inductive Group where
  | empty
  | six (bits : Nat)
  | four (bits : Nat)
  | two (bits : Nat)

def Group.add (v : Nat) : Group → Option UInt8 × Group
  | empty => (none, six v)
  | six bits => (some (UInt8.ofNat (bits * 4 + v / 16)), four (v % 16))
  | four bits => (some (UInt8.ofNat (bits * 16 + v / 4)), two (v % 4))
  | two bits => (some (UInt8.ofNat (bits * 64 + v)), empty)

def Group.missing : Group → Option Nat
  | empty | six _ => none
  | four _ => some 2
  | two _ => some 1

/-- Decodes what follows a group of which `pads` paddings have been read. -/
def decodeFrom (group : Group) (pads : Nat) : Bytes → Option Bytes
  | [] => match group with
    | .empty => some []
    | _ => none
  | b :: rest =>
    if b = padding then
      match group.missing with
      | none => decodeFrom group pads rest
      | some missing =>
        if missing ≤ pads + 1 then some [] else decodeFrom group (pads + 1) rest
    else
      match sextet? b with
      | none => decodeFrom group pads rest
      | some v =>
        match group.add v with
        | (some byte, group) => (decodeFrom group 0 rest).map (byte :: ·)
        | (none, group) => decodeFrom group 0 rest

def decode (encoded : Bytes) : Option Bytes :=
  decodeFrom .empty 0 encoded

end HttpRetry.Base64

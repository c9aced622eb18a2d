import HttpRetry.Fault.Basic

/-!
# Values as mappings

A mapping is made of another mapping or of anything that can be gone through and
gives pairs. What comes before the first item that is no pair is kept apart, so
that a mapping updated in place can have it.
-/

namespace HttpRetry.Value

/-- The items that a value gives when it is gone through: those of a list, the
characters of a text, the keys of a mapping. -/
def items? : Value → Option (List Value)
  | list items => some items
  | text s => some ((CodePoint.ofText s).map fun point => text (CodePoint.toText [point]))
  | map entries => some (entries.map (·.1))
  | _ => none

/-- The pairs a value gives, up to the first item that is no pair. -/
structure Pairing where
  pairs : List (Value × Value)
  fault : Option Fault

def pairAt (index : Nat) (item : Value) : Except Fault (Value × Value) :=
  match item.items? with
  | none => .error (.notPair index)
  | some [key, value] =>
    if key.isHashable then .ok (key, value) else .error (.unhashable key.typeName)
  | some parts => .error (.pairLength index parts.length)

def pairsFrom (index : Nat) : List Value → Pairing
  | [] => ⟨[], none⟩
  | item :: rest =>
    match pairAt index item with
    | .error fault => ⟨[], some fault⟩
    | .ok pair =>
      let more := pairsFrom (index + 1) rest
      ⟨pair :: more.pairs, more.fault⟩

def pairing (v : Value) : Pairing :=
  match v with
  | map entries => ⟨entries, none⟩
  | v =>
    match v.items? with
    | some items => pairsFrom 0 items
    | none => ⟨[], some (.notIterable v.typeName)⟩

/-- A value as a new mapping; a value that counts as false is an empty one. -/
def toEntries (v : Value) : Except Fault Entries :=
  if v.isTrue then
    match v.pairing with
    | ⟨pairs, none⟩ => .ok (pairs.foldl (fun entries (key, value) => entries.put key value) [])
    | ⟨_, some fault⟩ => .error fault
  else .ok []

end HttpRetry.Value

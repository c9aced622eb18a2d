import HttpRetry.Number.Fingerprint

/-!
# The order of a hash table

A set of integers is gone through by the slots of a table. An integer goes to the slot
that its fingerprint names or, where others are, to a free one found by probing: some
slots that follow, then a jump that also depends on the bits not used yet. The table is
made larger, slot by slot into an empty one, when three fifths of it are in use.
-/

namespace HttpRetry

/-- A table of integers. The slots are a power of two, and some are always free. -/
structure SlotTable where
  slots : Array (Option Int)
  used : Nat

namespace SlotTable

def leastSize : Nat := 8

def nearProbes : Nat := 9

def empty (size : Nat) : SlotTable where
  slots := Array.replicate size none
  used := 0

def members (table : SlotTable) : List Int :=
  table.slots.toList.filterMap id

def bits (i : Int) : Nat :=
  (Number.fingerprint (.int i) % 0x10000000000000000).toNat

def nearSlots (size slot : Nat) : List Nat :=
  if slot + nearProbes < size then (List.range (nearProbes + 1)).map (slot + ·) else [slot]

/-- The slot for an integer: one that has it or a free one. After a few jumps the unused
bits are spent and every slot is come to, so fuel past the size is enough. -/
def findSlot (slots : Array (Option Int)) (i : Int) : (fuel slot unused : Nat) → Nat
  | 0, slot, _ => slot
  | fuel + 1, slot, unused =>
    let fits (k : Nat) : Bool := slots[k]?.any fun entry => entry.all (· == i)
    match (nearSlots slots.size slot).find? fits with
    | some k => k
    | none =>
      let unused := unused / 32
      findSlot slots i fuel ((slot * 5 + 1 + unused) % slots.size) unused

def place (table : SlotTable) (i : Int) : SlotTable :=
  let slot := findSlot table.slots i (table.slots.size + 16) (bits i % table.slots.size) (bits i)
  match table.slots[slot]? with
  | some none => { slots := table.slots.setIfInBounds slot (some i), used := table.used + 1 }
  | _ => table

def sizePast (slots : Nat) : Nat :=
  if slots < leastSize then leastSize else Nat.pow 2 (Nat.log2 slots + 1)

def isCrowded (table : SlotTable) : Bool :=
  (table.slots.size - 1) * 3 ≤ table.used * 5

def enlarge (table : SlotTable) : SlotTable :=
  let size := sizePast (if table.used > 50000 then table.used * 2 else table.used * 4)
  table.members.foldl place (empty size)

def insert (table : SlotTable) (i : Int) : SlotTable :=
  let placed := table.place i
  if placed.used ≠ table.used && placed.isCrowded then placed.enlarge else placed

/-- The integers of a list, each once, in the order of a table into which they have been
put one after the other. -/
def order (integers : List Int) : List Int :=
  (integers.foldl insert (empty leastSize)).members

end SlotTable

end HttpRetry

import HttpRetry.Number.SlotTable
import Mathlib.Data.ZMod.Units
import Mathlib.RingTheory.ZMod.UnitsCyclic

/-!
# What a table holds

Jumps from slot to slot come to every slot, as five has the greatest order there is modulo
a power of two. So a table in which a slot is free has a slot for every integer, and what
has been put into it is what it holds.
-/

namespace HttpRetry.SlotTable

/-! ## Jumps -/

def jump (size slot : Nat) : Nat :=
  (slot * 5 + 1) % size

variable {k : Nat}

/-- Four times a slot, and one, is multiplied by five. -/
theorem cast_iterate_jump (slot t : Nat) :
    ((4 * (jump (2 ^ k))^[t] slot + 1 : Nat) : ZMod (2 ^ (k + 2))) =
      5 ^ t * ((4 * slot + 1 : Nat) : ZMod (2 ^ (k + 2))) := by
  induction t with
  | zero => rw [Function.iterate_zero_apply, pow_zero, one_mul]
  | succ t ih =>
    rw [Function.iterate_succ_apply', pow_succ' (5 : ZMod (2 ^ (k + 2))), mul_assoc, ← ih]
    generalize (jump (2 ^ k))^[t] slot = x
    have scaled : 4 * jump (2 ^ k) x = 4 * (x * 5 + 1) % 2 ^ (k + 2) := by
      rw [jump, ← Nat.mul_mod_mul_left]
      congr 1
      ring
    rw [scaled, Nat.cast_add, ZMod.natCast_mod]
    push_cast
    ring

theorem exists_iterate_jump {slot target : Nat} (slot_lt : slot < 2 ^ k)
    (target_lt : target < 2 ^ k) : ∃ t < 2 ^ k, (jump (2 ^ k))^[t] slot = target := by
  have stays (t : Nat) : (jump (2 ^ k))^[t] slot < 2 ^ k := by
    cases t with
    | zero => exact slot_lt
    | succ t =>
      rw [Function.iterate_succ_apply']
      exact Nat.mod_lt _ (Nat.two_pow_pos k)
  let visit (t : Fin (2 ^ k)) : Fin (2 ^ k) := ⟨(jump (2 ^ k))^[t] slot, stays t⟩
  have unit : IsUnit ((4 * slot + 1 : Nat) : ZMod (2 ^ (k + 2))) := by
    rw [ZMod.isUnit_iff_coprime]
    exact Nat.Coprime.pow_right _ (by rw [Nat.coprime_two_right]; exact ⟨2 * slot, by ring⟩)
  have injective : Function.Injective visit := by
    intro t t' same
    have power : (5 : ZMod (2 ^ (k + 2))) ^ (t : Nat) = 5 ^ (t' : Nat) := by
      refine unit.mul_right_cancel ?_
      rw [← cast_iterate_jump, ← cast_iterate_jump, Fin.mk.inj same]
    apply Fin.ext
    refine pow_injOn_Iio_orderOf ?_ ?_ power
    · rw [ZMod.orderOf_five]
      exact t.isLt
    · rw [ZMod.orderOf_five]
      exact t'.isLt
  obtain ⟨t, visited⟩ := Finite.surjective_of_injective injective ⟨target, target_lt⟩
  exact ⟨t, t.isLt, Fin.mk.inj visited⟩

/-! ## Searching -/

variable {slots : Array (Option Int)} {i : Int}

def Fits (slots : Array (Option Int)) (i : Int) (slot : Nat) : Prop :=
  (slots[slot]?.any fun entry => entry.all (· == i)) = true

theorem fits_iff {slot : Nat} :
    Fits slots i slot ↔ slots[slot]? = some none ∨ slots[slot]? = some (some i) := by
  unfold Fits
  cases slots[slot]? with
  | none => simp
  | some entry => cases entry <;> simp

theorem findSlot_succ (fuel slot unused : Nat) :
    (Fits slots i (findSlot slots i (fuel + 1) slot unused)) ∨
      ¬Fits slots i slot ∧ findSlot slots i (fuel + 1) slot unused =
        findSlot slots i fuel ((slot * 5 + 1 + unused / 32) % slots.size) (unused / 32) := by
  let fits (k : Nat) : Bool := slots[k]?.any fun entry => entry.all (· == i)
  rw [findSlot]
  cases found : (nearSlots slots.size slot).find? fits with
  | some k => exact .inl (List.find?_some (p := fits) found)
  | none =>
    have near : slot ∈ nearSlots slots.size slot := by
      unfold nearSlots
      split
      · exact List.mem_map.mpr ⟨0, by simp, rfl⟩
      · exact List.mem_singleton_self slot
    exact .inr ⟨List.find?_eq_none.mp found slot near, rfl⟩

/-- Without unused bits the search comes to a slot that fits by jumps alone. -/
theorem fits_findSlot_of_jumps {t fuel slot : Nat}
    (fits : Fits slots i ((jump slots.size)^[t] slot))
    (lt : t < fuel) : Fits slots i (findSlot slots i fuel slot 0) := by
  induction fuel generalizing t slot with
  | zero => omega
  | succ fuel ih =>
    rcases findSlot_succ fuel slot 0 with found | ⟨taken, step⟩
    · exact found
    · cases t with
      | zero => exact absurd fits taken
      | succ t =>
        rw [step]
        exact ih fits (by omega)

theorem fits_findSlot (size_eq : slots.size = 2 ^ k) {free : Nat} (fits : Fits slots i free)
    {bits fuel slot unused : Nat} (slot_lt : slot < slots.size) (spent : unused < 32 ^ bits)
    (enough : bits + slots.size ≤ fuel) : Fits slots i (findSlot slots i fuel slot unused) := by
  induction bits generalizing fuel slot unused with
  | zero =>
    obtain rfl : unused = 0 := by omega
    have free_lt : free < slots.size := by
      rcases fits_iff.mp fits with found | found <;>
        exact (Array.getElem?_eq_some_iff.mp found).1
    obtain ⟨t, t_lt, reached⟩ := exists_iterate_jump (size_eq ▸ slot_lt) (size_eq ▸ free_lt)
    rw [← size_eq] at t_lt reached
    exact fits_findSlot_of_jumps (reached ▸ fits) (by omega)
  | succ bits ih =>
    obtain ⟨fuel, rfl⟩ : ∃ rest, fuel = rest + 1 := ⟨fuel - 1, by omega⟩
    rcases findSlot_succ fuel slot unused with found | ⟨-, step⟩
    · exact found
    · rw [step]
      refine ih (Nat.mod_lt _ (by omega)) ?_ (by omega)
      rw [Nat.div_lt_iff_lt_mul (by decide)]
      rwa [pow_succ] at spent

/-! ## Tables -/

structure Counts (table : SlotTable) : Prop where
  size : ∃ k, table.slots.size = 2 ^ k
  used : table.members.length = table.used

variable {table : SlotTable}

theorem counts_empty (k : Nat) : (empty (2 ^ k)).Counts :=
  ⟨⟨k, by simp [empty]⟩, by simp [empty, members]⟩

theorem exists_free (h : table.Counts) (room : table.used < table.slots.size) :
    ∃ slot : Nat, table.slots[slot]? = some none := by
  have some_free : none ∈ table.slots.toList := by
    by_contra full
    have all_used : (table.slots.toList.filterMap id).length = table.slots.toList.length := by
      rw [List.length_filterMap_eq_countP, List.countP_eq_length]
      intro entry mem
      cases entry with
      | none => exact absurd mem full
      | some => rfl
    rw [← h.used, members, all_used, Array.length_toList] at room
    exact lt_irrefl _ room
  obtain ⟨slot, entry_eq⟩ := List.getElem?_of_mem some_free
  exact ⟨slot, by rwa [Array.getElem?_toList] at entry_eq⟩

structure Holds (table : SlotTable) (i : Int) (after : SlotTable) : Prop where
  counts : after.Counts
  size : after.slots.size = table.slots.size
  used : after.used = table.used ∨ after.used = table.used + 1
  members : ∀ c, c ∈ after.members ↔ c = i ∨ c ∈ table.members

theorem mem_members {slot : Nat} {c : Int} (there : table.slots[slot]? = some (some c)) :
    c ∈ table.members := by
  rw [← Array.getElem?_toList] at there
  exact List.mem_filterMap.mpr ⟨some c, List.mem_of_getElem? there, rfl⟩

theorem bits_lt (i : Int) : bits i < 32 ^ 13 := by
  unfold bits
  omega

/-- A free slot is filled, and the others are as they were. -/
theorem holds_filled (h : table.Counts) {slot : Nat} (vacant : table.slots[slot]? = some none)
    (i : Int) : Holds table i ⟨table.slots.setIfInBounds slot (some i), table.used + 1⟩ := by
  obtain ⟨lt, entry_eq⟩ := List.getElem?_eq_some_iff.mp (Array.getElem?_toList ▸ vacant)
  have before : table.slots.toList =
      table.slots.toList.take slot ++ none :: table.slots.toList.drop (slot + 1) := by
    rw [← entry_eq, List.getElem_cons_drop, List.take_append_drop]
  have after : (table.slots.setIfInBounds slot (some i)).toList =
      table.slots.toList.take slot ++ some i :: table.slots.toList.drop (slot + 1) := by
    rw [Array.toList_setIfInBounds, List.set_eq_take_append_cons_drop, if_pos lt]
  have counted := h.used
  rw [members, before] at counted
  refine ⟨⟨?_, ?_⟩, by simp, .inr rfl, fun c => ?_⟩
  · simpa using h.size
  · rw [members, after]
    simp at counted ⊢
    omega
  · rw [members, members, after]
    conv_rhs => rw [before]
    simp [or_left_comm, eq_comm]

theorem holds_place (h : table.Counts) (room : table.used < table.slots.size) (i : Int) :
    Holds table i (table.place i) := by
  obtain ⟨k, size_eq⟩ := h.size
  obtain ⟨free, free_eq⟩ := exists_free h room
  have start_lt : bits i % table.slots.size < table.slots.size := Nat.mod_lt _ (by omega)
  have fits : Fits table.slots i (findSlot table.slots i (table.slots.size + 16)
      (bits i % table.slots.size) (bits i)) :=
    fits_findSlot size_eq (fits_iff.mpr (.inl free_eq)) start_lt (bits_lt i) (by omega)
  unfold place
  rcases fits_iff.mp fits with vacant | there
  · simp only [vacant]
    exact holds_filled h vacant i
  · simp only [there]
    refine ⟨h, rfl, .inl rfl, fun c => (or_iff_right_of_imp ?_).symm⟩
    rintro rfl
    exact mem_members there

/-- Integers are put into a table one after the other as long as there is room. -/
theorem foldl_place (h : table.Counts) (integers : List Int)
    (room : table.used + integers.length ≤ table.slots.size) :
    (integers.foldl place table).Counts ∧
      (integers.foldl place table).slots.size = table.slots.size ∧
      (integers.foldl place table).used ≤ table.used + integers.length ∧
      ∀ c, c ∈ (integers.foldl place table).members ↔ c ∈ integers ∨ c ∈ table.members := by
  induction integers generalizing table with
  | nil => exact ⟨h, rfl, le_rfl, by simp⟩
  | cons i rest ih =>
    rw [List.length_cons] at room ⊢
    have placed := holds_place h (by omega) i
    have used := placed.used
    obtain ⟨counts, size, used_le, mem⟩ := ih placed.counts (by rw [placed.size]; omega)
    refine ⟨counts, size.trans placed.size, ?_, fun c => ?_⟩
    · rw [List.foldl_cons]
      omega
    · rw [List.foldl_cons, mem, placed.members, List.mem_cons, or_assoc, or_left_comm]

theorem sizePast_spec (slots : Nat) : slots < sizePast slots ∧ ∃ k, sizePast slots = 2 ^ k := by
  unfold sizePast leastSize
  split
  · next small => exact ⟨small, 3, rfl⟩
  · exact ⟨Nat.lt_log2_self, _, rfl⟩

/-! ## Insertion -/

/-- A table in which fewer than three fifths of the slots but one are in use. -/
structure Roomy (table : SlotTable) : Prop where
  counts : table.Counts
  room : table.used * 5 < (table.slots.size - 1) * 3

theorem roomy_enlarge (h : table.Counts) (pos : 0 < table.used) :
    table.enlarge.Roomy ∧ ∀ c, c ∈ table.enlarge.members ↔ c ∈ table.members := by
  unfold enlarge
  generalize slots_eq : (if table.used > 50000 then table.used * 2 else table.used * 4) = slots
  have twice : table.used * 2 ≤ slots := by
    rw [← slots_eq]
    split <;> omega
  obtain ⟨lt, k, size_eq⟩ := sizePast_spec slots
  have size_empty : (empty (2 ^ k)).slots.size = 2 ^ k := by simp [empty]
  have counted := h.used
  rw [size_eq] at lt
  obtain ⟨counts, size, used_le, mem⟩ := foldl_place (counts_empty k) table.members (by
    rw [size_empty, show (empty (2 ^ k)).used = 0 from rfl]
    omega)
  rw [show (empty (2 ^ k)).used = 0 from rfl] at used_le
  simp only [size_eq]
  refine ⟨⟨counts, ?_⟩, fun c => (mem c).trans ?_⟩
  · rw [size, size_empty]
    omega
  · simp [empty, members]

theorem Roomy.insert (h : table.Roomy) (i : Int) :
    (table.insert i).Roomy ∧ ∀ c, c ∈ (table.insert i).members ↔ c = i ∨ c ∈ table.members := by
  have room := h.room
  have placed := holds_place h.counts (by omega) i
  have used := placed.used
  unfold SlotTable.insert
  by_cases crowded : ((table.place i).used ≠ table.used && (table.place i).isCrowded) = true
  · rw [if_pos crowded]
    obtain ⟨changed, -⟩ := Bool.and_eq_true_iff.mp crowded
    rw [decide_eq_true_eq] at changed
    obtain ⟨roomy, mem⟩ := roomy_enlarge placed.counts (by omega)
    exact ⟨roomy, fun c => (mem c).trans (placed.members c)⟩
  · rw [if_neg crowded]
    refine ⟨⟨placed.counts, ?_⟩, placed.members⟩
    rw [placed.size]
    simp only [isCrowded, placed.size, Bool.and_eq_true, decide_eq_true_eq] at crowded
    omega

theorem roomy_foldl_insert (h : table.Roomy) (integers : List Int) :
    (integers.foldl SlotTable.insert table).Roomy ∧
      ∀ c, c ∈ (integers.foldl SlotTable.insert table).members ↔
        c ∈ integers ∨ c ∈ table.members := by
  induction integers generalizing table with
  | nil => exact ⟨h, by simp⟩
  | cons i rest ih =>
    obtain ⟨roomy, mem⟩ := h.insert i
    obtain ⟨roomy_rest, mem_rest⟩ := ih roomy
    refine ⟨roomy_rest, fun c => ?_⟩
    rw [List.foldl_cons, mem_rest, mem, List.mem_cons, or_assoc, or_left_comm]

/-- Whatever has been put into a table is there, and nothing else is. -/
theorem mem_order {c : Int} {integers : List Int} : c ∈ order integers ↔ c ∈ integers := by
  have roomy : (empty leastSize).Roomy := ⟨counts_empty 3, by decide⟩
  rw [order, (roomy_foldl_insert roomy integers).2]
  simp [empty, members]

end HttpRetry.SlotTable

import HttpRetry.Calendar.MailDate
import Mathlib.Algebra.Group.Int.Defs
import Mathlib.Algebra.Group.Nat.Defs
import Mathlib.Tactic.Common

/-!
# The width of dates

Which words make a date that the calendar cannot be asked about, and how far from the
first instant of year 1 all other dates are.
-/

namespace HttpRetry.Civil

theorem daysInMonth_le (year month : Nat) : daysInMonth year month ≤ 31 := by
  unfold daysInMonth
  split
  · split <;> decide
  all_goals decide

theorem daysBeforeMonth_le (year month : Nat) : daysBeforeMonth year month ≤ 31 * month := by
  induction month with
  | zero => exact Nat.zero_le _
  | succ month ih =>
    cases month with
    | zero => exact Nat.zero_le _
    | succ month =>
      have last := daysInMonth_le year (month + 1)
      simp only [daysBeforeMonth] at ih ⊢
      omega

structure InRange (c : Civil) : Prop where
  year : 1 ≤ c.year ∧ c.year ≤ 9999
  month : 1 ≤ c.month ∧ c.month ≤ 12
  day : 1 ≤ c.day ∧ c.day ≤ 31
  hour : c.hour < 24
  minute : c.minute < 60
  second : c.second < 60

theorem inRange_of_isValid {c : Civil} (valid : c.isValid = true) : c.InRange := by
  simp only [isValid, Bool.and_eq_true, decide_eq_true_eq] at valid
  have last := daysInMonth_le c.year c.month
  constructor <;> omega

theorem seconds_lt {c : Civil} (valid : c.isValid = true) : c.seconds < 10 ^ 12 := by
  simp only [isValid, Bool.and_eq_true, decide_eq_true_eq] at valid
  have before := daysBeforeMonth_le c.year c.month
  have last := daysInMonth_le c.year c.month
  simp only [seconds, days, daysBeforeYear]
  omega

end HttpRetry.Civil

namespace HttpRetry.Moment

def IsValid (m : Moment) : Prop :=
  m.civil.isValid = true ∧ m.microsecond < 1000000

instance (m : Moment) : Decidable m.IsValid :=
  inferInstanceAs (Decidable (_ ∧ _))

end HttpRetry.Moment

namespace HttpRetry.MailDate

def parts? (text : List Char) : Option (List Int × Word) := do
  let fields ← fields? text
  let (hour, minute, second) ← clock? fields.time
  let year ← readInteger? fields.year
  let day ← readInteger? fields.day
  return ([fullYear year, (fields.month : Int), day, hour, minute, second], fields.zone)

theorem read_eq (text : List Char) : read text = match parts? text with
    | none => .ok none
    | some (numbers, zone) => assemble numbers ((zoneNumber? zone).map zoneSeconds) :=
  rfl

/-- A number that fits no word of 32 bits, or a zone of 10⁹ days or more. The numbers
do not count where the zone is a day or more. -/
def IsTooWide (numbers : List Int) : Option Int → Prop
  | none => ∃ n ∈ numbers, n < -2 ^ 31 ∨ 2 ^ 31 ≤ n
  | some s => 999999999 < (s.fdiv 86400).natAbs ∨
      s.natAbs < 86400 ∧ ∃ n ∈ numbers, n < -2 ^ 31 ∨ 2 ^ 31 ≤ n

instance (numbers : List Int) : (offset : Option Int) → Decidable (IsTooWide numbers offset)
  | none => inferInstanceAs (Decidable (∃ n ∈ numbers, _))
  | some _ => inferInstanceAs (Decidable (_ ∨ _))

def Exceeds (text : List Char) : Prop :=
  ∃ date ∈ parts? text, IsTooWide date.1 ((zoneNumber? date.2).map zoneSeconds)

instance (text : List Char) : Decidable (Exceeds text) :=
  inferInstanceAs (Decidable (∃ date ∈ parts? text, _))

theorem checkZone_eq_ok_iff {s : Int} :
    checkZone s = .ok () ↔ (s.fdiv 86400).natAbs ≤ 999999999 := by
  unfold checkZone isWord
  generalize s.fdiv 86400 = days
  by_cases word : -(0x80000000 : Int) ≤ days ∧ days < 0x80000000
  · by_cases wide : days.natAbs > 999999999
    · simp [word, wide, Nat.not_le.mpr wide]
    · simp [word, wide, Nat.not_lt.mp wide]
  · have wide : ¬days.natAbs ≤ 999999999 := by omega
    have beyond : (decide (-(0x80000000 : Int) ≤ days) && decide (days < 0x80000000)) = false := by
      simpa using word
    simp [beyond, wide]

theorem checkField_eq_ok_iff {n : Int} : checkField n = .ok () ↔ -2 ^ 31 ≤ n ∧ n < 2 ^ 31 := by
  by_cases word : isWord 0x80000000 n = true
  · simpa [checkField, word] using (by simpa [isWord] using word : _ ∧ _)
  · have beyond : ¬(-2 ^ 31 ≤ n ∧ n < 2 ^ 31) := by simpa [isWord] using word
    simp only [checkField, word, beyond, iff_false, Bool.false_eq_true, ↓reduceIte]
    split <;> exact fun h => Except.noConfusion rfl rfl (heq_of_eq h)

theorem checkFields_eq_ok_iff {numbers : List Int} :
    checkFields numbers = .ok () ↔ ∀ n ∈ numbers, -2 ^ 31 ≤ n ∧ n < 2 ^ 31 := by
  induction numbers with
  | nil => simp [checkFields]
  | cons n rest ih =>
    rw [List.forall_mem_cons, ← checkField_eq_ok_iff, ← ih]
    cases h : checkField n <;> simp [checkFields, h, bind, Except.bind]

theorem isTooWide_none_iff {numbers : List Int} :
    IsTooWide numbers none ↔ ¬checkFields numbers = .ok () := by
  simp [IsTooWide, checkFields_eq_ok_iff, imp_iff_not_or]

theorem isTooWide_some_iff {numbers : List Int} {s : Int} : IsTooWide numbers (some s) ↔
    ¬checkZone s = .ok () ∨ s.natAbs < 86400 ∧ ¬checkFields numbers = .ok () := by
  simp [IsTooWide, checkZone_eq_ok_iff, checkFields_eq_ok_iff, imp_iff_not_or]

structure Zoned.IsValid (z : Zoned) : Prop where
  civil : z.civil.isValid = true
  offset : ∀ s ∈ z.offset, s.natAbs < 86400

theorem Zoned.IsValid.offset_lt {z : Zoned} (valid : z.IsValid) :
    (z.offset.getD 0).natAbs < 86400 := by
  cases zone : z.offset with
  | none => decide
  | some s => exact valid.offset s zone

theorem isValid_of_civil? {numbers : List Int} {c : Civil} (h : civil? numbers = some c) :
    c.isValid = true := by
  unfold civil? at h
  split at h
  · simp only at h
    split at h
    · rename_i valid
      cases h
      exact valid
    · cases h
  · cases h

inductive Outcome (tooWide : Prop) : Except Overflow (Option Zoned) → Prop
  | overflow (o : Overflow) (wide : tooWide) : Outcome tooWide (.error o)
  | nothing (narrow : ¬tooWide) : Outcome tooWide (.ok none)
  | date {z : Zoned} (narrow : ¬tooWide) (valid : z.IsValid) : Outcome tooWide (.ok (some z))

theorem outcome_civil? {tooWide : Prop} (narrow : ¬tooWide) (numbers : List Int)
    {offset : Option Int} (within : ∀ s ∈ offset, s.natAbs < 86400) :
    Outcome tooWide (.ok ((civil? numbers).map fun civil => { civil, offset })) := by
  cases h : civil? numbers with
  | none => exact .nothing narrow
  | some c => exact .date narrow ⟨isValid_of_civil? h, within⟩

theorem outcome_assemble (numbers : List Int) (offset : Option Int) :
    Outcome (IsTooWide numbers offset) (assemble numbers offset) := by
  cases offset with
  | none =>
    rw [isTooWide_none_iff]
    cases fields : checkFields numbers with
    | error o =>
      have assembled : assemble numbers none = .error o := by
        simp [assemble, fields, bind, Except.bind]
      rw [assembled]
      exact .overflow o nofun
    | ok =>
      have assembled : assemble numbers none =
          .ok ((civil? numbers).map fun civil => { civil, offset := none }) := by
        simp [assemble, fields, bind, Except.bind, pure, Except.pure]
      rw [assembled]
      exact outcome_civil? (not_not.mpr rfl) numbers nofun
  | some s =>
    rw [isTooWide_some_iff]
    cases zone : checkZone s with
    | error o =>
      have assembled : assemble numbers (some s) = .error o := by
        simp [assemble, zone, bind, Except.bind]
      rw [assembled]
      exact .overflow o (.inl nofun)
    | ok =>
      by_cases long : s.natAbs ≥ 86400
      · have assembled : assemble numbers (some s) = .ok none := by
          simp [assemble, zone, long, bind, Except.bind, pure, Except.pure]
        rw [assembled]
        exact .nothing (by simp [Nat.not_lt.mpr long])
      · cases fields : checkFields numbers with
        | error o =>
          have assembled : assemble numbers (some s) = .error o := by
            simp [assemble, zone, long, fields, bind, Except.bind]
          rw [assembled]
          exact .overflow o (.inr ⟨Nat.not_le.mp long, nofun⟩)
        | ok =>
          have assembled : assemble numbers (some s) =
              .ok ((civil? numbers).map fun civil => { civil, offset := some s }) := by
            simp [assemble, zone, long, fields, bind, Except.bind, pure, Except.pure]
          rw [assembled]
          exact outcome_civil? (by simp) numbers (by simpa using long)

theorem outcome_read (text : List Char) : Outcome (Exceeds text) (read text) := by
  rw [read_eq]
  cases parts : parts? text with
  | none => exact .nothing (by simp [Exceeds, parts])
  | some found =>
    obtain ⟨numbers, zone⟩ := found
    have exceeds_iff : Exceeds text ↔ IsTooWide numbers ((zoneNumber? zone).map zoneSeconds) := by
      simp [Exceeds, parts]
    rw [exceeds_iff]
    exact outcome_assemble numbers _

end HttpRetry.MailDate

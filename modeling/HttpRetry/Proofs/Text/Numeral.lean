import HttpRetry.Proofs.Text.Words
import HttpRetry.Settings.Coercion
import HttpRetry.Text.Integer
import Mathlib.Data.Nat.Digits.Lemmas

/-!
# Integers that are written and read again

An integer is written as a minus where it is negative and the decimal digits of its size. Such a
text reads as the integer, if it does not have more digits than are read.
-/

namespace HttpRetry

variable {n : Nat} {c : Char} {cs : List Char}

/-! ## Digits -/

theorem isAsciiDigit_iff : isAsciiDigit c = true ↔ '0' ≤ c ∧ c ≤ '9' := by
  unfold isAsciiDigit asciiDigit?
  split <;> simp_all

theorem toNat_of_isAsciiDigit (h : isAsciiDigit c = true) : 48 ≤ c.toNat ∧ c.toNat ≤ 57 :=
  isAsciiDigit_iff.mp h

theorem ne_of_isAsciiDigit {d : Char} (digit : isAsciiDigit d = true)
    (other : isAsciiDigit c = false) : d ≠ c := by
  rintro rfl
  rw [digit] at other
  cases other

theorem isAsciiDigit_of_mem (mem : c ∈ Nat.toDigits 10 n) : isAsciiDigit c = true := by
  have digit := Nat.isDigit_of_mem_toDigits (by decide) (by decide) mem
  rw [Char.isDigit, Bool.and_eq_true, decide_eq_true_eq, decide_eq_true_eq] at digit
  exact isAsciiDigit_iff.mpr digit

theorem asciiDigit?_of_isAsciiDigit (h : isAsciiDigit c = true) :
    asciiDigit? c = some (c.toNat - '0'.toNat) :=
  if_pos (isAsciiDigit_iff.mp h)

theorem asciiValue_eq (h : ∀ c ∈ cs, isAsciiDigit c = true) :
    asciiValue cs = Nat.ofDigitChars 10 cs 0 := by
  have digits : cs.filterMap asciiDigit? = cs.map fun c => c.toNat - '0'.toNat := by
    rw [← List.filterMap_eq_map]
    exact List.filterMap_congr fun c mem => asciiDigit?_of_isAsciiDigit (h c mem)
  rw [asciiValue, digits, digitsValue, List.foldl_map]
  rfl

theorem asciiValue_toDigits (n : Nat) : asciiValue (Nat.toDigits 10 n) = n := by
  rw [asciiValue_eq fun c => isAsciiDigit_of_mem, Nat.ofDigitChars_ten_toDigits]

theorem head?_toDigits (pos : 0 < n) : (Nat.toDigits 10 n).head? ≠ some '0' := by
  induction n using Nat.strongRecOn with
  | ind n ih =>
    by_cases small : n < 10
    · rw [Nat.toDigits_of_lt_base small]
      simpa using pos.ne'
    · rw [Nat.toDigits_of_base_le (by decide) (not_lt.mp small), List.head?_append]
      have shorter := ih (n / 10) (by omega) (by omega)
      cases digits : Nat.toDigits 10 (n / 10) with
      | nil => exact absurd digits Nat.toDigits_ne_nil
      | cons d rest =>
        rw [digits] at shorter
        exact shorter

def NoDigit (rest : List Char) : Prop :=
  ∀ c ∈ rest.head?, isAsciiDigit c = false

theorem span_digits {rest : List Char} (digits : ∀ c ∈ cs, isAsciiDigit c = true)
    (ends : NoDigit rest) : (cs ++ rest).span isAsciiDigit = (cs, rest) := by
  rw [List.span_eq_takeWhile_dropWhile, List.takeWhile_append_of_pos digits,
    List.dropWhile_append_of_pos digits]
  cases rest with
  | nil => simp
  | cons c rest =>
    have other := ends c rfl
    simp [other]

/-- A numeral of a natural number: digits, of which the first is no zero unless it is the only
one. -/
structure IsNumeral (n : Nat) (cs : List Char) : Prop where
  digits : ∀ c ∈ cs, isAsciiDigit c = true
  nonempty : cs ≠ []
  zero : cs.head? = some '0' → cs = ['0']
  value : asciiValue cs = n

theorem IsNumeral.exists_cons (h : IsNumeral n cs) :
    ∃ d tail, cs = d :: tail ∧ isAsciiDigit d = true := by
  obtain ⟨d, tail, rfl⟩ := List.exists_cons_of_ne_nil h.nonempty
  exact ⟨d, tail, rfl, h.digits d List.mem_cons_self⟩

theorem isNumeral_toDigits (n : Nat) : IsNumeral n (Nat.toDigits 10 n) where
  digits _ := isAsciiDigit_of_mem
  nonempty := Nat.toDigits_ne_nil
  zero leading := by
    rcases Nat.eq_zero_or_pos n with rfl | pos
    · exact Nat.toDigits_zero 10
    · exact absurd leading (head?_toDigits pos)
  value := asciiValue_toDigits n

/-! ## Integers -/

def minus (negative : Bool) : List Char :=
  if negative then ['-'] else []

def signed (negative : Bool) (n : Nat) : Int :=
  if negative then -(n : Int) else n

theorem signed_natAbs (i : Int) : signed (i < 0) i.natAbs = i := by
  unfold signed
  split
  · next negative =>
    have := of_decide_eq_true negative
    omega
  · next nonneg =>
    have := of_decide_eq_false (Bool.eq_false_iff.mpr nonneg)
    omega

theorem toList_toString (i : Int) :
    (toString i).toList = minus (i < 0) ++ Nat.toDigits 10 i.natAbs := by
  cases i with
  | ofNat n => simp [Int.repr, minus]
  | negSucc n => simp [Int.repr, minus]

theorem CodePoint.read_of_plain (h : ∀ c ∈ cs, c ≠ mark) : read cs = cs.map Char.toNat := by
  induction cs with
  | nil => rfl
  | cons c cs ih =>
    rw [read_cons (h c List.mem_cons_self), ih fun d mem => h d (List.mem_cons_of_mem c mem)]
    rfl

theorem CodePoint.hasHalf_of_ascii {s : String} (h : ∀ c ∈ s.toList, c.toNat < 128) :
    hasHalf s = false := by
  have plain : ∀ c ∈ s.toList, c ≠ mark := by
    rintro c mem rfl
    exact absurd (h mark mem) (by decide)
  rw [hasHalf, ofText, read_of_plain plain, List.any_eq_false]
  intro point mem
  obtain ⟨c, c_mem, rfl⟩ := List.mem_map.mp mem
  have small := h c c_mem
  simp only [isSurrogate, isHigh, isLow, Bool.or_eq_true, Bool.and_eq_true, decide_eq_true_eq]
  omega

namespace Coercion

theorem readPlainInteger_numeral (numeral : IsNumeral n cs) (negative : Bool)
    (short : cs.length ≤ maxIntegerDigits) :
    readPlainInteger (minus negative ++ cs) = .ok (signed negative n) := by
  have span : (cs ++ []).span isAsciiDigit = (cs, []) :=
    span_digits numeral.digits (by simp [NoDigit])
  have first : ¬(cs.isEmpty || cs.head? = some '0' && cs.length ≠ 1) = true := by
    have zero : cs.head? = some '0' → cs.length = 1 := fun leading => by
      rw [numeral.zero leading]
      rfl
    simpa [numeral.nonempty] using zero
  unfold readPlainInteger
  split
  next sign body sign_eq =>
    have split_eq : sign = negative ∧ body = cs := by
      cases negative with
      | true =>
        obtain ⟨rfl, rfl⟩ := Prod.mk.inj sign_eq
        exact ⟨rfl, rfl⟩
      | false =>
        obtain ⟨d, tail, rfl, digit⟩ := numeral.exists_cons
        split at sign_eq
        · next eq => exact absurd (List.cons.inj eq).1 (ne_of_isAsciiDigit digit (by decide))
        · obtain ⟨rfl, rfl⟩ := Prod.mk.inj sign_eq
          exact ⟨rfl, rfl⟩
    obtain ⟨rfl, rfl⟩ := split_eq
    rw [List.append_nil] at span
    simp only [span, if_neg first, if_neg (not_lt.mpr short), numeral.value]
    rfl

def IsBrief (i : Int) : Prop :=
  i.natAbs < 10 ^ maxIntegerDigits

theorem IsBrief.length_le {i : Int} (h : IsBrief i) :
    (Nat.toDigits 10 i.natAbs).length ≤ maxIntegerDigits :=
  (Nat.length_toDigits_le_iff (by decide) (by decide)).mpr h

theorem integerOfText_toString {i : Int} (brief : IsBrief i) :
    integerOfText (toString i) = .ok i := by
  have read := readPlainInteger_numeral (isNumeral_toDigits i.natAbs) (i < 0) brief.length_le
  rw [← toList_toString, signed_natAbs] at read
  simp only [integerOfText, read]

theorem integer_toString {i : Int} (brief : IsBrief i) :
    integer (.text (toString i)) = .ok i := by
  have whole : CodePoint.hasHalf (toString i) = false := by
    refine CodePoint.hasHalf_of_ascii fun c mem => ?_
    rw [toList_toString, List.mem_append] at mem
    rcases mem with sign | digit
    · obtain rfl : c = '-' := by
        unfold minus at sign
        split at sign
        · exact List.mem_singleton.mp sign
        · cases sign
      decide
    · have le := (toNat_of_isAsciiDigit (isAsciiDigit_of_mem digit)).2
      exact lt_of_le_of_lt le (by decide)
  simp only [integer, ofText, whole, integerOfText_toString brief]
  rfl

end Coercion

/-! ## Numerals that may start with zeros -/

structure IsDigits (cs : List Char) : Prop where
  digits : ∀ c ∈ cs, isAsciiDigit c = true
  nonempty : cs ≠ []

def padded (width n : Nat) : List Char :=
  (Nat.toDigits 10 n).leftpad width '0'

theorem asciiValue_append {ds : List Char} (front : ∀ c ∈ cs, isAsciiDigit c = true)
    (back : ∀ c ∈ ds, isAsciiDigit c = true) :
    asciiValue (cs ++ ds) = asciiValue cs * 10 ^ ds.length + asciiValue ds := by
  have both := List.forall_mem_append.mpr ⟨front, back⟩
  rw [asciiValue_eq both, asciiValue_eq front, asciiValue_eq back, Nat.ofDigitChars_append,
    Nat.ofDigitChars_eq_ofDigitChars_zero, Nat.mul_comm]

theorem isDigits_toDigits (n : Nat) : IsDigits (Nat.toDigits 10 n) :=
  ⟨fun _ => isAsciiDigit_of_mem, Nat.toDigits_ne_nil⟩

theorem isAsciiDigit_of_mem_zeros {k : Nat} (mem : c ∈ List.replicate k '0') :
    isAsciiDigit c = true := by
  rw [List.eq_of_mem_replicate mem]
  decide

theorem isDigits_padded (width n : Nat) : IsDigits (padded width n) := by
  constructor
  · exact List.forall_mem_append.mpr
      ⟨fun _ => isAsciiDigit_of_mem_zeros, fun _ => isAsciiDigit_of_mem⟩
  · simp [padded, List.leftpad, Nat.toDigits_ne_nil]

theorem IsDigits.append {ds : List Char} (front : IsDigits cs) (back : IsDigits ds) :
    IsDigits (cs ++ ds) :=
  ⟨List.forall_mem_append.mpr ⟨front.digits, back.digits⟩, by simp [front.nonempty]⟩

theorem asciiValue_padded (width n : Nat) : asciiValue (padded width n) = n := by
  have zeros (k : Nat) : asciiValue (List.replicate k '0') = 0 := by
    induction k with
    | zero => rfl
    | succ k ih =>
      have last : ∀ c ∈ ['0'], isAsciiDigit c = true := fun _ =>
        isAsciiDigit_of_mem_zeros (k := 1)
      rw [List.replicate_succ', asciiValue_append (fun _ => isAsciiDigit_of_mem_zeros) last, ih]
      rfl
  unfold padded List.leftpad
  rw [asciiValue_append (fun _ => isAsciiDigit_of_mem_zeros) (fun _ => isAsciiDigit_of_mem), zeros,
    asciiValue_toDigits, zero_mul, zero_add]

theorem length_padded {width n : Nat} (pos : 0 < width) (lt : n < 10 ^ width) :
    (padded width n).length = width := by
  have short := (Nat.length_toDigits_le_iff (by decide) pos).mpr lt
  unfold padded
  rw [List.length_leftpad, max_eq_left short]

theorem isBlank_of_isAsciiDigit (h : isAsciiDigit c = true) : isBlank c = false := by
  obtain ⟨least, most⟩ := toNat_of_isAsciiDigit h
  simp only [isBlank, CodeRanges.has, blankRanges, List.any_cons, List.any_nil, Bool.or_false,
    Bool.or_eq_false_iff, Bool.and_eq_false_iff, decide_eq_false_iff_not]
  omega

theorem digit?_of_isAsciiDigit (h : isAsciiDigit c = true) :
    digit? c = some (c.toNat - '0'.toNat) := by
  obtain ⟨least, most⟩ := toNat_of_isAsciiDigit h
  unfold digit? zeroDigits
  rw [List.find?_cons_of_pos (by simp [least, most])]
  rfl

theorem IsDigits.inked (h : IsDigits cs) : Inked cs :=
  ⟨h.nonempty, fun c mem => isBlank_of_isAsciiDigit (h.digits c mem)⟩

theorem numeralDigits?_digits (h : IsDigits cs) :
    numeralDigits? cs = some (cs.map fun c => c.toNat - '0'.toNat) := by
  obtain ⟨digits, nonempty⟩ := h
  induction cs with
  | nil => exact absurd rfl nonempty
  | cons c rest ih =>
    have first := digit?_of_isAsciiDigit (digits c List.mem_cons_self)
    cases rest with
    | nil => simp [numeralDigits?, first]
    | cons d rest =>
      have later := ih (fun e mem => digits e (List.mem_cons_of_mem c mem)) (by simp)
      have other := ne_of_isAsciiDigit (digits d (by simp)) (by decide : isAsciiDigit '_' = false)
      rw [numeralDigits?, first, later]
      · rfl
      · simp
      · intro rest' same
        exact other (List.cons.inj same).1

theorem readNatural?_digits (h : IsDigits cs) (short : cs.length ≤ maxNumeralDigits) :
    readNatural? cs = some (asciiValue cs) := by
  have digits : cs.filterMap asciiDigit? = cs.map fun c => c.toNat - '0'.toNat := by
    rw [← List.filterMap_eq_map]
    exact List.filterMap_congr fun c mem => asciiDigit?_of_isAsciiDigit (h.digits c mem)
  unfold readNatural?
  rw [numeralDigits?_digits h, asciiValue, digits]
  exact if_pos (by rwa [List.length_map])

theorem isPlainBlank_of_inked (h : isBlank c = false) : isPlainBlank c = false := by
  rw [isPlainBlank, h, Bool.false_and]

theorem readInteger?_of_inked (inked : ∀ c ∈ cs, isBlank c = false) :
    readInteger? cs = readSigned? cs := by
  unfold readInteger?
  rw [trimBy_of_ends]
  · exact fun c mem => isPlainBlank_of_inked (inked c (List.mem_of_mem_head? mem))
  · exact fun c mem => isPlainBlank_of_inked (inked c (List.mem_of_getLast? mem))

theorem readInteger?_digits (h : IsDigits cs) (short : cs.length ≤ maxNumeralDigits) :
    readInteger? cs = some (asciiValue cs : Int) := by
  rw [readInteger?_of_inked h.inked.inked]
  obtain ⟨c, rest, rfl⟩ := List.exists_cons_of_ne_nil h.nonempty
  have digit := h.digits c List.mem_cons_self
  have not_minus := ne_of_isAsciiDigit digit (by decide : isAsciiDigit '-' = false)
  have not_plus := ne_of_isAsciiDigit digit (by decide : isAsciiDigit '+' = false)
  rw [readSigned?, readNatural?_digits h short]
  · rfl
  · intro cs same
    exact not_minus (List.cons.inj same).1
  · intro cs same
    exact not_plus (List.cons.inj same).1

def signOf (negative : Bool) : Char :=
  if negative then '-' else '+'

theorem isBlank_signOf (negative : Bool) : isBlank (signOf negative) = false := by
  cases negative <;> decide

theorem readInteger?_signed (h : IsDigits cs) (short : cs.length ≤ maxNumeralDigits)
    (negative : Bool) :
    readInteger? (signOf negative :: cs) = some (signed negative (asciiValue cs)) := by
  rw [readInteger?_of_inked]
  · cases negative with
    | true => simp [readSigned?, signOf, signed, readNatural?_digits h short]
    | false => simp [readSigned?, signOf, signed, readNatural?_digits h short]
  · intro c mem
    rcases List.mem_cons.mp mem with rfl | later
    · exact isBlank_signOf negative
    · exact h.inked.inked c later

theorem readInteger?_toString {i : Int} (brief : Coercion.IsBrief i) :
    readInteger? (toString i).toList = some i := by
  have digits := isDigits_toDigits i.natAbs
  have value := asciiValue_toDigits i.natAbs
  have whole := signed_natAbs i
  rw [toList_toString]
  generalize decide (i < 0) = negative at whole
  cases negative with
  | true =>
    have read := readInteger?_signed digits brief.length_le true
    rwa [value, whole] at read
  | false =>
    have read := readInteger?_digits digits brief.length_le
    rw [value] at read
    exact read.trans (congrArg some whole)

theorem inked_toString (i : Int) : Inked (toString i).toList := by
  have digits := (isDigits_toDigits i.natAbs).inked
  rw [toList_toString]
  cases decide (i < 0) with
  | true =>
    have sign : Inked ['-'] := inked_of_all (by simp) (by decide)
    exact sign.append digits
  | false => exact digits

theorem numeralDigits?_eq_none (first : digit? c = none) : numeralDigits? (c :: cs) = none := by
  cases cs with
  | nil => simp [numeralDigits?, first]
  | cons d rest =>
    by_cases joined : d = '_'
    · subst joined
      simp [numeralDigits?, first]
    · rw [numeralDigits?, first]
      · rfl
      · simp
      · intro rest' same
        exact joined (List.cons.inj same).1

/-- What starts with no digit and no sign is no integer. -/
theorem readInteger?_eq_none (first : digit? c = none) (unsigned : c ≠ '-' ∧ c ≠ '+')
    (inked : isBlank c = false) (last : ∀ d ∈ (c :: cs).getLast?, isBlank d = false) :
    readInteger? (c :: cs) = none := by
  have kept : trimBy isPlainBlank (c :: cs) = c :: cs := by
    apply trimBy_of_ends
    · intro d mem
      obtain rfl : c = d := by simpa using mem
      exact isPlainBlank_of_inked inked
    · exact fun d mem => isPlainBlank_of_inked (last d mem)
  unfold readInteger?
  rw [kept, readSigned?]
  · unfold readNatural?
    rw [numeralDigits?_eq_none first]
    rfl
  · intro cs same
    exact unsigned.1 (List.cons.inj same).1
  · intro cs same
    exact unsigned.2 (List.cons.inj same).1

end HttpRetry

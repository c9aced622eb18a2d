import HttpRetry.Proofs.Act
import HttpRetry.Proofs.Text.Numeral
import HttpRetry.Value.Json

/-!
# Arrays of integers that are written and read again

The text of an array has a comma between two items, and it may have blanks after each comma. It
reads as the list of the integers.
-/

namespace HttpRetry.Json

variable {n : Nat} {i : Int} {cs rest gap : List Char}

/-! ## Numbers -/

def Ends (rest : List Char) : Prop :=
  rest.head? = some ',' ∨ rest.head? = some ']'

theorem Ends.noDigit (h : Ends rest) : NoDigit rest := by
  rintro c mem
  rcases h with comma | bracket
  · cases comma.symm.trans mem
    decide
  · cases bracket.symm.trans mem
    decide

theorem Ends.splits (h : Ends rest) :
    splitFraction rest = ([], rest) ∧ splitExponent rest = ([], rest) := by
  cases rest with
  | nil => exact ⟨rfl, rfl⟩
  | cons c rest =>
    obtain rfl | rfl : c = ',' ∨ c = ']' := by simpa [Ends] using h
    · exact ⟨rfl, by simp [splitExponent]⟩
    · exact ⟨rfl, by simp [splitExponent]⟩

theorem splitWhole_numeral (numeral : IsNumeral n cs) (ends : NoDigit rest) :
    splitWhole (cs ++ rest) = (cs, rest) := by
  by_cases zero : cs.head? = some '0'
  · rw [numeral.zero zero]
    rfl
  · rw [← span_digits numeral.digits ends]
    cases cs with
    | nil => exact absurd rfl numeral.nonempty
    | cons c tail =>
      unfold splitWhole
      split
      · next eq => exact absurd (congrArg some (List.cons.inj eq).1) zero
      · rfl

theorem readUnsigned_numeral (numeral : IsNumeral n cs) (short : cs.length ≤ maxLiteralDigits)
    (ends : Ends rest) (negative : Bool) (start : List Char) :
    readUnsigned negative start (cs ++ rest) = .ok (Value.int (signed negative n), rest) := by
  obtain ⟨fraction, exponent⟩ := ends.splits
  have nonempty : ¬cs.isEmpty = true := by simpa using numeral.nonempty
  simp only [readUnsigned, splitWhole_numeral numeral ends.noDigit, fraction, exponent,
    numeral.value, if_neg nonempty, if_neg (not_lt.mpr short)]
  rfl

theorem readLiteral?_of_digit {d : Char} (digit : isAsciiDigit d = true) (negative : Bool)
    (tail : List Char) : readLiteral? (minus negative ++ d :: tail) = none := by
  have other {c : Char} (h : isAsciiDigit c = false) : c ≠ d := (ne_of_isAsciiDigit digit h).symm
  have no_n : 'n' ≠ d := other (by decide)
  have no_t : 't' ≠ d := other (by decide)
  have no_f : 'f' ≠ d := other (by decide)
  have no_N : 'N' ≠ d := other (by decide)
  have no_I : 'I' ≠ d := other (by decide)
  have no_minus : '-' ≠ d := other (by decide)
  cases negative with
  | true => simp [readLiteral?, literals, minus, no_I]
  | false => simp [readLiteral?, literals, minus, no_n, no_t, no_f, no_N, no_I, no_minus]

theorem readScalar_numeral (numeral : IsNumeral n cs) (short : cs.length ≤ maxLiteralDigits)
    (ends : Ends rest) (negative : Bool) :
    readScalar (minus negative ++ cs ++ rest) = .ok (Value.int (signed negative n), rest) := by
  have read := readUnsigned_numeral numeral short ends negative
  obtain ⟨d, tail, rfl, digit⟩ := numeral.exists_cons
  have no_literal := readLiteral?_of_digit digit negative (tail ++ rest)
  rw [List.append_assoc, List.cons_append]
  unfold readScalar
  rw [no_literal]
  cases negative with
  | true => exact read _
  | false =>
    simp only [minus]
    split
    · next eq => exact absurd (List.cons.inj eq).1 (ne_of_isAsciiDigit digit (by decide))
    · exact read _

/-! ## Items -/

theorem isSpace_of_isAsciiDigit {d : Char} (digit : isAsciiDigit d = true) : isSpace d = false := by
  rw [Bool.eq_false_iff]
  intro space
  simp only [isSpace, Bool.or_eq_true, decide_eq_true_eq] at space
  rcases space with ((rfl | rfl) | rfl) | rfl <;> cases digit

theorem readValue_digit {d : Char} (digit : isAsciiDigit d = true) (tail : List Char)
    (depth fuel : Nat) :
    readValue depth (fuel + 1) (d :: tail) = readUnsigned false (d :: tail) (d :: tail) := by
  have no_literal : readLiteral? (d :: tail) = none := readLiteral?_of_digit digit false tail
  have quote : d ≠ '"' := ne_of_isAsciiDigit digit (by decide)
  have bracket : d ≠ '[' := ne_of_isAsciiDigit digit (by decide)
  have brace : d ≠ '\x7b' := ne_of_isAsciiDigit digit (by decide)
  have sign : d ≠ '-' := ne_of_isAsciiDigit digit (by decide)
  simp [readValue, readScalar, no_literal, quote, bracket, brace, sign]

theorem readValue_numeral (numeral : IsNumeral n cs) (short : cs.length ≤ maxLiteralDigits)
    (ends : Ends rest) (negative : Bool) (depth fuel : Nat) :
    readValue depth (fuel + 1) (minus negative ++ cs ++ rest) =
      .ok (Value.int (signed negative n), rest) := by
  have read := readScalar_numeral numeral short ends negative
  obtain ⟨d, tail, rfl, digit⟩ := numeral.exists_cons
  cases negative with
  | true =>
    unfold readValue
    exact read
  | false =>
    have unsigned := readUnsigned_numeral numeral short ends false (d :: tail ++ rest)
    exact (readValue_digit digit _ depth fuel).trans unsigned

theorem readValue_toString (brief : Coercion.IsBrief i) (ends : Ends rest) (depth fuel : Nat) :
    readValue depth (fuel + 1) ((toString i).toList ++ rest) = .ok (Value.int i, rest) := by
  have read := readValue_numeral (isNumeral_toDigits i.natAbs) brief.length_le ends (i < 0) depth
    fuel
  rwa [← toList_toString, signed_natAbs] at read

/-- An integer of more digits than are converted is refused. -/
theorem exists_problem_of_long (numeral : IsNumeral n cs) (long : maxLiteralDigits < cs.length) :
    ∃ problem, read (String.ofList cs) = .error problem := by
  have whole : splitWhole (cs ++ []) = (cs, []) := splitWhole_numeral numeral (by simp [NoDigit])
  rw [List.append_nil] at whole
  obtain ⟨d, tail, rfl, digit⟩ := numeral.exists_cons
  have refused : readUnsigned false (d :: tail) (d :: tail) =
      fail (.tooManyDigits (d :: tail).length) (d :: tail) := by
    simp only [readUnsigned, whole, splitFraction, splitExponent, if_pos long]
    rfl
  have mark : (d :: tail).head? ≠ some '\uFEFF' := by
    simpa using ne_of_isAsciiDigit digit (by decide)
  have shown : skipSpace (d :: tail) = d :: tail :=
    List.dropWhile_cons_of_neg (by simp [isSpace_of_isAsciiDigit digit])
  obtain ⟨failure, document⟩ : ∃ failure, readDocument (d :: tail) = .error failure := by
    rw [readDocument, if_neg mark, shown, readValue_digit digit, refused]
    exact ⟨_, rfl⟩
  rw [read, String.toList_ofList, document]
  exact ⟨_, rfl⟩

def itemsText (gap : List Char) (items : List Int) : List Char :=
  (',' :: gap).intercalate (items.map fun i => (toString i).toList)

theorem itemsText_singleton (i : Int) : itemsText gap [i] = (toString i).toList := by
  simp [itemsText]

theorem itemsText_cons_cons (i j : Int) (items : List Int) :
    itemsText gap (i :: j :: items) =
      (toString i).toList ++ (',' :: (gap ++ itemsText gap (j :: items))) := by
  simp [itemsText, List.intercalate_cons_cons]

/-- An item begins with a minus or a digit. -/
theorem exists_itemsText (gap : List Char) (i : Int) (items : List Int) :
    ∃ c tail, itemsText gap (i :: items) = c :: tail ∧ isSpace c = false ∧ c ≠ ']' := by
  have starts (negative : Bool) : ∃ c tail,
      minus negative ++ Nat.toDigits 10 i.natAbs = c :: tail ∧ isSpace c = false ∧ c ≠ ']' := by
    cases negative with
    | true => exact ⟨'-', _, rfl, by decide, by decide⟩
    | false =>
      obtain ⟨d, tail, digits, digit⟩ := (isNumeral_toDigits i.natAbs).exists_cons
      exact ⟨d, tail, digits, isSpace_of_isAsciiDigit digit, ne_of_isAsciiDigit digit (by decide)⟩
  obtain ⟨c, tail, eq, first⟩ := starts (i < 0)
  rw [← toList_toString] at eq
  cases items with
  | nil => exact ⟨c, tail, by rw [itemsText_singleton, eq], first⟩
  | cons j items => exact ⟨c, _, by rw [itemsText_cons_cons, eq]; rfl, first⟩

theorem skipSpace_itemsText (blank : ∀ c ∈ gap, isSpace c = true) (j : Int) (items : List Int)
    (rest : List Char) : skipSpace (gap ++ (itemsText gap (j :: items) ++ rest)) =
      itemsText gap (j :: items) ++ rest := by
  obtain ⟨c, tail, eq, first, -⟩ := exists_itemsText gap j items
  rw [skipSpace, List.dropWhile_append_of_pos blank, eq, List.cons_append,
    List.dropWhile_cons_of_neg (by simp [first])]

section
variable {depth fuel : Nat} {v : Value} {tail after : List Char} {values : List Value}
  (read : readValue depth fuel cs = .ok (v, rest))
include read

theorem readItems_last (close : skipSpace rest = ']' :: tail) :
    readItems depth (fuel + 1) cs = .ok ([v], tail) := by
  simp only [readItems, read, close, bind, Except.bind]
  rfl

theorem readItems_more (comma : skipSpace rest = ',' :: tail)
    (later : readItems depth fuel (skipSpace tail) = .ok (values, after)) :
    readItems depth (fuel + 1) cs = .ok (v :: values, after) := by
  simp only [readItems, read, comma, later, bind, Except.bind]
  rfl

end

theorem readItems_itemsText (blank : ∀ c ∈ gap, isSpace c = true) {items : List Int}
    (brief : ∀ i ∈ items, Coercion.IsBrief i) (nonempty : items ≠ []) {depth fuel : Nat}
    (enough : items.length < fuel) :
    readItems depth fuel (itemsText gap items ++ ']' :: rest) =
      .ok (items.map Value.int, rest) := by
  induction items generalizing fuel with
  | nil => exact absurd rfl nonempty
  | cons i items ih =>
    rw [List.length_cons] at enough
    obtain ⟨fuel, rfl⟩ : ∃ more, fuel = more + 1 + 1 := ⟨fuel - 2, by omega⟩
    have read {after : List Char} (ends : Ends after) :=
      readValue_toString (brief i List.mem_cons_self) ends depth fuel
    cases items with
    | nil =>
      rw [itemsText_singleton]
      exact readItems_last (read (.inr rfl)) rfl
    | cons j items =>
      have later : readItems depth (fuel + 1) (itemsText gap (j :: items) ++ ']' :: rest) =
          .ok ((j :: items).map Value.int, rest) :=
        ih (fun i mem => brief i (List.mem_cons_of_mem _ mem)) (by simp) (by omega)
      rw [← skipSpace_itemsText blank] at later
      rw [itemsText_cons_cons, List.append_assoc, List.cons_append, List.append_assoc]
      exact readItems_more (read (.inl rfl)) rfl later

def arrayText (gap : String) (items : List Int) : String :=
  "[" ++ ("," ++ gap).intercalate (items.map toString) ++ "]"

theorem toList_arrayText (gap : String) (items : List Int) :
    (arrayText gap items).toList = '[' :: (itemsText gap.toList items ++ [']']) := by
  simp [arrayText, itemsText, String.toList_intercalate, Function.comp_def]

theorem readValue_array (blank : ∀ c ∈ gap, isSpace c = true) {items : List Int}
    (brief : ∀ i ∈ items, Coercion.IsBrief i) {depth fuel : Nat} (enough : items.length < fuel) :
    readValue (depth + 1) (fuel + 1) ('[' :: (itemsText gap items ++ [']'])) =
      .ok (.list (items.map Value.int), []) := by
  cases items with
  | nil => rfl
  | cons i items =>
    have read : readItems depth fuel (itemsText gap (i :: items) ++ [']']) = _ :=
      readItems_itemsText blank brief (by simp) enough
    obtain ⟨c, tail, eq, visible, open_⟩ := exists_itemsText gap i items
    rw [eq, List.cons_append] at read ⊢
    have shown : skipSpace (c :: (tail ++ [']'])) = c :: (tail ++ [']']) :=
      List.dropWhile_cons_of_neg (by simp [visible])
    unfold readValue
    simp only [shown]
    split
    · next eq => exact absurd (List.cons.inj eq).1 open_
    · simp only [read, bind, Except.bind]
      rfl

theorem length_le_itemsText (gap : List Char) (items : List Int) :
    items.length ≤ (itemsText gap items).length + 1 := by
  induction items with
  | nil => exact Nat.zero_le _
  | cons i items ih =>
    cases items with
    | nil => exact Nat.le_add_left 1 _
    | cons j items =>
      rw [itemsText_cons_cons, List.length_append, List.length_cons (a := ','), List.length_append]
      simp only [List.length_cons] at ih ⊢
      omega

theorem read_arrayText {gap : String} (blank : ∀ c ∈ gap.toList, isSpace c = true)
    {items : List Int} (brief : ∀ i ∈ items, Coercion.IsBrief i) :
    read (arrayText gap items) = .ok (.list (items.map Value.int)) := by
  have length_le := length_le_itemsText gap.toList items
  rw [read, toList_arrayText, readDocument, if_neg (by simp)]
  generalize length_eq :
    2 * ('[' :: (itemsText gap.toList items ++ [']'])).length = fuel
  have enough : items.length < fuel := by
    rw [List.length_cons, List.length_append, List.length_singleton] at length_eq
    omega
  have array : readValue maxDepth (fuel + 1)
      (skipSpace ('[' :: (itemsText gap.toList items ++ [']']))) = _ :=
    readValue_array blank brief enough
  simp only [array, bind, Except.bind]
  rfl

end HttpRetry.Json

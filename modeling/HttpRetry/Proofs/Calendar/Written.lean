import HttpRetry.Proofs.Calendar.Width
import HttpRetry.Proofs.Text.Case
import HttpRetry.Proofs.Text.Numeral

/-!
# Dates that are written and read again

A date is written with the day before the month and a zone at the end, or in the older form that
has no zone and ends in the year. Both are read as the date that was written.
-/

namespace HttpRetry.MailDate

/-! ## Dates as they are written -/

def weekdayNames : List Word :=
  ["Mon", "Tue", "Wed", "Thu", "Fri", "Sat", "Sun"].map String.toList

def monthNames : List Word :=
  ["Jan", "Feb", "Mar", "Apr", "May", "Jun", "Jul", "Aug", "Sep", "Oct", "Nov", "Dec"].map
    String.toList

def monthName (month : Nat) : Word :=
  monthNames.getD (month - 1) []

inductive Zone where
  | gmt
  | offset (negative : Bool) (hours minutes : Nat)

namespace Zone

def text : Zone → Word
  | gmt => "GMT".toList
  | offset negative hours minutes => signOf negative :: (padded 2 hours ++ padded 2 minutes)

def seconds : Zone → Int
  | gmt => 0
  | offset negative hours minutes => signed negative (hours * 3600 + minutes * 60)

def IsValid : Zone → Prop
  | gmt => True
  | offset _ hours minutes => hours ≤ 23 ∧ minutes ≤ 59

end Zone

def clockText (c : Civil) : Word :=
  [':'].intercalate [padded 2 c.hour, padded 2 c.minute, padded 2 c.second]

/-- A date in the form `Www, dd Mon yyyy HH:MM:SS zone`. -/
def mailText (weekday : Word) (c : Civil) (zone : Zone) : List Char :=
  [' '].intercalate [weekday ++ [','], padded 2 c.day, monthName c.month, padded 4 c.year,
    clockText c, zone.text]

/-- A date in the form `Www Mon d HH:MM:SS yyyy`, with blanks before the day up to a width. -/
def ctimeText (weekday : Word) (c : Civil) (width : Nat) : List Char :=
  [' '].intercalate [weekday, monthName c.month, (Nat.toDigits 10 c.day).leftpad width ' ',
    clockText c, padded 4 c.year]

variable {c : Civil} {weekday : Word} {zone : Zone}

/-! ## Names and digits -/

theorem inked_weekday (named : weekday ∈ weekdayNames) : Inked weekday := by
  have all : ∀ w ∈ weekdayNames, w ≠ [] ∧ w.all (fun c => !isBlank c) = true := by decide
  obtain ⟨nonempty, inked⟩ := all weekday named
  exact inked_of_all nonempty inked

/-- A month by its name. -/
theorem month_name {month : Nat} (one_le : 1 ≤ month) (le : month ≤ 12) :
    Inked (monthName month) ∧ month? (monthName month) = some month := by
  have all : ∀ m ∈ List.range 12, monthName (m + 1) ≠ [] ∧
      (monthName (m + 1)).all (fun c => !isBlank c) = true ∧
        month? (monthName (m + 1)) = some (m + 1) := by decide +kernel
  obtain ⟨nonempty, inked, found⟩ := all (month - 1) (List.mem_range.mpr (by omega))
  rw [Nat.sub_add_cancel one_le] at nonempty inked found
  exact ⟨inked_of_all nonempty inked, found⟩

/-- Digits and signs have no case. -/
theorem mapChar_plain {d : Char} (plain : isAsciiDigit d = true ∨ d = '+' ∨ d = '-') :
    Case.mapChar Case.lowerSequences Case.lowerRuns d = [d] ∧
      Case.mapChar Case.upperSequences Case.upperRuns d = [d] := by
  have all : ∀ n ∈ List.range' 43 15,
      Case.mapChar Case.lowerSequences Case.lowerRuns (Char.ofNat n) = [Char.ofNat n] ∧
        Case.mapChar Case.upperSequences Case.upperRuns (Char.ofNat n) = [Char.ofNat n] := by
    decide +kernel
  have code : 43 ≤ d.toNat ∧ d.toNat < 58 := by
    rcases plain with digit | rfl | rfl
    · have bounds := toNat_of_isAsciiDigit digit
      omega
    · decide
    · decide
  have found := all d.toNat (List.mem_range'_1.mpr code)
  rwa [Char.ofNat_toNat] at found

theorem upper_of_plain {w : Word} (plain : ∀ d ∈ w, isAsciiDigit d = true ∨ d = '+' ∨ d = '-') :
    Case.upper w = w := by
  unfold Case.upper
  rw [List.flatMap_congr fun d mem => (mapChar_plain (plain d mem)).2, List.flatMap_singleton']

theorem lower_of_digits {w : Word} (h : IsDigits w) : Case.lower w = w := by
  have no_sigma : 'Σ' ∉ w := by
    intro mem
    cases h.digits 'Σ' mem
  rw [Case.lower, Case.lowerAfter_eq no_sigma,
    List.flatMap_congr fun d mem => (mapChar_plain (.inl (h.digits d mem))).1,
    List.flatMap_singleton']

theorem month?_of_digits {w : Word} (h : IsDigits w) : month? w = none := by
  have letters : ∀ names ∈ months, ∀ name ∈ names, name.toList.all isAsciiDigit = false := by decide
  rw [month?, Option.map_eq_none_iff, List.findIdx?_eq_none_iff, lowered, lower_of_digits h]
  intro names names_mem
  rw [← Bool.not_eq_true, List.contains_iff_mem]
  intro mem
  have not_digits := letters names names_mem _ mem
  rw [String.toList_ofList, List.all_eq_true.mpr h.digits] at not_digits
  cases not_digits

/-! ## Words to fields -/

theorem not_contains_of_digits {w : Word} (h : IsDigits w) {c : Char}
    (other : isAsciiDigit c = false) : w.contains c = false := by
  rw [← Bool.not_eq_true, List.contains_iff_mem]
  intro mem
  rw [h.digits c mem] at other
  cases other

theorem dropComma_of_last {w : Word} {d : Char} (last : w.getLast? = some d) (other : d ≠ ',') :
    dropComma w = w := by
  have no_comma : endsWithComma w = false := by
    simp [endsWithComma, last, other]
  rw [dropComma, no_comma]
  rfl

theorem dropComma_of_digits {w : Word} (h : IsDigits w) : dropComma w = w := by
  have last := List.getLast?_eq_some_getLast h.nonempty
  refine dropComma_of_last last (ne_of_isAsciiDigit ?_ (by decide))
  exact h.digits _ (List.getLast_mem h.nonempty)

/-- The fields from the five words of a date. -/
theorem fields?_of_words {text : List Char} {day month year time zone year' time' zone' day' : Word}
    {m : Nat} (words_eq : splitZone (splitDashes (dropWeekday (words text))) =
      [day, month, year, time, zone])
    (nonempty : day ≠ [] ∧ month ≠ [] ∧ year ≠ [])
    (found : monthAndDay? day month = some (m, day'))
    (exchanged : exchange year time zone = (year', time', zone')) :
    fields? text = some ⟨dropComma day', m, year', dropComma time', zone'⟩ := by
  unfold fields?
  rw [words_eq]
  simp [nonempty, found, exchanged]

theorem clockText_eq (c : Civil) : clockText c =
    padded 2 c.hour ++ ':' :: (padded 2 c.minute ++ ':' :: padded 2 c.second) := by
  simp [clockText]

theorem inked_clockText (c : Civil) : Inked (clockText c) := by
  have colon : Inked [':'] := inked_of_all (by simp) (by decide)
  have number (n : Nat) : Inked (padded 2 n) := (isDigits_padded 2 n).inked
  rw [clockText_eq]
  apply (number c.hour).append
  apply colon.append
  apply (number c.minute).append
  exact colon.append (number c.second)

/-- A time is told from a year by its colons, of which none is at the start. -/
theorem clockText_spec (c : Civil) : (clockText c).contains ':' = true ∧
    (clockText c).head? ≠ some ':' ∧ dropComma (clockText c) = clockText c := by
  obtain ⟨first, rest, hour_eq⟩ := List.exists_cons_of_ne_nil (isDigits_padded 2 c.hour).nonempty
  have first_digit : isAsciiDigit first = true :=
    (isDigits_padded 2 c.hour).digits first (hour_eq ▸ List.mem_cons_self)
  have seconds := isDigits_padded 2 c.second
  have last_eq := List.getLast?_eq_some_getLast seconds.nonempty
  have last_digit := seconds.digits _ (List.getLast_mem seconds.nonempty)
  refine ⟨?_, ?_, ?_⟩
  · rw [clockText_eq, List.contains_iff_mem]
    simp
  · rw [clockText_eq, hour_eq]
    simpa using ne_of_isAsciiDigit first_digit (by decide)
  · refine dropComma_of_last ?_ (ne_of_isAsciiDigit last_digit (by decide))
    rw [clockText_eq]
    simp [List.getLast?_append, List.getLast?_cons, last_eq]

theorem looksLikeDigit_of_digits {w : Word} (h : IsDigits w) :
    ∃ first rest, w = first :: rest ∧ looksLikeDigit first = true := by
  obtain ⟨first, rest, rfl⟩ := List.exists_cons_of_ne_nil h.nonempty
  refine ⟨first, rest, rfl, ?_⟩
  rw [looksLikeDigit, digit?_of_isAsciiDigit (h.digits first List.mem_cons_self)]
  rfl

/-- A year in its place stays there. -/
theorem exchange_of_digits {year : Word} (h : IsDigits year) (time zone : Word) :
    exchange year time zone = (year, time, zone) := by
  have no_colon := not_contains_of_digits h (by decide : isAsciiDigit ':' = false)
  obtain ⟨first, rest, year_eq, digit⟩ := looksLikeDigit_of_digits h
  unfold exchange
  simp only [no_colon, Bool.false_and, Bool.false_eq_true, if_false, dropComma_of_digits h]
  rw [year_eq]
  simp only [digit, if_true]

/-- A year that stands where the time should be changes places with it. -/
theorem exchange_of_clock {year : Word} (h : IsDigits year) (c : Civil) (zone : Word) :
    exchange (clockText c) year zone = (year, clockText c, zone) := by
  obtain ⟨colon, start, -⟩ := clockText_spec c
  obtain ⟨first, rest, year_eq, digit⟩ := looksLikeDigit_of_digits h
  have swapped :
      ((clockText c).contains ':' && decide ((clockText c).head? ≠ some ':')) = true := by
    rw [colon, decide_eq_true start]
    rfl
  unfold exchange
  simp only [swapped, if_true, dropComma_of_digits h]
  rw [year_eq]
  simp only [digit, if_true]

theorem digits_offset (hours minutes : Nat) : IsDigits (padded 2 hours ++ padded 2 minutes) :=
  (isDigits_padded 2 hours).append (isDigits_padded 2 minutes)

theorem inked_zone (zone : Zone) : Inked zone.text := by
  cases zone with
  | gmt => exact inked_of_all (by decide) (by decide)
  | offset negative hours minutes =>
    have sign : Inked [signOf negative] := ⟨by simp, by simpa using isBlank_signOf negative⟩
    exact sign.append (digits_offset hours minutes).inked

theorem words_mailText (named : weekday ∈ weekdayNames) (ranges : c.InRange) (zone : Zone) :
    words (mailText weekday c zone) = [weekday ++ [','], padded 2 c.day, monthName c.month,
      padded 4 c.year, clockText c, zone.text] := by
  have separator : Inked [','] := inked_of_all (by simp) (by decide)
  have comma : Inked (weekday ++ [',']) := (inked_weekday named).append separator
  obtain ⟨month, -⟩ := month_name ranges.month.1 ranges.month.2
  unfold mailText
  rw [words_intercalate (by decide)]
  simp only [List.flatMap_cons, List.flatMap_nil, comma.words_eq, month.words_eq,
    (isDigits_padded 2 c.day).inked.words_eq, (isDigits_padded 4 c.year).inked.words_eq,
    (inked_clockText c).words_eq, (inked_zone zone).words_eq]
  rfl

theorem words_ctimeText (named : weekday ∈ weekdayNames) (ranges : c.InRange) (width : Nat) :
    words (ctimeText weekday c width) = [weekday, monthName c.month, Nat.toDigits 10 c.day,
      clockText c, padded 4 c.year] := by
  have day : words ((Nat.toDigits 10 c.day).leftpad width ' ') = [Nat.toDigits 10 c.day] := by
    unfold List.leftpad
    rw [words_blanks_append, (isDigits_toDigits c.day).inked.words_eq]
    intro d mem
    rw [List.eq_of_mem_replicate mem]
    decide
  obtain ⟨month, -⟩ := month_name ranges.month.1 ranges.month.2
  unfold ctimeText
  rw [words_intercalate (by decide)]
  simp only [List.flatMap_cons, List.flatMap_nil, (inked_weekday named).words_eq, month.words_eq,
    day, (isDigits_padded 4 c.year).inked.words_eq, (inked_clockText c).words_eq]
  rfl

theorem dropWeekday_comma (weekday : Word) (rest : List Word) :
    dropWeekday ((weekday ++ [',']) :: rest) = rest := by
  have ends : endsWithComma (weekday ++ [',']) = true := by simp [endsWithComma]
  rw [dropWeekday, ends]
  rfl

theorem dropWeekday_name (named : weekday ∈ weekdayNames) (rest : List Word) :
    dropWeekday (weekday :: rest) = rest := by
  have all : ∀ w ∈ weekdayNames, dayNames.contains (lowered w) = true := by decide
  rw [dropWeekday, all weekday named, Bool.or_true]
  rfl

theorem splitZone_of_digits {time : Word} (h : IsDigits time) (day month year : Word) :
    splitZone [day, month, year, time] = [day, month, year, time, []] := by
  have no_plus := not_contains_of_digits h (by decide : isAsciiDigit '+' = false)
  have kept : ∀ d ∈ time, decide (d ≠ '-') = true := fun d mem =>
    decide_eq_true (ne_of_isAsciiDigit (h.digits d mem) (by decide))
  have span_eq : time.span (fun d => decide (d ≠ '-')) = (time, []) := by
    rw [List.span_eq_takeWhile_dropWhile, List.takeWhile_eq_self_iff.mpr kept,
      List.dropWhile_eq_nil_iff.mpr kept]
  simp only [splitZone, no_plus, Bool.false_eq_true, if_false]
  rw [span_eq]
  rfl

theorem fields?_mailText (named : weekday ∈ weekdayNames) (ranges : c.InRange) (zone : Zone) :
    fields? (mailText weekday c zone) =
      some ⟨padded 2 c.day, c.month, padded 4 c.year, clockText c, zone.text⟩ := by
  obtain ⟨month, found⟩ := month_name ranges.month.1 ranges.month.2
  have day := isDigits_padded 2 c.day
  have year := isDigits_padded 4 c.year
  have five : splitZone (splitDashes (dropWeekday (words (mailText weekday c zone)))) =
      [padded 2 c.day, monthName c.month, padded 4 c.year, clockText c, zone.text] := by
    rw [words_mailText named ranges, dropWeekday_comma]
    rfl
  have in_order : monthAndDay? (padded 2 c.day) (monthName c.month) =
      some (c.month, padded 2 c.day) := by
    rw [monthAndDay?, found]
  rw [fields?_of_words five ⟨day.nonempty, month.nonempty, year.nonempty⟩ in_order
    (exchange_of_digits year _ _), dropComma_of_digits day, (clockText_spec c).2.2]

theorem fields?_ctimeText (named : weekday ∈ weekdayNames) (ranges : c.InRange) (width : Nat) :
    fields? (ctimeText weekday c width) =
      some ⟨Nat.toDigits 10 c.day, c.month, padded 4 c.year, clockText c, []⟩ := by
  obtain ⟨month, found⟩ := month_name ranges.month.1 ranges.month.2
  have day := isDigits_toDigits c.day
  have year := isDigits_padded 4 c.year
  have five : splitZone (splitDashes (dropWeekday (words (ctimeText weekday c width)))) =
      [monthName c.month, Nat.toDigits 10 c.day, clockText c, padded 4 c.year, []] := by
    rw [words_ctimeText named ranges, dropWeekday_name named]
    exact splitZone_of_digits year _ _ _
  have reversed : monthAndDay? (monthName c.month) (Nat.toDigits 10 c.day) =
      some (c.month, Nat.toDigits 10 c.day) := by
    rw [monthAndDay?, month?_of_digits day, found, lower_of_digits day]
    rfl
  rw [fields?_of_words five ⟨month.nonempty, day.nonempty, (inked_clockText c).nonempty⟩ reversed
    (exchange_of_clock year c []), dropComma_of_digits day, (clockText_spec c).2.2]

/-! ## Fields to a date -/

theorem readInteger?_padded (width : Nat) {n : Nat} (pos : 0 < width)
    (short : width ≤ maxNumeralDigits) (lt : n < 10 ^ width) :
    readInteger? (padded width n) = some (n : Int) := by
  rw [readInteger?_digits (isDigits_padded width n) (by rwa [length_padded pos lt]),
    asciiValue_padded]

theorem clock?_clockText (ranges : c.InRange) :
    clock? (clockText c) = some ((c.hour : Int), (c.minute : Int), (c.second : Int)) := by
  have colon : isAsciiDigit ':' = false := by decide
  have uncut : ∀ w ∈ [padded 2 c.hour, padded 2 c.minute, padded 2 c.second], ':' ∉ w := by
    have free (n : Nat) : ':' ∉ padded 2 n := by
      intro mem
      rw [(isDigits_padded 2 n).digits ':' mem] at colon
      cases colon
    simp [free]
  have two {n : Nat} (lt : n < 10 ^ 2) : readInteger? (padded 2 n) = some (n : Int) :=
    readInteger?_padded 2 (by decide) (by decide) lt
  have hour := two (ranges.hour.trans (by decide))
  have minute := two (ranges.minute.trans (by decide))
  have second := two (ranges.second.trans (by decide))
  unfold clock?
  rw [if_pos (clockText_spec c).1, clockText, List.splitOn_intercalate ':' uncut (by simp)]
  simp only [hour, minute, second, bind, Option.bind]
  rfl

def numbers (c : Civil) : List Int :=
  [c.year, c.month, c.day, c.hour, c.minute, c.second]

theorem parts?_of_fields {text : List Char} {day zone : Word}
    (fields : fields? text = some ⟨day, c.month, padded 4 c.year, clockText c, zone⟩)
    (day_eq : readInteger? day = some (c.day : Int)) (ranges : c.InRange) (late : 100 ≤ c.year) :
    parts? text = some (numbers c, zone) := by
  have year := readInteger?_padded 4 (by decide) (by decide)
    (lt_of_le_of_lt ranges.year.2 (by decide))
  have full : fullYear c.year = c.year := by
    unfold fullYear
    rw [if_neg (by omega)]
  unfold parts?
  rw [fields]
  simp only [bind, Option.bind, clock?_clockText ranges, year, day_eq, full]
  rfl

theorem parts?_mailText (named : weekday ∈ weekdayNames) (ranges : c.InRange) (late : 100 ≤ c.year)
    (zone : Zone) : parts? (mailText weekday c zone) = some (numbers c, zone.text) := by
  have day := readInteger?_padded 2 (by decide) (by decide)
    (lt_of_le_of_lt ranges.day.2 (by decide))
  exact parts?_of_fields (fields?_mailText named ranges zone) day ranges late

theorem parts?_ctimeText (named : weekday ∈ weekdayNames) (ranges : c.InRange) (late : 100 ≤ c.year)
    (width : Nat) : parts? (ctimeText weekday c width) = some (numbers c, []) := by
  have short : (Nat.toDigits 10 c.day).length ≤ 2 :=
    (Nat.length_toDigits_le_iff (by decide) (by decide)).mpr
      (lt_of_le_of_lt ranges.day.2 (by decide))
  have day := readInteger?_digits (isDigits_toDigits c.day) (short.trans (by decide))
  rw [asciiValue_toDigits] at day
  exact parts?_of_fields (fields?_ctimeText named ranges width) day ranges late

theorem assemble_of_checked {ns : List Int} {offset : Option Int}
    (within : ∀ s ∈ offset, s.natAbs < 86400) (fields : checkFields ns = .ok ())
    (civil : civil? ns = some c) : assemble ns offset = .ok (some ⟨c, offset⟩) := by
  cases offset with
  | none => simp [assemble, fields, civil, bind, Except.bind, pure, Except.pure]
  | some s =>
    have small := within s rfl
    have zone : checkZone s = .ok () := by
      rw [checkZone_eq_ok_iff]
      have floor_eq := Int.fdiv_eq_ediv_of_nonneg s (by decide : (0 : Int) ≤ 86400)
      omega
    simp [assemble, zone, Nat.not_le.mpr small, fields, civil, bind, Except.bind, pure, Except.pure]

theorem assemble_numbers (valid : c.isValid = true) {offset : Option Int}
    (within : ∀ s ∈ offset, s.natAbs < 86400) :
    assemble (numbers c) offset = .ok (some ⟨c, offset⟩) := by
  apply assemble_of_checked within
  · obtain ⟨year, month, day, hour, minute, second⟩ := Civil.inRange_of_isValid valid
    apply checkFields_eq_ok_iff.mpr
    intro n mem
    have le : 0 ≤ n ∧ n ≤ 9999 := by
      simp only [numbers, List.mem_cons, List.not_mem_nil, or_false] at mem
      omega
    omega
  · show (if c.isValid = true then some c else none) = some c
    rw [if_pos valid]

/-! ## Zones -/

theorem zoneNames_lookup (negative : Bool) (rest : Word) :
    zoneNames.lookup (String.ofList (signOf negative :: rest)) = none := by
  have letters : ∀ p ∈ zoneNames, ∀ negative, p.1.toList.head? ≠ some (signOf negative) := by
    decide
  rw [List.lookup_eq_none_iff]
  intro p mem
  rw [bne_iff_ne]
  intro same
  apply letters p mem negative
  rw [← same, String.toList_ofList]
  rfl

theorem readInteger?_offset (negative : Bool) {hours minutes : Nat} (hours_le : hours ≤ 23)
    (minutes_le : minutes ≤ 59) :
    readInteger? (Zone.offset negative hours minutes).text =
      some (signed negative (hours * 100 + minutes)) := by
  have hour := isDigits_padded 2 hours
  have minute := isDigits_padded 2 minutes
  have width : (padded 2 minutes).length = 2 := length_padded (by decide) (by omega)
  have short : (padded 2 hours ++ padded 2 minutes).length ≤ maxNumeralDigits := by
    rw [List.length_append, width, length_padded (by decide) (by omega)]
    decide
  have value : asciiValue (padded 2 hours ++ padded 2 minutes) = hours * 100 + minutes := by
    rw [asciiValue_append hour.digits minute.digits, asciiValue_padded, asciiValue_padded, width]
    norm_num
  rw [Zone.text, readInteger?_signed (digits_offset hours minutes) short, value]

theorem zoneSeconds_signed (negative : Bool) {hours minutes : Nat} (minutes_le : minutes ≤ 59) :
    zoneSeconds (signed negative (hours * 100 + minutes)) =
      signed negative (hours * 3600 + minutes * 60) := by
  cases negative with
  | true =>
    simp only [zoneSeconds, signed, if_true]
    split <;> omega
  | false =>
    simp only [zoneSeconds, signed, Bool.false_eq_true, if_false]
    split <;> omega

theorem plain_offset (negative : Bool) (hours minutes : Nat) :
    ∀ d ∈ (Zone.offset negative hours minutes).text, isAsciiDigit d = true ∨ d = '+' ∨ d = '-' := by
  intro d mem
  rcases List.mem_cons.mp mem with rfl | later
  · right
    cases negative
    · exact .inl rfl
    · exact .inr rfl
  · left
    exact (digits_offset hours minutes).digits d later

theorem zoneNumber?_offset (negative : Bool) {hours minutes : Nat} (hours_le : hours ≤ 23)
    (minutes_le : minutes ≤ 59) :
    zoneNumber? (Zone.offset negative hours minutes).text =
      if negative = true ∧ hours * 100 + minutes = 0 then none
      else some (signed negative (hours * 100 + minutes)) := by
  have read := readInteger?_offset negative hours_le minutes_le
  unfold zoneNumber?
  simp only [upper_of_plain (plain_offset negative hours minutes), read]
  rw [Zone.text, zoneNames_lookup]
  generalize hours * 100 + minutes = total
  simp only [List.head?_cons]
  cases total with
  | zero => cases negative <;> rfl
  | succ n =>
    cases negative
    · rfl
    · rfl

/-- A zone of zero with a minus is read as none, which comes to the same. -/
theorem exists_offset (valid : zone.IsValid) :
    ∃ offset, (zoneNumber? zone.text).map zoneSeconds = offset ∧
      offset.getD 0 = zone.seconds ∧ ∀ s ∈ offset, s.natAbs < 86400 := by
  cases zone with
  | gmt =>
    have named : zoneNumber? Zone.gmt.text = some 0 := by decide
    rw [named]
    exact ⟨some 0, rfl, rfl, by simp⟩
  | offset negative hours minutes =>
    obtain ⟨hours_le, minutes_le⟩ := valid
    rw [zoneNumber?_offset negative hours_le minutes_le]
    by_cases unknown : negative = true ∧ hours * 100 + minutes = 0
    · rw [if_pos unknown]
      obtain ⟨rfl, zero⟩ := unknown
      obtain ⟨rfl, rfl⟩ : hours = 0 ∧ minutes = 0 := by omega
      exact ⟨none, rfl, rfl, by simp⟩
    · rw [if_neg unknown, Option.map_some, zoneSeconds_signed negative minutes_le]
      refine ⟨_, rfl, rfl, ?_⟩
      intro s mem
      obtain rfl := Option.some.inj mem
      unfold signed
      split <;> omega

/-! ## Dates that are read -/

/-- A written date is read as the date that was written. -/
theorem read_mailText (named : weekday ∈ weekdayNames) (valid : c.isValid = true)
    (late : 100 ≤ c.year) (zoned : zone.IsValid) :
    ∃ date, read (mailText weekday c zone) = .ok (some date) ∧ date.IsValid ∧
      date.seconds = c.seconds - zone.seconds := by
  obtain ⟨offset, offset_eq, seconds_eq, within⟩ := exists_offset zoned
  refine ⟨⟨c, offset⟩, ?_, ⟨valid, within⟩, ?_⟩
  · rw [read_eq, parts?_mailText named (Civil.inRange_of_isValid valid) late]
    simp only [offset_eq]
    exact assemble_numbers valid within
  · rw [Zoned.seconds, seconds_eq]

theorem read_ctimeText (named : weekday ∈ weekdayNames) (valid : c.isValid = true)
    (late : 100 ≤ c.year) (width : Nat) :
    ∃ date, read (ctimeText weekday c width) = .ok (some date) ∧ date.IsValid ∧
      date.seconds = c.seconds := by
  have unzoned : zoneNumber? [] = none := by decide
  refine ⟨⟨c, none⟩, ?_, ⟨valid, by simp⟩, ?_⟩
  · rw [read_eq, parts?_ctimeText named (Civil.inRange_of_isValid valid) late]
    simp only [unzoned, Option.map_none]
    exact assemble_numbers valid (by simp)
  · simp [Zoned.seconds]

/-- What starts with the name of a weekday is no integer. -/
theorem not_integer_of_weekday {text : List Char} (named : weekday ∈ weekdayNames)
    (starts : text.head? = weekday.head?) (last : ∀ d ∈ text.getLast?, isBlank d = false) :
    trimBlanks text = text ∧ readInteger? text = none := by
  have letters : ∀ w ∈ weekdayNames, w.head?.all (fun first => decide (digit? first = none ∧
      (first ≠ '-' ∧ first ≠ '+') ∧ isBlank first = false)) = true := by
    decide
  have letter := letters weekday named
  obtain ⟨first, rest, weekday_eq⟩ := List.exists_cons_of_ne_nil (inked_weekday named).nonempty
  rw [weekday_eq, List.head?_cons] at starts letter
  obtain ⟨no_digit, unsigned, inked⟩ := of_decide_eq_true letter
  constructor
  · apply trimBy_of_ends
    · intro d mem
      obtain rfl := Option.some.inj (starts.symm.trans mem)
      exact inked
    · exact last
  · obtain ⟨rest, rfl⟩ := List.head?_eq_some_iff.mp starts
    exact readInteger?_eq_none no_digit unsigned inked last

theorem not_integer_mailText (named : weekday ∈ weekdayNames) (c : Civil) (zone : Zone) :
    trimBlanks (mailText weekday c zone) = mailText weekday c zone ∧
      readInteger? (mailText weekday c zone) = none := by
  have nonempty := (inked_weekday named).nonempty
  apply not_integer_of_weekday named
  · unfold mailText
    rw [head?_intercalate (by simp), List.head?_append_of_ne_nil _ nonempty]
  · have last := getLast?_intercalate (c := ' ') (inked_zone zone).nonempty [weekday ++ [','],
      padded 2 c.day, monthName c.month, padded 4 c.year, clockText c]
    intro d mem
    exact (inked_zone zone).getLast? d (last ▸ mem)

theorem not_integer_ctimeText (named : weekday ∈ weekdayNames) (c : Civil) (width : Nat) :
    trimBlanks (ctimeText weekday c width) = ctimeText weekday c width ∧
      readInteger? (ctimeText weekday c width) = none := by
  have year := (isDigits_padded 4 c.year).inked
  apply not_integer_of_weekday named
  · exact head?_intercalate (inked_weekday named).nonempty _
  · have last := getLast?_intercalate (c := ' ') year.nonempty [weekday, monthName c.month,
      (Nat.toDigits 10 c.day).leftpad width ' ', clockText c]
    intro d mem
    exact year.getLast? d (last ▸ mem)

end HttpRetry.MailDate

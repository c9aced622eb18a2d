import HttpRetry.Proofs.Calendar.Written
import HttpRetry.Proofs.RetryAfter.Answers

/-!
# Delays until dates

Dates of the calendar are fewer than `2 ^ 53` milliseconds apart, so the delay until a date is not
rounded where the current time is a whole second. A date then asks for the same delay as its
distance in seconds does.
-/

namespace HttpRetry.RetryAfter

open MailDate (Zone Word weekdayNames mailText ctimeText)

variable {now : Moment} {c : Civil} {zone : Zone} {weekday : Word} {r : Response}

/-- Dates of the calendar are less than `2 ^ 40` seconds apart. -/
theorem abs_distance_le (valid_now : now.IsValid) {date : MailDate.Zoned} (valid : date.IsValid) :
    |date.seconds - now.civil.seconds| ≤ 2 ^ 40 := by
  have past := Civil.seconds_lt valid_now.1
  have ahead := Civil.seconds_lt valid.civil
  have zone := valid.offset_lt
  unfold MailDate.Zoned.seconds
  rw [abs_le]
  omega

/-- The delay is not rounded. -/
theorem untilDate_of_whole (valid_now : now.IsValid) (whole : now.microsecond = 0)
    {date : MailDate.Zoned} (valid : date.IsValid) :
    untilDate now date = .ok (max (date.seconds - now.civil.seconds) 0 * 1000) := by
  have near := abs_distance_le valid_now valid
  have distance : mkRat (date.seconds * 1000000 - now.micros) 1000000 =
      ((date.seconds - now.civil.seconds : Int) : Rat) := by
    rw [Moment.micros, whole, Rat.mkRat_eq_div]
    push_cast
    ring
  generalize date.seconds - now.civil.seconds = ahead at near distance
  have seconds := Double.toRat?_ofRat_intCast (near.trans (by decide)) false
  have thousand := Double.toRat?_ofInt (by decide : |(1000 : Int)| ≤ 2 ^ 53)
  have near_millis : |ahead * 1000| ≤ 2 ^ 53 := by
    rw [abs_le] at near ⊢
    omega
  have millis : ((Double.ofRat ahead false).mul (Double.ofInt 1000)).toRat? =
      some ((ahead * 1000 : Int) : Rat) := by
    rw [Double.mul_eq_ofRat seconds thousand, ← Int.cast_mul]
    exact Double.toRat?_ofRat_intCast near_millis _
  have truncated := Number.truncate_of_intCast millis
  have scaled : max (ahead * 1000) 0 = max ahead 0 * 1000 := by omega
  simp only [untilDate, distance, truncated, bind, Except.bind, scaled]
  rfl

def secondsUntil (now : Moment) (c : Civil) (zone : Zone) : Int :=
  c.seconds - zone.seconds - now.civil.seconds

theorem readText_of_date {cs : List Char} {date : MailDate.Zoned} (valid_now : now.IsValid)
    (whole : now.microsecond = 0) (not_integer : trimBlanks cs = cs ∧ readInteger? cs = none)
    (read : MailDate.read cs = .ok (some date)) (valid : date.IsValid) :
    readText now (String.ofList cs) =
      .ok (some (max (date.seconds - now.civil.seconds) 0 * 1000)) := by
  obtain ⟨trimmed, no_number⟩ := not_integer
  have delay := untilDate_of_whole valid_now whole valid
  simp only [readText, String.toList_ofList, trimmed, no_number, read, delay, ofRange_ok,
    Except.map]

theorem readText_toString {i : Int} (brief : Coercion.IsBrief i) (now : Moment) :
    readText now (toString i) = .ok (some (max i 0 * 1000)) := by
  have inked := (inked_toString i).inked
  have trimmed : trimBlanks (toString i).toList = (toString i).toList := by
    apply trimBy_of_ends
    · exact fun d mem => inked d (List.mem_of_mem_head? mem)
    · exact fun d mem => inked d (List.mem_of_getLast? mem)
  simp only [readText, trimmed, readInteger?_toString brief]

theorem secondsUntil_brief (valid_now : now.IsValid) (valid : c.isValid = true)
    (zoned : zone.IsValid) : Coercion.IsBrief (secondsUntil now c zone) := by
  obtain ⟨offset, -, seconds_eq, within⟩ := MailDate.exists_offset zoned
  have date_valid : (⟨c, offset⟩ : MailDate.Zoned).IsValid := ⟨valid, within⟩
  have distance := abs_distance_le valid_now date_valid
  rw [MailDate.Zoned.seconds, seconds_eq] at distance
  have near : |secondsUntil now c zone| ≤ 2 ^ 40 := distance
  have small : (secondsUntil now c zone).natAbs < 10 ^ 13 := by
    rw [abs_le] at near
    omega
  exact small.trans_le (Nat.pow_le_pow_right (by decide) (by decide))

/-- A date from year 100 on, in the form of mail and in any zone, asks for the same delay as the
number of seconds until then, which is that number if it is not negative. So does a date of
universal time in the older form. -/
theorem millis_of_date (valid_now : now.IsValid) (whole : now.microsecond = 0)
    (named : weekday ∈ weekdayNames) (valid : c.isValid = true) (late : 100 ≤ c.year)
    (zoned : zone.IsValid) {dated numbered : Response}
    (date_field : dated.headers.get? fieldName =
      some (.text (String.ofList (mailText weekday c zone))))
    (number_field : numbered.headers.get? fieldName =
      some (.text (toString (secondsUntil now c zone)))) :
    millis now dated = millis now numbered ∧
      millis now numbered = .ok (some (max (secondsUntil now c zone) 0 * 1000)) ∧
      ∀ width (older : Response), zone = .gmt → older.headers.get? fieldName =
        some (.text (String.ofList (ctimeText weekday c width))) →
          millis now older = millis now numbered := by
  have delay : millis now numbered = .ok (some (max (secondsUntil now c zone) 0 * 1000)) := by
    rw [millis_eq_readText number_field]
    exact readText_toString (secondsUntil_brief valid_now valid zoned) now
  refine ⟨?_, delay, fun width older universal older_field => ?_⟩
  · obtain ⟨date, read, date_valid, seconds_eq⟩ := MailDate.read_mailText named valid late zoned
    rw [delay, millis_eq_readText date_field, readText_of_date valid_now whole
      (MailDate.not_integer_mailText named c zone) read date_valid, seconds_eq]
    rfl
  · subst universal
    obtain ⟨date, read, date_valid, seconds_eq⟩ := MailDate.read_ctimeText named valid late width
    rw [delay, millis_eq_readText older_field, readText_of_date valid_now whole
      (MailDate.not_integer_ctimeText named c width) read date_valid, seconds_eq]
    simp only [secondsUntil, Zone.seconds, sub_zero]

def soon : Civil := ⟨2024, 1, 1, 12, 0, 30⟩

/-- The same delay in three ways. -/
theorem millis_of_date_soon :
    millis noon (unavailable "Mon, 01 Jan 2024 12:00:30 GMT") = millis noon (unavailable "30") ∧
      millis noon (unavailable "30") = .ok (some 30000) ∧
      millis noon (unavailable "Mon Jan  1 12:00:30 2024") = millis noon (unavailable "30") := by
  have ahead : secondsUntil noon soon .gmt = 30 := by decide
  have mail : String.ofList (mailText "Mon".toList soon .gmt) =
      "Mon, 01 Jan 2024 12:00:30 GMT" := by
    decide
  have older : String.ofList (ctimeText "Mon".toList soon 2) = "Mon Jan  1 12:00:30 2024" := by
    decide
  have date_field : (unavailable "Mon, 01 Jan 2024 12:00:30 GMT").headers.get? fieldName =
      some (.text (String.ofList (mailText "Mon".toList soon .gmt))) := by
    rw [mail]
    rfl
  have number_field : (unavailable "30").headers.get? fieldName =
      some (.text (toString (secondsUntil noon soon .gmt))) := by
    rw [ahead]
    rfl
  have valid_now : noon.IsValid := by decide
  have named : "Mon".toList ∈ weekdayNames := by decide
  have universal : Zone.gmt.IsValid := trivial
  obtain ⟨same, delay, same_older⟩ := millis_of_date valid_now rfl named (by decide) (by decide)
    universal date_field number_field
  rw [ahead] at delay
  refine ⟨same, delay, same_older 2 _ rfl ?_⟩
  rw [older]
  rfl

end HttpRetry.RetryAfter

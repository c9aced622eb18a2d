import HttpRetry.Proofs.Calendar.Width
import HttpRetry.Proofs.Number.Product
import HttpRetry.Proofs.RetryAfter
import HttpRetry.Request.Handling

/-!
# Answers to delays that servers ask for

A text gives a delay, gives none, or is a date that is too wide for the calendar. Only the
last kind makes the reader fail, and with it the handler that asked.
-/

namespace HttpRetry.RetryAfter

variable {now : Moment} {text : String} {r : Response}

theorem exists_untilDate {date : MailDate.Zoned} (valid_now : now.IsValid) (valid : date.IsValid) :
    ∃ delay, untilDate now date = .ok delay := by
  have past := Civil.seconds_lt valid_now.1
  have ahead := Civil.seconds_lt valid.civil
  obtain ⟨-, below⟩ := valid_now
  have zone := valid.offset_lt
  generalize x_eq : mkRat (date.seconds * 1000000 - now.micros) 1000000 = x
  -- two dates of the calendar are less than `2 ^ 40` seconds apart
  have near : |x| ≤ 2 ^ 40 := by
    have micros_le : |date.seconds * 1000000 - now.micros| ≤ 2 ^ 40 * 1000000 := by
      unfold MailDate.Zoned.seconds Moment.micros
      rw [abs_le]
      omega
    rw [← x_eq, Rat.mkRat_eq_div, abs_div, div_le_iff₀ (by norm_num)]
    exact_mod_cast micros_le
  have within : (2 : Rat) ^ 50 < Double.overflow := Double.two_pow_lt_overflow (by decide)
  have thousand : (Double.ofInt 1000).toRat? = some 1000 := Double.toRat?_ofInt (by decide)
  obtain ⟨seconds, value, size⟩ : ∃ q, (Double.ofRat x false).toRat? = some q ∧
      |q| = Double.rounded |x| :=
    Double.exists_toRat?_ofRat (near.trans_lt (lt_trans (by norm_num) within))
  have millis_lt : |seconds * 1000| < Double.overflow := by
    have le : |seconds| ≤ 2 ^ 40 := by
      rw [size, ← Double.rounded_two_pow (by decide : 40 ≤ 1023)]
      exact Double.rounded_mono (abs_nonneg x) near
    rw [abs_mul, abs_of_pos (by norm_num : (0 : Rat) < 1000)]
    linarith
  have finite := (Double.isFinite_mul_iff value thousand).mpr millis_lt
  cases whole : (Number.double ((Double.ofRat x false).mul (Double.ofInt 1000))).truncate with
  | ok millis => exact ⟨max millis 0, by simp [untilDate, x_eq, whole, bind, Except.bind]; rfl⟩
  | error e =>
    cases h : (Double.ofRat x false).mul (Double.ofInt 1000) with
    | finite => simp [h, Number.truncate] at whole
    | nan => simp [h, Double.isFinite] at finite
    | inf => simp [h, Double.isFinite] at finite

def IsUnreadable (text : String) : Prop :=
  readInteger? (trimBlanks text.toList) = none ∧ MailDate.Exceeds (trimBlanks text.toList)

instance (text : String) : Decidable (IsUnreadable text) :=
  inferInstanceAs (Decidable (_ ∧ _))

theorem readText_of_isUnreadable (unreadable : IsUnreadable text) (now : Moment) :
    ∃ o, readText now text = .error (.calendar o) := by
  obtain ⟨no_number, exceeds⟩ := unreadable
  have outcome := MailDate.outcome_read (trimBlanks text.toList)
  cases read : MailDate.read (trimBlanks text.toList) with
  | error o => exact ⟨o, by simp [readText, no_number, read]⟩
  | ok =>
    rw [read] at outcome
    cases outcome with
    | nothing narrow => exact absurd exceeds narrow
    | date narrow => exact absurd exceeds narrow

theorem readText_of_not_isUnreadable (readable : ¬IsUnreadable text) (valid : now.IsValid) :
    ∃ answer, readText now text = .ok answer := by
  cases number : readInteger? (trimBlanks text.toList) with
  | some seconds => exact ⟨some (max seconds 0 * 1000), by simp only [readText, number]⟩
  | none =>
    have narrow : ¬MailDate.Exceeds (trimBlanks text.toList) := fun h => readable ⟨number, h⟩
    have outcome := MailDate.outcome_read (trimBlanks text.toList)
    generalize read : MailDate.read (trimBlanks text.toList) = result at outcome
    cases outcome with
    | overflow o wide => exact absurd wide narrow
    | nothing => exact ⟨none, by simp only [readText, number, read]⟩
    | @date z _ valid_date =>
      obtain ⟨delay, delay_eq⟩ := exists_untilDate valid valid_date
      exact ⟨some delay, by simp only [readText, number, read, delay_eq, ofRange_ok, Except.map]⟩

theorem millis_eq_readText (field : r.headers.get? fieldName = some (.text text)) :
    millis now r = readText now text := by
  simp only [millis, field]
  rfl

/-- With the reader fails the handler that would retry the status, before it waits. -/
theorem answerStatus_of_isUnreadable {σ ε : Type} (host : Host σ ε) {p : Policy} {s : Stage σ}
    (retryable : p.isRetryable r.status = .ok true)
    (field : r.headers.get? fieldName = some (.text text)) (unreadable : IsUnreadable text)
    (generator : Nat) :
    ∃ o, Handling.answerStatus host (some p) generator r true s =
      ⟨.error (.calendar o), s, []⟩ := by
  obtain ⟨o, read⟩ := readText_of_isUnreadable unreadable (host.today s.outer)
  rw [← millis_eq_readText field] at read
  exact ⟨o, by simp [Handling.answerStatus, Handling.waitForStatus, bind, Act.andThen, retryable,
    read]⟩

/-- A text that can be read gives no delay or one that is not negative; any other text makes
the reader fail. -/
theorem millis_of_text (field : r.headers.get? fieldName = some (.text text))
    (valid : now.IsValid) :
    (¬IsUnreadable text → ∃ answer, millis now r = .ok answer ∧ ∀ delay ∈ answer, 0 ≤ delay) ∧
    (IsUnreadable text → ∃ o, millis now r = .error (.calendar o)) := by
  rw [millis_eq_readText field]
  constructor
  · intro readable
    obtain ⟨answer, read⟩ := readText_of_not_isUnreadable readable valid
    refine ⟨answer, read, ?_⟩
    rintro delay rfl
    exact readText_nonneg read
  · intro unreadable
    exact readText_of_isUnreadable unreadable now

def unavailable (text : String) : Response :=
  { Response.ofStatus 503 with headers := .caseless [(fieldName, .text text)] }

def noon : Moment := ⟨⟨2024, 1, 1, 12, 0, 0⟩, 0⟩

/-- A date of the past can be read, and asks for no more than no delay. -/
theorem millis_of_text_past :
    noon.IsValid ∧ ∃ answer, millis noon (unavailable "Fri, 31 Dec 1999 23:59:59 GMT") =
      .ok answer ∧ ∀ delay ∈ answer, 0 ≤ delay := by
  have valid : noon.IsValid := by decide
  exact ⟨valid, (millis_of_text rfl valid).1 (by decide +kernel)⟩

/-- A day of eleven digits is enough to make the reader fail. -/
theorem millis_raises :
    ∃ o, millis noon (unavailable "Mon, 99999999999 Jan 2024 00:00:00 GMT") =
      .error (.calendar o) := by
  rw [millis_eq_readText rfl]
  exact readText_of_isUnreadable (by decide +kernel) noon

end HttpRetry.RetryAfter

import HttpRetry.RetryAfter

/-!
# Delays that servers ask for

Whether a response asks for a delay does not depend on the moment at which it is
read, and a delay is never negative.
-/

namespace HttpRetry.RetryAfter

variable {now : Moment} {text : String} {r : Response} {delay : Int}

theorem readText_eq_none_iff : readText now text = .ok none ↔
    readInteger? (trimBlanks text.toList) = none ∧
      MailDate.read (trimBlanks text.toList) = .ok none := by
  simp only [readText]
  split
  · rename_i h
    simp [h]
  · rename_i h
    split
    · rename_i h'
      simp [h, h']
    · rename_i h'
      simp [h, h']
    · rename_i date h'
      cases untilDate now date <;> simp [h, h', Except.map]

theorem readText_nonneg (h : readText now text = .ok (some delay)) : 0 ≤ delay := by
  simp only [readText] at h
  split at h
  · simp only [Except.ok.injEq, Option.some.injEq] at h
    omega
  · split at h
    · cases h
    · cases h
    · rename_i date _
      cases hd : untilDate now date with
      | error => simp [hd, Except.map] at h
      | ok millis =>
        simp only [hd, ofRange_ok, Except.map, Except.ok.injEq,
          Option.some.injEq] at h
        subst h
        simp only [untilDate] at hd
        generalize (Number.double _).truncate = whole at hd
        cases whole with
        | error => simp [bind, Except.bind] at hd
        | ok whole =>
          simp only [bind, Except.bind, pure, Except.pure, Except.ok.injEq] at hd
          omega

/-- A response has no field, one that cannot be shown, or one with a text. -/
theorem millis_cases (r : Response) : (∀ now, millis now r = .ok none) ∨
    (∃ fault, ∀ now, millis now r = .error fault) ∨
      ∃ text, ∀ now, millis now r = readText now text := by
  unfold millis
  split
  · exact .inl fun _ => rfl
  · exact .inl fun _ => rfl
  · rename_i v _ _
    cases plainText v with
    | error fault => exact .inr (.inl ⟨fault, fun _ => rfl⟩)
    | ok text => exact .inr (.inr ⟨text, fun _ => rfl⟩)

def isGiven (r : Response) : Bool :=
  match millis ⟨⟨1, 1, 1, 0, 0, 0⟩, 0⟩ r with
  | .ok none => false
  | _ => true

theorem millis_eq_none (now' : Moment) (h : millis now r = .ok none) :
    millis now' r = .ok none := by
  obtain none | ⟨fault, h'⟩ | ⟨text, h'⟩ := millis_cases r
  · exact none now'
  · simp [h'] at h
  · rw [h'] at h ⊢
    exact readText_eq_none_iff.mpr (readText_eq_none_iff.mp h)

theorem isGiven_eq_false_iff (now : Moment) : isGiven r = false ↔ millis now r = .ok none := by
  unfold isGiven
  split
  · rename_i h
    exact ⟨fun _ => millis_eq_none now h, fun _ => rfl⟩
  · rename_i h
    exact ⟨fun h' => (by cases h'), fun h' => absurd (millis_eq_none _ h') h⟩

theorem millis_nonneg (h : millis now r = .ok (some delay)) : 0 ≤ delay := by
  obtain none | ⟨fault, h'⟩ | ⟨text, h'⟩ := millis_cases r
  · simp [none] at h
  · simp [h'] at h
  · exact readText_nonneg ((h' now).symm.trans h)

end HttpRetry.RetryAfter

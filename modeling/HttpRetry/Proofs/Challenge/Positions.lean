import HttpRetry.Proofs.Challenge.Pieces

/-!
# Where a bearer stands

In any field, and for any status, new credentials are asked for if a piece holds a report and
a piece that starts with `Bearer` stands before it or is the same. What comes before the first
such piece has no part in the decision. The status has a part only where there is none.
-/

namespace HttpRetry.Challenge

variable {ps : List (List Char)}

/-! ## Positions -/

theorem reportsInvalidToken_iff_getElem? : ReportsInvalidToken ps ↔
    ∃ (i j : Nat) (p q : List Char), i ≤ j ∧ ps[i]? = some p ∧ ps[j]? = some q ∧ bearer <+: p ∧
      HoldsReport (withoutBearer q) := by
  constructor
  · rintro ⟨before, p, after, rfl, begins, q, hq, reports⟩
    obtain ⟨k, hk⟩ := List.mem_iff_getElem?.mp hq
    refine ⟨before.length, before.length + k, p, q, Nat.le_add_right _ _, ?_, ?_, begins, reports⟩
    · rw [List.getElem?_append_right (Nat.le_refl _), Nat.sub_self, List.getElem?_cons_zero]
    · rw [List.getElem?_append_right (Nat.le_add_right _ _), Nat.add_sub_cancel_left, hk]
  · rintro ⟨i, j, p, q, le, hp, hq, begins, reports⟩
    obtain ⟨within, p_eq⟩ := List.getElem?_eq_some_iff.mp hp
    have rest_eq : ps.drop i = p :: ps.drop (i + 1) := by
      rw [List.drop_eq_getElem_cons within, p_eq]
    refine ⟨ps.take i, p, ps.drop (i + 1), ?_, begins, q, ?_, reports⟩
    · rw [← rest_eq, List.take_append_drop]
    · rw [← rest_eq, List.mem_iff_getElem?]
      exact ⟨j - i, by rw [List.getElem?_drop, Nat.add_sub_cancel' le, hq]⟩

/-! ## From the first bearer on -/

def fromBearer (ps : List (List Char)) : List (List Char) :=
  ps.dropWhile fun piece => !bearer.isPrefixOf piece

theorem fromBearer_cons (piece : List Char) (rest : List (List Char)) :
    fromBearer (piece :: rest) = if bearer <+: piece then piece :: rest else fromBearer rest := by
  unfold fromBearer
  by_cases begins : bearer <+: piece
  · have found : bearer.isPrefixOf piece = true := List.isPrefixOf_iff_prefix.mpr begins
    simp [found, begins]
  · have skipped : ¬bearer.isPrefixOf piece = true := mt List.isPrefixOf_iff_prefix.mp begins
    simp [skipped, begins]

theorem fromBearer_eq_nil_iff : fromBearer ps = [] ↔ ∀ p ∈ ps, ¬bearer <+: p := by
  induction ps with
  | nil => simp [fromBearer]
  | cons piece rest ih =>
    rw [fromBearer_cons, List.forall_mem_cons, ← ih]
    split
    · simp [*]
    · simp [*]

theorem reportsInvalidToken_iff_fromBearer : ReportsInvalidToken ps ↔
    ∃ q ∈ fromBearer ps, HoldsReport (withoutBearer q) := by
  induction ps with
  | nil => simp [ReportsInvalidToken, fromBearer]
  | cons piece rest ih =>
    rw [reportsInvalidToken_cons, ih, fromBearer_cons]
    by_cases begins : bearer <+: piece
    · rw [if_pos begins]
      constructor
      · rintro (⟨-, reports⟩ | ⟨q, hq, reports⟩)
        · exact reports
        · exact ⟨q, List.mem_cons_of_mem _ (List.dropWhile_subset _ hq), reports⟩
      · intro reports
        exact .inl ⟨begins, reports⟩
    · simp [begins]

/-! ## Statuses -/

/-- The status is the number 401, of whatever kind. -/
theorem isUnauthorized_iff {status : Value} : isUnauthorized status = true ↔
    ∃ n, status.number? = some n ∧ n.toRat? = some 401 := by
  unfold isUnauthorized
  cases number : status.number? with
  | none => simp
  | some n =>
    rw [Number.same_int_iff]
    simp [Defaults.unauthorizedStatus]

/-! ## Responses -/

theorem exists_of_fieldText {r : Response} {fault : Fault} (h : fieldText r = .error fault) :
    ∃ v, r.headers.get? fieldName = some v ∧ plainText v = .error fault := by
  unfold fieldText at h
  split at h
  case h_1 => cases h
  case h_2 v given =>
    split at h
    · exact ⟨v, given, h⟩
    · cases h

/-- Unless its field cannot be shown as a text, a response asks for new credentials if and only
if one of its pieces starts with `Bearer` and that piece or a later one holds a report, not
counting the word at its beginning, or no piece starts with `Bearer` and the status is 401.
Pieces before the first bearer, and the status, never matter where there is one. -/
theorem needsRefresh_of_pieces (r : Response) :
    (∃ v fault, r.headers.get? fieldName = some v ∧ plainText v = .error fault ∧
      needsRefresh r = .error fault) ∨
    ∃ text b, fieldText r = .ok text ∧ needsRefresh r = .ok b ∧
      (b = true ↔
        (∃ (i j : Nat) (p q : List Char), i ≤ j ∧ (pieces text)[i]? = some p ∧
          (pieces text)[j]? = some q ∧ bearer <+: p ∧ HoldsReport (withoutBearer q)) ∨
        (∀ p ∈ pieces text, ¬bearer <+: p) ∧
          ∃ n, r.status.number? = some n ∧ n.toRat? = some 401) ∧
      ∀ r' text', fieldText r' = .ok text' → fromBearer (pieces text) ≠ [] →
        fromBearer (pieces text') = fromBearer (pieces text) → needsRefresh r' = .ok b := by
  cases field : fieldText r with
  | error fault =>
    obtain ⟨v, given, unshown⟩ := exists_of_fieldText field
    refine .inl ⟨v, fault, given, unshown, ?_⟩
    rw [needsRefresh, ofResponse_eq_map, field]
    rfl
  | ok text =>
    obtain ⟨b, needs, asks⟩ := needsRefresh_of_fieldText field
    refine .inr ⟨text, b, rfl, needs, ?_, fun r' text' field' bearers same => ?_⟩
    · rw [asks, reportsInvalidToken_iff_getElem?, isUnauthorized_iff]
    · obtain ⟨b', needs', asks'⟩ := needsRefresh_of_fieldText field'
      rw [reportsInvalidToken_iff_fromBearer, ← fromBearer_eq_nil_iff] at asks asks'
      rw [same] at asks'
      have agree : b' = b := by
        rw [Bool.eq_iff_iff, asks, asks']
        simp [bearers]
      rw [needs', agree]

/-- A field without a text has no pieces. -/
example : pieces "" = [] := by decide

def challenging (code : Int) (text : String) : Response :=
  { Response.ofStatus code with headers := .caseless [(fieldName, .text text)] }

theorem get?_challenging (code : Int) (text : String) :
    (challenging code text).headers.get? fieldName = some (.text text) := by
  simp [challenging, Headers.get?]

/-- The report of another scheme before the first bearer does not matter, nor does the status. -/
theorem needsRefresh_of_pieces_other_scheme :
    needsRefresh (challenging 401 "Basic error=invalid_token, Bearer scope=a") = .ok false ∧
      needsRefresh (challenging 403 "Bearer scope=a") = .ok false := by
  have given := get?_challenging 401 "Basic error=invalid_token, Bearer scope=a"
  have given' := get?_challenging 403 "Bearer scope=a"
  rcases needsRefresh_of_pieces (challenging 401 "Basic error=invalid_token, Bearer scope=a") with
    ⟨v, fault, found, unshown, -⟩ | ⟨text, b, read, needs, asks, alike⟩
  · obtain rfl := Option.some.inj (given.symm.trans found)
    cases unshown
  · obtain rfl := Except.ok.inj ((fieldText_of_text given).symm.trans read)
    rw [← reportsInvalidToken_iff_getElem?, ← isUnauthorized_iff] at asks
    have declined : b = false :=
      Bool.eq_false_iff.mpr fun asked => absurd (asks.mp asked) (by decide)
    subst declined
    exact ⟨needs, alike _ _ (fieldText_of_text given') (by decide) (by decide)⟩

end HttpRetry.Challenge

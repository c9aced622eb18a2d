import Mathlib.Data.List.DropRight
import Mathlib.Data.List.Infix
import Mathlib.Data.List.TakeWhile
import HttpRetry.Challenge
import HttpRetry.Proofs.Number.Order

/-!
# Pieces of a challenge field

What a field comes to depends on its pieces alone: new credentials are asked for if a piece
that starts with `Bearer`, or one after it, holds a report of an invalid token, and without
such a piece the status decides.
-/

namespace HttpRetry.Challenge

/-! ## Reports -/

theorem after?_eq_some {start cs rest : List Char} :
    after? start cs = some rest ↔ cs = start ++ rest := by
  unfold after?
  by_cases begins : start.isPrefixOf cs = true
  · obtain ⟨tail, rfl⟩ := List.isPrefixOf_iff_prefix.mp begins
    simp
  · simp only [begins, Bool.false_eq_true, if_false]
    constructor
    · intro h
      cases h
    · rintro rfl
      exact absurd (List.isPrefixOf_iff_prefix.mpr (List.prefix_append start rest)) begins

/-- An equals sign with blanks around it, and `invalid_token`, with a quote before it or
without. -/
def IsAssignment (cs : List Char) : Prop :=
  ∃ a b quote : List Char, (∀ c ∈ a, isBlank c = true) ∧ (∀ c ∈ b, isBlank c = true) ∧
    (quote = [] ∨ quote = ['"']) ∧ cs = a ++ '=' :: (b ++ (quote ++ "invalid_token".toList))

def IsReport (cs : List Char) : Prop :=
  ∃ assignment, IsAssignment assignment ∧ cs = "error".toList ++ assignment

def HoldsReport (cs : List Char) : Prop :=
  ∃ report, IsReport report ∧ report <:+: cs

theorem dropWhile_blanks {a rest : List Char} {c : Char} (blanks : ∀ c ∈ a, isBlank c = true)
    (inked : isBlank c = false) : (a ++ c :: rest).dropWhile isBlank = c :: rest := by
  rw [List.dropWhile_append_of_pos blanks, List.dropWhile_cons_of_neg (by simp [inked])]

theorem exists_blanks (cs : List Char) :
    ∃ a, (∀ c ∈ a, isBlank c = true) ∧ cs = a ++ cs.dropWhile isBlank :=
  ⟨cs.takeWhile isBlank, fun _ hc => List.mem_takeWhile_imp hc,
    List.takeWhile_append_dropWhile.symm⟩

/-- The rest of a report after its equals sign. -/
theorem value_iff {rest : List Char} :
    "invalid_token".toList <+: (match rest.dropWhile isBlank with
      | '"' :: value => value
      | value => value) ↔
    ∃ b quote : List Char, (∀ c ∈ b, isBlank c = true) ∧ (quote = [] ∨ quote = ['"']) ∧
      b ++ (quote ++ "invalid_token".toList) <+: rest := by
  constructor
  · intro h
    obtain ⟨b, blanks, rest_eq⟩ := exists_blanks rest
    split at h
    case h_1 value inked =>
      obtain ⟨after, rfl⟩ := h
      refine ⟨b, ['"'], blanks, .inr rfl, after, ?_⟩
      rw [rest_eq, inked]
      simp
    case h_2 value inked =>
      obtain ⟨after, value_eq⟩ := h
      refine ⟨b, [], blanks, .inl rfl, after, ?_⟩
      rw [rest_eq, ← value_eq]
      simp
  · rintro ⟨b, quote, blanks, quoted, after, rfl⟩
    rcases quoted with rfl | rfl
    · have inked : (b ++ ([] ++ "invalid_token".toList) ++ after).dropWhile isBlank =
          "invalid_token".toList ++ after := by
        simpa using dropWhile_blanks (c := 'i') blanks (by decide)
      rw [inked]
      exact ⟨after, rfl⟩
    · have inked : (b ++ (['"'] ++ "invalid_token".toList) ++ after).dropWhile isBlank =
          '"' :: ("invalid_token".toList ++ after) := by
        simpa using dropWhile_blanks (c := '"') blanks (by decide)
      rw [inked]
      exact ⟨after, rfl⟩

theorem startsWithReport_iff {cs : List Char} :
    startsWithReport cs = true ↔ ∃ report, IsReport report ∧ report <+: cs := by
  unfold startsWithReport
  constructor
  · intro h
    cases error : after? "error".toList cs with
    | none =>
      rw [error] at h
      cases h
    | some rest =>
      rw [error, Option.map_some] at h
      obtain rfl := after?_eq_some.mp error
      obtain ⟨a, blanks, rest_eq⟩ := exists_blanks rest
      split at h
      case h_1 value equals =>
        obtain ⟨b, quote, blanks', quoted, after, value_eq⟩ :=
          value_iff.mp (List.isPrefixOf_iff_prefix.mp h)
        rw [Option.some.injEq] at equals
        refine ⟨_, ⟨_, ⟨a, b, quote, blanks, blanks', quoted, rfl⟩, rfl⟩, after, ?_⟩
        rw [rest_eq, equals, ← value_eq]
        simp
      case h_2 => cases h
  · rintro ⟨-, ⟨-, ⟨a, b, quote, blanks, blanks', quoted, rfl⟩, rfl⟩, after, rfl⟩
    have error : after? "error".toList
        ("error".toList ++ (a ++ '=' :: (b ++ (quote ++ "invalid_token".toList))) ++ after) =
          some (a ++ '=' :: (b ++ (quote ++ "invalid_token".toList) ++ after)) := by
      apply after?_eq_some.mpr
      simp
    rw [error, Option.map_some, dropWhile_blanks blanks (by decide)]
    apply List.isPrefixOf_iff_prefix.mpr
    exact value_iff.mpr ⟨b, quote, blanks', quoted, after, rfl⟩

theorem reportsInvalidToken_iff {cs : List Char} :
    reportsInvalidToken cs = true ↔ HoldsReport cs := by
  unfold HoldsReport
  induction cs with
  | nil =>
    constructor
    · intro h
      cases h
    · rintro ⟨-, ⟨assignment, -, rfl⟩, inside⟩
      have empty := List.eq_nil_of_infix_nil inside
      cases empty
  | cons c rest ih =>
    unfold reportsInvalidToken
    simp only [Bool.or_eq_true, startsWithReport_iff, ih, List.infix_cons_iff]
    constructor
    · rintro (⟨report, isReport, begins⟩ | ⟨report, isReport, inside⟩)
      · exact ⟨report, isReport, .inl begins⟩
      · exact ⟨report, isReport, .inr inside⟩
    · rintro ⟨report, isReport, begins | inside⟩
      · exact .inl ⟨report, isReport, begins⟩
      · exact .inr ⟨report, isReport, inside⟩

theorem HoldsReport.of_infix {cs ds : List Char} (h : HoldsReport cs) (inside : cs <:+: ds) :
    HoldsReport ds := by
  obtain ⟨report, isReport, within⟩ := h
  exact ⟨report, isReport, within.trans inside⟩

/-! ## Cuts at commas -/

def cut (cs : List Char) : List (List Char) :=
  ((cs.splitOn ',').map trimBlanks).filter (!·.isEmpty)

def later (cs : List Char) : List (List Char) :=
  ((cs.splitOn ',').tail.map trimBlanks).filter (!·.isEmpty)

theorem pieces_ofList (cs : List Char) : pieces (String.ofList cs) = cut cs := by
  rw [pieces, String.toList_ofList]
  rfl

theorem cut_append_comma (a b : List Char) : cut (a ++ ',' :: b) = cut a ++ cut b := by
  unfold cut List.splitOn
  rw [List.splitOnP_append_cons a b rfl, List.map_append, List.filter_append]

theorem splitOn_append {a : List Char} (uncut : ',' ∉ a) (b : List Char) :
    (a ++ b).splitOn ',' = (b.splitOn ',').modifyHead (a ++ ·) := by
  unfold List.splitOn
  induction a with
  | nil =>
    rw [List.nil_append]
    cases b.splitOnP fun c => c == ',' <;> rfl
  | cons c a ih =>
    rw [List.mem_cons, not_or] at uncut
    rw [List.cons_append, List.splitOnP_cons_eq_if_modifyHead, ih uncut.2,
      List.modifyHead_modifyHead]
    have kept : ¬(c == ',') = true := fun comma => uncut.1 (beq_iff_eq.mp comma).symm
    rw [if_neg kept]
    rfl

theorem later_append {a : List Char} (uncut : ',' ∉ a) (b : List Char) :
    later (a ++ b) = later b := by
  unfold later
  rw [splitOn_append uncut, List.tail_modifyHead]

theorem exists_splitOn (cs : List Char) :
    ∃ first rest, cs.splitOn ',' = first :: rest ∧ first <+: cs := by
  cases split : cs.splitOn ',' with
  | nil => exact absurd split (List.splitOn_ne_nil ',' cs)
  | cons first rest =>
    refine ⟨first, rest, rfl, ?_⟩
    have joined : [','].intercalate (cs.splitOn ',') = cs := List.intercalate_splitOn ','
    rw [split] at joined
    cases rest with
    | nil =>
      rw [List.intercalate_singleton] at joined
      rw [joined]
    | cons second rest =>
      rw [List.intercalate_cons_cons, List.append_assoc] at joined
      exact ⟨_, joined⟩

theorem comma_inked : isBlank ',' = false := by decide

theorem cut_blanks {a : List Char} (blanks : ∀ c ∈ a, isBlank c = true) (b : List Char) :
    cut (a ++ b) = cut b := by
  have uncut : ',' ∉ a := fun comma => by
    have blank := blanks ',' comma
    rw [comma_inked] at blank
    cases blank
  obtain ⟨first, rest, split, -⟩ := exists_splitOn b
  have trimmed : trimBlanks (a ++ first) = trimBlanks first := by
    unfold trimBlanks trimBy
    rw [List.dropWhile_append_of_pos blanks]
  unfold cut
  rw [splitOn_append uncut, split, List.modifyHead_cons, List.map_cons, List.map_cons, trimmed]

theorem cut_intercalate {gap : List Char} (blanks : ∀ c ∈ gap, isBlank c = true)
    (parts : List (List Char)) : cut ((',' :: gap).intercalate parts) = parts.flatMap cut := by
  induction parts with
  | nil => rfl
  | cons first rest ih =>
    cases rest with
    | nil => rw [List.intercalate_singleton, List.flatMap_singleton]
    | cons second rest =>
      rw [List.intercalate_cons_cons, List.append_assoc, List.cons_append, cut_append_comma,
        cut_blanks blanks, ih]
      rfl

theorem rdropWhile_word {word : List Char} (nonempty : word ≠ [])
    (inked : ∀ c ∈ word, isBlank c = false) (rest : List Char) :
    ∃ u, u <+: rest ∧ (word ++ rest).rdropWhile isBlank = word ++ u := by
  induction rest using List.reverseRecOn with
  | nil =>
    refine ⟨[], List.nil_prefix, ?_⟩
    rw [List.append_nil]
    obtain ⟨init, last, rfl⟩ := (List.eq_nil_or_concat' word).resolve_left nonempty
    have last_inked : ¬isBlank last = true := by simp [inked last (by simp)]
    rw [List.rdropWhile_concat_neg _ _ _ last_inked]
  | append_singleton rest c ih =>
    obtain ⟨u, within, trimmed⟩ := ih
    rw [← List.append_assoc]
    by_cases blank : isBlank c = true
    · rw [List.rdropWhile_concat_pos _ _ _ blank]
      exact ⟨u, within.trans (List.prefix_append rest [c]), trimmed⟩
    · rw [List.rdropWhile_concat_neg _ _ _ blank, List.append_assoc]
      exact ⟨rest ++ [c], List.prefix_refl _, rfl⟩

/-- A word is at the beginning of the first piece still, and the other pieces are those of
what follows it. -/
theorem cut_word {word : List Char} (nonempty : word ≠ [])
    (inked : ∀ c ∈ word, isBlank c = false) (uncut : ',' ∉ word) (rest : List Char) :
    ∃ u, u <+: rest ∧ cut (word ++ rest) = (word ++ u) :: later rest := by
  obtain ⟨first, others, split, begins⟩ := exists_splitOn rest
  obtain ⟨u, within, trimmed⟩ := rdropWhile_word nonempty inked first
  have trimmed : trimBlanks (word ++ first) = word ++ u := by
    rw [← trimmed]
    cases word with
    | nil => exact absurd rfl nonempty
    | cons c word =>
      have kept : (c :: word ++ first).dropWhile isBlank = c :: word ++ first :=
        List.dropWhile_cons_of_neg (by simp [inked c List.mem_cons_self])
      unfold trimBlanks trimBy
      rw [kept]
      rfl
  refine ⟨u, within.trans begins, ?_⟩
  unfold cut later
  rw [splitOn_append uncut, split, List.modifyHead_cons, List.map_cons, trimmed, List.tail_cons,
    List.filter_cons_of_pos]
  simp [nonempty]

theorem infix_intercalate (sep : List Char) {part : List Char} {parts : List (List Char)}
    (h : part ∈ parts) : part <:+: sep.intercalate parts := by
  induction parts with
  | nil => cases h
  | cons first rest ih =>
    cases rest with
    | nil =>
      rw [List.mem_singleton.mp h, List.intercalate_singleton]
    | cons second rest =>
      rw [List.intercalate_cons_cons, List.append_assoc]
      rcases List.mem_cons.mp h with rfl | h
      · exact (List.prefix_append _ _).isInfix
      · rw [← List.append_assoc]
        exact (ih h).trans (List.suffix_append _ _).isInfix

theorem infix_of_mem_cut {piece cs : List Char} (h : piece ∈ cut cs) : piece <:+: cs := by
  unfold cut at h
  obtain ⟨part, hp, rfl⟩ := List.mem_map.mp (List.mem_filter.mp h).1
  have inside : part <:+: cs := by
    have inside := infix_intercalate [','] hp
    rwa [List.intercalate_splitOn] at inside
  have dropped : part.dropWhile isBlank <:+: part := (List.dropWhile_suffix _).isInfix
  have trimmed : trimBlanks part <:+: part.dropWhile isBlank :=
    (List.rdropWhile_prefix isBlank _).isInfix
  exact trimmed.trans (dropped.trans inside)

/-! ## Verdicts -/

def bearer : List Char := "Bearer".toList

def withoutBearer (piece : List Char) : List Char :=
  (after? bearer piece).getD piece

/-- A piece that starts with the word, or one after it, holds a report. -/
def ReportsInvalidToken (pieces : List (List Char)) : Prop :=
  ∃ before piece after, pieces = before ++ piece :: after ∧ bearer <+: piece ∧
    ∃ q ∈ piece :: after, HoldsReport (withoutBearer q)

theorem verdictFrom_cons (seen : Bool) (piece : List Char) (rest : List (List Char)) :
    verdictFrom seen (piece :: rest) =
      if (seen || bearer.isPrefixOf piece) && reportsInvalidToken (withoutBearer piece) then
        .invalidToken
      else verdictFrom (seen || bearer.isPrefixOf piece) rest := by
  rw [verdictFrom]
  unfold withoutBearer bearer
  generalize "Bearer".toList = word
  by_cases begins : word.isPrefixOf piece = true
  · simp [after?, begins]
  · simp [after?, begins]

theorem verdictFrom_true (pieces : List (List Char)) :
    verdictFrom true pieces ≠ .noBearer ∧
      (verdictFrom true pieces = .invalidToken ↔
        ∃ q ∈ pieces, HoldsReport (withoutBearer q)) := by
  induction pieces with
  | nil => simp [verdictFrom]
  | cons piece rest ih =>
    rw [verdictFrom_cons, Bool.true_or, Bool.true_and]
    by_cases reports : reportsInvalidToken (withoutBearer piece) = true
    · simp only [reports, if_true]
      refine ⟨by simp, iff_of_true trivial ?_⟩
      exact ⟨piece, List.mem_cons_self, reportsInvalidToken_iff.mp reports⟩
    · have quiet : ¬HoldsReport (withoutBearer piece) := fun h =>
        reports (reportsInvalidToken_iff.mpr h)
      simpa [reports, quiet] using ih

theorem reportsInvalidToken_cons {piece : List Char} {rest : List (List Char)} :
    ReportsInvalidToken (piece :: rest) ↔
      (bearer <+: piece ∧ ∃ q ∈ piece :: rest, HoldsReport (withoutBearer q)) ∨
        ReportsInvalidToken rest := by
  constructor
  · rintro ⟨before, p, after, pieces_eq, begins, reports⟩
    cases before with
    | nil =>
      obtain ⟨rfl, rfl⟩ := List.cons.inj pieces_eq
      exact .inl ⟨begins, reports⟩
    | cons first before =>
      obtain ⟨rfl, rfl⟩ := List.cons.inj pieces_eq
      exact .inr ⟨before, p, after, rfl, begins, reports⟩
  · rintro (⟨begins, reports⟩ | ⟨before, p, after, rfl, begins, reports⟩)
    · exact ⟨[], piece, rest, rfl, begins, reports⟩
    · exact ⟨piece :: before, p, after, rfl, begins, reports⟩

theorem verdictFrom_false (pieces : List (List Char)) :
    (verdictFrom false pieces = .noBearer ↔ ∀ p ∈ pieces, ¬bearer <+: p) ∧
      (verdictFrom false pieces = .invalidToken ↔ ReportsInvalidToken pieces) := by
  induction pieces with
  | nil => simp [verdictFrom, ReportsInvalidToken]
  | cons piece rest ih =>
    rw [verdictFrom_cons, Bool.false_or, reportsInvalidToken_cons, List.forall_mem_cons]
    by_cases begins : bearer <+: piece
    · have begins' : bearer.isPrefixOf piece = true := List.isPrefixOf_iff_prefix.mpr begins
      have seen := verdictFrom_true (piece :: rest)
      rw [verdictFrom_cons, Bool.true_or] at seen
      rw [begins']
      refine ⟨?_, ?_⟩
      · exact iff_of_false seen.1 fun none => none.1 begins
      · rw [seen.2]
        constructor
        · intro reports
          exact .inl ⟨begins, reports⟩
        · rintro (⟨-, reports⟩ | ⟨before, p, after, rfl, -, q, hq, reports⟩)
          · exact reports
          · exact ⟨q, List.mem_cons_of_mem _ (List.mem_append_right _ hq), reports⟩
    · have begins' : ¬bearer.isPrefixOf piece = true := fun h =>
        begins (List.isPrefixOf_iff_prefix.mp h)
      simpa [begins, begins'] using ih

instance (pieces : List (List Char)) : Decidable (ReportsInvalidToken pieces) :=
  decidable_of_iff (verdict pieces = .invalidToken) (verdictFrom_false pieces).2

instance (cs : List Char) : Decidable (HoldsReport cs) :=
  decidable_of_iff _ reportsInvalidToken_iff

/-! ## Responses -/

theorem isUnauthorized_int (code : Int) : isUnauthorized (.int code) = true ↔ code = 401 := by
  have same := Number.same_iff (Number.toRat?_int code) (Number.toRat?_int 401)
  refine same.trans ?_
  exact_mod_cast Iff.rfl

def fieldText (r : Response) : Except Fault String :=
  match r.headers.get? fieldName with
  | none => .ok ""
  | some v => if v.isTrue then plainText v else .ok ""

theorem fieldText_of_text {r : Response} {text : String}
    (field : r.headers.get? fieldName = some (.text text)) : fieldText r = .ok text := by
  unfold fieldText
  rw [field]
  by_cases empty : text = ""
  · subst empty
    rfl
  · have shown : (Value.text text).isTrue = true := by simp [Value.isTrue, empty]
    simp only [shown, if_true]
    rfl

theorem ofResponse_eq_map (r : Response) : ofResponse r = (fieldText r).map pieces := by
  unfold ofResponse fieldText
  cases r.headers.get? fieldName with
  | none => rfl
  | some v =>
    by_cases shown : v.isTrue = true
    · simp only [if_pos shown]
      cases plainText v <;> rfl
    · simp only [if_neg shown]
      rfl

/-- A response asks for new credentials as the pieces of its field say, and without a bearer
among them as its status says. -/
theorem needsRefresh_of_fieldText {r : Response} {text : String} (field : fieldText r = .ok text) :
    ∃ b, needsRefresh r = .ok b ∧ (b = true ↔ ReportsInvalidToken (pieces text) ∨
      (∀ p ∈ pieces text, ¬bearer <+: p) ∧ isUnauthorized r.status = true) := by
  obtain ⟨noBearer, invalid⟩ := verdictFrom_false (pieces text)
  unfold needsRefresh verdict
  rw [ofResponse_eq_map, field]
  refine ⟨_, rfl, ?_⟩
  rw [← noBearer, ← invalid]
  cases verdictFrom false (pieces text) <;> simp

/-- A response with the field in its header is read without fail. -/
theorem needsRefresh_of_field {r : Response} {text : String} {code : Int}
    (field : r.headers.get? fieldName = some (.text text)) (status : r.status = .int code) :
    ∃ b, needsRefresh r = .ok b ∧ (b = true ↔ ReportsInvalidToken (pieces text) ∨
      (∀ p ∈ pieces text, ¬bearer <+: p) ∧ code = 401) := by
  have asks := needsRefresh_of_fieldText (fieldText_of_text field)
  rwa [status, isUnauthorized_int] at asks

end HttpRetry.Challenge

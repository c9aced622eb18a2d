import HttpRetry.Proofs.Challenge.Pieces

/-!
# Challenges in one field

A server offers schemes, each with parameters of its own, and writes them all into one
field. Reading the pieces of that field never misses a bearer's report of an invalid token,
and for plain offers it comes to what they say. Offers that are not plain can be taken for
something else: a comma inside a quoted value begins a piece too, and a report is found in
the middle of a name, a value or another scheme.
-/

namespace HttpRetry.Challenge

/-! ## Grammar -/

def tokenRanges : CodeRanges := [
  (33, 33), (35, 39), (42, 43), (45, 46), (48, 57), (65, 90), (94, 122), (124, 124), (126, 126)]

structure Token where
  chars : List Char
  nonempty : chars ≠ []
  proper : ∀ c ∈ chars, tokenRanges.has c = true

inductive Content where
  | token (word : Token)
  | quoted (text : List Char)

structure Parameter where
  name : Token
  content : Content

structure Offer where
  scheme : Token
  parameters : List Parameter

def escape (text : List Char) : List Char :=
  text.flatMap fun c => if c = '"' ∨ c = '\\' then ['\\', c] else [c]

namespace Content

def text : Content → List Char
  | token word => word.chars
  | quoted text => text

def written : Content → List Char
  | token word => word.chars
  | quoted text => '"' :: (escape text ++ ['"'])

end Content

def Parameter.written (p : Parameter) : List Char :=
  p.name.chars ++ '=' :: p.content.written

def Offer.parts (o : Offer) : List (List Char) :=
  match o.parameters with
  | [] => [o.scheme.chars]
  | first :: rest => (o.scheme.chars ++ ' ' :: first.written) :: rest.map Parameter.written

def write (gap : List Char) (offers : List Offer) : List Char :=
  (',' :: gap).intercalate (offers.flatMap Offer.parts)

def Parameter.IsInvalidToken (p : Parameter) : Prop :=
  p.name.chars = "error".toList ∧ p.content.text = "invalid_token".toList

def Offer.IsBearer (o : Offer) : Prop :=
  o.scheme.chars = bearer

def Offer.IsInvalidToken (o : Offer) : Prop :=
  o.IsBearer ∧ ∃ p ∈ o.parameters, p.IsInvalidToken

/-- An offer that cannot be taken for another. -/
structure Offer.IsPlain (o : Offer) : Prop where
  scheme : bearer <+: o.scheme.chars → o.IsBearer
  names : ∀ p ∈ o.parameters, ¬bearer <+: p.name.chars
  /-- A name that ends like that of a report, before a value that begins like its value. -/
  reports : ∀ p ∈ o.parameters, "error".toList <:+ p.name.chars →
    "invalid_token".toList <+: p.content.text → o.IsBearer ∧ p.IsInvalidToken
  contents : ∀ p ∈ o.parameters, ¬HoldsReport p.content.written
  /-- No piece a comma inside a value cuts off begins like a bearer's offer. -/
  pieces : ∀ p ∈ o.parameters, ∀ piece ∈ later p.content.written, ¬bearer <+: piece

/-! ## Words -/

theorem not_has_blank {c : Char} (blank : isBlank c = true) : tokenRanges.has c = false := by
  unfold isBlank blankRanges CodeRanges.has at blank
  unfold tokenRanges CodeRanges.has
  simp only [List.any_cons, List.any_nil, Bool.or_false, Bool.or_eq_true, Bool.and_eq_true,
    decide_eq_true_eq] at blank
  simp only [List.any_cons, List.any_nil, Bool.or_false, Bool.or_eq_false_iff,
    Bool.and_eq_false_iff, decide_eq_false_iff_not]
  omega

theorem Token.inked (t : Token) : ∀ c ∈ t.chars, isBlank c = false := by
  intro c hc
  have proper := t.proper c hc
  by_contra blank
  rw [not_has_blank (by simpa using blank)] at proper
  cases proper

theorem Token.notMem (t : Token) {c : Char} (separates : tokenRanges.has c = false) :
    c ∉ t.chars := by
  intro hc
  rw [t.proper c hc] at separates
  cases separates

def bearerToken : Token := ⟨bearer, by decide, List.all_eq_true.mp rfl⟩

def errorToken : Token := ⟨"error".toList, by decide, List.all_eq_true.mp rfl⟩

/-- A beginning without a separator is one of the word before the separator. -/
theorem prefix_word {b word u rest : List Char} {c : Char} (begins : b <+: word ++ u)
    (within : u <+: c :: rest) (absent : c ∉ b) : b <+: word := by
  rcases List.prefix_or_prefix_of_prefix begins (List.prefix_append word u) with h | ⟨tail, rfl⟩
  · exact h
  · have begins := (List.prefix_append_right_inj word).mp begins
    rcases List.prefix_cons_iff.mp (begins.trans within) with rfl | ⟨tail, rfl, -⟩
    · rw [List.append_nil]
    · exact absurd (List.mem_append_right word List.mem_cons_self) absent

theorem exists_separator {cs : List Char} (h : IsAssignment cs) :
    ∃ c rest, cs = c :: rest ∧ tokenRanges.has c = false := by
  obtain ⟨a, b, quote, blanks, -, -, rfl⟩ := h
  cases a with
  | nil => exact ⟨_, _, rfl, by decide⟩
  | cons c a => exact ⟨c, _, rfl, not_has_blank (blanks c List.mem_cons_self)⟩

section
variable {word rest : List Char} {c : Char} (proper : ∀ d ∈ word, tokenRanges.has d = true)
  (separates : tokenRanges.has c = false)
include proper separates

/-- A report at the beginning of a word has the whole word for its name. -/
theorem report_at_word {report : List Char} (isReport : IsReport report)
    (begins : report <+: word ++ c :: rest) :
    word = "error".toList ∧ ∃ assignment, IsAssignment assignment ∧ assignment <+: c :: rest := by
  obtain ⟨assignment, isAssignment, rfl⟩ := isReport
  obtain ⟨sep, value, rfl, separates'⟩ := exists_separator isAssignment
  obtain ⟨after, joined⟩ := begins
  rw [List.append_assoc] at joined
  rcases List.append_eq_append_iff.mp joined with ⟨more, rfl, tail_eq⟩ | ⟨more, name_eq, tail_eq⟩
  · cases more with
    | nil =>
      rw [List.nil_append] at tail_eq
      exact ⟨List.append_nil _, _, isAssignment, after, tail_eq⟩
    | cons d more =>
      -- the word would go on with the separator
      obtain ⟨rfl, -⟩ := List.cons.inj tail_eq
      rw [proper sep (by simp)] at separates'
      cases separates'
  · cases more with
    | nil =>
      rw [List.append_nil] at name_eq
      rw [List.nil_append] at tail_eq
      exact ⟨name_eq.symm, _, isAssignment, after, tail_eq.symm⟩
    | cons d more =>
      obtain ⟨rfl, -⟩ := List.cons.inj tail_eq
      have within : c ∈ "error".toList := by rw [name_eq]; simp
      rw [errorToken.proper c within] at separates
      cases separates

/-- A report that begins in a word has the end of the word for its name. -/
theorem report_of_word (h : HoldsReport (word ++ c :: rest)) :
    HoldsReport rest ∨ "error".toList <:+ word ∧
      ∃ assignment, IsAssignment assignment ∧ assignment <+: c :: rest := by
  induction word with
  | nil =>
    obtain ⟨report, isReport, inside⟩ := h
    rcases List.infix_cons_iff.mp inside with begins | inside
    · obtain ⟨empty, -⟩ := report_at_word proper separates isReport begins
      cases empty
    · exact .inl ⟨report, isReport, inside⟩
  | cons d word ih =>
    obtain ⟨report, isReport, inside⟩ := h
    rcases List.infix_cons_iff.mp inside with begins | inside
    · obtain ⟨word_eq, assigned⟩ := report_at_word proper separates isReport begins
      exact .inr ⟨word_eq ▸ List.suffix_refl _, assigned⟩
    · have proper' : ∀ d ∈ word, tokenRanges.has d = true :=
        fun d hd => proper d (List.mem_cons_of_mem _ hd)
      rcases ih proper' ⟨report, isReport, inside⟩ with later | ⟨ends, assigned⟩
      · exact .inl later
      · exact .inr ⟨ends.trans (List.suffix_cons d word), assigned⟩

end

/-! ## Parameters -/

theorem prefix_escape {b text : List Char} (quoteless : '"' ∉ b) (slashless : '\\' ∉ b)
    (h : b <+: escape text) : b <+: text := by
  induction text generalizing b with
  | nil => exact h
  | cons c text ih =>
    unfold escape at h
    rw [List.flatMap_cons] at h
    cases b with
    | nil => exact List.nil_prefix
    | cons d b =>
      rw [List.mem_cons, not_or] at quoteless slashless
      by_cases special : c = '"' ∨ c = '\\'
      · rw [if_pos special, List.cons_append, List.cons_prefix_cons] at h
        exact absurd h.1.symm slashless.1
      · rw [if_neg special, List.cons_append, List.cons_prefix_cons] at h
        obtain ⟨rfl, h⟩ := h
        rw [List.cons_prefix_cons]
        exact ⟨rfl, ih quoteless.2 slashless.2 h⟩

/-- What can be read as the value of a report begins like one. -/
theorem prefix_content {content : Content} {b quote : List Char}
    (blanks : ∀ c ∈ b, isBlank c = true) (quoted : quote = [] ∨ quote = ['"'])
    (h : b ++ (quote ++ "invalid_token".toList) <+: content.written) :
    "invalid_token".toList <+: content.text := by
  cases content with
  | token word =>
    have inside : ∀ c ∈ b ++ (quote ++ "invalid_token".toList), c ∈ word.chars :=
      fun c hc => h.subset hc
    cases b with
    | nil =>
      rcases quoted with rfl | rfl
      · exact h
      · exact absurd (inside '"' (by simp)) (word.notMem (by decide))
    | cons c b =>
      have inked := word.inked c (inside c (by simp))
      rw [blanks c List.mem_cons_self] at inked
      cases inked
  | quoted text =>
    unfold Content.written at h
    cases b with
    | nil =>
      rcases quoted with rfl | rfl
      · obtain ⟨letter, -⟩ := List.cons_prefix_cons.mp h
        cases letter
      · obtain ⟨-, h⟩ := List.cons_prefix_cons.mp h
        refine prefix_escape (by decide) (by decide) ?_
        exact prefix_word h (List.prefix_refl ['"']) (by decide)
    | cons c b =>
      obtain ⟨rfl, -⟩ := List.cons_prefix_cons.mp h
      have blank := blanks '"' List.mem_cons_self
      cases blank

theorem holdsReport_written {p : Parameter} (h : HoldsReport p.written) :
    HoldsReport p.content.written ∨
      "error".toList <:+ p.name.chars ∧ "invalid_token".toList <+: p.content.text := by
  rcases report_of_word p.name.proper (by decide) h with inside |
      ⟨ends, -, ⟨a, b, quote, blanks, blanks', quoted, rfl⟩, begins⟩
  · exact .inl inside
  · cases a with
    | nil =>
      obtain ⟨-, begins⟩ := List.cons_prefix_cons.mp begins
      exact .inr ⟨ends, prefix_content blanks' quoted begins⟩
    | cons c a =>
      obtain ⟨rfl, -⟩ := List.cons_prefix_cons.mp begins
      have blank := blanks '=' List.mem_cons_self
      cases blank

theorem holdsReport_of_scheme {scheme : Token} {p : Parameter}
    (h : HoldsReport (scheme.chars ++ ' ' :: p.written)) : HoldsReport p.written := by
  rcases report_of_word scheme.proper (by decide) h with inside |
      ⟨-, -, ⟨a, b, quote, blanks, blanks', quoted, rfl⟩, begins⟩
  · exact inside
  · cases a with
    | nil =>
      obtain ⟨equals, -⟩ := List.cons_prefix_cons.mp begins
      cases equals
    | cons c a =>
      -- the parameter would begin with what follows the name in a report
      rw [List.cons_append, List.cons_prefix_cons] at begins
      obtain ⟨-, begins⟩ := begins
      obtain ⟨d, rest, assignment_eq, separates⟩ := exists_separator
        ⟨a, b, quote, fun c hc => blanks c (List.mem_cons_of_mem _ hc), blanks', quoted, rfl⟩
      rw [assignment_eq] at begins
      unfold Parameter.written at begins
      cases name_eq : p.name.chars with
      | nil => exact absurd name_eq p.name.nonempty
      | cons first name =>
        rw [name_eq] at begins
        obtain ⟨rfl, -⟩ := List.cons_prefix_cons.mp begins
        rw [p.name.proper d (by simp [name_eq])] at separates
        cases separates

theorem written_of_isInvalidToken {p : Parameter} (h : p.IsInvalidToken) :
    p.written = "error=invalid_token".toList ∨
      p.written = "error=\"invalid_token\"".toList := by
  obtain ⟨name_eq, text_eq⟩ := h
  unfold Parameter.written
  cases content_eq : p.content with
  | token word =>
    have word_eq : word.chars = "invalid_token".toList := by rw [← text_eq, content_eq]; rfl
    refine .inl ?_
    rw [name_eq, Content.written, word_eq]
    rfl
  | quoted text =>
    obtain rfl : text = "invalid_token".toList := by rw [← text_eq, content_eq]; rfl
    refine .inr ?_
    rw [name_eq]
    rfl

/-- The report of a parameter is a piece of its own, be it the first parameter or not. -/
theorem uncut_of_isInvalidToken {p : Parameter} (h : p.IsInvalidToken) :
    (p.written ∈ cut p.written ∧ HoldsReport (withoutBearer p.written)) ∧
      bearer ++ ' ' :: p.written ∈ cut (bearer ++ ' ' :: p.written) ∧
        HoldsReport (withoutBearer (bearer ++ ' ' :: p.written)) := by
  rcases written_of_isInvalidToken h with written | written
  · rw [written]
    decide
  · rw [written]
    decide

/-! ## Pieces of offers -/

def Offer.pieces (o : Offer) : List (List Char) :=
  o.parts.flatMap cut

theorem cut_write {gap : List Char} (blanks : ∀ c ∈ gap, isBlank c = true)
    (offers : List Offer) : cut (write gap offers) = offers.flatMap Offer.pieces := by
  unfold write Offer.pieces
  rw [cut_intercalate blanks, List.flatMap_assoc]

/-- A part is a scheme, a parameter, or the one before the other. -/
theorem parts_cases {o : Offer} {part : List Char} (h : part ∈ o.parts) :
    part = o.scheme.chars ∨ ∃ p ∈ o.parameters,
      part = o.scheme.chars ++ ' ' :: p.written ∨ part = p.written := by
  unfold Offer.parts at h
  cases parameters : o.parameters with
  | nil =>
    rw [parameters] at h
    exact .inl (List.mem_singleton.mp h)
  | cons first rest =>
    rw [parameters] at h
    rcases List.mem_cons.mp h with rfl | h
    · exact .inr ⟨first, List.mem_cons_self, .inl rfl⟩
    · obtain ⟨p, hp, rfl⟩ := List.mem_map.mp h
      exact .inr ⟨p, List.mem_cons_of_mem _ hp, .inr rfl⟩

theorem bearer_or_later {t : Token} {c : Char} {rest piece : List Char} (absent : c ∉ bearer)
    (uncut : c ≠ ',') (h : piece ∈ cut (t.chars ++ c :: rest)) (begins : bearer <+: piece) :
    bearer <+: t.chars ∨ piece ∈ later rest := by
  obtain ⟨u, within, cut_eq⟩ := cut_word t.nonempty t.inked (t.notMem (by decide)) (c :: rest)
  rw [cut_eq] at h
  rcases List.mem_cons.mp h with rfl | h
  · exact .inl (prefix_word begins within absent)
  · refine .inr ?_
    rwa [show c :: rest = [c] ++ rest from rfl, later_append (by simpa using uncut.symm)] at h

theorem later_written {p : Parameter} : later p.written = later p.content.written := by
  unfold Parameter.written
  rw [show ∀ cs : List Char, p.name.chars ++ '=' :: cs = (p.name.chars ++ ['=']) ++ cs by simp]
  refine later_append ?_ _
  rw [List.mem_append, not_or]
  exact ⟨p.name.notMem (by decide), by decide⟩

section
variable {o : Offer} {piece : List Char}

theorem not_bearer_of_plain (plain : o.IsPlain) (other : ¬o.IsBearer) (h : piece ∈ o.pieces) :
    ¬bearer <+: piece := by
  intro begins
  obtain ⟨part, part_mem, h⟩ := List.mem_flatMap.mp h
  rcases parts_cases part_mem with rfl | ⟨p, hp, rfl | rfl⟩
  · apply other
    apply plain.scheme
    obtain ⟨u, within, cut_eq⟩ := cut_word o.scheme.nonempty o.scheme.inked
      (o.scheme.notMem (by decide)) []
    obtain rfl := List.prefix_nil.mp within
    rw [List.append_nil] at cut_eq
    rw [cut_eq] at h
    obtain rfl : piece = o.scheme.chars := by simpa [later] using h
    exact begins
  · rcases bearer_or_later (by decide) (by decide) h begins with h | h
    · exact other (plain.scheme h)
    · rw [later_written] at h
      exact plain.pieces p hp piece h begins
  · rcases bearer_or_later (by decide) (by decide) h begins with h | h
    · exact plain.names p hp h
    · exact plain.pieces p hp piece h begins

theorem isInvalidToken_of_plain (plain : o.IsPlain) (h : piece ∈ o.pieces)
    (reports : HoldsReport piece) : o.IsInvalidToken := by
  obtain ⟨part, part_mem, h⟩ := List.mem_flatMap.mp h
  have reports : HoldsReport part := reports.of_infix (infix_of_mem_cut h)
  obtain ⟨p, hp, reports⟩ : ∃ p ∈ o.parameters, HoldsReport p.written := by
    rcases parts_cases part_mem with rfl | ⟨p, hp, rfl | rfl⟩
    · obtain ⟨-, ⟨-, ⟨a, b, quote, -, -, -, rfl⟩, rfl⟩, inside⟩ := reports
      have equals : '=' ∈ o.scheme.chars := inside.subset (by simp)
      exact absurd equals (o.scheme.notMem (by decide))
    · exact ⟨p, hp, holdsReport_of_scheme reports⟩
    · exact ⟨p, hp, reports⟩
  rcases holdsReport_written reports with inside | ⟨ends, begins⟩
  · exact absurd inside (plain.contents p hp)
  · obtain ⟨isBearer, isInvalidToken⟩ := plain.reports p hp ends begins
    exact ⟨isBearer, p, hp, isInvalidToken⟩

theorem pieces_of_bearer (h : o.IsBearer) :
    ∃ first rest, o.pieces = first :: rest ∧ bearer <+: first := by
  have parts_eq : ∃ rest others, o.parts = (bearer ++ rest) :: others := by
    unfold Offer.parts
    rw [h]
    cases o.parameters with
    | nil => exact ⟨[], [], by rw [List.append_nil]⟩
    | cons first rest => exact ⟨_, _, rfl⟩
  obtain ⟨rest, others, parts_eq⟩ := parts_eq
  obtain ⟨u, cut_eq⟩ : ∃ u, cut (bearer ++ rest) = (bearer ++ u) :: later rest :=
    (cut_word bearerToken.nonempty bearerToken.inked (bearerToken.notMem (by decide)) rest).imp
      fun _ h => h.2
  unfold Offer.pieces
  rw [parts_eq, List.flatMap_cons, cut_eq]
  exact ⟨_, _, rfl, List.prefix_append bearer u⟩

theorem report_of_isInvalidToken (h : o.IsInvalidToken) :
    ∃ piece ∈ o.pieces, HoldsReport (withoutBearer piece) := by
  obtain ⟨isBearer, p, hp, invalid⟩ := h
  obtain ⟨⟨uncut, reports⟩, uncut', reports'⟩ := uncut_of_isInvalidToken invalid
  unfold Offer.pieces Offer.parts
  cases parameters : o.parameters with
  | nil =>
    rw [parameters] at hp
    cases hp
  | cons first rest =>
    rw [parameters] at hp
    rcases List.mem_cons.mp hp with rfl | hp
    · refine ⟨_, List.mem_flatMap.mpr ⟨_, ?_, uncut'⟩, reports'⟩
      rw [isBearer]
      exact List.mem_cons_self
    · refine ⟨_, List.mem_flatMap.mpr ⟨_, ?_, uncut⟩, reports⟩
      exact List.mem_cons_of_mem _ (List.mem_map_of_mem hp)

end

/-! ## Fields of offers -/

theorem HoldsReport.of_withoutBearer {piece : List Char} (h : HoldsReport (withoutBearer piece)) :
    HoldsReport piece := by
  unfold withoutBearer at h
  cases begins : after? bearer piece with
  | none => simpa [begins] using h
  | some rest =>
    obtain rfl := after?_eq_some.mp begins
    rw [begins, Option.getD_some] at h
    exact h.of_infix (List.suffix_append bearer rest).isInfix

section
variable {offers : List Offer}

theorem reports_of_isInvalidToken {o : Offer} (ho : o ∈ offers) (h : o.IsInvalidToken) :
    ReportsInvalidToken (offers.flatMap Offer.pieces) := by
  obtain ⟨before, after, rfl⟩ := List.append_of_mem ho
  obtain ⟨first, rest, pieces_eq, begins⟩ := pieces_of_bearer h.1
  obtain ⟨piece, hp, reports⟩ := report_of_isInvalidToken h
  rw [pieces_eq] at hp
  refine ⟨before.flatMap Offer.pieces, first, rest ++ after.flatMap Offer.pieces, ?_, begins,
    piece, List.mem_append_left (after.flatMap Offer.pieces) hp, reports⟩
  rw [List.flatMap_append, List.flatMap_cons, pieces_eq, List.cons_append]

theorem reports_iff_of_plain (plain : ∀ o ∈ offers, o.IsPlain) :
    ReportsInvalidToken (offers.flatMap Offer.pieces) ↔ ∃ o ∈ offers, o.IsInvalidToken := by
  constructor
  · rintro ⟨before, first, after, pieces_eq, -, piece, hp, reports⟩
    have piece_mem : piece ∈ offers.flatMap Offer.pieces := by
      rw [pieces_eq]
      exact List.mem_append_right before hp
    obtain ⟨o, ho, hp⟩ := List.mem_flatMap.mp piece_mem
    exact ⟨o, ho, isInvalidToken_of_plain (plain o ho) hp reports.of_withoutBearer⟩
  · rintro ⟨o, ho, h⟩
    exact reports_of_isInvalidToken ho h

theorem bearerless_iff_of_plain (plain : ∀ o ∈ offers, o.IsPlain) :
    (∀ piece ∈ offers.flatMap Offer.pieces, ¬bearer <+: piece) ↔ ∀ o ∈ offers, ¬o.IsBearer := by
  constructor
  · intro none o ho isBearer
    obtain ⟨first, rest, pieces_eq, begins⟩ := pieces_of_bearer isBearer
    refine none first (List.mem_flatMap.mpr ⟨o, ho, ?_⟩) begins
    rw [pieces_eq]
    exact List.mem_cons_self
  · intro none piece hp
    obtain ⟨o, ho, hp⟩ := List.mem_flatMap.mp hp
    exact not_bearer_of_plain (plain o ho) (none o ho) hp

end

/-- A response with a field of offers asks for new credentials as the pieces of the offers
say, and always if a bearer reports an invalid token. If all offers are plain, it asks for
them if and only if a bearer reports that or there is no bearer and the status is 401. -/
theorem needsRefresh_of_offers {offers : List Offer} {gap : List Char}
    (blanks : ∀ c ∈ gap, isBlank c = true) {r : Response} {code : Int}
    (field : r.headers.get? fieldName = some (.text (String.ofList (write gap offers))))
    (status : r.status = .int code) :
    ∃ b, needsRefresh r = .ok b ∧
      (b = true ↔ ReportsInvalidToken (offers.flatMap Offer.pieces) ∨
        (∀ piece ∈ offers.flatMap Offer.pieces, ¬bearer <+: piece) ∧ code = 401) ∧
      ((∃ o ∈ offers, o.IsInvalidToken) → b = true) ∧
      ((∀ o ∈ offers, o.IsPlain) →
        (b = true ↔ (∃ o ∈ offers, o.IsInvalidToken) ∨
          (∀ o ∈ offers, ¬o.IsBearer) ∧ code = 401)) := by
  obtain ⟨b, needs, asks⟩ := needsRefresh_of_field field status
  rw [pieces_ofList, cut_write blanks] at asks
  refine ⟨b, needs, asks, ?_, fun plain => ?_⟩
  · rintro ⟨o, ho, h⟩
    exact asks.mpr (.inl (reports_of_isInvalidToken ho h))
  · rw [asks, reports_iff_of_plain plain, bearerless_iff_of_plain plain]

/-! ## Offers on trial -/

instance (p : Parameter) : Decidable p.IsInvalidToken :=
  inferInstanceAs (Decidable (_ ∧ _))

instance (o : Offer) : Decidable o.IsBearer :=
  inferInstanceAs (Decidable (o.scheme.chars = bearer))

instance (o : Offer) : Decidable o.IsInvalidToken :=
  inferInstanceAs (Decidable (_ ∧ _))

instance (o : Offer) : Decidable o.IsPlain :=
  decidable_of_iff
    ((bearer <+: o.scheme.chars → o.IsBearer) ∧ (∀ p ∈ o.parameters, ¬bearer <+: p.name.chars) ∧
      (∀ p ∈ o.parameters, "error".toList <:+ p.name.chars →
        "invalid_token".toList <+: p.content.text → o.IsBearer ∧ p.IsInvalidToken) ∧
      (∀ p ∈ o.parameters, ¬HoldsReport p.content.written) ∧
      ∀ p ∈ o.parameters, ∀ piece ∈ later p.content.written, ¬bearer <+: piece)
    ⟨fun ⟨scheme, names, reports, contents, pieces⟩ =>
      ⟨scheme, names, reports, contents, pieces⟩,
    fun h => ⟨h.scheme, h.names, h.reports, h.contents, h.pieces⟩⟩

def twoOffers : List Offer := [
  ⟨⟨"Digest".toList, by decide, List.all_eq_true.mp rfl⟩,
    [⟨⟨"realm".toList, by decide, List.all_eq_true.mp rfl⟩, .quoted "a, b".toList⟩]⟩,
  ⟨bearerToken, [⟨errorToken, .quoted "invalid_token".toList⟩]⟩]

def longerOffer : Offer :=
  ⟨bearerToken, [⟨errorToken, .quoted "invalid_token_type".toList⟩]⟩

def offering (code : Int) (offers : List Offer) : Response :=
  { Response.ofStatus code with
    headers := .caseless [(fieldName, .text (String.ofList (write [' '] offers)))] }

theorem field_offering (code : Int) (offers : List Offer) :
    (offering code offers).headers.get? fieldName =
      some (.text (String.ofList (write [' '] offers))) := by
  simp [offering, Headers.get?]

/-- The comma that is quoted does no harm. -/
theorem needsRefresh_of_offers_two :
    (∀ o ∈ twoOffers, o.IsPlain) ∧ needsRefresh (offering 403 twoOffers) = .ok true := by
  have plain : ∀ o ∈ twoOffers, o.IsPlain := by decide
  have blanks : ∀ c ∈ [' '], isBlank c = true := List.all_eq_true.mp rfl
  obtain ⟨b, needs, -, -, asks⟩ :=
    needsRefresh_of_offers blanks (field_offering 403 twoOffers) rfl
  have asked : b = true := (asks plain).mpr (.inl (by decide))
  refine ⟨plain, ?_⟩
  rw [needs, asked]

/-- An error that only begins like that of an invalid token is taken for it. -/
theorem needsRefresh_of_longer_error :
    needsRefresh (offering 403 [longerOffer]) = .ok true ∧
      ¬(needsRefresh (offering 403 [longerOffer]) = .ok true ↔
        (∃ o ∈ [longerOffer], o.IsInvalidToken) ∨
          (∀ o ∈ [longerOffer], ¬o.IsBearer) ∧ (403 : Int) = 401) := by
  obtain ⟨b, needs, asks⟩ := needsRefresh_of_field (field_offering 403 [longerOffer]) rfl
  rw [pieces_ofList] at asks
  have asked : b = true := asks.mpr (.inl (by decide))
  subst asked
  refine ⟨needs, fun claimed => ?_⟩
  exact absurd (claimed.mp needs) (by decide)

end HttpRetry.Challenge

import HttpRetry.Proofs.Backoff.Requested
import HttpRetry.Proofs.Policy.Acceptance
import Mathlib.Data.List.Sort

/-!
# Options that make a policy

Options make a policy if each of them is of the right kind and within its bound, and then the policy
has what the options say. What a policy has can be given as options again, and makes an equal one.
-/

namespace HttpRetry

namespace Policy

/-! ## Status codes -/

theorem readCodes_eq_ok_iff {items : List Value} {codes : List Int} :
    readCodes items = .ok codes ↔ items.map readCode = codes.map .ok := by
  induction items generalizing codes with
  | nil => cases codes <;> simp [readCodes]
  | cons item rest ih =>
    cases read : readCode item with
    | error defect => cases codes <;> simp [readCodes, read, bind, Except.bind]
    | ok code =>
      cases codes with
      | nil => cases more : readCodes rest <;> simp [readCodes, read, more, bind, Except.bind, pure,
          Except.pure]
      | cons c codes =>
        rw [List.map_cons, List.map_cons, List.cons.injEq, ← ih, read]
        cases more : readCodes rest <;> simp [readCodes, read, more, bind, Except.bind, pure,
          Except.pure]

theorem exists_readCodes_iff {items : List Value} :
    (∃ codes, readCodes items = .ok codes) ↔ ∀ item ∈ items, ∃ code, readCode item = .ok code := by
  have mem_range := Set.ext_iff.mp (Set.range_list_map (Except.ok : Int → Except CodeDefect Int))
    (items.map readCode)
  simp only [Set.mem_range, Set.mem_ofPred_eq, List.forall_mem_map] at mem_range
  simp only [readCodes_eq_ok_iff]
  simpa only [eq_comm (a := items.map readCode), eq_comm (b := Except.ok _)] using mem_range

theorem mem_of_readCodes {items : List Value} {codes : List Int}
    (read : readCodes items = .ok codes) (c : Int) :
    c ∈ codes ↔ ∃ item ∈ items, readCode item = .ok c := by
  have mem : (.ok c : Except CodeDefect Int) ∈ codes.map .ok ↔ c ∈ codes := by simp
  rw [← mem, ← readCodes_eq_ok_iff.mp read, List.mem_map]

theorem mem_insertCode {c code : Int} {codes : List Int} :
    c ∈ insertCode code codes ↔ c = code ∨ c ∈ codes := by
  induction codes with
  | nil => simp [insertCode]
  | cons first rest ih =>
    unfold insertCode
    by_cases below : code < first
    · simp [below]
    · by_cases same : code = first
      · subst same
        simp
      · simp only [if_neg below, if_neg same, List.mem_cons, ih, or_left_comm]

theorem pairwise_insertCode {code : Int} {codes : List Int} (h : codes.Pairwise (· < ·)) :
    (insertCode code codes).Pairwise (· < ·) := by
  induction codes with
  | nil => simp [insertCode]
  | cons first rest ih =>
    obtain ⟨least, ascending⟩ := List.pairwise_cons.mp h
    unfold insertCode
    by_cases below : code < first
    · rw [if_pos below]
      apply List.pairwise_cons.mpr
      refine ⟨?_, h⟩
      intro c mem
      rcases List.mem_cons.mp mem with rfl | mem
      · exact below
      · exact below.trans (least c mem)
    · rw [if_neg below]
      by_cases same : code = first
      · rw [if_pos same]
        exact h
      · rw [if_neg same]
        apply List.pairwise_cons.mpr
        refine ⟨?_, ih ascending⟩
        intro c mem
        rcases mem_insertCode.mp mem with rfl | mem
        · omega
        · exact least c mem

@[simp] theorem mem_codeSet {c : Int} {codes : List Int} : c ∈ codeSet codes ↔ c ∈ codes := by
  induction codes with
  | nil => rfl
  | cons code rest ih =>
    rw [codeSet, List.foldr_cons, mem_insertCode, List.mem_cons]
    exact or_congr_right ih

theorem pairwise_codeSet (codes : List Int) : (codeSet codes).Pairwise (· < ·) := by
  induction codes with
  | nil => exact .nil
  | cons code rest ih => exact pairwise_insertCode ih

/-- Only the members of a set of codes matter, not their order. -/
theorem codeSet_congr {codes codes' : List Int} (same : ∀ c, c ∈ codes ↔ c ∈ codes') :
    codeSet codes = codeSet codes' := by
  apply (pairwise_codeSet codes).eq_of_mem_iff (pairwise_codeSet codes')
  intro c
  rw [mem_codeSet, mem_codeSet, same]

/-- What the codes are read from: nothing if the value counts as false. -/
def codeItems (v : Value) : Option (List Value) :=
  if v.isTrue then v.items? else some []

theorem acceptCodes_eq_ok_iff {v : Value} {codes : List Int} :
    acceptCodes v = .ok codes ↔
      ∃ items, codeItems v = some items ∧ readCodes items = .ok codes := by
  unfold acceptCodes codeItems
  by_cases truth : v.isTrue = true
  · simp only [truth, Bool.not_true, Bool.false_eq_true, if_false, if_true]
    cases v.items? with
    | none =>
      simp only [Option.map_none, reduceCtorEq, false_and, exists_false, iff_false]
      intro accepted
      obtain ⟨text, -, refused⟩ := exists_of_bind_ok accepted
      cases refused
    | some items =>
      simp only [Option.map_some, Option.some.injEq, exists_eq_left']
      cases readCodes items with
      | ok read => simp
      | error defect =>
        simp only [reduceCtorEq, iff_false]
        intro accepted
        cases defect with
        | infinite => cases accepted
        | notInteger =>
          obtain ⟨text, -, refused⟩ := exists_of_bind_ok accepted
          cases refused
  · simp [truth, readCodes, eq_comm]

/-! ## What options say -/

structure Describes (options : Options) (p : Policy) : Prop where
  codes : ∃ codes, acceptCodes options.codes = .ok codes ∧ p.codes = codeSet codes ∧
    p.shownCodes = SlotTable.order codes
  maxRetries : options.maxRetries = .int p.maxRetries
  ceiling : options.ceiling = .number p.ceiling
  multiplier : options.multiplier = .number p.multiplier
  sleeper : options.sleeper = p.sleeper
  waits : p.sleeper.isNull = false

theorem acceptRetries_eq_ok_iff {v : Value} {n : Nat} : acceptRetries v = .ok n ↔ v = .int n := by
  constructor
  · intro accepted
    unfold acceptRetries at accepted
    split at accepted
    · cases accepted
      rfl
    · cases accepted
    · obtain ⟨text, -, refused⟩ := exists_of_bind_ok accepted
      cases refused
  · intro given
    subst given
    rfl

theorem ofParts_eq_ok_iff {codes : List Int} {retries : Nat} {waiter : Value}
    {ceiling multiplier : Schedule.FiniteNumber} {p : Policy} :
    ofParts codes retries waiter ceiling multiplier = .ok p ↔
      p.codes = codeSet codes ∧ p.shownCodes = SlotTable.order codes ∧ p.maxRetries = retries ∧
        p.ceiling = ceiling.1 ∧ p.multiplier = multiplier.1 ∧ p.sleeper = waiter := by
  obtain ⟨ceiling, finite⟩ := ceiling
  obtain ⟨multiplier, finite'⟩ := multiplier
  constructor
  · intro made
    by_cases enough : Number.le (.int Defaults.initialIntervalMillis) ceiling = true
    · by_cases grows : Number.le 1 multiplier = true
      · simp only [ofParts, dif_pos enough, dif_pos grows, Except.ok.injEq] at made
        subst made
        exact ⟨rfl, rfl, rfl, rfl, rfl, rfl⟩
      · simp [ofParts, enough, grows] at made
    · simp [ofParts, enough] at made
  · intro ⟨codes_eq, shown_eq, retries_eq, ceiling_eq, multiplier_eq, waiter_eq⟩
    subst retries_eq ceiling_eq multiplier_eq waiter_eq
    simp only [ofParts, dif_pos p.initial_le_ceiling, dif_pos p.one_le_multiplier, ← codes_eq,
      ← shown_eq]

theorem accept_eq_ok_iff {options : Options} {p : Policy} :
    accept options = .ok p ↔ Describes options p := by
  rw [accept_eq]
  constructor
  · intro accepted
    obtain ⟨codes, listed, accepted⟩ := exists_of_bind_ok accepted
    obtain ⟨retries, capped, accepted⟩ := exists_of_bind_ok accepted
    obtain ⟨_, waits, accepted⟩ := exists_of_bind_ok accepted
    obtain ⟨⟨ceiling, finite⟩, ceiling_eq, accepted⟩ := exists_of_bind_ok accepted
    obtain ⟨⟨multiplier, finite'⟩, multiplier_eq, accepted⟩ := exists_of_bind_ok accepted
    have waiter : options.sleeper.isNull = false := by
      by_contra null
      rw [Bool.not_eq_false] at null
      rw [if_pos null] at waits
      cases waits
    cases made : ofParts codes retries options.sleeper ⟨ceiling, finite⟩ ⟨multiplier, finite'⟩ with
    | error problem =>
      rw [made] at accepted
      cases accepted
    | ok found =>
      rw [made] at accepted
      obtain rfl := Except.ok.inj accepted
      obtain ⟨codes_eq, shown_eq, rfl, rfl, rfl, sleeper_eq⟩ := ofParts_eq_ok_iff.mp made
      exact ⟨⟨codes, listed, codes_eq, shown_eq⟩, acceptRetries_eq_ok_iff.mp capped,
        Schedule.eq_of_requireFinite ceiling_eq, Schedule.eq_of_requireFinite multiplier_eq,
        sleeper_eq.symm, sleeper_eq ▸ waiter⟩
  · intro described
    obtain ⟨codes, listed, codes_eq, shown_eq⟩ := described.codes
    have made : ofParts codes p.maxRetries p.sleeper ⟨p.ceiling, p.ceiling_finite⟩
        ⟨p.multiplier, p.multiplier_finite⟩ = .ok p :=
      ofParts_eq_ok_iff.mpr ⟨codes_eq, shown_eq, rfl, rfl, rfl, rfl⟩
    simp only [listed, described.maxRetries, acceptRetries_eq_ok_iff.mpr rfl, described.sleeper,
      described.waits, described.ceiling, described.multiplier,
      requireFinite_of_finite _ p.ceiling_finite, requireFinite_of_finite _ p.multiplier_finite,
      made, bind, Except.bind, Bool.false_eq_true, if_false]
    rfl

/-! ## Bounds -/

/-- A finite number from a bound on: an integer or a fraction in the range of doubles, or a
double. -/
def IsNumberFrom (least : Int) (v : Value) : Prop :=
  (∃ i : Int, v = .int i ∧ |(i : Rat)| < Double.overflow ∧ least ≤ i) ∨
    (∃ q : Rat, v = .number (.ratio q) ∧ |q| < Double.overflow ∧ (least : Rat) ≤ q) ∨
    ∃ d q, v = .double d ∧ d.toRat? = some q ∧ (least : Rat) ≤ q

theorem isNumberFrom_iff {least : Int} {v : Value} : IsNumberFrom least v ↔
    ∃ n : Number, v = .number n ∧ n.isFinite = true ∧ Number.le (.int least) n = true := by
  constructor
  · intro bounded
    rcases bounded with ⟨i, rfl, within, above⟩ | ⟨q, rfl, within, above⟩ |
      ⟨d, q, rfl, value, above⟩
    · exact ⟨.int i, rfl, (Number.isFinite_iff rfl).mpr within, by simpa using above⟩
    · exact ⟨.ratio q, rfl, (Number.isFinite_iff rfl).mpr within,
        (Number.le_iff (Number.toRat?_int least) (Number.toRat?_ratio q)).mpr above⟩
    · have value' : (Number.double d).toRat? = some q := value
      refine ⟨.double d, rfl, ?_, (Number.le_iff (Number.toRat?_int least) value').mpr above⟩
      cases d with
      | finite => rfl
      | nan => cases value
      | inf => cases value
  · intro ⟨n, given, finite, above⟩
    obtain ⟨q, value⟩ := Number.toRat?_isSome finite
    have le := (Number.le_iff (Number.toRat?_int least) value).mp above
    have within := Number.toRat?_lt_overflow finite value
    cases n with
    | int i =>
      cases value
      exact .inl ⟨i, given, within, by simpa using above⟩
    | ratio r =>
      cases value
      exact .inr (.inl ⟨_, given, within, le⟩)
    | double d => exact .inr (.inr ⟨d, q, given, value, le⟩)

def ListsCodes (v : Value) : Prop :=
  ∃ items, codeItems v = some items ∧ ∀ item ∈ items, ∃ code, readCode item = .ok code

/-- Each option is of the right kind and within its bound. -/
structure IsWellFormed (options : Options) : Prop where
  codes : ListsCodes options.codes
  maxRetries : ∃ n : Nat, options.maxRetries = .int n
  ceiling : IsNumberFrom Defaults.initialIntervalMillis options.ceiling
  multiplier : IsNumberFrom 1 options.multiplier
  waits : options.sleeper.isNull = false

theorem exists_accept_iff {options : Options} :
    (∃ p, accept options = .ok p) ↔ IsWellFormed options := by
  simp only [accept_eq_ok_iff]
  constructor
  · intro ⟨p, described⟩
    obtain ⟨codes, listed, -⟩ := described.codes
    obtain ⟨items, given, read⟩ := acceptCodes_eq_ok_iff.mp listed
    refine ⟨⟨items, given, exists_readCodes_iff.mp ⟨codes, read⟩⟩, ⟨_, described.maxRetries⟩,
      isNumberFrom_iff.mpr ⟨_, described.ceiling, p.ceiling_finite, p.initial_le_ceiling⟩,
      isNumberFrom_iff.mpr ⟨_, described.multiplier, p.multiplier_finite, p.one_le_multiplier⟩, ?_⟩
    rw [described.sleeper]
    exact described.waits
  · intro well
    obtain ⟨items, given, each⟩ := well.codes
    obtain ⟨codes, read⟩ := exists_readCodes_iff.mpr each
    obtain ⟨n, retries⟩ := well.maxRetries
    obtain ⟨ceiling, ceiling_is, ceiling_finite, initial_le_ceiling⟩ :=
      isNumberFrom_iff.mp well.ceiling
    obtain ⟨multiplier, multiplier_is, multiplier_finite, one_le_multiplier⟩ :=
      isNumberFrom_iff.mp well.multiplier
    let p : Policy :=
      { codes := codeSet codes, shownCodes := SlotTable.order codes, maxRetries := n, ceiling
        multiplier, sleeper := options.sleeper, ceiling_finite, multiplier_finite
        initial_le_ceiling, one_le_multiplier }
    exact ⟨p, ⟨codes, acceptCodes_eq_ok_iff.mpr ⟨items, given, read⟩, rfl, rfl⟩, retries,
      ceiling_is, multiplier_is, rfl, well.waits⟩

/-! ## Options by name -/

structure AreWellFormed (entries : Entries) : Prop where
  known : ∀ entry ∈ entries, isOptionName entry.1 = true
  codes : ∀ v, entries.getText? "retry_status_codes" = some v → ListsCodes v
  maxRetries : ∀ v, entries.getText? "max_retries" = some v → ∃ n : Nat, v = .int n
  ceiling : ∀ v, entries.getText? "max_interval_millis" = some v →
    IsNumberFrom Defaults.initialIntervalMillis v
  multiplier : ∀ v, entries.getText? "backoff_multiplier" = some v → IsNumberFrom 1 v
  waits : ∀ v, entries.getText? "sleeper" = some v → v.isNull = false

theorem getD_iff {P : Value → Prop} {default : Value} (holds : P default) (given : Option Value) :
    P (given.getD default) ↔ ∀ v, given = some v → P v := by
  cases given <;> simp [holds]

/-- Every default is well-formed, so that an option may be left out. -/
theorem isWellFormed_default : IsWellFormed {} := by
  refine ⟨⟨[], rfl, by simp⟩, ⟨Defaults.maxRetries, rfl⟩, ?_, ?_, rfl⟩
  · exact isNumberFrom_iff.mpr ⟨_, rfl, by decide +kernel, by decide +kernel⟩
  · exact isNumberFrom_iff.mpr ⟨_, rfl, by decide +kernel, by decide +kernel⟩

theorem isWellFormed_ofEntries_iff {entries : Entries}
    (known : ∀ entry ∈ entries, isOptionName entry.1 = true) :
    IsWellFormed (.ofEntries entries) ↔ AreWellFormed entries := by
  obtain ⟨codes, maxRetries, ceiling, multiplier, waits⟩ := isWellFormed_default
  have of_codes := getD_iff (P := ListsCodes) codes (entries.getText? "retry_status_codes")
  have of_retries := getD_iff (P := fun v => ∃ n : Nat, v = .int n) maxRetries
    (entries.getText? "max_retries")
  have of_ceiling := getD_iff (P := IsNumberFrom _) ceiling (entries.getText? "max_interval_millis")
  have of_multiplier := getD_iff (P := IsNumberFrom _) multiplier
    (entries.getText? "backoff_multiplier")
  have of_waits := getD_iff (P := fun v => v.isNull = false) waits (entries.getText? "sleeper")
  constructor
  · intro well
    exact ⟨known, of_codes.mp well.codes, of_retries.mp well.maxRetries,
      of_ceiling.mp well.ceiling, of_multiplier.mp well.multiplier, of_waits.mp well.waits⟩
  · intro well
    exact ⟨of_codes.mpr well.codes, of_retries.mpr well.maxRetries, of_ceiling.mpr well.ceiling,
      of_multiplier.mpr well.multiplier, of_waits.mpr well.waits⟩

section
variable {options : Value} {entries : Entries} (given : options.toEntries = .ok entries)
  (texts : ∀ entry ∈ entries, ∃ name, entry.1 = .text name)
include given texts

theorem build_eq_ok_iff {p : Policy} : build options = .ok p ↔
    (∀ entry ∈ entries, isOptionName entry.1 = true) ∧ Describes (.ofEntries entries) p := by
  by_cases known : ∀ entry ∈ entries, isOptionName entry.1 = true
  · rw [build_of_known given known, and_iff_right known, ← accept_eq_ok_iff]
    cases accept (Options.ofEntries entries) with
    | ok => rfl
    | error => simp
  · constructor
    · intro built
      push Not at known
      obtain ⟨entry, mem, unknown⟩ := known
      obtain ⟨problem, refused⟩ := build_of_unknown given texts mem (by simpa using unknown)
      cases built.symm.trans refused
    · intro described
      exact absurd described.1 known

theorem exists_build_iff : (∃ p, build options = .ok p) ↔ AreWellFormed entries := by
  simp only [build_eq_ok_iff given texts, exists_and_left, ← accept_eq_ok_iff, exists_accept_iff]
  constructor
  · intro ⟨known, well⟩
    exact (isWellFormed_ofEntries_iff known).mp well
  · intro well
    exact ⟨well.known, (isWellFormed_ofEntries_iff well.known).mpr well⟩

end

/-! ## Policies as options -/

def attributes (p : Policy) (codes : List Int) : Entries := [
  (.text "retry_status_codes", .list (codes.map Value.int)),
  (.text "max_retries", .int p.maxRetries), (.text "max_interval_millis", .number p.ceiling),
  (.text "backoff_multiplier", .number p.multiplier), (.text "sleeper", p.sleeper)]

theorem Describes.mem_codes {options : Options} {p : Policy} (h : Describes options p) :
    p.codes.Pairwise (· < ·) ∧ ∀ c, c ∈ p.codes ↔ ∃ items, codeItems options.codes = some items ∧
      ∃ item ∈ items, readCode item = .ok c := by
  obtain ⟨codes, listed, codes_eq, -⟩ := h.codes
  obtain ⟨items, given, read⟩ := acceptCodes_eq_ok_iff.mp listed
  rw [codes_eq]
  refine ⟨pairwise_codeSet codes, fun c => ?_⟩
  rw [mem_codeSet, mem_of_readCodes read, given]
  simp

theorem build_attributes {options : Options} {p : Policy} (h : Describes options p)
    {codes : List Int} (listed : ∀ c, c ∈ codes ↔ c ∈ p.codes) :
    ∃ q, build (.map (p.attributes codes)) = .ok q ∧ p.same q = true := by
  have given : (Value.map (p.attributes codes)).toEntries = .ok (p.attributes codes) := rfl
  have texts : ∀ entry ∈ p.attributes codes, ∃ name, entry.1 = .text name := by
    simp [attributes]
  have known : ∀ entry ∈ p.attributes codes, isOptionName entry.1 = true := by
    simp [attributes, isOptionName, optionNames]
  have codes_eq : p.codes = codeSet codes := by
    apply h.mem_codes.1.eq_of_mem_iff (pairwise_codeSet codes)
    intro c
    rw [mem_codeSet, listed]
  let q : Policy := { p with shownCodes := SlotTable.order codes }
  have described : Describes (.ofEntries (p.attributes codes)) q :=
    ⟨⟨codes, acceptCodes_ints codes, codes_eq, rfl⟩, rfl, rfl, rfl, rfl, h.waits⟩
  exact ⟨q, (build_eq_ok_iff given texts).mpr ⟨known, described⟩, same_of_eq rfl rfl rfl rfl⟩

/-- Options by name make a policy if and only if they are well-formed. Its codes are those that
are read from the items, each once, and what else it has is what is given or the default. What it
has makes an equal policy, in whatever order its codes are listed. -/
theorem build_of_options {options : Value} {entries : Entries}
    (given : options.toEntries = .ok entries)
    (texts : ∀ entry ∈ entries, ∃ name, entry.1 = .text name) :
    ((∃ p, build options = .ok p) ↔ AreWellFormed entries) ∧
      ∀ p, build options = .ok p →
        p.codes.Pairwise (· < ·) ∧
        (∀ c, c ∈ p.codes ↔ ∃ v items item, entries.getText? "retry_status_codes" = some v ∧
          codeItems v = some items ∧ item ∈ items ∧ readCode item = .ok c) ∧
        .int p.maxRetries = (entries.getText? "max_retries").getD (.int Defaults.maxRetries) ∧
        .number p.ceiling =
          (entries.getText? "max_interval_millis").getD (.int Defaults.maxIntervalMillis) ∧
        .number p.multiplier =
          (entries.getText? "backoff_multiplier").getD (.double Defaults.backoffMultiplier) ∧
        p.sleeper = (entries.getText? "sleeper").getD .sleeper ∧
        ∀ codes, (∀ c, c ∈ codes ↔ c ∈ p.codes) →
          ∃ q, build (.map (p.attributes codes)) = .ok q ∧ p.same q = true := by
  refine ⟨exists_build_iff given texts, fun p built => ?_⟩
  obtain ⟨-, described⟩ := (build_eq_ok_iff given texts).mp built
  obtain ⟨ascending, mem_codes⟩ := described.mem_codes
  refine ⟨ascending, fun c => ?_, described.maxRetries.symm, described.ceiling.symm,
    described.multiplier.symm, described.sleeper.symm, fun codes => build_attributes described⟩
  rw [mem_codes, Options.ofEntries]
  cases entries.getText? "retry_status_codes" with
  | none => simp [codeItems, Value.isTrue]
  | some v => simp

/-- A fraction is a ceiling too, although it is neither an integer nor a double. -/
theorem build_accepts_fraction :
    (∃ p, build (.map [(.text "max_interval_millis", .number (.ratio 1001))]) = .ok p) ∧
      (∀ i, Value.number (.ratio 1001) ≠ .int i) ∧ ∀ d, Value.number (.ratio 1001) ≠ .double d := by
  have built : (build (.map [(.text "max_interval_millis", .number (.ratio 1001))])).toOption.isSome
      = true := by
    decide +kernel
  obtain ⟨p, made⟩ := Option.isSome_iff_exists.mp built
  refine ⟨⟨p, eq_ok_of_toOption made⟩, fun i same => ?_, fun d same => ?_⟩
  · cases same
  · cases same

def digitCodes : Entries :=
  [(.text "retry_status_codes", .text "5030"),
    (.text "max_interval_millis", .double (Double.ofInt 500))]

/-- The digits are the codes, and the policy can be built again with its codes turned round. -/
theorem build_of_options_digits : ∃ p, build (.map digitCodes) = .ok p ∧ p.codes = [0, 3, 5] ∧
    ∃ q, build (.map (p.attributes [5, 3, 0])) = .ok q ∧ p.same q = true := by
  have codes : (build (.map digitCodes)).toOption.map (·.codes) = some [0, 3, 5] := by
    decide +kernel
  obtain ⟨p, made, codes_eq⟩ := Option.map_eq_some_iff.mp codes
  have built := eq_ok_of_toOption made
  have texts : ∀ entry ∈ digitCodes, ∃ name, entry.1 = .text name := by
    simp [digitCodes]
  have given : (Value.map digitCodes).toEntries = .ok digitCodes := rfl
  obtain ⟨-, has⟩ := build_of_options given texts
  obtain ⟨-, -, -, -, -, -, again⟩ := has p built
  refine ⟨p, built, codes_eq, again [5, 3, 0] fun c => ?_⟩
  rw [codes_eq]
  simp only [List.mem_cons, List.not_mem_nil, or_false]
  omega

end Policy

end HttpRetry

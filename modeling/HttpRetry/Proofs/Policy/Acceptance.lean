import HttpRetry.Policy.OfSettings
import HttpRetry.Proofs.Act
import HttpRetry.Proofs.Number.Range
import HttpRetry.Proofs.Value.Shown
import Mathlib.Data.Set.List

/-!
# What becomes of options

Options are accepted, or the configuration is refused. The exceptions are numbers that cannot
be converted, an infinity among the status codes or an integer or a fraction that has no nearest
double as the ceiling or as the multiplier, and values that are wrong and nested too deeply to be
shown. A check that meets one of them before anything else is wrong fails with a fault that
nothing makes a refusal of.
-/

namespace HttpRetry

namespace Policy

/-! ## Equal policies -/

theorem same_of_eq {p q : Policy} (codes : q.codes = p.codes)
    (maxRetries : q.maxRetries = p.maxRetries) (ceiling : q.ceiling = p.ceiling)
    (multiplier : q.multiplier = p.multiplier) : p.same q = true := by
  obtain ⟨c, hc⟩ := Number.toRat?_isSome p.ceiling_finite
  obtain ⟨m, hm⟩ := Number.toRat?_isSome p.multiplier_finite
  simp [same, codes, maxRetries, ceiling, multiplier, Number.same_iff hc hc, Number.same_iff hm hm]

/-! ## Checks -/

/-- What nothing makes a refusal of: a number that is out of range, or a value that is nested
too deeply to be shown. -/
inductive Escape where
  | range (error : RangeError)
  | buried
deriving DecidableEq

def Escape.fault : Escape → Fault
  | range e => .range e
  | buried => .unshowable .tooDeep

theorem Escape.fault_injective {e e' : Escape} (h : e.fault = e'.fault) : e = e' := by
  cases e <;> cases e' <;> cases h <;> rfl

def Refuses : Fault → Prop
  | .config _ => True
  | .unshowable problem => problem ≠ .tooDeep
  | _ => False

theorem Escape.not_refuses (e : Escape) : ¬Refuses e.fault := by
  cases e with
  | range => exact id
  | buried => exact fun refuses => refuses rfl

/-- A check passes or refuses, unless something escapes it. -/
structure Checks {α : Type} (escapes : Escape → Prop) (result : Except Fault α) : Prop where
  escape_iff : ∀ e : Escape, result = .error e.fault ↔ escapes e
  refuses : ∀ fault, result = .error fault → Refuses fault ∨ ∃ e : Escape, fault = e.fault

def IsBuried (v : Value) : Prop :=
  v.shown = .error .tooDeep

theorem not_isBuried_number (n : Number) : ¬IsBuried (.number n) :=
  n.shown_ne_tooDeep

namespace Checks

variable {α β : Type} {escapes : Escape → Prop}

theorem ok (a : α) : Checks (fun _ => False) (.ok a : Except Fault α) :=
  ⟨by simp, by simp⟩

theorem refused {fault : Fault} (h : Refuses fault) :
    Checks (fun _ => False) (.error fault : Except Fault α) := by
  constructor
  · intro e
    refine iff_of_false (fun raised => ?_) id
    rw [Except.error.injEq] at raised
    exact e.not_refuses (raised ▸ h)
  · intro other raised
    cases raised
    exact .inl h

theorem refused_config (problem : ConfigProblem) :
    Checks (fun _ => False) (.error (.config problem) : Except Fault α) := by
  have refuses : Refuses (.config problem) := trivial
  exact refused refuses

theorem escaped (reason : Escape) :
    Checks (fun e => e = reason) (.error reason.fault : Except Fault α) := by
  constructor
  · intro e
    rw [Except.error.injEq]
    exact ⟨fun same => (Escape.fault_injective same).symm, fun same => by rw [same]⟩
  · intro fault raised
    cases raised
    exact .inr ⟨reason, rfl⟩

theorem congr {escapes' : Escape → Prop} {result : Except Fault α} (h : Checks escapes result)
    (same : ∀ e, escapes e ↔ escapes' e) : Checks escapes' result :=
  ⟨fun e => (h.escape_iff e).trans (same e), h.refuses⟩

theorem bind {later : α → Escape → Prop} {result : Except Fault α} {f : α → Except Fault β}
    (first : Checks escapes result) (second : ∀ a, Checks (later a) (f a)) :
    Checks (fun e => escapes e ∨ ∃ a, result = .ok a ∧ later a e) (result >>= f) := by
  cases result with
  | ok a =>
    constructor
    · intro e
      rw [← first.escape_iff]
      simp [Bind.bind, Except.bind, (second _).escape_iff]
    · exact (second a).refuses
  | error fault =>
    constructor
    · intro e
      rw [← first.escape_iff]
      simp [Bind.bind, Except.bind]
    · intro other raised
      exact first.refuses other (by simpa [Bind.bind, Except.bind] using raised)

/-- A report shows the value that it is about. -/
theorem report (problem : String → ConfigProblem) (v : Value) :
    Checks (fun e => IsBuried v ∧ e = .buried)
      (do .error (.config (problem (← showValue v))) : Except Fault α) := by
  unfold showValue IsBuried
  cases shown : v.shown with
  | ok text => exact (refused_config _).congr fun e => by simp
  | error reason =>
    by_cases deep : reason = .tooDeep
    · subst deep
      exact (escaped .buried).congr fun e => by simp
    · have refuses : Refuses (.unshowable reason) := deep
      exact (refused refuses).congr fun e => by simp [deep]

theorem ofProblem (result : Except ConfigProblem α) :
    Checks (fun _ => False) (result.mapError Fault.config) := by
  cases result with
  | ok a => exact ok a
  | error problem => exact refused_config problem

end Checks

/-! ## Status codes -/

/-- Going through the value, an infinity comes before anything that is no status code. -/
def ListsInfinity (v : Value) : Prop :=
  ∃ before negative rest, v.items? = some (before ++ .double (.inf negative) :: rest) ∧
    ∀ item ∈ before, ∃ code, readCode item = .ok code

def FirstDefect (items : List Value) (defect : CodeDefect) : Prop :=
  ∃ before item rest, items = before ++ item :: rest ∧ readCode item = .error defect ∧
    ∀ item ∈ before, ∃ code, readCode item = .ok code

def ListsOther (v : Value) : Prop :=
  v.isTrue = true ∧ ∀ items, v.items? = some items → FirstDefect items .notInteger

theorem readCode_eq_infinite_iff {v : Value} :
    readCode v = .error .infinite ↔ ∃ negative, v = .double (.inf negative) := by
  unfold readCode
  cases v with
  | number n =>
    cases n with
    | int i => simp [Number.truncate, Value.double]
    | ratio q => simp [Number.truncate, Value.double]
    | double d => cases d <;> simp [Number.truncate, Value.double]
  | text s => cases h : readInteger? s.toList <;> simp [Value.double, h]
  | _ => simp [Value.double]

section
variable {v : Value} {items : List Value} {defect : CodeDefect}

theorem firstDefect_cons_of_error {reason : CodeDefect} (read : readCode v = .error reason) :
    FirstDefect (v :: items) defect ↔ reason = defect := by
  constructor
  · intro ⟨before, item, rest, items_eq, failed, codes⟩
    cases before with
    | nil =>
      obtain ⟨rfl, -⟩ := List.cons.inj items_eq
      exact Except.error.inj (read.symm.trans failed)
    | cons b before =>
      obtain ⟨rfl, -⟩ := List.cons.inj items_eq
      obtain ⟨code, read_ok⟩ := codes v List.mem_cons_self
      rw [read] at read_ok
      cases read_ok
  · intro same
    subst same
    exact ⟨[], v, items, rfl, read, by simp⟩

theorem firstDefect_cons_of_ok {code : Int} (read : readCode v = .ok code) :
    FirstDefect (v :: items) defect ↔ FirstDefect items defect := by
  constructor
  · intro ⟨before, item, rest, items_eq, failed, codes⟩
    cases before with
    | nil =>
      obtain ⟨rfl, -⟩ := List.cons.inj items_eq
      rw [failed] at read
      cases read
    | cons b before =>
      obtain ⟨rfl, rfl⟩ := List.cons.inj items_eq
      refine ⟨before, item, rest, rfl, failed, fun item mem => ?_⟩
      exact codes item (List.mem_cons_of_mem v mem)
  · intro ⟨before, item, rest, items_eq, failed, codes⟩
    subst items_eq
    refine ⟨v :: before, item, rest, rfl, failed, ?_⟩
    simpa using ⟨⟨code, read⟩, codes⟩

theorem readCodes_eq_error_iff : readCodes items = .error defect ↔ FirstDefect items defect := by
  induction items with
  | nil => simp [readCodes, FirstDefect]
  | cons v items ih =>
    cases read : readCode v with
    | error reason =>
      rw [firstDefect_cons_of_error read]
      simp [readCodes, read, bind, Except.bind]
    | ok code =>
      rw [firstDefect_cons_of_ok read, ← ih]
      cases rest : readCodes items <;>
        simp [readCodes, read, rest, bind, Except.bind, pure, Except.pure]

end

theorem listsInfinity_iff {v : Value} {items : List Value} (given : v.items? = some items) :
    ListsInfinity v ↔ readCodes items = .error .infinite := by
  rw [readCodes_eq_error_iff, ListsInfinity, given]
  constructor
  · rintro ⟨before, negative, rest, items_eq, codes⟩
    exact ⟨before, _, rest, Option.some.inj items_eq,
      readCode_eq_infinite_iff.mpr ⟨negative, rfl⟩, codes⟩
  · rintro ⟨before, item, rest, rfl, infinite, codes⟩
    obtain ⟨negative, rfl⟩ := readCode_eq_infinite_iff.mp infinite
    exact ⟨before, negative, rest, rfl, codes⟩

theorem isTrue_of_items {v : Value} {items : List Value} (given : v.items? = some items)
    (nonempty : items ≠ []) : v.isTrue = true := by
  cases v with
  | list => cases given; simpa [Value.isTrue] using nonempty
  | map => cases given; simpa [Value.isTrue] using nonempty
  | text s =>
    cases given
    by_contra untrue
    have empty : s = "" := by simpa [Value.isTrue] using untrue
    subst empty
    exact nonempty rfl
  | _ => cases given

def EscapesAsCodes (v : Value) : Escape → Prop
  | .range e => ListsInfinity v ∧ e = .infinityToInteger
  | .buried => IsBuried v ∧ ListsOther v

theorem acceptCodes_of_other {v : Value} (other : ListsOther v) :
    acceptCodes v = (do .error (.config (.codesNotIntegers (← showValue v)))) := by
  obtain ⟨truth, defect⟩ := other
  cases given : v.items? with
  | none => simp [acceptCodes, truth, given]
  | some items =>
    have read := readCodes_eq_error_iff.mpr (defect items given)
    simp [acceptCodes, truth, given, read]

theorem ListsInfinity.not_listsOther {v : Value} (h : ListsInfinity v) : ¬ListsOther v := by
  intro other
  obtain ⟨before, negative, rest, given, codes⟩ := h
  have infinite := (listsInfinity_iff given).mp ⟨before, negative, rest, given, codes⟩
  rw [readCodes_eq_error_iff.mpr (other.2 _ given)] at infinite
  cases infinite

theorem acceptCodes_of_infinity {v : Value} (h : ListsInfinity v) :
    acceptCodes v = .error (.range .infinityToInteger) := by
  obtain ⟨before, negative, rest, given, codes⟩ := h
  have truth := isTrue_of_items given (by simp)
  have read := (listsInfinity_iff given).mp ⟨before, negative, rest, given, codes⟩
  simp [acceptCodes, truth, given, read]

theorem exists_acceptCodes {v : Value} (finite : ¬ListsInfinity v) (numbers : ¬ListsOther v) :
    ∃ codes, acceptCodes v = .ok codes := by
  by_cases truth : v.isTrue = true
  · cases given : v.items? with
    | none => exact absurd ⟨truth, by simp [given]⟩ numbers
    | some items =>
      cases read : readCodes items with
      | ok codes => exact ⟨codes, by simp [acceptCodes, truth, given, read]⟩
      | error defect =>
        cases defect with
        | infinite => exact absurd ((listsInfinity_iff given).mpr read) finite
        | notInteger =>
          have first := readCodes_eq_error_iff.mp read
          exact absurd ⟨truth, fun _ given' => Option.some.inj (given.symm.trans given') ▸ first⟩
            numbers
  · exact ⟨[], by simp [acceptCodes, truth]⟩

theorem acceptCodes_checks (v : Value) : Checks (EscapesAsCodes v) (acceptCodes v) := by
  by_cases infinite : ListsInfinity v
  · have numbers := infinite.not_listsOther
    rw [acceptCodes_of_infinity infinite]
    exact (Checks.escaped (.range .infinityToInteger)).congr fun e => by
      cases e <;> simp [EscapesAsCodes, infinite, numbers]
  by_cases other : ListsOther v
  · rw [acceptCodes_of_other other]
    exact (Checks.report _ v).congr fun e => by
      cases e <;> simp [EscapesAsCodes, infinite, other]
  · obtain ⟨codes, accepted⟩ := exists_acceptCodes infinite other
    rw [accepted]
    exact (Checks.ok codes).congr fun e => by
      cases e <;> simp [EscapesAsCodes, infinite, other]

/-! ## The other options -/

theorem acceptRetries_checks (v : Value) :
    Checks (fun e => IsBuried v ∧ e = .buried) (acceptRetries v) := by
  unfold acceptRetries
  split
  · exact (Checks.ok _).congr fun e => by simp [not_isBuried_number]
  · exact (Checks.refused_config _).congr fun e => by simp [not_isBuried_number]
  · exact .report _ v

inductive BeyondDouble : Value → RangeError → Prop
  | integer {i : Int} (beyond : Double.overflow ≤ |(i : Rat)|) :
      BeyondDouble (.int i) .integerBeyondDouble
  | fraction {q : Rat} (beyond : Double.overflow ≤ |q|) :
      BeyondDouble (.number (.ratio q)) .fractionBeyondDouble

theorem nearestDouble_eq_error_iff {beyond e : RangeError} {q : Rat} :
    Number.nearestDouble beyond q = .error e ↔ Double.overflow ≤ |q| ∧ e = beyond := by
  by_cases within : |q| < Double.overflow
  · simp [Number.nearestDouble_of_lt within, not_le.mpr within]
  · simp [Number.nearestDouble_of_le (not_lt.mp within), not_lt.mp within, eq_comm]

theorem toDouble_eq_error_iff {n : Number} {e : RangeError} :
    n.toDouble = .error e ↔ BeyondDouble (.number n) e := by
  cases n with
  | int i =>
    refine nearestDouble_eq_error_iff.trans ⟨?_, ?_⟩
    · rintro ⟨beyond, rfl⟩
      exact .integer beyond
    · intro h
      cases h with
      | integer beyond => exact ⟨beyond, rfl⟩
  | ratio q =>
    refine nearestDouble_eq_error_iff.trans ⟨?_, ?_⟩
    · rintro ⟨beyond, rfl⟩
      exact .fraction beyond
    · intro h
      cases h with
      | fraction beyond => exact ⟨beyond, rfl⟩
  | double d =>
    constructor <;>
      · intro h
        cases h

def EscapesAsNumber (v : Value) : Escape → Prop
  | .range e => BeyondDouble v e
  | .buried => IsBuried v

section
variable {n : Number} (name : String)

theorem requireFinite_of_beyond {e : RangeError} (beyond : n.toDouble = .error e) :
    Schedule.requireFinite name (.number n) = .error (.range e) := by
  simp [Schedule.requireFinite, beyond]

theorem requireFinite_of_finite (finite : n.isFinite = true) :
    Schedule.requireFinite name (.number n) = .ok ⟨n, finite⟩ := by
  cases converted : n.toDouble with
  | error e => simp [Number.isFinite, converted] at finite
  | ok d => simp [Schedule.requireFinite, converted, finite]

theorem requireFinite_of_infinite {d : Double} (converted : n.toDouble = .ok d)
    (infinite : n.isFinite = false) : Schedule.requireFinite name (.number n) =
      (do .error (.config (.notFinite name (← showValue (.number n))))) := by
  simp [Schedule.requireFinite, converted, infinite]

end

theorem requireFinite_checks (name : String) (v : Value) :
    Checks (EscapesAsNumber v) (Schedule.requireFinite name v) := by
  cases v with
  | number n =>
    have shallow := not_isBuried_number n
    cases converted : n.toDouble with
    | error reason =>
      rw [requireFinite_of_beyond name converted]
      refine (Checks.escaped (.range reason)).congr fun e => ?_
      cases e with
      | buried => simp [EscapesAsNumber, shallow]
      | range e =>
        rw [EscapesAsNumber, ← toDouble_eq_error_iff, converted]
        simp [eq_comm]
    | ok d =>
      have within (e : RangeError) : ¬BeyondDouble (.number n) e := by
        rw [← toDouble_eq_error_iff, converted]
        simp
      cases finite : n.isFinite with
      | true =>
        rw [requireFinite_of_finite name finite]
        exact (Checks.ok _).congr fun e => by cases e <;> simp [EscapesAsNumber, within, shallow]
      | false =>
        rw [requireFinite_of_infinite name converted finite]
        exact (Checks.report _ _).congr fun e => by
          cases e <;> simp [EscapesAsNumber, within, shallow]
  | _ =>
    refine (Checks.report _ _).congr fun e => ?_
    cases e with
    | buried => simp [EscapesAsNumber]
    | range e =>
      refine iff_of_false (by simp) ?_
      intro h
      cases h

inductive Escapes (options : Options) : Escape → Prop
  | codes {e} (escapes : EscapesAsCodes options.codes e) : Escapes options e
  | maxRetries {codes} (listed : acceptCodes options.codes = .ok codes)
      (buried : IsBuried options.maxRetries) : Escapes options .buried
  | ceiling {codes retries e} (listed : acceptCodes options.codes = .ok codes)
      (capped : acceptRetries options.maxRetries = .ok retries)
      (waits : options.sleeper.isNull = false)
      (escapes : EscapesAsNumber options.ceiling e) : Escapes options e
  | multiplier {codes retries ceiling e} (listed : acceptCodes options.codes = .ok codes)
      (capped : acceptRetries options.maxRetries = .ok retries)
      (waits : options.sleeper.isNull = false)
      (finite : Schedule.requireFinite "max_interval_millis" options.ceiling = .ok ceiling)
      (escapes : EscapesAsNumber options.multiplier e) : Escapes options e

theorem accept_eq (options : Options) : accept options = (do
    let codes ← acceptCodes options.codes
    let retries ← acceptRetries options.maxRetries
    (if options.sleeper.isNull then .error (.config .missingSleeper) else .ok () :
      Except Fault Unit)
    let ceiling ← Schedule.requireFinite "max_interval_millis" options.ceiling
    let multiplier ← Schedule.requireFinite "multiplier" options.multiplier
    (ofParts codes retries options.sleeper ceiling multiplier).mapError .config) := by
  unfold accept
  cases options.sleeper.isNull <;> rfl

theorem accept_checks (options : Options) : Checks (Escapes options) (accept options) := by
  have sleeper : Checks (fun _ => False)
      (if options.sleeper.isNull then .error (.config .missingSleeper) else .ok () :
        Except Fault Unit) := by
    split
    · exact .refused_config _
    · exact .ok ()
  have checks := (acceptCodes_checks options.codes).bind fun codes =>
    (acceptRetries_checks options.maxRetries).bind fun retries =>
    sleeper.bind fun _ =>
    (requireFinite_checks "max_interval_millis" options.ceiling).bind fun ceiling =>
    (requireFinite_checks "multiplier" options.multiplier).bind fun multiplier =>
    Checks.ofProblem (ofParts codes retries options.sleeper ceiling multiplier)
  have waits_iff : (if options.sleeper.isNull then .error (.config .missingSleeper) else .ok () :
      Except Fault Unit) = .ok () ↔ options.sleeper.isNull = false := by
    cases options.sleeper.isNull <;> simp
  rw [accept_eq]
  refine checks.congr fun e => ?_
  -- what is left of the conditions of the checks that refuse and do nothing else
  simp only [false_or, and_false, exists_false, or_false, waits_iff]
  constructor
  · rintro (escapes | ⟨codes, listed, ⟨buried, rfl⟩ | ⟨retries, capped, -, waits, rest⟩⟩)
    · exact .codes escapes
    · exact .maxRetries listed buried
    · rcases rest with escapes | ⟨ceiling, finite, escapes⟩
      · exact .ceiling listed capped waits escapes
      · exact .multiplier listed capped waits finite escapes
  · intro escapes
    cases escapes with
    | codes escapes => exact .inl escapes
    | maxRetries listed buried => exact .inr ⟨_, listed, .inl ⟨buried, rfl⟩⟩
    | ceiling listed capped waits escapes =>
      exact .inr ⟨_, listed, .inr ⟨_, capped, (), waits, .inl escapes⟩⟩
    | multiplier listed capped waits finite escapes =>
      exact .inr ⟨_, listed, .inr ⟨_, capped, (), waits, .inr ⟨_, finite, escapes⟩⟩⟩

/-! ## Mappings and settings -/

theorem sortKeys_texts (names : List String) :
    sortKeys (names.map .text) = names.map .text := by
  have numbers : (names.map Value.text).filter (fun key => key.number?.isSome) = [] := by
    simp [List.filter_map, Value.number?]
  have others : (names.map Value.text).filter (not ∘ fun key => key.number?.isSome) =
      names.map .text := by
    simp [List.filter_map, Function.comp_def, Value.number?]
  rw [sortKeys, List.partition_eq_filter_filter, numbers, others]
  simp

theorem refuseUnknown_texts (names : List String) : refuseUnknown (names.map .text) =
    if names = [] then .ok ()
    else .error (.config (.unknownOptions (names.mergeSort CodePoint.precedes))) := by
  have texts (names : List String) : (names.map Value.text).mapM Value.text? = some names := by
    induction names with
    | nil => rfl
    | cons name rest ih => simp [List.mapM_cons, ih, Value.text?]
  unfold refuseUnknown
  rw [sortKeys_texts]
  cases names with
  | nil => rfl
  | cons name rest =>
    have all := texts (name :: rest)
    rw [List.map_cons] at all
    simp only [List.map_cons, all]
    rfl

theorem isAboutForm_escape (e : Escape) : isAboutForm e.fault = false := by
  cases e <;> rfl

section
variable {options : Value} {entries : Entries} (given : options.toEntries = .ok entries)
  (texts : ∀ entry ∈ entries, ∃ name, entry.1 = .text name)
include given

theorem build_of_known (known : ∀ entry ∈ entries, isOptionName entry.1 = true) :
    build options = match accept (Options.ofEntries entries) with
      | .ok policy => .ok policy
      | .error fault =>
        .error (if isAboutForm fault then .config (.invalidOptions fault.message) else fault) := by
  have none_unknown : (entries.map (·.1)).filter (fun key => !isOptionName key) = [] := by
    rw [List.filter_eq_nil_iff]
    intro key mem
    obtain ⟨entry, entry_mem, rfl⟩ := List.mem_map.mp mem
    simp [known entry entry_mem]
  have unrefused : refuseUnknown [] = .ok () := refuseUnknown_texts []
  cases accepted : accept (Options.ofEntries entries) with
  | ok policy => simp [build, given, none_unknown, unrefused, accepted, bind, Except.bind]
  | error fault => simp [build, given, none_unknown, unrefused, accepted, bind, Except.bind]

include texts in
theorem build_of_unknown {entry : Value × Value} (mem : entry ∈ entries)
    (unknown : isOptionName entry.1 = false) :
    ∃ problem, build options = .error (.config problem) := by
  have listed : (entries.map (·.1)).filter (fun key => !isOptionName key) ∈
      Set.range (List.map Value.text) := by
    rw [Set.range_list_map]
    intro key mem
    obtain ⟨entry, entry_mem, rfl⟩ := List.mem_map.mp (List.mem_filter.mp mem).1
    obtain ⟨name, name_eq⟩ := texts entry entry_mem
    exact ⟨name, name_eq.symm⟩
  obtain ⟨names, names_eq⟩ := listed
  have nonempty : names ≠ [] := by
    rintro rfl
    have present : entry.1 ∈ (entries.map (·.1)).filter (fun key => !isOptionName key) :=
      List.mem_filter.mpr ⟨List.mem_map_of_mem mem, by simp [unknown]⟩
    rw [← names_eq] at present
    cases present
  refine ⟨.unknownOptions (names.mergeSort CodePoint.precedes), ?_⟩
  simp only [build, given, ← names_eq, refuseUnknown_texts, if_neg nonempty, bind, Except.bind]

include texts in
theorem build_fault {fault : Fault} (raised : build options = .error fault) :
    (∃ problem, fault = .config problem) ∨ ∃ e : Escape, fault = e.fault := by
  by_cases known : ∀ entry ∈ entries, isOptionName entry.1 = true
  · rw [build_of_known given known] at raised
    cases accepted : accept (Options.ofEntries entries) with
    | ok policy => simp [accepted] at raised
    | error reason =>
      simp only [accepted, Except.error.injEq] at raised
      subst raised
      rcases (accept_checks _).refuses reason accepted with refuses | ⟨e, rfl⟩
      · cases reason with
        | config problem => exact .inl ⟨problem, rfl⟩
        | unshowable problem =>
          have about : isAboutForm (.unshowable problem) = true := decide_eq_true refuses
          rw [if_pos about]
          exact .inl ⟨_, rfl⟩
        | _ => cases refuses
      · rw [if_neg (by simp [isAboutForm_escape])]
        exact .inr ⟨e, rfl⟩
  · push Not at known
    obtain ⟨entry, mem, unknown⟩ := known
    obtain ⟨problem, refused⟩ := build_of_unknown given texts mem (by simpa using unknown)
    rw [refused] at raised
    cases raised
    exact .inl ⟨problem, rfl⟩

include texts in
theorem build_eq_escape_iff (e : Escape) : build options = .error e.fault ↔
    (∀ entry ∈ entries, isOptionName entry.1 = true) ∧ Escapes (Options.ofEntries entries) e := by
  by_cases known : ∀ entry ∈ entries, isOptionName entry.1 = true
  · rw [build_of_known given known, ← (accept_checks _).escape_iff, and_iff_right known]
    cases accepted : accept (Options.ofEntries entries) with
    | ok policy => simp
    | error reason =>
      simp only [Except.error.injEq]
      -- a fault that is translated does not escape, and one that escapes is not translated
      by_cases about : isAboutForm reason = true
      · rw [if_pos about]
        refine iff_of_false (fun translated => ?_) fun same => ?_
        · cases e <;> cases translated
        · rw [same, isAboutForm_escape] at about
          cases about
      · rw [if_neg about]
  · rw [iff_false_intro (not_and.mpr fun all => absurd all known), iff_false]
    push Not at known
    obtain ⟨entry, mem, unknown⟩ := known
    obtain ⟨problem, refused⟩ := build_of_unknown given texts mem (by simpa using unknown)
    rw [refused]
    cases e <;> simp [Escape.fault]

end

/-! ## Settings -/

def Options.ofSettings (s : Settings) : Options :=
  { codes := .list ((SlotTable.order s.retryStatusCodes).map Value.int)
    maxRetries := .int s.retryMaxRetries
    ceiling := .int s.retryMaxIntervalMillis
    multiplier := .double s.retryBackoffMultiplier }

theorem acceptCodes_ints (codes : List Int) :
    acceptCodes (.list (codes.map Value.int)) = .ok codes := by
  have read : readCodes (codes.map Value.int) = .ok codes := by
    induction codes with
    | nil => rfl
    | cons code rest ih =>
      simp [readCodes, readCode, Value.int, Number.truncate, ih, bind, Except.bind, pure,
        Except.pure]
  cases codes with
  | nil => rfl
  | cons code rest =>
    have truth : (Value.list ((code :: rest).map Value.int)).isTrue = true := rfl
    simp only [acceptCodes, truth, Value.items?, Option.map_some, read]
    rfl

theorem exists_acceptRetries_iff {i : Int} :
    (∃ retries, acceptRetries (.int i) = .ok retries) ↔ 0 ≤ i := by
  cases i with
  | ofNat n => exact iff_of_true ⟨n, rfl⟩ (Int.natCast_nonneg n)
  | negSucc n => exact iff_of_false (by simp [acceptRetries, Value.int]) (by omega)

variable (s : Settings)

theorem escapes_ofSettings_iff (e : Escape) : Escapes (.ofSettings s) e ↔
    (0 ≤ s.retryMaxRetries ∧ Double.overflow ≤ |(s.retryMaxIntervalMillis : Rat)|) ∧
      e = .range .integerBeyondDouble := by
  have listed : acceptCodes (Options.ofSettings s).codes =
      .ok (SlotTable.order s.retryStatusCodes) := acceptCodes_ints _
  constructor
  · intro escapes
    cases escapes with
    | codes escapes =>
      have raised := ((acceptCodes_checks _).escape_iff _).mpr escapes
      rw [listed] at raised
      cases raised
    | maxRetries _ buried => exact absurd buried (not_isBuried_number _)
    | ceiling _ capped _ escapes =>
      cases e with
      | buried => exact absurd escapes (not_isBuried_number _)
      | range e =>
        cases escapes with
        | integer beyond => exact ⟨⟨exists_acceptRetries_iff.mp ⟨_, capped⟩, beyond⟩, rfl⟩
    | multiplier _ _ _ _ escapes =>
      cases e with
      | buried => exact absurd escapes (not_isBuried_number _)
      | range e => cases escapes
  · rintro ⟨⟨nonneg, beyond⟩, rfl⟩
    obtain ⟨retries, capped⟩ := exists_acceptRetries_iff.mpr nonneg
    exact .ceiling listed capped rfl (.integer beyond)

theorem requireFinite_int {name : String} {i : Int} {fault : Fault}
    (raised : Schedule.requireFinite name (.int i) = .error fault) :
    fault = .range .integerBeyondDouble := by
  have exact : (Number.int i).exactValue? = some (i : Rat) := rfl
  by_cases within : |(i : Rat)| < Double.overflow
  · have finite := (Number.isFinite_iff exact).mpr within
    rw [Value.int, requireFinite_of_finite name finite] at raised
    cases raised
  · have beyond : (Number.int i).toDouble = .error .integerBeyondDouble :=
      Number.nearestDouble_of_le (not_lt.mp within) _
    rw [Value.int, requireFinite_of_beyond name beyond, Except.error.injEq] at raised
    exact raised.symm

theorem requireFinite_double {name : String} {d : Double} {fault : Fault}
    (raised : Schedule.requireFinite name (.double d) = .error fault) :
    ∃ problem, fault = .config problem := by
  have converted : (Number.double d).toDouble = .ok d := rfl
  have shown : showValue (.number (.double d)) = .ok d.text := rfl
  cases finite : (Number.double d).isFinite with
  | true =>
    rw [Value.double, requireFinite_of_finite name finite] at raised
    cases raised
  | false =>
    rw [Value.double, requireFinite_of_infinite name converted finite, shown] at raised
    cases raised
    exact ⟨_, rfl⟩

/-- What settings have is shown if it is wrong: integers are refused unseen. -/
theorem ofSettings_fault {fault : Fault} (raised : accept (.ofSettings s) = .error fault) :
    (∃ problem, fault = .config problem) ∨ fault = .range .integerBeyondDouble := by
  rw [accept_eq] at raised
  rcases exists_of_bind_error raised with unlisted | ⟨codes, -, raised⟩
  · rw [show acceptCodes (Options.ofSettings s).codes = _ from acceptCodes_ints _] at unlisted
    cases unlisted
  rcases exists_of_bind_error raised with uncapped | ⟨retries, -, raised⟩
  · refine .inl ?_
    unfold Options.ofSettings acceptRetries at uncapped
    cases i : s.retryMaxRetries with
    | ofNat n => simp [i, Value.int] at uncapped
    | negSucc n =>
      simp only [i, Value.int] at uncapped
      cases uncapped
      exact ⟨_, rfl⟩
  rcases exists_of_bind_error raised with asleep | ⟨_, -, raised⟩
  · cases asleep
  rcases exists_of_bind_error raised with infinite | ⟨ceiling, -, raised⟩
  · exact .inr (requireFinite_int infinite)
  rcases exists_of_bind_error raised with infinite | ⟨multiplier, -, raised⟩
  · exact .inl (requireFinite_double infinite)
  cases made : ofParts codes retries (Options.ofSettings s).sleeper ceiling multiplier with
  | ok p => simp [made, Except.mapError] at raised
  | error problem =>
    simp only [made, Except.mapError, Except.error.injEq] at raised
    exact .inl ⟨problem, raised.symm⟩

/-! ## Outcomes -/

/-- Options that are given by name make a policy or are refused as a configuration, unless a
number is out of range or a value is nested too deeply, and so do settings, of which only the
ceiling can be out of range. -/
theorem build_of_names {options : Value} {entries : Entries}
    (given : options.toEntries = .ok entries)
    (texts : ∀ entry ∈ entries, ∃ name, entry.1 = .text name) (s : Settings) :
    ((∃ p, build options = .ok p) ∨ (∃ problem, build options = .error (.config problem)) ∨
        ∃ e : Escape, build options = .error e.fault) ∧
      (∀ e : Escape, build options = .error e.fault ↔
        (∀ entry ∈ entries, isOptionName entry.1 = true) ∧ Escapes (.ofEntries entries) e) ∧
      (s.retryEnabled = false → ofSettings s = .ok none) ∧
      (s.retryEnabled = true → (∃ p, ofSettings s = .ok (some p)) ∨
        (∃ problem, ofSettings s = .error (.config problem)) ∨
          ofSettings s = .error (.range .integerBeyondDouble)) ∧
      (ofSettings s = .error (.range .integerBeyondDouble) ↔ s.retryEnabled = true ∧
        0 ≤ s.retryMaxRetries ∧ Double.overflow ≤ |(s.retryMaxIntervalMillis : Rat)|) := by
  refine ⟨?_, build_eq_escape_iff given texts, ?_, ?_, ?_⟩
  · cases built : build options with
    | ok p => exact .inl ⟨p, rfl⟩
    | error fault =>
      rcases build_fault given texts built with ⟨problem, rfl⟩ | ⟨e, rfl⟩
      · exact .inr (.inl ⟨problem, rfl⟩)
      · exact .inr (.inr ⟨e, rfl⟩)
  · intro disabled
    simp [ofSettings, disabled]
  · intro enabled
    have of_enabled : ofSettings s = (accept (.ofSettings s)).map some := if_pos enabled
    rw [of_enabled]
    cases accepted : accept (.ofSettings s) with
    | ok p => exact .inl ⟨p, rfl⟩
    | error fault =>
      rcases ofSettings_fault s accepted with ⟨problem, rfl⟩ | rfl
      · exact .inr (.inl ⟨problem, rfl⟩)
      · exact .inr (.inr rfl)
  · cases enabled : s.retryEnabled with
    | false => simp [ofSettings, enabled]
    | true =>
      have of_enabled : ofSettings s = (accept (.ofSettings s)).map some := if_pos enabled
      have map_iff : (accept (.ofSettings s)).map some = .error (.range .integerBeyondDouble) ↔
          accept (.ofSettings s) = .error (Escape.range .integerBeyondDouble).fault := by
        cases accept (.ofSettings s) <;> simp [Except.map, Escape.fault]
      rw [of_enabled, map_iff, (accept_checks _).escape_iff, escapes_ofSettings_iff]
      simp

def infiniteCode : Entries :=
  [(.text "retry_status_codes", .list [.double (.inf false)])]

theorem escapes_infiniteCode :
    (∀ entry ∈ infiniteCode, ∃ name, entry.1 = .text name) ∧
      (∀ entry ∈ infiniteCode, isOptionName entry.1 = true) ∧
      Escapes (.ofEntries infiniteCode) (.range .infinityToInteger) := by
  refine ⟨?_, ?_, .codes ⟨⟨[], false, [], rfl, by simp⟩, rfl⟩⟩
  · simp [infiniteCode]
  · simp [infiniteCode, isOptionName, optionNames]

/-- One option, with lists inside one another for a number. -/
def nestedRetries : Entries :=
  [(.text "max_retries", .nested Value.maxNesting)]

theorem escapes_nestedRetries :
    (∀ entry ∈ nestedRetries, ∃ name, entry.1 = .text name) ∧
      (∀ entry ∈ nestedRetries, isOptionName entry.1 = true) ∧
      Escapes (.ofEntries nestedRetries) .buried := by
  refine ⟨?_, ?_, .maxRetries (acceptCodes_ints []) (Value.shownWithin_nested _)⟩
  · simp [nestedRetries]
  · simp [nestedRetries, isOptionName, optionNames]

/-- Such options fail for want of range or for their depth, and settings with a ceiling of
`2 ^ 1024` for want of range. -/
theorem build_of_names_beyond :
    build (.map infiniteCode) = .error (.range .infinityToInteger) ∧
      build (.map nestedRetries) = .error (.unshowable .tooDeep) ∧
      ofSettings { retryMaxIntervalMillis := 2 ^ 1024 } = .error (.range .integerBeyondDouble) := by
  obtain ⟨texts, known, escapes⟩ := escapes_infiniteCode
  have huge : Double.overflow ≤ |(((2 : Int) ^ 1024 : Int) : Rat)| := by
    have limit_eq : Double.limit = (2 : Rat) ^ 1024 :=
      Double.limit_eq.trans (zpow_natCast (2 : Rat) 1024)
    rw [Int.cast_pow, Int.cast_ofNat, abs_of_pos (pow_pos two_pos 1024), ← limit_eq]
    exact Double.overflow_lt_limit.le
  have given : (Value.map infiniteCode).toEntries = .ok infiniteCode := rfl
  obtain ⟨-, escape_iff, -, -, settings_iff⟩ :=
    build_of_names given texts { retryMaxIntervalMillis := 2 ^ 1024 }
  obtain ⟨texts', known', escapes'⟩ := escapes_nestedRetries
  have given' : (Value.map nestedRetries).toEntries = .ok nestedRetries := rfl
  obtain ⟨-, escape_iff', -⟩ := build_of_names given' texts' {}
  exact ⟨(escape_iff (.range _)).mpr ⟨known, escapes⟩, (escape_iff' .buried).mpr ⟨known', escapes'⟩,
    settings_iff.mpr ⟨rfl, by decide, huge⟩⟩

/-- Options are neither accepted nor refused as a configuration. -/
theorem build_escapes : (∀ p, build (.map infiniteCode) ≠ .ok p) ∧
    ∀ problem, build (.map infiniteCode) ≠ .error (.config problem) := by
  obtain ⟨texts, known, escapes⟩ := escapes_infiniteCode
  have given : (Value.map infiniteCode).toEntries = .ok infiniteCode := rfl
  have raised := (build_eq_escape_iff given texts _).mpr ⟨known, escapes⟩
  rw [raised]
  constructor
  · intro p made
    cases made
  · intro problem refused
    cases refused

end Policy

end HttpRetry

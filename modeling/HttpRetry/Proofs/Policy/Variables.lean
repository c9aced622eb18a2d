import HttpRetry.Proofs.Number.SlotTable
import HttpRetry.Proofs.Policy.Options
import HttpRetry.Proofs.Settings.Variables
import HttpRetry.Proofs.Value.Array

/-!
# Policies from variables

Integers can be given as variables of the environment or as options. The texts of the variables
read as the integers again, so both ways lead to the same options, which are accepted or refused
in the same way.
-/

namespace HttpRetry

open Coercion (IsBrief)

namespace Settings

/-- The environment has the texts of these integers, and no other text for a setting. -/
structure Numbered (s : Surroundings) (retries ceiling : Int) (codes : List Int) : Prop where
  retries : environmentText? s .retryMaxRetries = some (toString retries)
  ceiling : environmentText? s .retryMaxIntervalMillis = some (toString ceiling)
  codes : ∃ gap, (∀ c ∈ gap.toList, Json.isSpace c = true) ∧
    environmentText? s .retryStatusCodes = some (Json.arrayText gap codes)
  others : ∀ f, f ≠ .retryMaxRetries → f ≠ .retryMaxIntervalMillis → f ≠ .retryStatusCodes →
    environmentText? s f = none
  noFile : ∀ content, s.readFile ".env" ≠ some (.regular content)

variable {s : Surroundings} {retries ceiling : Int} {codes : List Int}

def numbers (retries ceiling : Int) (codes : List Int) : Field → Option Value
  | .retryMaxRetries => some (.text (toString retries))
  | .retryMaxIntervalMillis => some (.text (toString ceiling))
  | .retryStatusCodes => some (.list (codes.map Value.int))
  | _ => none

theorem Numbered.find (h : Numbered s retries ceiling codes) (brief : ∀ i ∈ codes, IsBrief i)
    (f : Field) :
    (Rules.ofOverrides []).find .environment ((Rules.ofOverrides []).environmentTexts s) f =
      .ok (numbers retries ceiling codes f) := by
  rw [find_environment]
  cases f with
  | retryMaxRetries => simp only [h.retries, valueOf, numbers]
  | retryMaxIntervalMillis => simp only [h.ceiling, valueOf, numbers]
  | retryStatusCodes =>
    obtain ⟨gap, blank, given⟩ := h.codes
    simp only [given, valueOf, Json.read_arrayText blank brief, numbers]
  | _ => rw [h.others _ (by decide) (by decide) (by decide)]; rfl

theorem Numbered.files (h : Numbered s retries ceiling codes) :
    (Rules.ofOverrides []).readEnvFiles s = .ok [] := by
  have read := readEnvFiles_plain s
  split at read
  · next content node => exact absurd (regular_of_node node) (h.noFile content)
  · exact read

theorem ofGiven_numbers (brief_retries : IsBrief retries) (brief_ceiling : IsBrief ceiling)
    (codes : List Int) : ofGiven (numbers retries ceiling codes) =
      ⟨[], { retryMaxRetries := retries, retryStatusCodes := codes
             retryMaxIntervalMillis := ceiling }⟩ := by
  simp only [ofGiven, numbers, check, checkCodes, Option.map_some, Option.map_none,
    Coercion.integer_toString brief_retries, Coercion.integer_toString brief_ceiling,
    integersFrom_ints]
  rfl

theorem load_numbered (h : Numbered s retries ceiling codes)
    (brief : ∀ i ∈ retries :: ceiling :: codes, IsBrief i) :
    load [] s = .ok { retryMaxRetries := retries, retryStatusCodes := codes
                      retryMaxIntervalMillis := ceiling } := by
  have brief_retries := brief retries List.mem_cons_self
  have brief_ceiling := brief ceiling (List.mem_cons_of_mem _ List.mem_cons_self)
  have brief_codes : ∀ i ∈ codes, IsBrief i := fun i mem =>
    brief i (List.mem_cons_of_mem _ (List.mem_cons_of_mem _ mem))
  have gathered : Given.gather (Rules.ofOverrides []) [] s = .ok _ :=
    (opens_plain h.files).gather (findAll_of_ok (h.find brief_codes))
      (findAll_of_ok (find_nil .envFile))
  generalize given_eq : givenBy (Rules.ofOverrides []) [] [] (numbers retries ceiling codes)
    (fun _ => none) = given at gathered
  have value_eq : given.value? = numbers retries ceiling codes := by
    subst given_eq
    funext f
    simp [givenBy, fromOverrides]
  have unknown : given.unknown = [] := by
    subst given_eq
    rfl
  have read := ofGiven_numbers brief_retries brief_ceiling codes
  have problems : given.problems = [] := by
    rw [Given.problems, ← problems_ofGiven, value_eq, read, unknown]
    rfl
  rw [load_of_gather gathered, problems, value_eq, read]
  rfl

end Settings

namespace Policy

variable {s : Surroundings} {retries ceiling : Int} {codes : List Int}

def withCodes (p : Policy) (codes : List Int) : Policy :=
  { p with codes := codeSet codes, shownCodes := SlotTable.order codes }

def numberOptions (retries ceiling : Int) (codes : List Int) : Options :=
  { codes := .list (codes.map Value.int), maxRetries := .int retries, ceiling := .int ceiling }

theorem ofParts_codes (codes : List Int) (retries : Nat) (waiter : Value)
    (ceiling multiplier : Schedule.FiniteNumber) :
    ofParts codes retries waiter ceiling multiplier =
      (ofParts [] retries waiter ceiling multiplier).map (·.withCodes codes) := by
  unfold ofParts
  dsimp only
  split
  · split <;> rfl
  · rfl

/-- Integers as codes are no reason to refuse options. -/
theorem accept_numberOptions (retries ceiling : Int) (codes : List Int) :
    accept (numberOptions retries ceiling codes) =
      (accept (numberOptions retries ceiling [])).map (·.withCodes codes) := by
  have listed (codes : List Int) :
      acceptCodes (numberOptions retries ceiling codes).codes = .ok codes := acceptCodes_ints codes
  rw [accept_eq, accept_eq, listed, listed]
  simp only [numberOptions, bind, Except.bind]
  cases acceptRetries (.int retries) with
  | error => rfl
  | ok retries =>
    cases Schedule.requireFinite "max_interval_millis" (.int ceiling) with
    | error => rfl
    | ok ceiling =>
      simp only [Value.isNull, Bool.false_eq_true, if_false]
      cases Schedule.requireFinite "multiplier" (.double Defaults.backoffMultiplier) with
      | error => rfl
      | ok multiplier =>
        dsimp only
        rw [ofParts_codes codes]
        cases ofParts [] retries .sleeper ceiling multiplier <;> rfl

def numberEntries (retries ceiling : Int) (codes : List Int) : Entries := [
  (.text "max_retries", .int retries), (.text "max_interval_millis", .int ceiling),
  (.text "retry_status_codes", .list (codes.map Value.int))]

theorem build_numberEntries (retries ceiling : Int) (codes : List Int) :
    build (.map (numberEntries retries ceiling codes)) =
      (accept (numberOptions retries ceiling [])).map (·.withCodes codes) := by
  have given : (Value.map (numberEntries retries ceiling codes)).toEntries =
      .ok (numberEntries retries ceiling codes) := rfl
  have known : ∀ entry ∈ numberEntries retries ceiling codes, isOptionName entry.1 = true := by
    simp [numberEntries, isOptionName, optionNames]
  have options : Options.ofEntries (numberEntries retries ceiling codes) =
      numberOptions retries ceiling codes := rfl
  rw [build_of_known given known, options, accept_numberOptions]
  cases accepted : accept (numberOptions retries ceiling []) with
  | ok p => rfl
  | error fault =>
    -- what is refused can be shown, so that no refusal is about the form
    have raised : accept (.ofSettings { retryMaxRetries := retries, retryStatusCodes := []
                                        retryMaxIntervalMillis := ceiling }) = .error fault :=
      accepted
    rcases ofSettings_fault _ raised with ⟨problem, rfl⟩ | rfl
    · rfl
    · rfl

theorem ofSettings_numbers (retries ceiling : Int) (codes : List Int) :
    ofSettings { retryMaxRetries := retries, retryStatusCodes := codes
                 retryMaxIntervalMillis := ceiling } =
      (accept (numberOptions retries ceiling [])).map
        fun p => some (p.withCodes (SlotTable.order codes)) := by
  have accepted : ofSettings { retryMaxRetries := retries, retryStatusCodes := codes
                               retryMaxIntervalMillis := ceiling } =
      (accept (numberOptions retries ceiling (SlotTable.order codes))).map some := rfl
  rw [accepted, accept_numberOptions]
  cases accept (numberOptions retries ceiling []) <;> rfl

/-- Settings that come from variables and options give equal policies, or both fail with the same
fault, for all integers of no more than 4300 digits. -/
theorem ofSettings_load_eq_build (h : Settings.Numbered s retries ceiling codes)
    (brief : ∀ i ∈ retries :: ceiling :: codes, IsBrief i) :
    (∃ p q, (do ofSettings (← Settings.load [] s)) = .ok (some p) ∧
      build (.map (numberEntries retries ceiling codes)) = .ok q ∧ p.same q = true) ∨
    ∃ fault, (do ofSettings (← Settings.load [] s)) = .error fault ∧
      build (.map (numberEntries retries ceiling codes)) = .error fault := by
  have settings_eq : (do ofSettings (← Settings.load [] s)) =
      (accept (numberOptions retries ceiling [])).map
        fun p => some (p.withCodes (SlotTable.order codes)) := by
    rw [Settings.load_numbered h brief]
    exact ofSettings_numbers retries ceiling codes
  rw [settings_eq, build_numberEntries]
  cases accept (numberOptions retries ceiling []) with
  | ok p =>
    have codes_eq : codeSet codes = codeSet (SlotTable.order codes) :=
      codeSet_congr fun c => SlotTable.mem_order.symm
    exact .inl ⟨_, _, rfl, rfl, same_of_eq codes_eq rfl rfl rfl⟩
  | error fault => exact .inr ⟨fault, rfl, rfl⟩

def threeNumbers (ceiling : String) : Surroundings where
  environment := [("http_sdk_retry_max_retries", "3"),
    ("http_sdk_retry_max_interval_millis", ceiling),
    ("http_sdk_retry_status_codes", "[503,429,503]")]
  files := []

theorem numbered_threeNumbers (ceiling : Int) :
    Settings.Numbered (threeNumbers (toString ceiling)) 3 ceiling [503, 429, 503] := by
  generalize given : toString ceiling = text
  have lowered : ∀ entry ∈ (threeNumbers text).environment, lowerCase entry.1 = entry.1 := by
    have names : ["http_sdk_retry_max_retries", "http_sdk_retry_max_interval_millis",
        "http_sdk_retry_status_codes"].all (fun name => Case.isName name.toList) = true := by
      decide +kernel
    exact fun entry mem =>
      lowerCase_of_isName (List.all_eq_true.mp names entry.1 (List.mem_map_of_mem mem))
  have text_eq (f : Settings.Field) : Settings.environmentText? (threeNumbers text) f =
      (((threeNumbers text).environment.filter fun entry =>
        entry.1 = Settings.variableName f).getLast?).map (·.2) := by
    rw [Settings.environmentText?, List.filter_congr fun entry mem => by rw [lowered entry mem]]
  constructor
  · rw [text_eq]
    rfl
  · rw [text_eq, given]
    rfl
  · refine ⟨"", by simp, ?_⟩
    rw [text_eq]
    rfl
  · intro f
    rw [text_eq]
    cases f <;> first | exact fun _ _ _ => rfl | simp
  · intro content found
    cases found

/-- Both ways accept a ceiling of a second, and refuse one below the initial interval. -/
theorem ofSettings_load_eq_build_three :
    (∃ p q, (do ofSettings (← Settings.load [] (threeNumbers "1000"))) = .ok (some p) ∧
      build (.map (numberEntries 3 1000 [503, 429, 503])) = .ok q ∧ p.same q = true) ∧
    ∃ fault, (do ofSettings (← Settings.load [] (threeNumbers "-1"))) = .error fault ∧
      build (.map (numberEntries 3 (-1) [503, 429, 503])) = .error fault := by
  have brief (ceiling : Int) (short : ceiling.natAbs < 10 ^ 4) :
      ∀ i ∈ (3 : Int) :: ceiling :: [503, 429, 503], IsBrief i := by
    have small : ∀ i ∈ (3 : Int) :: ceiling :: [503, 429, 503], i.natAbs < 10 ^ 4 := by
      simpa using short
    exact fun i mem => (small i mem).trans_le (Nat.pow_le_pow_right (by decide) (by decide))
  constructor
  · rcases ofSettings_load_eq_build (numbered_threeNumbers 1000) (brief 1000 (by decide)) with
      accepted | ⟨fault, -, refused⟩
    · exact accepted
    · have built :
          (build (.map (numberEntries 3 1000 [503, 429, 503]))).toOption.isSome = true := by
        decide +kernel
      rw [refused] at built
      cases built
  · rcases ofSettings_load_eq_build (numbered_threeNumbers (-1)) (brief (-1) (by decide)) with
      ⟨p, q, -, built, -⟩ | refused
    · have none_built :
          (build (.map (numberEntries 3 (-1) [503, 429, 503]))).toOption.isSome = false := by
        decide +kernel
      rw [built] at none_built
      cases none_built
    · exact refused

end Policy

end HttpRetry

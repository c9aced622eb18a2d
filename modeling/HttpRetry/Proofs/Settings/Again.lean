import HttpRetry.Proofs.Settings.Variables

/-!
# Settings given again as overrides

Reading brings a value into a form that is read as it stands: a level is a name in capitals, a
number is no text any more. Settings that are given back as overrides are therefore accepted, and
they are the same again.
-/

namespace HttpRetry.Settings

variable {s : Surroundings} {f : Field} {settings : Settings}
  {overrides : List (String × Value)}

/-! ## Values that are read as they stand -/

/-- What `read` gives is read again as itself from the value that `write` makes of it. -/
def ReadsBack {α : Type} (read : Value → Except FieldDefect α) (write : α → Value) : Prop :=
  ∀ v a, read v = .ok a → read (write a) = .ok a

theorem readsBack_timeout : ReadsBack readTimeout .int := by
  intro v millis read
  unfold readTimeout at read
  obtain ⟨i, -, kept⟩ := exists_of_bind_ok read
  split at kept
  · cases kept
  · next nonneg =>
    obtain rfl := Except.ok.inj kept
    exact if_neg nonneg

theorem readsBack_integer : ReadsBack Coercion.integer .int :=
  fun _ _ _ => rfl

theorem readsBack_truth : ReadsBack Coercion.truth .bool :=
  fun _ _ _ => rfl

theorem readsBack_double : ReadsBack Coercion.double .double :=
  fun _ _ _ => rfl

theorem readsBack_level : ReadsBack readLevel fun level => .text level.name := by
  intro v level _
  cases level <;> rfl

theorem readsBack_format : ReadsBack readFormat fun format => .text format.name := by
  intro v format _
  cases format <;> rfl

theorem check_again {α : Type} {default : α} {read : Value → Except FieldDefect α}
    {write : α → Value} (back : ReadsBack read write) (kept : read (write default) = .ok default)
    {given given' : Option Value} (clean : (check f default read given).problems = [])
    (again : given' = given ∨ given' = some (write (check f default read given).value)) :
    check f default read given' = ⟨[], (check f default read given).value⟩ := by
  unfold check at clean again ⊢
  cases given with
  | none =>
    rcases again with rfl | rfl
    · rfl
    · simp only [Option.map_some, Option.map_none, kept]
  | some v =>
    cases result : read v with
    | error defect => simp [result] at clean
    | ok a =>
      simp only [Option.map_some, result] at again ⊢
      rcases again with rfl | rfl
      · simp only [Option.map_some, result]
      · simp only [Option.map_some, back v a result]

theorem checkCodes_again {given given' : Option Value} (clean : (checkCodes given).problems = [])
    (again : given' = given ∨
      given' = some (.list ((checkCodes given).value.map Value.int))) :
    checkCodes given' = ⟨[], (checkCodes given).value⟩ := by
  rcases again with rfl | rfl
  · rw [← clean]
  · generalize (checkCodes given).value = codes
    simp only [checkCodes, integersFrom_ints, List.map_nil]

/-! ## The fields of settings -/

def valueAt (s : Settings) : Field → Value
  | .connectTimeoutMillis => .int s.connectTimeoutMillis
  | .readTimeoutMillis => .int s.readTimeoutMillis
  | .retryEnabled => .bool s.retryEnabled
  | .retryMaxRetries => .int s.retryMaxRetries
  | .retryStatusCodes => .list (s.retryStatusCodes.map Value.int)
  | .retryMaxIntervalMillis => .int s.retryMaxIntervalMillis
  | .retryBackoffMultiplier => .double s.retryBackoffMultiplier
  | .logLevel => .text s.logLevel.name
  | .logFormat => .text s.logFormat.name

theorem toOverrides_eq (s : Settings) :
    s.toOverrides = Field.all.map fun f => (f.name, s.valueAt f) :=
  rfl

/-- Values that were accepted, each of them as it was given or as it was read, are read as the
same settings. -/
theorem ofGiven_again {given given' : Field → Option Value}
    (accepted : ofGiven given = ⟨[], settings⟩)
    (again : ∀ f, given' f = given f ∨ given' f = some (settings.valueAt f)) :
    ofGiven given' = ⟨[], settings⟩ := by
  have clean : (ofGiven given).problems = [] := congrArg Checked.problems accepted
  obtain rfl : (ofGiven given).value = settings := congrArg Checked.value accepted
  have every (f : Field) : problemsOf f (given f) = [] := by
    rw [problems_ofGiven, List.flatMap_eq_nil_iff] at clean
    exact clean f f.mem_all
  have connect := check_again readsBack_timeout rfl (every .connectTimeoutMillis)
    (again .connectTimeoutMillis)
  have read := check_again readsBack_timeout rfl (every .readTimeoutMillis)
    (again .readTimeoutMillis)
  have enabled := check_again readsBack_truth rfl (every .retryEnabled) (again .retryEnabled)
  have retries := check_again readsBack_integer rfl (every .retryMaxRetries)
    (again .retryMaxRetries)
  have codes := checkCodes_again (every .retryStatusCodes) (again .retryStatusCodes)
  have ceiling := check_again readsBack_integer rfl (every .retryMaxIntervalMillis)
    (again .retryMaxIntervalMillis)
  have multiplier := check_again readsBack_double rfl (every .retryBackoffMultiplier)
    (again .retryBackoffMultiplier)
  have level := check_again readsBack_level rfl (every .logLevel) (again .logLevel)
  have format := check_again readsBack_format rfl (every .logFormat) (again .logFormat)
  simp only [ofGiven, connect, read, enabled, retries, codes, ceiling, multiplier, level, format]
  rfl

/-! ## Settings as overrides -/

theorem fromOverrides_toOverrides (s : Settings) (others : List (String × Value)) (f : Field) :
    fromOverrides (s.toOverrides ++ others) f = some (s.valueAt f) := by
  have found : (Field.all.find? fun g => g.name = f.name) = some f := f.ofName?_name
  simp only [fromOverrides, toOverrides_eq, List.find?_append, List.find?_map, Function.comp_def,
    Field.lowerCase_name, found]
  rfl

theorem unknownOverrides_toOverrides (s : Settings) {rules : List (String × Value)}
    (known : ∀ entry ∈ rules, entry.1 ∈ Rules.names) :
    unknownOverrides (s.toOverrides ++ rules) = [] := by
  unfold unknownOverrides
  rw [List.filter_eq_nil_iff]
  intro name mem
  obtain ⟨entry, entry_mem, rfl⟩ := List.mem_map.mp mem
  rcases List.mem_append.mp entry_mem with mem | mem
  · rw [toOverrides_eq] at mem
    obtain ⟨f, -, rfl⟩ := List.mem_map.mp mem
    simp [Field.lowerCase_name, Field.ofName?_name]
  · simp [known entry mem]

/-! ## Sources under the same rules -/

/-- The other sources give the same for all overrides that are read under the same rules. -/
theorem exists_gather {r : Rules} {given : Given}
    (gathered : Given.gather r overrides s = .ok given) :
    ∃ (commandLine : Field → Option Value) (later : List (Field → Option Value))
      (unknown : List String), ∀ others, Given.gather r others s =
        .ok { value? := firstOf (commandLine :: fromOverrides others :: later)
              unknown := (unknownOverrides others ++ unknown).eraseDups } := by
  unfold Given.gather at gathered
  obtain ⟨_, checked, gathered⟩ := exists_of_bind_ok gathered
  obtain ⟨bindings, files, gathered⟩ := exists_of_bind_ok gathered
  obtain ⟨commandLine, arguments, gathered⟩ := exists_of_bind_ok gathered
  obtain ⟨environment, found, gathered⟩ := exists_of_bind_ok gathered
  obtain ⟨envFile, found', gathered⟩ := exists_of_bind_ok gathered
  obtain ⟨secrets, found'', -⟩ := exists_of_bind_ok gathered
  refine ⟨commandLine, [environment, envFile, secrets], unknownTexts r (r.texts bindings), ?_⟩
  intro others
  simp only [Given.gather, checked, files, arguments, found, found', found'', bind,
    Except.bind]
  rfl

/-- Rules that are kept read the sources in the same way. -/
theorem ofOverrides_toOverrides (s : Settings) (rules : List (String × Value)) :
    Rules.ofOverrides (s.toOverrides ++ rules) = Rules.ofOverrides rules := by
  apply ofOverrides_congr
  intro name rule
  have other : s.toOverrides.lookup name = none := by
    rw [List.lookup_eq_none_iff]
    intro entry mem
    rw [toOverrides_eq] at mem
    obtain ⟨f, -, rfl⟩ := List.mem_map.mp mem
    simpa using fun eq : name = f.name => f.notMem_names (eq ▸ rule)
  rw [List.lookup_append, other, Option.none_or]

def rulesAmong (overrides : List (String × Value)) : List (String × Value) :=
  overrides.filter fun entry => Rules.names.contains entry.1

theorem ofOverrides_rulesAmong (overrides : List (String × Value)) :
    Rules.ofOverrides (rulesAmong overrides) = Rules.ofOverrides overrides := by
  apply ofOverrides_congr
  intro name rule
  induction overrides with
  | nil => rfl
  | cons entry rest ih =>
    unfold rulesAmong at *
    by_cases same : name = entry.1
    · subst same
      rw [List.filter_cons_of_pos (by simpa using rule), List.lookup_cons_self,
        List.lookup_cons_self]
    · have other : (name == entry.1) = false := by simpa using same
      rw [List.lookup_cons, other, List.filter_cons]
      split
      · rw [List.lookup_cons, other, ih]
      · exact ih

/-- What the first source gives after one of them gives something else. -/
theorem firstOf_again {commandLine overriding overriding' : Field → Option Value}
    {later : List (Field → Option Value)} {v : Value} (given : overriding' f = some v) :
    firstOf (commandLine :: overriding' :: later) f =
        firstOf (commandLine :: overriding :: later) f ∨
      firstOf (commandLine :: overriding' :: later) f = some v := by
  unfold firstOf
  cases first : commandLine f with
  | none => exact .inr (by simp [first, given])
  | some w => exact .inl (by simp [first])

theorem load_again {rules : List (String × Value)} (loaded : load overrides s = .ok settings)
    (known : ∀ entry ∈ rules, entry.1 ∈ Rules.names)
    (same : Rules.ofOverrides rules = Rules.ofOverrides overrides) :
    load (settings.toOverrides ++ rules) s = .ok settings := by
  obtain ⟨given, gathered, recognized, read⟩ := load_eq_ok_iff.mp loaded
  obtain ⟨commandLine, later, unknown, gathers⟩ := exists_gather gathered
  obtain rfl := Except.ok.inj (gathered.symm.trans (gathers overrides))
  have none_unknown : unknown = [] := by
    rw [List.eq_nil_iff_forall_not_mem]
    intro name mem
    have listed := List.mem_eraseDups.mpr (List.mem_append_right (unknownOverrides overrides) mem)
    exact List.ne_nil_of_mem listed recognized
  rw [load_eq_ok_iff, ofOverrides_toOverrides, same]
  refine ⟨_, gathers _, ?_, ?_⟩
  · rw [unknownOverrides_toOverrides settings known, none_unknown]
    rfl
  · apply ofGiven_again read
    intro f
    exact firstOf_again (fromOverrides_toOverrides settings rules f)

/-- Settings that are given again as overrides, with the rules by which the sources are read, are
the same again in all fields. Without rules they are the overrides alone. -/
theorem load_toOverrides (loaded : load overrides s = .ok settings) :
    load (settings.toOverrides ++ rulesAmong overrides) s = .ok settings ∧
      ((∀ entry ∈ overrides, entry.1 ∉ Rules.names) →
        load settings.toOverrides s = .ok settings) := by
  constructor
  · apply load_again loaded
    · intro entry mem
      simpa using (List.mem_filter.mp mem).2
    · exact ofOverrides_rulesAmong overrides
  · intro plain
    rw [← List.append_nil settings.toOverrides]
    apply load_again loaded
    · simp
    · exact (ofOverrides_of_plain plain).symm

def wordy : List (String × Value) :=
  [(Field.retryBackoffMultiplier.name, .text "NaN")]

theorem load_wordy : load wordy ⟨[], []⟩ = .ok { retryBackoffMultiplier := .nan } := by
  have gathered : Given.gather (Rules.ofOverrides []) wordy ⟨[], []⟩ = .ok _ :=
    (opens_plain (readEnvFiles_plain _)).gather (findAll_of_ok (find_nil .environment))
      (findAll_of_ok (find_nil .envFile))
  have plain : ∀ entry ∈ wordy, entry.1 ∉ Rules.names := plain_single _ _
  have read : Coercion.double (.text "NaN") = .ok .nan := rfl
  rw [load_eq_ok_iff, ofOverrides_of_plain plain]
  refine ⟨_, gathered, ?_, ?_⟩
  · simp [givenBy, wordy, unknownOverrides_single, unknownTexts, texts_plain]
  · simp [givenBy, wordy, fromOverrides_single, ofGiven, check, checkCodes, read]

theorem load_toOverrides_wordy : ∃ settings, load wordy ⟨[], []⟩ = .ok settings ∧
    settings.retryBackoffMultiplier = .nan ∧
    load settings.toOverrides ⟨[], []⟩ = .ok settings :=
  ⟨_, load_wordy, rfl, (load_toOverrides load_wordy).2 (plain_single _ _)⟩

end HttpRetry.Settings

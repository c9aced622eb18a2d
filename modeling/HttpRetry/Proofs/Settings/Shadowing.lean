import HttpRetry.Proofs.Settings.References
import HttpRetry.Proofs.Settings.Replacing
import HttpRetry.Proofs.Value.Array

/-!
# Values in the shadow of others

A field that an override gives does not depend on its variable, and one that an override or a
variable gives does not depend on its line in an environment file. What is wrong with a value in
the shadow is not reported either.
-/

namespace HttpRetry.Settings

variable {s s' : Surroundings} {r : Rules} {f : Field} {source : SettingsSource}
  {overrides : List (String × Value)} {entries entries' : List EnvFile.Binding}
  {name old new : String}

/-! ## Loading -/

/-- The environment gives the field; a `null` for the status codes gives nothing. -/
def Rules.VariableGives (r : Rules) (s : Surroundings) (f : Field) : Prop :=
  ∃ v, r.find .environment (r.environmentTexts s) f = .ok (some v)

/-- What a source gives for a field has no part where an earlier source gives it. -/
theorem firstOf_of_given {before after : List (Field → Option Value)}
    {given given' : Field → Option Value} (same : GiveSameBut f given given')
    (earlier : ∃ first ∈ before, (first f).isSome = true) :
    firstOf (before ++ given' :: after) = firstOf (before ++ given :: after) := by
  funext g
  unfold firstOf
  rw [List.findSome?_append, List.findSome?_append]
  by_cases here : g = f
  · subst here
    obtain ⟨v, first⟩ := Option.isSome_iff_exists.mp (List.findSome?_isSome_iff.mpr earlier)
    rw [first, Option.some_or, Option.some_or]
  · rw [List.findSome?_cons, List.findSome?_cons, same g here]

theorem gather_of_variable (named : r.sourceName? f = some (r.fold name))
    (overridden : (fromOverrides overrides f).isSome = true)
    (replaced : Replaces name old new s.environment s'.environment) (decodes : Decodes f old)
    (decodes' : Decodes f new) (files : r.readEnvFiles s' = r.readEnvFiles s)
    (secrets : r.findSecrets s' = r.findSecrets s) :
    Given.gather r overrides s' = Given.gather r overrides s := by
  unfold Given.gather
  rw [files, secrets]
  refine bind_congr fun _ => bind_congr fun lines => bind_congr fun commandLine => ?_
  refine ((replaced.map some).findAll_agree named decodes decodes' .environment).bind_eq ?_
  intro environment environment' same
  refine bind_congr fun envFile => bind_congr fun inSecrets => ?_
  have earlier : ∃ first ∈ [commandLine, fromOverrides overrides], (first f).isSome = true :=
    ⟨_, by simp, overridden⟩
  have value_eq : firstOf [commandLine, fromOverrides overrides, environment', envFile, inSecrets] =
      firstOf [commandLine, fromOverrides overrides, environment, envFile, inSecrets] :=
    firstOf_of_given same earlier
  rw [value_eq]

theorem gather_of_line (named : r.sourceName? f = some (r.fold name))
    (higher : (fromOverrides overrides f).isSome = true ∨ r.VariableGives s f)
    (environment_eq : s'.environment = s.environment)
    (secrets : r.findSecrets s' = r.findSecrets s)
    (read : r.readEnvFiles s = .ok entries) (read' : r.readEnvFiles s' = .ok entries')
    (replaced : Replaces name (some old) (some new) entries entries') (decodes : Decodes f old)
    (decodes' : Decodes f new) :
    Given.gather r overrides s' = Given.gather r overrides s := by
  obtain ⟨start, start_eq⟩ := Rules.exists_start_of_name named
  unfold Given.gather
  rw [read, read', environment_eq, secrets]
  refine bind_congr fun _ => ?_
  change r.findArguments >>= _ = r.findArguments >>= _
  refine bind_congr fun commandLine => bind_congr_of_ok fun environment found => ?_
  refine (replaced.findAll_agree named decodes decodes' .envFile).bind_eq ?_
  intro envFile envFile' same
  refine bind_congr fun inSecrets => ?_
  rw [unknownTexts_of_sameBut (Rules.isKnown_of_name named) replaced.sameBut]
  have earlier : ∃ first ∈ [commandLine, fromOverrides overrides, environment],
      (first f).isSome = true := by
    rcases higher with overridden | ⟨v, given⟩
    · exact ⟨_, by simp, overridden⟩
    · refine ⟨environment, by simp, ?_⟩
      have gives := Rules.find_of_findAll start_eq found f
      rw [← Except.ok.inj (given.symm.trans gives)]
      rfl
  have value_eq : firstOf [commandLine, fromOverrides overrides, environment, envFile', inSecrets] =
      firstOf [commandLine, fromOverrides overrides, environment, envFile, inSecrets] :=
    firstOf_of_given same earlier
  rw [value_eq]

/-- Another text for a field in the environment or in the files does not change the settings or what
is reported, where an override gives the field, or the environment gives it and the text is in a
file. A variable must not be referred to in the files, and the directories of secrets must not have
changed together with a file. -/
theorem load_of_shadowed (rules : r = Rules.ofOverrides overrides)
    (named : r.sourceName? f = some (r.fold name)) (decodes : Decodes f old)
    (decodes' : Decodes f new) :
    ((fromOverrides overrides f).isSome = true →
      Replaces name old new s.environment s'.environment → s'.files = s.files →
      r.Unreferenced name s → load overrides s' = load overrides s) ∧
    ((fromOverrides overrides f).isSome = true ∨ r.VariableGives s f →
      s'.environment = s.environment → r.findSecrets s' = r.findSecrets s → ∀ lines lines',
      r.readEnvFiles s = .ok lines → r.readEnvFiles s' = .ok lines' →
      Replaces name (some old) (some new) lines lines' → load overrides s' = load overrides s) := by
  subst rules
  constructor
  · intro overridden replaced files_eq free
    have home := Rules.homeVariable_ne named
    have files := Rules.readEnvFiles_of_unreferenced files_eq replaced.lookup_of_ne home free
    have secrets := Rules.findSecrets_congr (r := Rules.ofOverrides overrides) files_eq
      replaced.lookup_of_ne home
    rw [load, load,
      gather_of_variable named overridden replaced decodes decodes' files secrets]
  · intro higher environment_eq secrets lines lines' read read' replaced
    rw [load, load, gather_of_line named higher environment_eq secrets read read' replaced decodes
      decodes']

theorem named_level : lowerCase "HTTP_SDK_LOG_LEVEL" = variableName .logLevel := by
  decide

theorem decodes_level (text : String) : Decodes .logLevel text := by
  intro codes
  cases codes

def asciiBytes (text : String) : Bytes :=
  text.toList.map fun c => .ofNat c.toNat

def levels (level line : String) : Surroundings where
  environment := [("HTTP_SDK_LOG_LEVEL", level)]
  files := [(".env", .regular (asciiBytes ("HTTP_SDK_LOG_LEVEL=" ++ line)))]

theorem unreferenced_levels :
    (Rules.ofOverrides []).Unreferenced "HTTP_SDK_LOG_LEVEL" (levels "LOUD" "x") := by
  intro line has v given refers
  obtain ⟨content, text, found, decoded, mem⟩ := has.of_plain
  obtain rfl : asciiBytes ("HTTP_SDK_LOG_LEVEL=" ++ "x") = content := by
    simpa [Surroundings.readFile, levels] using found
  have text_eq : Utf8.decodeText (asciiBytes ("HTTP_SDK_LOG_LEVEL=" ++ "x")) =
      .ok "HTTP_SDK_LOG_LEVEL=x" := by
    rfl
  obtain rfl := Except.ok.inj (text_eq.symm.trans decoded)
  have lines : EnvFile.bindings (dropByteOrderMark "HTTP_SDK_LOG_LEVEL=x".toList) =
      [("HTTP_SDK_LOG_LEVEL", some "x")] := by
    rfl
  rw [lines, List.mem_singleton] at mem
  subst mem
  obtain rfl := Option.some.inj given
  -- a reference is longer than the value
  exact absurd refers.length_le (by decide)

theorem load_of_shadowed_levels :
    load [(Field.logLevel.name, .text "INFO")] (levels "DEBUG" "x") =
        load [(Field.logLevel.name, .text "INFO")] (levels "LOUD" "x") ∧
      load [] (levels "DEBUG" "INFO") = load [] (levels "DEBUG" "LOUD") := by
  have named : (Rules.ofOverrides []).sourceName? .logLevel =
      some ((Rules.ofOverrides []).fold "HTTP_SDK_LOG_LEVEL") :=
    (sourceName?_plain .logLevel).trans (congrArg some named_level.symm)
  constructor
  · have rules := (ofOverrides_of_plain (plain_single .logLevel (.text "INFO"))).symm
    apply (load_of_shadowed rules named (decodes_level "LOUD") (decodes_level "DEBUG")).1
    · simp [fromOverrides_single]
    · exact .single _ _ _
    · rfl
    · exact unreferenced_levels
  · have gives : (Rules.ofOverrides []).VariableGives (levels "DEBUG" "LOUD") .logLevel := by
      refine ⟨.text "DEBUG", ?_⟩
      have text_eq : environmentText? (levels "DEBUG" "LOUD") .logLevel = some "DEBUG" := by
        simp [environmentText?, levels, named_level]
      rw [find_environment, text_eq]
      rfl
    have read : (Rules.ofOverrides []).readEnvFiles (levels "DEBUG" "LOUD") =
        .ok [("HTTP_SDK_LOG_LEVEL", some "LOUD")] := (readEnvFiles_plain _).trans rfl
    have read' : (Rules.ofOverrides []).readEnvFiles (levels "DEBUG" "INFO") =
        .ok [("HTTP_SDK_LOG_LEVEL", some "INFO")] := (readEnvFiles_plain _).trans rfl
    have secrets := (opens_plain read').findSecrets.trans (opens_plain read).findSecrets.symm
    exact (load_of_shadowed rfl named (decodes_level "LOUD") (decodes_level "INFO")).2
      (.inr gives) rfl secrets _ _ read read' (.single _ _ _)

/-! ## Where a text in the shadow has a part -/

/-- A source with one text gives it for its field and nothing else. -/
theorem find_single (named : lowerCase name = variableName f) {text : String} {found : Option Value}
    (gives : valueOf source f text = .ok found) (g : Field) :
    (Rules.ofOverrides []).find source ((Rules.ofOverrides []).texts [(name, some text)]) g =
      .ok (if g = f then found else none) := by
  rw [find_plain, lookup_texts_plain]
  by_cases here : g = f
  · subst here
    simp [named, gives]
  · have unlike : variableName f ≠ variableName g := fun same =>
      here (variableName_injective same).symm
    simp [named, here, unlike]

def referring (level : String) : Surroundings where
  environment := [("HTTP_SDK_LOG_LEVEL", level)]
  files := [(".env",
    .regular (asciiBytes "HTTP_SDK_RETRY_MAX_RETRIES=$\x7bHTTP_SDK_LOG_LEVEL\x7d"))]

theorem load_referring {level : String} {i : Int}
    (files : (Rules.ofOverrides []).readEnvFiles (referring level) =
      .ok [("HTTP_SDK_RETRY_MAX_RETRIES", some level)])
    (read : Coercion.integer (.text level) = .ok i) :
    load [(Field.logLevel.name, .text "INFO")] (referring level) =
      .ok { retryMaxRetries := i } := by
  have named : lowerCase "HTTP_SDK_RETRY_MAX_RETRIES" = variableName .retryMaxRetries := by
    decide
  have gathered : Given.gather (Rules.ofOverrides []) [(Field.logLevel.name, .text "INFO")]
      (referring level) = .ok _ :=
    (opens_plain files).gather (findAll_of_ok (find_single named_level rfl))
      (findAll_of_ok (find_single named rfl))
  rw [load_eq_ok_iff, ofOverrides_of_plain (plain_single _ _)]
  refine ⟨_, gathered, ?_, ?_⟩
  · simp [givenBy, unknownOverrides_single, unknownTexts, texts_plain, EnvFile.bind, named,
      Rules.isKnown_of_name (sourceName?_plain .retryMaxRetries)]
  · have level_read : readLevel (.text "INFO") = .ok .info := rfl
    simp [givenBy, fromOverrides_single, ofGiven, check, checkCodes, read, level_read]

def listing (codes : String) : Surroundings where
  environment := [("HTTP_SDK_RETRY_STATUS_CODES", codes)]
  files := []

section
variable {codes : String}

theorem named_codes :
    lowerCase "HTTP_SDK_RETRY_STATUS_CODES" = variableName .retryStatusCodes := by
  decide

theorem opens_listing (codes : String) : (Rules.ofOverrides []).Opens (listing codes) [] :=
  opens_plain (readEnvFiles_plain _)

theorem load_listing {v : Value} (read : Json.read codes = .ok v) :
    load [(Field.retryStatusCodes.name, .list [])] (listing codes) = .ok {} := by
  have gives : valueOf .environment .retryStatusCodes codes =
      .ok (if v.isNull then none else some v) := by
    rw [valueOf_codes, read]
  have gathered : Given.gather (Rules.ofOverrides []) [(Field.retryStatusCodes.name, .list [])]
      (listing codes) = .ok _ :=
    (opens_listing codes).gather (findAll_of_ok (find_single named_codes gives))
      (findAll_of_ok (find_nil .envFile))
  rw [load_eq_ok_iff, ofOverrides_of_plain (plain_single _ _)]
  refine ⟨_, gathered, ?_, ?_⟩
  · simp [givenBy, unknownOverrides_single, unknownTexts, texts_plain]
  · simp [givenBy, fromOverrides_single, ofGiven, check, checkCodes, Coercion.integersFrom]

theorem load_listing_garbled {problem : Json.Problem} (unread : Json.read codes = .error problem) :
    load [(Field.retryStatusCodes.name, .list [])] (listing codes) =
      .error (faultOf .environment problem) := by
  have plain := plain_single .retryStatusCodes (.list [])
  have given : (((Rules.ofOverrides []).environmentTexts (listing codes)).lookup
      (variableName .retryStatusCodes)).join = some codes := by
    simp [lookup_environmentTexts, environmentText?, listing, named_codes]
  have garbles : (Rules.ofOverrides []).Garbles .environment
      ((Rules.ofOverrides []).environmentTexts (listing codes)) (faultOf .environment problem) :=
    garbles_plain_iff.mpr ⟨codes, problem, given, unread, rfl⟩
  have opens := opens_listing codes
  rw [← ofOverrides_of_plain plain] at garbles opens
  exact Rules.Escapes.load (.inl garbles) opens

end

theorem isNumeral_ones (n : Nat) :
    IsNumeral (asciiValue (List.replicate (n + 1) '1')) (List.replicate (n + 1) '1') where
  digits c mem := by
    rw [List.eq_of_mem_replicate mem]
    rfl
  nonempty := List.cons_ne_nil _ _
  zero leading := by
    cases leading
  value := rfl

def longNumber : String :=
  String.ofList (List.replicate (Json.maxLiteralDigits + 1) '1')

theorem exists_problem_longNumber : ∃ problem, Json.read longNumber = .error problem := by
  apply Json.exists_problem_of_long (isNumeral_ones _)
  rw [List.length_replicate]
  exact Nat.lt_succ_self _

/-- The text of an overridden variable has a part where the file refers to the variable, and where
it is a number too long to be converted. -/
theorem load_not_shadowed :
    ((fromOverrides [(Field.logLevel.name, .text "INFO")] .logLevel).isSome = true ∧
      Replaces "HTTP_SDK_LOG_LEVEL" "5" "7" (referring "5").environment
        (referring "7").environment ∧
      load [(Field.logLevel.name, .text "INFO")] (referring "7") ≠
        load [(Field.logLevel.name, .text "INFO")] (referring "5")) ∧
    (fromOverrides [(Field.retryStatusCodes.name, .list [])] .retryStatusCodes).isSome = true ∧
      Replaces "HTTP_SDK_RETRY_STATUS_CODES" "[]" longNumber (listing "[]").environment
        (listing longNumber).environment ∧
      load [(Field.retryStatusCodes.name, .list [])] (listing longNumber) ≠
        load [(Field.retryStatusCodes.name, .list [])] (listing "[]") := by
  constructor
  · have five : load [(Field.logLevel.name, .text "INFO")] (referring "5") =
        .ok { retryMaxRetries := 5 } := load_referring ((readEnvFiles_plain _).trans rfl) rfl
    have seven : load [(Field.logLevel.name, .text "INFO")] (referring "7") =
        .ok { retryMaxRetries := 7 } := load_referring ((readEnvFiles_plain _).trans rfl) rfl
    refine ⟨by simp [fromOverrides_single], .single _ _ _, ?_⟩
    rw [five, seven]
    simp
  · have read : Json.read "[]" = .ok (.list []) := rfl
    obtain ⟨problem, unread⟩ := exists_problem_longNumber
    refine ⟨by simp [fromOverrides_single], .single _ _ _, ?_⟩
    rw [load_listing read, load_listing_garbled unread]
    simp

end HttpRetry.Settings

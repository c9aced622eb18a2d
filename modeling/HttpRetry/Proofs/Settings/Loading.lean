import HttpRetry.Proofs.Settings.Variables

/-!
# Settings or a refused configuration

Loading settings ends in settings or in a refusal that names all fields and names with a problem.
There is one exception, the text of the status codes: it is decoded before any field is checked,
and a text that is no JSON fails with a fault of its own.
-/

namespace HttpRetry.Settings

/-- Overrides that are no rules open the environment and a file that is UTF-8. Loading raises
something else than a refused configuration exactly for a text for the status codes that is no
JSON. Otherwise each field has the value of the first source that gives it, and there are
settings unless a field or a name has a problem: then all problems are reported, and the problems
of a field with its name. -/
theorem load_of_opens (overrides : List (String × Value)) (s : Surroundings) :
    ((∀ entry ∈ overrides, entry.1 ∉ Rules.names) →
      (∀ content, s.readFile ".env" = some (.regular content) →
        ∃ text, Utf8.decodeText content = .ok text) →
      ∃ bindings, (Rules.ofOverrides overrides).Opens s bindings) ∧
    ∀ r bindings, r = Rules.ofOverrides overrides → r.Opens s bindings →
      (∀ fault, r.Escapes s bindings fault ↔
        load overrides s = .error fault ∧ ∀ refusal, fault ≠ .config refusal) ∧
      ((∀ fault, ¬r.Escapes s bindings fault) →
        ∃ environment envFile given,
          (∀ f, r.find .environment (r.environmentTexts s) f = .ok (environment f)) ∧
          (∀ f, r.find .envFile (r.texts bindings) f = .ok (envFile f)) ∧
          given = givenBy r overrides bindings environment envFile ∧
          (∀ f, ∀ problem ∈ problemsOf f (given.value? f),
            problem ∈ given.problems ∧ problem.path.head? = some f.name) ∧
          (given.problems = [] → load overrides s = .ok (ofGiven given.value?).value) ∧
          (given.problems ≠ [] → ∃ listed, listed.Perm given.problems ∧
            load overrides s = .error (.config (.rejectedFields listed)))) := by
  refine ⟨opens_of_plain, ?_⟩
  rintro r bindings rfl opens
  have loads (clean : ∀ fault, ¬(Rules.ofOverrides overrides).Escapes s bindings fault) :=
    opens.exists_given clean overrides
  constructor
  · intro fault
    constructor
    · intro escapes
      exact ⟨escapes.load opens, escapes.ne_config⟩
    · rintro ⟨raised, other⟩
      by_cases escapes : (Rules.ofOverrides overrides).Escapes s bindings fault
      · exact escapes
      have clean : ∀ fault, ¬(Rules.ofOverrides overrides).Escapes s bindings fault := by
        intro earlier earlier_escapes
        cases raised.symm.trans (earlier_escapes.load opens)
        exact escapes earlier_escapes
      obtain ⟨environment, envFile, -, -, gathered⟩ := loads clean
      rw [load_of_gather gathered] at raised
      split at raised
      · cases raised
      · cases raised
        exact absurd rfl (other _)
  · intro clean
    obtain ⟨environment, envFile, found, found', gathered⟩ := loads clean
    have load_eq := load_of_gather gathered
    refine ⟨environment, envFile, _, found, found', rfl, ?_, ?_, ?_⟩
    · intro f problem mem
      have every : f ∈ Field.all := by cases f <;> decide
      exact ⟨List.mem_append_left _ (List.mem_flatMap.mpr ⟨f, every, mem⟩), path_of_problemsOf _ mem⟩
    · intro none_eq
      rw [load_eq, none_eq]
      rfl
    · intro some_eq
      rw [if_neg (by simpa using some_eq)] at load_eq
      exact ⟨_, List.mergeSort_perm _ _, load_eq⟩

def refusing : Surroundings where
  environment := [("HTTP_SDK_LOG_LEVEL", "LOUD")]
  files := [(".env", .regular "HTTP_SDK_RETRY_MAX_RETRIES=x".toUTF8.toList)]

/-- What an override, a variable and a file give is refused, the override's among them. -/
theorem load_of_opens_refused : ∃ listed,
    load [("log_format", .text "xml")] refusing = .error (.config (.rejectedFields listed)) ∧
      ∃ problem ∈ listed, problem.path.head? = some "log_format" := by
  have plain : ∀ entry ∈ [("log_format", Value.text "xml")], entry.1 ∉ Rules.names := by
    simp [Rules.names]
  obtain ⟨opens, loads⟩ := load_of_opens [("log_format", .text "xml")] refusing
  rw [ofOverrides_of_plain plain] at opens loads
  have readable : ∀ content, refusing.readFile ".env" = some (.regular content) →
      ∃ text, Utf8.decodeText content = .ok text := by
    intro content found
    have decoded : (Utf8.decodeText "HTTP_SDK_RETRY_MAX_RETRIES=x".toUTF8.toList).toOption =
        some "HTTP_SDK_RETRY_MAX_RETRIES=x" := by decide +kernel
    obtain rfl : "HTTP_SDK_RETRY_MAX_RETRIES=x".toUTF8.toList = content := by
      simpa [Surroundings.readFile, refusing] using found
    exact ⟨_, eq_ok_of_toOption decoded⟩
  obtain ⟨bindings, opened⟩ := opens plain readable
  have read : (Rules.ofOverrides []).readEnvFiles refusing =
      .ok [("HTTP_SDK_RETRY_MAX_RETRIES", some "x")] := eq_ok_of_toOption (by decide +kernel)
  obtain rfl := Except.ok.inj (opened.files.symm.trans read)
  obtain ⟨-, reads⟩ := loads _ _ rfl opened
  have codes : variableName .retryStatusCodes = "http_sdk_retry_status_codes" := by decide
  -- no source has a text for the status codes
  have clean : ∀ fault, ¬(Rules.ofOverrides []).Escapes refusing
      [("HTTP_SDK_RETRY_MAX_RETRIES", some "x")] fault := by
    have unset : environmentText? refusing .retryStatusCodes = none := by
      rw [environmentText?, codes]
      decide +kernel
    have unwritten : (((Rules.ofOverrides []).texts
        [("HTTP_SDK_RETRY_MAX_RETRIES", some "x")]).lookup
          (variableName .retryStatusCodes)).join = none := by
      rw [lookup_texts_plain, codes]
      decide +kernel
    rintro fault (garbles | ⟨-, garbles⟩)
    · obtain ⟨text, -, given, -⟩ := garbles_plain_iff.mp garbles
      cases unset.symm.trans ((lookup_environmentTexts _ _).symm.trans given)
    · obtain ⟨text, -, given, -⟩ := garbles_plain_iff.mp garbles
      cases unwritten.symm.trans given
  obtain ⟨environment, envFile, given, -, -, rfl, reported, -, rejects⟩ := reads clean
  have overridden : (givenBy (Rules.ofOverrides []) [("log_format", .text "xml")]
      [("HTTP_SDK_RETRY_MAX_RETRIES", some "x")] environment envFile).value? .logFormat =
        some (.text "xml") := by
    have name : lowerCase "log_format" = Field.logFormat.name :=
      lowerCase_of_isName (by decide +kernel)
    simp [givenBy, fromOverrides, name]
  have refused : ⟨["log_format"], .unknownLogFormat⟩ ∈
      problemsOf .logFormat (some (.text "xml")) := by decide +kernel
  obtain ⟨mem, path⟩ := reported .logFormat _ (overridden ▸ refused)
  obtain ⟨listed, listed_perm, raised⟩ := rejects (List.ne_nil_of_mem mem)
  exact ⟨listed, raised, _, listed_perm.mem_iff.mpr mem, path⟩

/-- A text for the status codes raises the fault of its source. -/
theorem load_escapes :
    load [] { environment := [("HTTP_SDK_RETRY_STATUS_CODES", "[")], files := [] } =
      .error (.settingsSource .environment) := by
  have opened : (Rules.ofOverrides []).Opens
      { environment := [("HTTP_SDK_RETRY_STATUS_CODES", "[")], files := [] } [] :=
    opens_plain (readEnvFiles_plain _)
  have codes : variableName .retryStatusCodes = "http_sdk_retry_status_codes" := by decide
  have given : environmentText? { environment := [("HTTP_SDK_RETRY_STATUS_CODES", "[")], files := [] }
      .retryStatusCodes = some "[" := by
    rw [environmentText?, codes]
    decide +kernel
  have unread : Json.read "[" = .error ⟨.expectingValue, 1, 2, 1⟩ := by
    rfl
  exact Rules.Escapes.load
    (.inl (garbles_plain_iff.mpr ⟨_, _, (lookup_environmentTexts _ _).trans given, unread, rfl⟩))
    opened

end HttpRetry.Settings

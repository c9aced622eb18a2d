import HttpRetry.Proofs.Act
import HttpRetry.Settings.Basic

/-!
# What loading settings comes to

Values that a reader refuses and names that are no setting are reported together, whichever of
overrides, the environment and environment files they come from. The status codes are read twice:
first their text as JSON, in the environment and in the files alike, and then its items. A text
that is no JSON is raised at once, as a fault of its own, even where an override or the
environment gives the codes.
-/

namespace HttpRetry.Settings

variable {r : Rules} {s : Surroundings} {source : SettingsSource} {texts : Texts} {f : Field}
  {fault : Fault}

/-! ## Texts for the status codes -/

def faultOf (source : SettingsSource) (problem : Json.Problem) : Fault :=
  match problem.cause with
  | .tooDeep _ => .json problem
  | _ => .settingsSource source

def Rules.Garbles (r : Rules) (source : SettingsSource) (texts : Texts) (fault : Fault) : Prop :=
  ∃ name text problem, r.sourceName? .retryStatusCodes = some name ∧
    (texts.lookup name).join = some text ∧ r.nullText ≠ some text ∧
    Json.read text = .error problem ∧ fault = faultOf source problem

theorem valueOf_codes (source : SettingsSource) (text : String) :
    valueOf source .retryStatusCodes text =
      match Json.read text with
      | .ok v => .ok (if v.isNull then none else some v)
      | .error problem => .error (faultOf source problem) := by
  unfold valueOf faultOf
  cases Json.read text with
  | ok v => cases v <;> rfl
  | error problem =>
    dsimp only
    cases problem.cause <;> rfl

theorem valueOf_of_ne (other : f ≠ .retryStatusCodes) (source : SettingsSource) (text : String) :
    valueOf source f text = .ok (some (.text text)) := by
  cases f with
  | retryStatusCodes => exact absurd rfl other
  | _ => rfl

theorem Rules.sourceName?_eq {start : String} (named : r.start = .text start) (f : Field) :
    r.sourceName? f = some (r.fold (start ++ f.name)) := by
  rw [sourceName?, named]
  rfl

section
variable {start : String} (named : r.start = .text start)
include named

theorem Rules.find_of_ne (other : f ≠ .retryStatusCodes) (source : SettingsSource)
    (texts : Texts) : ∃ found, r.find source texts f = .ok found := by
  unfold find
  rw [sourceName?_eq named]
  dsimp only
  split
  · split
    · exact ⟨_, rfl⟩
    · exact ⟨_, valueOf_of_ne other source _⟩
  · exact ⟨_, rfl⟩

theorem Rules.find_codes_eq_error_iff :
    r.find source texts .retryStatusCodes = .error fault ↔ r.Garbles source texts fault := by
  unfold find Garbles
  rw [sourceName?_eq named]
  cases given : (texts.lookup (r.fold (start ++ Field.retryStatusCodes.name))).join with
  | none => simp [given]
  | some text =>
    cases null : r.nullText == some text with
    | true =>
      have eq : r.nullText = some text := by simpa using null
      simp [given, eq]
    | false =>
      have ne : r.nullText ≠ some text := by simpa using null
      cases parsed : Json.read text with
      | ok v => simp [given, null, valueOf_codes, parsed]
      | error problem => simp [given, null, valueOf_codes, parsed, ne, eq_comm]

end

/-! ## Finding all fields -/

theorem Field.mem_all (f : Field) : f ∈ Field.all := by
  cases f <;> decide

theorem findAll_of_ok {find : Field → Except Fault (Option Value)} {found : Field → Option Value}
    (h : ∀ f, find f = .ok (found f)) : findAll find = .ok found := by
  have finds : find = fun f => .ok (found f) := funext h
  subst finds
  have values : Field.all.mapM (fun f => (.ok (f, found f) : Except Fault _)) =
      .ok (Field.all.map fun f => (f, found f)) := List.mapM_pure
  simp only [findAll, values, bind, Except.bind, pure, Except.pure]
  congr 1
  funext f
  cases f <;> rfl

/-- The first field that fails decides; where one field alone can fail, it is that one. -/
theorem mapM_of_fails {find : Field → Except Fault (Option Value)} {g : Field}
    (fails : find g = .error fault) (only : ∀ f, f ≠ g → ∃ found, find f = .ok found)
    (fields : List Field) (mem : g ∈ fields) :
    fields.mapM (fun f => do return (f, ← find f)) = .error fault := by
  induction fields with
  | nil => cases mem
  | cons f rest ih =>
    by_cases eq : f = g
    · subst eq
      rw [List.mapM_cons, fails]
      rfl
    · obtain ⟨found, found_eq⟩ := only f eq
      have later := ih (List.mem_of_ne_of_mem (Ne.symm eq) mem)
      rw [List.mapM_cons, found_eq, later]
      rfl

theorem findAll_of_fails {find : Field → Except Fault (Option Value)} {g : Field}
    (fails : find g = .error fault) (only : ∀ f, f ≠ g → ∃ found, find f = .ok found) :
    findAll find = .error fault := by
  rw [findAll, mapM_of_fails fails only Field.all g.mem_all]
  rfl

theorem Rules.findAll_of_garbles {start : String} (named : r.start = .text start)
    (garbles : r.Garbles source texts fault) : findAll (r.find source texts) = .error fault :=
  findAll_of_fails ((find_codes_eq_error_iff named).mpr garbles) fun _ other =>
    find_of_ne named other source texts

theorem Rules.exists_found {start : String} (named : r.start = .text start)
    (clean : ∀ fault, ¬r.Garbles source texts fault) :
    ∃ found : Field → Option Value, ∀ f, r.find source texts f = .ok (found f) := by
  have each : ∀ f, ∃ found, r.find source texts f = .ok found := by
    intro f
    by_cases other : f = .retryStatusCodes
    · subst other
      cases codes : r.find source texts .retryStatusCodes with
      | ok found => exact ⟨found, rfl⟩
      | error fault => exact absurd ((find_codes_eq_error_iff named).mp codes) (clean fault)
    · exact find_of_ne named other source texts
  exact Classical.skolem.mp each

/-! ## Opening the sources -/

/-- The rules lead to overrides, the environment and environment files with these names and
values, and to no other source. -/
structure Rules.Opens (r : Rules) (s : Surroundings) (bindings : List EnvFile.Binding) : Prop where
  checked : r.check = .ok ()
  named : ∃ start, r.start = .text start
  files : r.readEnvFiles s = .ok bindings
  noArguments : Arguments.ofRule r.arguments = .ok []
  noDirectories : secretsPlaces s r.secretsDirectories = .ok []

def Rules.environmentTexts (r : Rules) (s : Surroundings) : Texts :=
  r.texts (s.environment.map fun (name, text) => (name, some text))

variable {bindings : List EnvFile.Binding}

theorem Rules.Opens.findArguments (h : r.Opens s bindings) :
    r.findArguments = .ok fun _ => none := by
  have nothing : findAll (fun _ => .ok none) = .ok fun _ => none := findAll_of_ok fun _ => rfl
  have read : Arguments.read r = .ok ⟨[], []⟩ := by
    simp only [Arguments.read, h.noArguments, bind, Except.bind, List.map_nil]
    rfl
  simp only [Rules.findArguments, read, bind, Except.bind]
  exact nothing

theorem Rules.Opens.findSecrets (h : r.Opens s bindings) : r.findSecrets s = .ok fun _ => none := by
  simp only [Rules.findSecrets, h.noDirectories, bind, Except.bind, List.isEmpty_nil, if_true, pure,
    Except.pure]

variable {overrides : List (String × Value)}

def givenBy (r : Rules) (overrides : List (String × Value)) (bindings : List EnvFile.Binding)
    (environment envFile : Field → Option Value) : Given where
  value? f := ((fromOverrides overrides f).or (environment f)).or (envFile f)
  unknown := (unknownOverrides overrides ++ unknownTexts r (r.texts bindings)).eraseDups

theorem firstOf_sources (overriding environment envFile : Field → Option Value) :
    firstOf [fun _ => none, overriding, environment, envFile, fun _ => none] =
      fun f => ((overriding f).or (environment f)).or (envFile f) := by
  funext f
  simp only [firstOf, List.findSome?]
  cases overriding f <;> cases environment f <;> cases envFile f <;> rfl

theorem Rules.Opens.gather (h : r.Opens s bindings) {environment envFile : Field → Option Value}
    (environment_eq : findAll (r.find .environment (r.environmentTexts s)) = .ok environment)
    (envFile_eq : findAll (r.find .envFile (r.texts bindings)) = .ok envFile) :
    Given.gather r overrides s = .ok (givenBy r overrides bindings environment envFile) := by
  unfold environmentTexts at environment_eq
  simp only [Given.gather, h.checked, h.files, h.findArguments, environment_eq, envFile_eq,
    h.findSecrets, bind, Except.bind, pure, Except.pure, firstOf_sources]
  rfl

theorem Rules.Opens.gather_environment (h : r.Opens s bindings)
    (garbled : findAll (r.find .environment (r.environmentTexts s)) = .error fault) :
    Given.gather r overrides s = .error fault := by
  unfold environmentTexts at garbled
  simp only [Given.gather, h.checked, h.files, h.findArguments, garbled, bind, Except.bind]

theorem Rules.Opens.gather_envFile (h : r.Opens s bindings) {environment : Field → Option Value}
    (environment_eq : findAll (r.find .environment (r.environmentTexts s)) = .ok environment)
    (garbled : findAll (r.find .envFile (r.texts bindings)) = .error fault) :
    Given.gather r overrides s = .error fault := by
  unfold environmentTexts at environment_eq
  simp only [Given.gather, h.checked, h.files, h.findArguments, environment_eq, garbled, bind,
    Except.bind]

/-! ## Overrides that are no rules -/

/-- Overrides that are no rules have no part in them. -/
theorem ofOverrides_congr {others : List (String × Value)}
    (same : ∀ name ∈ Rules.names, overrides.lookup name = others.lookup name) :
    Rules.ofOverrides overrides = Rules.ofOverrides others := by
  simp only [Rules.names, List.mem_cons, List.not_mem_nil, or_false, forall_eq_or_imp,
    forall_eq] at same
  simp only [Rules.ofOverrides, same]

theorem ofOverrides_of_plain (plain : ∀ entry ∈ overrides, entry.1 ∉ Rules.names) :
    Rules.ofOverrides overrides = Rules.ofOverrides [] := by
  apply ofOverrides_congr
  intro name rule
  rw [List.lookup_nil, List.lookup_eq_none_iff]
  intro entry mem
  simpa using fun eq : name = entry.1 => plain entry mem (eq ▸ rule)

theorem steps_envFile : Path.steps ".env" = [".env"] := by
  decide

/-- What stands at the path of the environment file. -/
theorem nodeAt_envFile (s : Surroundings) :
    Path.nodeAt s ".env" = .ok ((Path.Place.below [".env"]).node s) := by
  have encodable : Utf8.isEncodable ".env" = true := by decide
  have bytes : (Utf8.encode ".env").length = 4 := by decide +kernel
  have name : Utf8.throughBytes ".env" = ".env" := by decide
  have placed : Path.placeAt s ".env" =
      .ok (if ((Path.Place.below [".env"]).node s).isSome then some (.below [".env"]) else none) := by
    simp [Path.placeAt, Path.isAbsolute, Path.follow, Path.maxLength, Path.maxNameLength,
      Path.Place.down, Path.Place.node, steps_envFile, encodable, bytes, name]
  rw [Path.nodeAt, placed]
  cases node : (Path.Place.below [".env"]).node s with
  | none => simp [Except.map]
  | some => simp [Except.map, node]

/-- What has something below it is no file. -/
theorem regular_of_node {content : Bytes}
    (node : (Path.Place.below [".env"]).node s = some (.regular content)) :
    s.readFile ".env" = some (.regular content) := by
  have path : "/".intercalate [".env"].reverse = ".env" := by decide
  simp only [Path.Place.node, path] at node
  split at node
  · next found => rwa [found]
  · split at node <;> simp at node

theorem pathOf_envFile (s : Surroundings) : pathOf s (.text ".env") = .ok ".env" := by
  have normal : Path.normal ".env" = ".env" := by decide
  simp [pathOf, normal, Path.expandHome, steps_envFile]

theorem readEnvFileAt_plain (s : Surroundings) :
    (Rules.ofOverrides []).readEnvFileAt s (.text ".env") =
      match (Path.Place.below [".env"]).node s with
      | some (.regular content) => (Rules.ofOverrides []).readEnvFile s.environment content
      | _ => .ok [] := by
  simp only [Rules.readEnvFileAt, pathOf_envFile, nodeAt_envFile, bind, Except.bind]
  rfl

/-- Without rules there is one environment file, which may be missing. -/
theorem readEnvFiles_plain (s : Surroundings) : (Rules.ofOverrides []).readEnvFiles s =
    match (Path.Place.below [".env"]).node s with
    | some (.regular content) => (Rules.ofOverrides []).readEnvFile s.environment content
    | _ => .ok [] := by
  have paths : pathsOf (Rules.ofOverrides []).envFiles = .ok [.text ".env"] := rfl
  rw [← readEnvFileAt_plain]
  simp only [Rules.readEnvFiles, paths, bind, Except.bind, List.mapM_cons, List.mapM_nil, pure,
    Except.pure]
  cases (Rules.ofOverrides []).readEnvFileAt s (.text ".env") with
  | error => rfl
  | ok bindings => simp

theorem opens_plain (files : (Rules.ofOverrides []).readEnvFiles s = .ok bindings) :
    (Rules.ofOverrides []).Opens s bindings :=
  ⟨rfl, ⟨_, rfl⟩, files, rfl, rfl⟩

theorem opens_of_plain (plain : ∀ entry ∈ overrides, entry.1 ∉ Rules.names)
    (readable : ∀ content, s.readFile ".env" = some (.regular content) →
      ∃ text, Utf8.decodeText content = .ok text) :
    ∃ bindings, (Rules.ofOverrides overrides).Opens s bindings := by
  rw [ofOverrides_of_plain plain]
  have files := readEnvFiles_plain s
  split at files
  · next content node =>
    obtain ⟨text, decoded⟩ := readable content (regular_of_node node)
    have encoding : (Rules.ofOverrides []).fileEncoding = .ok .utf8 := rfl
    have read : (Rules.ofOverrides []).readEnvFile s.environment content =
        .ok (EnvFile.read s.environment (dropByteOrderMark text.toList)) := by
      simp only [Rules.readEnvFile, encoding, Encoding.decode, decoded, bind, Except.bind]
      rfl
    exact ⟨_, opens_plain (files.trans read)⟩
  · exact ⟨_, opens_plain files⟩

/-! ## Loading -/

def problemsOf (f : Field) (given : Option Value) : List FieldProblem :=
  let d : Settings := {}
  match f with
  | .connectTimeoutMillis => (check f d.connectTimeoutMillis readTimeout given).problems
  | .readTimeoutMillis => (check f d.readTimeoutMillis readTimeout given).problems
  | .retryEnabled => (check f d.retryEnabled Coercion.truth given).problems
  | .retryMaxRetries => (check f d.retryMaxRetries Coercion.integer given).problems
  | .retryStatusCodes => (checkCodes given).problems
  | .retryMaxIntervalMillis => (check f d.retryMaxIntervalMillis Coercion.integer given).problems
  | .retryBackoffMultiplier => (check f d.retryBackoffMultiplier Coercion.double given).problems
  | .logLevel => (check f d.logLevel readLevel given).problems
  | .logFormat => (check f d.logFormat readFormat given).problems

theorem problems_ofGiven (given : Field → Option Value) :
    (ofGiven given).problems = Field.all.flatMap fun f => problemsOf f (given f) := by
  simp [ofGiven, problemsOf, Field.all]

theorem path_of_check {α : Type} {default : α} {read : Value → Except FieldDefect α}
    {given : Option Value} : ∀ problem ∈ (check f default read given).problems,
      problem.path.head? = some f.name := by
  unfold check
  split <;> simp

theorem path_of_problemsOf {given : Option Value} :
    ∀ problem ∈ problemsOf f given, problem.path.head? = some f.name := by
  cases f with
  | retryStatusCodes =>
    unfold problemsOf checkCodes
    dsimp only
    split
    · simp
    · intro problem mem
      obtain ⟨defect, -, rfl⟩ := List.mem_map.mp mem
      rfl
    · simp
  | _ => exact path_of_check

theorem integersFrom_ints (index : Nat) (codes : List Int) :
    Coercion.integersFrom index (codes.map Value.int) = ([], codes) := by
  induction codes generalizing index with
  | nil => rfl
  | cons code rest ih =>
    rw [List.map_cons, Coercion.integersFrom, ih]
    rfl

theorem load_of_gather_error
    (h : Given.gather (Rules.ofOverrides overrides) overrides s = .error fault) :
    load overrides s = .error fault := by
  simp only [load, h, bind, Except.bind]

def Given.problems (given : Given) : List FieldProblem :=
  (Field.all.flatMap fun f => problemsOf f (given.value? f)) ++
    given.unknown.map fun name => ⟨[name], .extraForbidden⟩

theorem load_of_gather {given : Given}
    (h : Given.gather (Rules.ofOverrides overrides) overrides s = .ok given) :
    load overrides s =
      if given.problems.isEmpty then .ok (ofGiven given.value?).value
      else .error (.config (.rejectedFields
        (given.problems.mergeSort fun a b => FieldProblem.precedes a.path b.path))) := by
  simp only [load, h, bind, Except.bind, problems_ofGiven]
  rfl

theorem load_eq_ok_iff {settings : Settings} : load overrides s = .ok settings ↔
    ∃ given, Given.gather (Rules.ofOverrides overrides) overrides s = .ok given ∧
      given.unknown = [] ∧ ofGiven given.value? = ⟨[], settings⟩ := by
  constructor
  · intro loaded
    obtain ⟨given, gathered, -⟩ := exists_of_bind_ok loaded
    rw [load_of_gather gathered] at loaded
    split at loaded
    · next clean =>
      obtain ⟨fields, names⟩ := List.append_eq_nil_iff.mp (List.isEmpty_iff.mp clean)
      rw [← problems_ofGiven] at fields
      refine ⟨given, gathered, List.map_eq_nil_iff.mp names, ?_⟩
      rw [← fields, ← Except.ok.inj loaded]
    · cases loaded
  · rintro ⟨given, gathered, known, read⟩
    rw [load_of_gather gathered, Given.problems, ← problems_ofGiven, read, known]
    rfl

/-! ## Faults -/

theorem faultOf_ne_config (source : SettingsSource) (problem : Json.Problem)
    (refusal : ConfigProblem) : faultOf source problem ≠ .config refusal := by
  unfold faultOf
  split <;> simp

/-- A text for the status codes is no JSON, one of the environment or else one of the files. -/
def Rules.Escapes (r : Rules) (s : Surroundings) (bindings : List EnvFile.Binding)
    (fault : Fault) : Prop :=
  r.Garbles .environment (r.environmentTexts s) fault ∨
    (∀ earlier, ¬r.Garbles .environment (r.environmentTexts s) earlier) ∧
      r.Garbles .envFile (r.texts bindings) fault

theorem Rules.Escapes.ne_config (h : r.Escapes s bindings fault) (refusal : ConfigProblem) :
    fault ≠ .config refusal := by
  obtain ⟨-, -, problem, -, -, -, -, rfl⟩ | ⟨-, -, -, problem, -, -, -, -, rfl⟩ := h
  · exact faultOf_ne_config _ problem refusal
  · exact faultOf_ne_config _ problem refusal

theorem Rules.Escapes.load (escapes : (Rules.ofOverrides overrides).Escapes s bindings fault)
    (h : (Rules.ofOverrides overrides).Opens s bindings) : load overrides s = .error fault := by
  obtain ⟨start, named⟩ := h.named
  rcases escapes with garbles | ⟨clean, garbles⟩
  · exact load_of_gather_error (h.gather_environment (findAll_of_garbles named garbles))
  · obtain ⟨environment, found⟩ := exists_found named clean
    exact load_of_gather_error
      (h.gather_envFile (findAll_of_ok found) (findAll_of_garbles named garbles))

theorem Rules.Opens.exists_given (h : r.Opens s bindings)
    (clean : ∀ fault, ¬r.Escapes s bindings fault) (overrides : List (String × Value)) :
    ∃ environment envFile,
      (∀ f, r.find .environment (r.environmentTexts s) f = .ok (environment f)) ∧
      (∀ f, r.find .envFile (r.texts bindings) f = .ok (envFile f)) ∧
      Given.gather r overrides s = .ok (givenBy r overrides bindings environment envFile) := by
  obtain ⟨start, named⟩ := h.named
  have clean_environment : ∀ fault, ¬r.Garbles .environment (r.environmentTexts s) fault :=
    fun fault garbles => clean fault (.inl garbles)
  obtain ⟨environment, found⟩ := exists_found named clean_environment
  obtain ⟨envFile, found'⟩ := exists_found named
    fun fault garbles => clean fault (.inr ⟨clean_environment, garbles⟩)
  exact ⟨environment, envFile, found, found', h.gather (findAll_of_ok found) (findAll_of_ok found')⟩

end HttpRetry.Settings

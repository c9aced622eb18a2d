import HttpRetry.Path
import HttpRetry.Settings.Arguments
import HttpRetry.Settings.EnvFile
import HttpRetry.Settings.Rules

/-!
# Sources of settings

A setting is given by the first source that has it: a command line, overrides, the
environment, environment files, directories of secrets. Names are compared without
case. The status codes are JSON in all sources but overrides, and a text that is no
JSON is refused at once, wherever the setting comes from in the end.
-/

namespace HttpRetry.Settings

/-! ## Texts by name -/

abbrev Texts := List EnvFile.Binding

def Rules.texts (r : Rules) (entries : List EnvFile.Binding) : Texts :=
  let kept := entries.filter fun entry => !(r.ignoreEmpty && entry.2 == some "")
  kept.foldl (fun texts (name, value) => EnvFile.bind (r.fold name) value texts) []

/-- A text given for a field: status codes are JSON, of which `null` gives nothing,
and any other field has the text itself. -/
def valueOf (source : SettingsSource) (f : Field) (text : String) : Except Fault (Option Value) :=
  match f with
  | .retryStatusCodes =>
    match Json.read text with
    | .ok .null => .ok none
    | .ok v => .ok (some v)
    | .error problem =>
      match problem.cause with
      | .tooDeep _ => .error (.json problem)
      | _ => .error (.settingsSource source)
  | _ => .ok (some (.text text))

/-- What is given for a field where there is no text for it: the status codes may be
given by parts, as a mapping. -/
def Rules.partsOf (r : Rules) (texts : Texts) (f : Field) : Option Value :=
  match f with
  | .retryStatusCodes =>
    let parts := texts.filter fun entry => r.isPart entry.1
    if parts.isEmpty then none
    else some (.map (parts.map fun (name, text) => (.text name, (text.map Value.text).getD .null)))
  | _ => none

def Rules.find (r : Rules) (source : SettingsSource) (texts : Texts) (f : Field) :
    Except Fault (Option Value) :=
  match r.sourceName? f with
  | none => .error (.settingsName f.name source)
  | some name =>
    match (texts.lookup name).join with
    | some text => if r.nullText == some text then .ok (some .null) else valueOf source f text
    | none => .ok (r.partsOf texts f)

def findAll (find : Field → Except Fault (Option Value)) :
    Except Fault (Field → Option Value) := do
  let values ← Field.all.mapM fun f => do return (f, ← find f)
  return fun f => (values.lookup f).join

/-! ## Environment files -/

def dropByteOrderMark : List Char → List Char
  | '\uFEFF' :: cs | cs => cs

def Encoding.Problem.fault : Encoding.Problem → Fault
  | .utf8 problem => .utf8 problem
  | .notAscii byte position => .notAscii byte position

/-- The names and values of a file's content. A byte order mark before them is dropped. -/
def Rules.readEnvFile (r : Rules) (environment : List (String × String)) (content : Bytes) :
    Except Fault (List EnvFile.Binding) := do
  let text ← ((← r.fileEncoding).decode content).mapError Encoding.Problem.fault
  return EnvFile.read environment (dropByteOrderMark text.toList)

def pathOf (s : Surroundings) : Value → Except Fault String
  | .text path => Path.expandHome s (Path.normal path)
  | v => .error (.notPath v.typeName)

def Rules.readEnvFileAt (r : Rules) (s : Surroundings) (path : Value) :
    Except Fault (List EnvFile.Binding) := do
  match ← Path.nodeAt s (← pathOf s path) with
  | some (.regular content) => r.readEnvFile s.environment content
  | _ => return []

def pathsOf : Value → Except Fault (List Value)
  | .null => .ok []
  | .text path => .ok [.text path]
  | .list paths => .ok paths
  | .map entries => .ok (entries.map (·.1))
  | v => .error (.notIterable v.typeName)

def Rules.readEnvFiles (r : Rules) (s : Surroundings) : Except Fault (List EnvFile.Binding) := do
  return (← (← pathsOf r.envFiles).mapM (r.readEnvFileAt s)).flatten

/-! ## Directories of secrets -/

def secretsPlaces (s : Surroundings) (directories : Value) : Except Fault (List Path.Place) := do
  let paths ← (← pathsOf directories).mapM (pathOf s)
  let places := (← paths.mapM (Path.placeAt s)).filterMap id
  if places.any fun place => place.node s ≠ some .directory then .error .notSecretsDirectory
  else return places

def Rules.secretIn (r : Rules) (s : Surroundings) (name : String) (place : Path.Place) :
    Option Bytes :=
  match (place.entries s).find? fun entry => entry.1 = name || r.fold entry.1 = name with
  | some (_, .regular content) => some content
  | _ => none

/-- What the directories give for a field; the last directory that has a file counts. -/
def Rules.findSecret (r : Rules) (s : Surroundings) (places : List Path.Place) (f : Field) :
    Except Fault (Option Value) :=
  match r.sourceName? f with
  | none => .error (.settingsName f.name .secretsDirectory)
  | some name =>
    match places.reverse.findSome? (r.secretIn s name) with
    | none => .ok none
    | some content =>
      match Utf8.decodeText content with
      | .ok text =>
        valueOf .secretsDirectory f (String.ofList (trimBlanks text.toList))
      | .error _ => .error (.settingsName f.name .secretsDirectory)

def Rules.findSecrets (r : Rules) (s : Surroundings) : Except Fault (Field → Option Value) := do
  let places ← secretsPlaces s r.secretsDirectories
  if places.isEmpty then return fun _ => none
  else findAll (r.findSecret s places)

/-! ## The command line -/

def Rules.findArguments (r : Rules) : Except Fault (Field → Option Value) := do
  let parsed ← Arguments.read r
  findAll fun f =>
    match Arguments.textOf parsed f with
    | some text => valueOf .commandLine f text
    | none => .ok none

/-! ## Overrides and names that are no setting -/

/-- The first override of a field; overrides are compared without case always. -/
def fromOverrides (overrides : List (String × Value)) (f : Field) : Option Value :=
  (overrides.find? fun entry => lowerCase entry.1 = f.name).map (·.2)

def unknownOverrides (overrides : List (String × Value)) : List String :=
  (overrides.map (·.1)).filter fun name =>
    (Field.ofName? (lowerCase name)).isNone && !Rules.names.contains name

/-- Whether a folded name in an environment file is that of a setting. Without the
start of names it is passed over. -/
def Rules.isKnown (r : Rules) (name : String) : Bool :=
  (Field.ofName? name).isSome || (Field.all.any fun f => r.sourceName? f == some name) ||
    r.isPart name

def unknownTexts (r : Rules) (texts : Texts) : List String :=
  texts.filterMap fun (name, value) =>
    match value with
    | none => none
    | some text => if text.isEmpty || r.isKnown name then none else some name

/-! ## All sources -/

structure Given where
  /-- The value of a field from the first source that gives it. -/
  value? : Field → Option Value
  unknown : List String

def firstOf (sources : List (Field → Option Value)) (f : Field) : Option Value :=
  sources.findSome? fun source => source f

/-- Gathers what the sources give. The files are opened first, then the command line is
read, the environment, what the files hold and at last the directories. -/
def Given.gather (r : Rules) (overrides : List (String × Value)) (s : Surroundings) :
    Except Fault Given := do
  r.check
  let fileTexts := r.texts (← r.readEnvFiles s)
  let environmentTexts := r.texts (s.environment.map fun (name, text) => (name, some text))
  let commandLine ← r.findArguments
  let environment ← findAll (r.find .environment environmentTexts)
  let envFile ← findAll (r.find .envFile fileTexts)
  let secrets ← r.findSecrets s
  return {
    value? := firstOf [commandLine, fromOverrides overrides, environment, envFile, secrets]
    unknown := (unknownOverrides overrides ++ unknownTexts r fileTexts).eraseDups }

end HttpRetry.Settings

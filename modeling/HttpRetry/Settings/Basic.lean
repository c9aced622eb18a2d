import HttpRetry.Settings.Coercion
import HttpRetry.Settings.Source
import HttpRetry.Defaults

/-!
# Settings

Each setting is read from the first source that gives it and has a default. All
problems with fields and names are reported together.
-/

namespace HttpRetry

structure Settings where
  connectTimeoutMillis : Int := 0
  readTimeoutMillis : Int := 0
  retryEnabled : Bool := true
  retryMaxRetries : Int := Defaults.maxRetries
  retryStatusCodes : List Int := []
  retryMaxIntervalMillis : Int := Defaults.maxIntervalMillis
  retryBackoffMultiplier : Double := Defaults.backoffMultiplier
  logLevel : Log.Level := .info
  logFormat : Log.Format := .json

namespace Settings

/-! ## Reading the fields -/

/-- What was read of a field and the problems found; with problems the value
stands for nothing. -/
structure Checked (α : Type) where
  problems : List FieldProblem
  value : α

/-- Reads a given value; a field that is not given keeps its default unread. -/
def check {α : Type} (f : Field) (default : α) (read : Value → Except FieldDefect α)
    (given : Option Value) : Checked α :=
  match given.map read with
  | none => ⟨[], default⟩
  | some (.ok a) => ⟨[], a⟩
  | some (.error defect) => ⟨[⟨[f.name], defect⟩], default⟩

def readTimeout (v : Value) : Except FieldDefect Int := do
  let millis ← Coercion.integer v
  if millis < 0 then .error .negativeTimeout else .ok millis

def readLevel (v : Value) : Except FieldDefect Log.Level := do
  let text ← Coercion.text v
  match Log.Level.ofName? (upperCase text) with
  | some level => .ok level
  | none => .error .unknownLogLevel

def readFormat (v : Value) : Except FieldDefect Log.Format := do
  let text ← Coercion.text v
  match Log.Format.ofName? (lowerCase text) with
  | some format => .ok format
  | none => .error .unknownLogFormat

def checkCodes (given : Option Value) : Checked (List Int) :=
  let name := Field.retryStatusCodes.name
  match given with
  | none => ⟨[], []⟩
  | some (.list items) =>
    let (defects, codes) := Coercion.integersFrom 0 items
    ⟨defects.map fun (index, defect) => ⟨[name, toString index], defect⟩, codes⟩
  | some _ => ⟨[⟨[name], .listType⟩], []⟩

def ofGiven (given : Field → Option Value) : Checked Settings :=
  let d : Settings := {}
  let connect := check .connectTimeoutMillis d.connectTimeoutMillis readTimeout
    (given .connectTimeoutMillis)
  let read := check .readTimeoutMillis d.readTimeoutMillis readTimeout (given .readTimeoutMillis)
  let enabled := check .retryEnabled d.retryEnabled Coercion.truth (given .retryEnabled)
  let retries := check .retryMaxRetries d.retryMaxRetries Coercion.integer (given .retryMaxRetries)
  let codes := checkCodes (given .retryStatusCodes)
  let ceiling := check .retryMaxIntervalMillis d.retryMaxIntervalMillis Coercion.integer
    (given .retryMaxIntervalMillis)
  let multiplier := check .retryBackoffMultiplier d.retryBackoffMultiplier Coercion.double
    (given .retryBackoffMultiplier)
  let level := check .logLevel d.logLevel readLevel (given .logLevel)
  let format := check .logFormat d.logFormat readFormat (given .logFormat)
  { problems := connect.problems ++ read.problems ++ enabled.problems ++ retries.problems ++
      codes.problems ++ ceiling.problems ++ multiplier.problems ++ level.problems ++
      format.problems
    value :=
      { connectTimeoutMillis := connect.value, readTimeoutMillis := read.value
        retryEnabled := enabled.value, retryMaxRetries := retries.value
        retryStatusCodes := codes.value, retryMaxIntervalMillis := ceiling.value
        retryBackoffMultiplier := multiplier.value, logLevel := level.value
        logFormat := format.value } }

def load (overrides : List (String × Value)) (s : Surroundings) : Except Fault Settings := do
  let given ← Given.gather (Rules.ofOverrides overrides) overrides s
  let checked := ofGiven given.value?
  let problems := checked.problems ++ given.unknown.map fun name => ⟨[name], .extraForbidden⟩
  if problems.isEmpty then .ok checked.value
  else
    let listed := problems.mergeSort fun a b => FieldProblem.precedes a.path b.path
    .error (.config (.rejectedFields listed))

def toOverrides (s : Settings) : List (String × Value) := [
  (Field.connectTimeoutMillis.name, .int s.connectTimeoutMillis),
  (Field.readTimeoutMillis.name, .int s.readTimeoutMillis),
  (Field.retryEnabled.name, .bool s.retryEnabled),
  (Field.retryMaxRetries.name, .int s.retryMaxRetries),
  (Field.retryStatusCodes.name, .list (s.retryStatusCodes.map Value.int)),
  (Field.retryMaxIntervalMillis.name, .int s.retryMaxIntervalMillis),
  (Field.retryBackoffMultiplier.name, .double s.retryBackoffMultiplier),
  (Field.logLevel.name, .text s.logLevel.name),
  (Field.logFormat.name, .text s.logFormat.name)]

end Settings

end HttpRetry

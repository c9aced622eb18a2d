import HttpRetry.Calendar.MailDate
import HttpRetry.Response
import HttpRetry.Text.Quoted
import HttpRetry.Text.Utf8
import HttpRetry.Value.Json
import HttpRetry.Value.Shown

/-!
# Faults

Everything that can end an operation early, told apart by cause. The wording of
each is in one place.
-/

namespace HttpRetry

inductive FieldDefect where
  | extraForbidden
  | intType
  | intParsing
  | intParsingSize
  | intFromFloat
  | finiteNumber
  | boolType
  | boolParsing
  | floatType
  | floatParsing
  | stringType
  /-- A text that holds half a surrogate pair. -/
  | stringUnicode
  | listType
  | negativeTimeout
  | unknownLogLevel
  | unknownLogFormat
deriving DecidableEq

structure FieldProblem where
  path : List String
  defect : FieldDefect
deriving DecidableEq

def FieldProblem.precedes : List String → List String → Bool
  | [], _ => true
  | _ :: _, [] => false
  | a :: as, b :: bs => if a = b then precedes as bs else CodePoint.precedes a b

/-- Why a configuration is refused. Values are given as they are shown. -/
inductive ConfigProblem where
  | notNumber (name shown : String)
  | notFinite (name shown : String)
  | notInteger (name shown : String)
  | notPositive (name : String)
  | negative (name : String)
  | ceilingBelowInitial
  | multiplierBelowOne
  | codesNotIntegers (shown : String)
  | missingSleeper
  | unknownOptions (names : List String)
  | invalidOptions (reason : String)
  | negativeTimeouts
  | emptyToken
  | missingCredentials
  | missingCredentialsHandler
  | rejectedFields (problems : List FieldProblem)
deriving DecidableEq

inductive SettingsSource where
  | environment
  | envFile
  | secretsDirectory
  | commandLine
deriving DecidableEq

inductive Fault where
  | config (problem : ConfigProblem)
  /-- No token is to be had under this name, given as plain text. -/
  | noCredential (name : String)
  | undecryptable (path : String)
  /-- The last response of a request was not a success. -/
  | unsuccessful (response : Response) (text : String)
  | range (error : RangeError)
  | calendar (overflow : MailDate.Overflow)
  | unorderable (relation left right : String)
  | notIterable (typeName : String)
  | notCallable (typeName : String)
  | noItemAssignment (typeName : String)
  /-- A list was indexed with a text. -/
  | textIndex
  | noAttribute (typeName name : String)
  | noSetter (typeName name : String)
  /-- An attribute that no object lets be set. -/
  | notWritable (typeName name : String)
  | notClass (typeName : String)
  | notAttributes (typeName : String)
  | notText (typeName : String)
  | notPath (typeName : String)
  | noLength (typeName : String)
  | unjoinable (index : Nat) (typeName : String)
  | notConcatenable (typeName : String)
  | unhashable (typeName : String)
  | notPair (index : Nat)
  | pairLength (index length : Nat)
  | unexpectedArgument (callee name : String)
  | repeatedArgument (callee name : String)
  | repeatedKeyword (callee name : String)
  | tooManyArguments (callee : String) (least most given : Nat)
  | missingArguments (callee : String) (names : List String)
  | inexactArguments (callee : String) (expected given : Nat)
  | frozenField (name : String) (deletion : Bool)
  /-- A key that is not there, as it is shown. -/
  | missingKey (shown : String)
  | unknownLevel (shown : String)
  /-- A log level that is neither a severity nor a name, as it is shown. -/
  | notLevel (shown : String)
  | unshowable (problem : Unshowable)
  | badEncryptionKey
  | json (problem : Json.Problem)
  | utf8 (problem : Utf8.Problem)
  /-- Half surrogate pairs in a text that is to be encoded. -/
  | unencodable (run : CodePoint.Run)
  /-- A text given for the status codes is no JSON. -/
  | settingsSource (source : SettingsSource)
  /-- The name of a settings field in a source cannot be made. -/
  | settingsName (field : String) (source : SettingsSource)
  | notSecretsDirectory
  | isDirectory (path : String)
  | nameTooLong (path : String)
  /-- A path begins with a tilde for a home directory that is not known. -/
  | noHome
  | unknownEncoding (name : String)
  /-- The name of an encoding is no text. -/
  | notEncoding (typeName : String)
  /-- A byte that is no ASCII character, at a position. -/
  | notAscii (byte : UInt8) (position : Nat)
  | notSubtractable (typeName : String)
  /-- What should be the arguments of a command line is no list. -/
  | notArguments (typeName : String)
  | notArgument (typeName : String)
  /-- The arguments of a command line are refused. -/
  | commandLine (reason : String)
  /-- The program ends because of its command line. -/
  | exit
  | nulByte
  | badVariableName
  | emptyVariableName
  | noOutcome
  /-- A failure of the surroundings, of the given class. -/
  | raised (kind message : String)

namespace FieldDefect

/-- The text of a defect that a rule of this library found, not a type's reader. -/
def ruleText? : FieldDefect → Option String
  | negativeTimeout => some "Timeouts must not be negative"
  | unknownLogLevel =>
    some "Log level must be one of ['DEBUG', 'INFO', 'WARNING', 'ERROR', 'CRITICAL']"
  | unknownLogFormat => some "Log format must be one of ['json', 'console']"
  | _ => none

end FieldDefect

def ConfigProblem.message : ConfigProblem → String
  | notNumber name shown => s!"{name} must be a number, got {shown}"
  | notFinite name shown => s!"{name} must be finite, got {shown}"
  | notInteger name shown => s!"{name} must be an integer, got {shown}"
  | notPositive name => s!"{name} must be positive"
  | negative name => s!"{name} must not be negative"
  | ceilingBelowInitial => "max_interval_millis must be at least initial_interval_millis"
  | multiplierBelowOne => "multiplier must be at least 1"
  | codesNotIntegers shown => s!"retry_status_codes must be integers, got {shown}"
  | missingSleeper => "sleeper must not be None"
  | unknownOptions names => "Unknown retry options: " ++ ", ".intercalate names
  | invalidOptions reason => s!"Invalid retry options: {reason}"
  | negativeTimeouts => "Timeouts must not be negative"
  | emptyToken => "token must not be empty"
  | missingCredentials => "credentials must not be None"
  | missingCredentialsHandler => "credentials handler must not be None"
  | rejectedFields problems => s!"{problems.length} fields rejected"

def SettingsSource.name : SettingsSource → String
  | environment => "EnvSettingsSource"
  | envFile => "DotEnvSettingsSource"
  | secretsDirectory => "SecretsSettingsSource"
  | commandLine => "CliSettingsSource"

def Utf8.Problem.message (problem : Utf8.Problem) : String :=
  let defect := match problem.defect with
    | .invalidStart => "invalid start byte"
    | .invalidContinuation => "invalid continuation byte"
    | .unexpectedEnd => "unexpected end of data"
  if problem.length = 1 then
    let byte := String.ofList (hexDigits 2 problem.lead.toNat)
    s!"'utf-8' codec can't decode byte 0x{byte} in position {problem.start}: {defect}"
  else
    let last := problem.start + problem.length - 1
    s!"'utf-8' codec can't decode bytes in position {problem.start}-{last}: {defect}"

namespace Fault

def missingText : List String → String
  | [name] => s!"() missing 1 required positional argument: '{name}'"
  | names =>
    let listed := " and ".intercalate (names.map fun name => s!"'{name}'")
    s!"() missing {names.length} required positional arguments: {listed}"

def unencodableText (run : CodePoint.Run) : String :=
  if run.length = 1 then
    let digits := String.ofList (hexDigits 4 run.point)
    s!"'utf-8' codec can't encode character '\\u{digits}' in position {run.start}: " ++
      "surrogates not allowed"
  else
    let last := run.start + run.length - 1
    s!"'utf-8' codec can't encode characters in position {run.start}-{last}: " ++
      "surrogates not allowed"

def message : Fault → String
  | config problem => problem.message
  | noCredential name => s!"No credential available for {name}"
  | undecryptable path => s!"Cannot decrypt secrets file {path}"
  | unsuccessful _ text => text
  | range error => error.message
  | calendar overflow => overflow.message
  | unorderable relation left right =>
    s!"'{relation}' not supported between instances of '{left}' and '{right}'"
  | notIterable typeName => s!"'{typeName}' object is not iterable"
  | notCallable typeName => s!"'{typeName}' object is not callable"
  | noItemAssignment typeName => s!"'{typeName}' object does not support item assignment"
  | textIndex => "list indices must be integers or slices, not str"
  | noAttribute typeName name => s!"'{typeName}' object has no attribute '{name}'"
  | noSetter typeName name => s!"property '{name}' of '{typeName}' object has no setter"
  | notWritable typeName name => s!"attribute '{name}' of '{typeName}' objects is not writable"
  | notClass typeName => s!"__class__ must be set to a class, not '{typeName}' object"
  | notAttributes typeName => s!"__dict__ must be set to a dictionary, not a '{typeName}'"
  | notText typeName => s!"str expected, not {typeName}"
  | notPath typeName => s!"expected str, bytes or os.PathLike object, not {typeName}"
  | noLength typeName => s!"object of type '{typeName}' has no len()"
  | unjoinable index typeName => s!"sequence item {index}: expected str instance, {typeName} found"
  | notConcatenable typeName => s!"can only concatenate str (not \"{typeName}\") to str"
  | unhashable typeName => s!"unhashable type: '{typeName}'"
  | notPair index => s!"cannot convert dictionary update sequence element #{index} to a sequence"
  | pairLength index length =>
    s!"dictionary update sequence element #{index} has length {length}; 2 is required"
  | unexpectedArgument callee name => s!"{callee}() got an unexpected keyword argument '{name}'"
  | repeatedArgument callee name => s!"{callee}() got multiple values for argument '{name}'"
  | repeatedKeyword callee name => s!"{callee}() got multiple values for keyword argument '{name}'"
  | tooManyArguments callee least most given =>
    s!"{callee}() takes from {least} to {most} positional arguments but {given} were given"
  | missingArguments callee names => callee ++ missingText names
  | inexactArguments callee expected given =>
    s!"{callee} takes exactly {expected} arguments ({given} given)"
  | frozenField name deletion =>
    if deletion then s!"cannot delete field {quoted name}"
    else s!"cannot assign to field {quoted name}"
  | missingKey shown => shown
  | unknownLevel shown => s!"Unknown level: {shown}"
  | notLevel shown => s!"Level not an integer or a valid string: {shown}"
  | unshowable problem => problem.message
  | badEncryptionKey => "Fernet key must be 32 url-safe base64-encoded bytes."
  | json problem => problem.message
  | utf8 problem => problem.message
  | unencodable run => unencodableText run
  | settingsSource source =>
    s!"error parsing value for field \"retry_status_codes\" from source \"{source.name}\""
  | settingsName field source =>
    s!"error getting value for field \"{field}\" from source \"{source.name}\""
  | notSecretsDirectory => "secrets_dir must reference a directory, not a file"
  | isDirectory path => s!"[Errno 21] Is a directory: {quoted path}"
  | nameTooLong path => s!"[Errno 36] File name too long: {quoted path}"
  | noHome => "Could not determine home directory."
  | unknownEncoding name => s!"unknown encoding: {name}"
  | notEncoding typeName => s!"open() argument 'encoding' must be str or None, not {typeName}"
  | notAscii byte position =>
    let digits := String.ofList (hexDigits 2 byte.toNat)
    s!"'ascii' codec can't decode byte 0x{digits} in position {position}: ordinal not in range(128)"
  | notSubtractable typeName => s!"unsupported operand type(s) for -: '{typeName}' and 'int'"
  | notArguments typeName =>
    s!"cli_parse_args must be a list or tuple of strings, received <class '{typeName}'>"
  | notArgument typeName => s!"expected string or bytes-like object, got '{typeName}'"
  | commandLine reason => s!"error parsing CLI: {reason}"
  | exit => "2"
  | nulByte => "embedded null byte"
  | badVariableName => "illegal environment variable name"
  | emptyVariableName => "[Errno 22] Invalid argument"
  | noOutcome => "no outcome queued"
  | raised kind message => if kind = "KeyError" then quoted message else message

end Fault

def ofRange {α : Type} (result : Except RangeError α) : Except Fault α :=
  result.mapError .range

@[simp] theorem ofRange_ok {α : Type} (a : α) : ofRange (.ok a) = .ok a := rfl

@[simp] theorem ofRange_error {α : Type} (e : RangeError) :
    ofRange (.error e : Except RangeError α) = .error (.range e) := rfl

def showValue (v : Value) : Except Fault String :=
  v.shown.mapError .unshowable

def plainText (v : Value) : Except Fault String :=
  v.plain.mapError .unshowable

/-- What a call of a value that is no function of no arguments fails with. -/
def Value.callFault : Value → Fault
  | .sleeper => .missingArguments "RecordingSleeper.__call__" ["seconds"]
  | v => .notCallable v.typeName

def checkHalves (letsThrough : Nat → Bool) (s : String) : Except Fault Unit :=
  match CodePoint.findRun? letsThrough 0 (CodePoint.ofText s) with
  | none => .ok ()
  | some run => .error (.unencodable run)

def encodeText (s : String) : Except Fault Bytes := do
  checkHalves (fun _ => false) s
  return Utf8.encode s

/-- The fault that reports a response, with a message of its own or else with the
response's status and reason. -/
def Response.failure (r : Response) (message : Value) : Except Fault Fault := do
  if message.isTrue then return .unsuccessful r (← plainText message)
  let status ← plainText r.status
  if r.bare then .error (.noAttribute "Bare" "reason")
  return .unsuccessful r s!"HTTP {status}: {← plainText r.reason}"

end HttpRetry

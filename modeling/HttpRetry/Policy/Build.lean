import HttpRetry.Number.SlotTable
import HttpRetry.Policy.Basic
import HttpRetry.Text.Integer
import HttpRetry.Value.Pairs

/-!
# Building policies from options

Options are loosely typed and each may be left out. `accept` is the one way to
make a policy; `build` puts it behind a mapping of options and reports any option
of a wrong type as a refused configuration.
-/

namespace HttpRetry.Policy

structure Options where
  codes : Value := .list []
  maxRetries : Value := .int Defaults.maxRetries
  ceiling : Value := .int Defaults.maxIntervalMillis
  multiplier : Value := .double Defaults.backoffMultiplier
  sleeper : Value := .sleeper

/-! ## Status codes -/

inductive CodeDefect where
  | notInteger
  | infinite
deriving DecidableEq

def readCode : Value → Except CodeDefect Int
  | .bool b => .ok (if b then 1 else 0)
  | .number n =>
    match n.truncate with
    | .ok i => .ok i
    | .error .infinityToInteger => .error .infinite
    | .error _ => .error .notInteger
  | .text s =>
    match readInteger? s.toList with
    | some i => .ok i
    | none => .error .notInteger
  | _ => .error .notInteger

def readCodes : List Value → Except CodeDefect (List Int)
  | [] => .ok []
  | v :: rest => do return (← readCode v) :: (← readCodes rest)

def insertCode (code : Int) : List Int → List Int
  | [] => [code]
  | c :: rest =>
    if code < c then code :: c :: rest
    else if code = c then c :: rest
    else c :: insertCode code rest

def codeSet (codes : List Int) : List Int :=
  codes.foldr insertCode []

/-- The codes a value lists. A value that counts as false lists none. -/
def acceptCodes (v : Value) : Except Fault (List Int) :=
  if !v.isTrue then .ok []
  else
    match v.items?.map readCodes with
    | some (.ok codes) => .ok codes
    | some (.error .infinite) => .error (.range .infinityToInteger)
    | some (.error .notInteger) | none =>
      do .error (.config (.codesNotIntegers (← showValue v)))

/-! ## The other options -/

def acceptRetries (v : Value) : Except Fault Nat :=
  match v with
  | .number (.int (.ofNat n)) => .ok n
  | .number (.int (.negSucc _)) => .error (.config (.negative "max_retries"))
  | v => do .error (.config (.notInteger "max_retries" (← showValue v)))

def ofParts (codes : List Int) (maxRetries : Nat) (waiter : Value) :
    Schedule.FiniteNumber → Schedule.FiniteNumber → Except ConfigProblem Policy
  | ⟨ceiling, ceiling_finite⟩, ⟨multiplier, multiplier_finite⟩ =>
    if initial_le_ceiling : Number.le (.int Defaults.initialIntervalMillis) ceiling then
      if one_le_multiplier : Number.le 1 multiplier then
        .ok { codes := codeSet codes, shownCodes := SlotTable.order codes, maxRetries, ceiling
              multiplier, sleeper := waiter, ceiling_finite, multiplier_finite
              initial_le_ceiling, one_le_multiplier }
      else .error .multiplierBelowOne
    else .error .ceilingBelowInitial

def accept (options : Options) : Except Fault Policy := do
  let codes ← acceptCodes options.codes
  let maxRetries ← acceptRetries options.maxRetries
  if options.sleeper.isNull then .error (.config .missingSleeper)
  let ceiling ← Schedule.requireFinite "max_interval_millis" options.ceiling
  let multiplier ← Schedule.requireFinite "multiplier" options.multiplier
  (ofParts codes maxRetries options.sleeper ceiling multiplier).mapError .config

/-! ## Mappings of options -/

def optionNames : List String :=
  ["retry_status_codes", "max_retries", "max_interval_millis", "backoff_multiplier", "sleeper"]

def Options.ofEntries (entries : Entries) : Options :=
  let defaults : Options := {}
  { codes := (entries.getText? "retry_status_codes").getD defaults.codes
    maxRetries := (entries.getText? "max_retries").getD defaults.maxRetries
    ceiling := (entries.getText? "max_interval_millis").getD defaults.ceiling
    multiplier := (entries.getText? "backoff_multiplier").getD defaults.multiplier
    sleeper := (entries.getText? "sleeper").getD defaults.sleeper }

def isOptionName : Value → Bool
  | .text name => optionNames.contains name
  | _ => false

/-- Numbers in ascending order, booleans counting as numbers, and then other keys. -/
def sortKeys (keys : List Value) : List Value :=
  let (numbers, others) := keys.partition fun key => key.number?.isSome
  numbers.mergeSort (fun a b => (a.number?.getD 0).le (b.number?.getD 0)) ++ others

def findUnordered? : List Value → Option (Value × Value)
  | a :: b :: rest =>
    if a.number?.isSome && b.number?.isSome || a.text?.isSome && b.text?.isSome then
      findUnordered? (b :: rest)
    else some (a, b)
  | _ => none

/-- Refuses keys that are no option: the unknown names in ascending order. Keys
other than texts cannot be listed, nor ordered if they are of several types. -/
def refuseUnknown (unknown : List Value) : Except Fault Unit :=
  match sortKeys unknown with
  | [] => .ok ()
  | keys@(first :: _) =>
    match keys.mapM Value.text?, findUnordered? keys with
    | some names, _ =>
      .error (.config (.unknownOptions (names.mergeSort CodePoint.precedes)))
    | none, some (before, key) => .error (.unorderable "<" key.typeName before.typeName)
    | none, none => .error (.unjoinable 0 first.typeName)

/-- Whether a fault of acceptance is about the type or the form of an option, which is not
the case for one that is nested too deeply. -/
def isAboutForm : Fault → Bool
  | .unshowable problem => problem ≠ .tooDeep
  | _ => false

def build (options : Value) : Except Fault Policy := do
  let entries ← options.toEntries
  refuseUnknown ((entries.map (·.1)).filter fun key => !isOptionName key)
  match accept (Options.ofEntries entries) with
  | .ok policy => .ok policy
  | .error fault =>
    .error (if isAboutForm fault then .config (.invalidOptions fault.message) else fault)

def callee : String := "RetryPolicy.__init__"

def ofNamed (entries : Entries) : Except Fault Policy :=
  match entries.find? fun entry => !isOptionName entry.1 with
  | some (.text "self", _) => .error (.repeatedArgument callee "self")
  | some (.text name, _) => .error (.unexpectedArgument callee name)
  | _ => accept (Options.ofEntries entries)

def ofPositional (values : List Value) : Except Fault Policy :=
  if values.length > optionNames.length then
    .error (.tooManyArguments callee 1 6 (values.length + 1))
  else accept (Options.ofEntries ((optionNames.map Value.text).zip values))

def clientDefault : Policy where
  codes := Defaults.clientRetryStatusCodes
  shownCodes := Defaults.clientRetryStatusCodes
  maxRetries := Defaults.clientMaxRetries
  ceiling := .int Defaults.clientMaxIntervalMillis
  multiplier := .double Defaults.backoffMultiplier
  sleeper := .sleeper
  ceiling_finite := by decide +kernel
  multiplier_finite := by decide +kernel
  initial_le_ceiling := by decide +kernel
  one_le_multiplier := by decide +kernel

end HttpRetry.Policy

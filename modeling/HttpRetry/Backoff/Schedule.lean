import HttpRetry.Defaults
import HttpRetry.Fault.Basic

/-!
# Schedules of waits

A schedule says how the waits of one generator grow and when they end. Only
consistent schedules exist: the four numbers are finite, the first wait is
positive and within the ceiling, and no wait is shorter than the one before.
-/

namespace HttpRetry

structure Schedule where
  /-- The first wait, in milliseconds like all that follow. -/
  initial : Number
  /-- No wait is longer. -/
  ceiling : Number
  multiplier : Number
  /-- No wait is handed out once more time than this has passed since the first was asked for. -/
  allowance : Number
  /-- How many waits are handed out at most. -/
  limit : Option Nat
  initial_finite : initial.isFinite = true
  ceiling_finite : ceiling.isFinite = true
  multiplier_finite : multiplier.isFinite = true
  allowance_finite : allowance.isFinite = true
  initial_pos : Number.lt 0 initial = true
  initial_le_ceiling : initial.le ceiling = true
  one_le_multiplier : Number.le 1 multiplier = true
  allowance_pos : Number.lt 0 allowance = true

namespace Schedule

abbrev FiniteNumber := { n : Number // n.isFinite = true }

/-- A value as a finite number, booleans not being numbers. -/
def requireFinite (name : String) (v : Value) : Except Fault FiniteNumber :=
  match v with
  | .number n =>
    match n.toDouble with
    | .error e => .error (.range e)
    | .ok _ =>
      if h : n.isFinite = true then .ok ⟨n, h⟩
      else do .error (.config (.notFinite name (← showValue v)))
  | v => do .error (.config (.notNumber name (← showValue v)))

def requireLimit (v : Value) : Except Fault (Option Int) :=
  match v with
  | .null => .ok none
  | .number (.int i) => .ok (some i)
  | v => do .error (.config (.notInteger "max_attempts" (← showValue v)))

/-- Checks that the numbers fit together, in the order in which they are reported. -/
def make (initial ceiling multiplier allowance : FiniteNumber)
    (limit : Option Int) : Except ConfigProblem Schedule :=
  if initial_pos : Number.lt 0 initial.1 then
    if initial_le_ceiling : initial.1.le ceiling.1 then
      if one_le_multiplier : Number.le 1 multiplier.1 then
        if allowance_pos : Number.lt 0 allowance.1 then
          let schedule (limit : Option Nat) : Schedule :=
            { initial := initial.1, ceiling := ceiling.1, multiplier := multiplier.1
              allowance := allowance.1, limit
              initial_finite := initial.2, ceiling_finite := ceiling.2
              multiplier_finite := multiplier.2, allowance_finite := allowance.2
              initial_pos, initial_le_ceiling, one_le_multiplier, allowance_pos }
          match limit with
          | none => .ok (schedule none)
          | some (.ofNat n) => .ok (schedule (some n))
          | some (.negSucc _) => .error (.negative "max_attempts")
        else .error (.notPositive "max_elapsed_time_millis")
      else .error .multiplierBelowOne
    else .error .ceilingBelowInitial
  else .error (.notPositive "initial_interval_millis")

structure Request where
  initial : Value := .int Defaults.initialIntervalMillis
  ceiling : Value := .int Defaults.maxIntervalMillis
  multiplier : Value := .double Defaults.backoffMultiplier
  allowance : Value := .int Defaults.maxElapsedMillis
  limit : Value := .null
  clock : Option Value := none

def Request.set? (request : Request) (name : String) (v : Value) : Option Request :=
  match name with
  | "initial_interval_millis" => some { request with initial := v }
  | "max_interval_millis" => some { request with ceiling := v }
  | "multiplier" => some { request with multiplier := v }
  | "max_elapsed_time_millis" => some { request with allowance := v }
  | "max_attempts" => some { request with limit := v }
  | "clock" => some { request with clock := some v }
  | _ => none

def callee : String := "ExponentialBackOff.__init__"

def Request.ofNamed (values : List (String × Value)) : Except Fault Request :=
  values.foldlM (fun request (name, v) =>
    match request.set? name v with
    | some request => .ok request
    | none => .error (if name = "self" then .repeatedArgument callee name
        else .unexpectedArgument callee name)) {}

/-- Accepts a request or reports the first thing wrong with it: types and
finiteness of each value come before the relations between values. -/
def accept (request : Request) : Except Fault Schedule := do
  let initial ← requireFinite "initial_interval_millis" request.initial
  let ceiling ← requireFinite "max_interval_millis" request.ceiling
  let multiplier ← requireFinite "multiplier" request.multiplier
  let allowance ← requireFinite "max_elapsed_time_millis" request.allowance
  let limit ← requireLimit request.limit
  (make initial ceiling multiplier allowance limit).mapError .config

end Schedule

end HttpRetry

import HttpRetry.Backoff.Basic

/-!
# Retry policies

A policy lists the statuses worth a retry, caps the number of retries and bounds
the waits between them. Every policy has a schedule: what a schedule requires of
its numbers is required here.
-/

namespace HttpRetry

structure Policy where
  /-- In ascending order, each once. -/
  codes : List Int
  /-- The same codes in the order in which a text shows them. -/
  shownCodes : List Int
  maxRetries : Nat
  ceiling : Number
  multiplier : Number
  /-- What is called to wait; it need not be callable. -/
  sleeper : Value
  ceiling_finite : ceiling.isFinite = true
  multiplier_finite : multiplier.isFinite = true
  initial_le_ceiling : Number.le (.int Defaults.initialIntervalMillis) ceiling = true
  one_le_multiplier : Number.le 1 multiplier = true

namespace Policy

def initialInterval (_ : Policy) : Int :=
  Defaults.initialIntervalMillis

def schedule (p : Policy) : Schedule where
  initial := .int Defaults.initialIntervalMillis
  ceiling := p.ceiling
  multiplier := p.multiplier
  allowance := .int Defaults.maxElapsedMillis
  limit := some p.maxRetries
  initial_finite := by decide +kernel
  ceiling_finite := p.ceiling_finite
  multiplier_finite := p.multiplier_finite
  allowance_finite := by decide +kernel
  initial_pos := by decide +kernel
  initial_le_ceiling := p.initial_le_ceiling
  one_le_multiplier := p.one_le_multiplier
  allowance_pos := by decide +kernel

def newBackoff (p : Policy) : Backoff :=
  Backoff.start p.schedule none

/-- Whether a status is one of the policy's codes. Numbers are compared by value,
whatever their kind. -/
def isRetryable (p : Policy) (status : Value) : Except Fault Bool :=
  if !status.isHashable then .error (.unhashable status.typeName)
  else
    match status.number? with
    | some n => .ok (p.codes.any fun code => n.same (.int code))
    | none => .ok false

/-! ## Comparison -/

/-- Policies are equal if they list the same codes and their numbers are equal in value,
whatever they wait by. -/
def same (p q : Policy) : Bool :=
  p.codes == q.codes && p.maxRetries == q.maxRetries && p.ceiling.same q.ceiling &&
    p.multiplier.same q.multiplier

def text (p : Policy) : Except Unshowable String := do
  let codes := ", ".intercalate (← p.shownCodes.mapM showInteger)
  let codes := if p.shownCodes.isEmpty then "frozenset()" else "frozenset(\x7b" ++ codes ++ "\x7d)"
  return s!"RetryPolicy(retry_status_codes={codes}, max_retries={← showInteger p.maxRetries}, " ++
    s!"max_interval_millis={← p.ceiling.shown}, backoff_multiplier={← p.multiplier.shown})"

end Policy

end HttpRetry

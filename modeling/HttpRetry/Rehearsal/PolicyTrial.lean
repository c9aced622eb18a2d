import HttpRetry.Policy.Build
import HttpRetry.Policy.Fingerprint
import HttpRetry.Rehearsal.Waits

/-!
# Rehearsing a policy

One policy, looked at from all sides, with generators that are kept by name.
-/

namespace HttpRetry.Rehearsal

structure PolicyTrial where
  policy : Policy
  clock : Clock
  kept : List (String × Backoff)

namespace PolicyTrial

inductive Step where
  | attributes
  | isRetryable (status : Value)
  | assign (name : String)
  | delete (name : String)
  | equals (options : Value)
  | hashEquals (options : Value)
  | show
  | take (count : Nat)
  | next (name : String)
  | advance (amount : Number)

inductive Answer where
  | nothing
  | attributes (policy : Policy)
  | truth (value : Bool)
  | text (value : String)
  | waits (millis : List Number) (stopped : Bool)
  | next (millis : Option Number) (after : Backoff.Snapshot)

def start (policy : Policy) : PolicyTrial :=
  { policy, clock := .seconds (Double.zero false), kept := [] }

def keep (name : String) (backoff : Backoff) (trial : PolicyTrial) : PolicyTrial :=
  { trial with kept := (name, backoff) :: trial.kept.filter (·.1 ≠ name) }

def perform (trial : PolicyTrial) : Step → Except Fault Answer × PolicyTrial
  | .attributes => (.ok (.attributes trial.policy), trial)
  | .isRetryable status => ((trial.policy.isRetryable status).map .truth, trial)
  | .assign name => (.error (.frozenField name false), trial)
  | .delete name => (.error (.frozenField name true), trial)
  | .equals options => ((Policy.build options).map fun q => .truth (trial.policy.same q), trial)
  | .hashEquals options =>
    ((Policy.build options).map fun q => .truth (trial.policy.fingerprint = q.fingerprint), trial)
  | .show => ((trial.policy.text.mapError .unshowable).map .text, trial)
  | .take count =>
    let (result, _) := Backoff.take trial.clock.read count trial.policy.newBackoff
    (result.map fun (millis, stopped) => .waits millis stopped, trial)
  | .next name =>
    let backoff := (trial.kept.lookup name).getD trial.policy.newBackoff
    let (result, backoff) := backoff.nextAt trial.clock.read
    (do return .next (← result) (← backoff.snapshot trial.clock.read), trial.keep name backoff)
  | .advance amount =>
    match trial.clock.advance amount with
    | .ok clock => (.ok .nothing, { trial with clock })
    | .error e => (.error (.range e), trial)

end PolicyTrial

end HttpRetry.Rehearsal

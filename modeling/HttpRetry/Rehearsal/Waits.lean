import HttpRetry.Backoff.Basic
import HttpRetry.Clock

/-!
# Rehearsing a generator

A generator and the clock it reads, taken through a script of steps.
-/

namespace HttpRetry.Rehearsal

structure Waits where
  clock : Clock
  backoff : Backoff

namespace Waits

inductive Step where
  | next
  | take (count : Nat)
  | reset
  | advance (amount : Number)

inductive Answer where
  | nothing
  /-- The wait handed out, if there was one. -/
  | wait (millis : Option Number)
  | waits (millis : List Number) (stopped : Bool)

def perform (w : Waits) : Step → Except Fault Answer × Waits
  | .next =>
    let (result, backoff) := w.backoff.nextAt w.clock.read
    (result.map .wait, { w with backoff })
  | .take count =>
    let (result, backoff) := Backoff.take w.clock.read count w.backoff
    (result.map fun (millis, stopped) => .waits millis stopped, { w with backoff })
  | .reset => (.ok .nothing, { w with backoff := w.backoff.reset })
  | .advance amount =>
    match w.clock.advance amount with
    | .ok clock => (.ok .nothing, { w with clock })
    | .error e => (.error (.range e), w)

def snapshot (w : Waits) : Except Fault Backoff.Snapshot :=
  w.backoff.snapshot w.clock.read

def observe (w : Waits) (step : Step) : Except Fault (Answer × Backoff.Snapshot) × Waits :=
  let (result, w) := w.perform step
  ((do return (← result, ← w.snapshot)), w)

end Waits

end HttpRetry.Rehearsal

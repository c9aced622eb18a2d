import HttpRetry.Backoff.Schedule

/-!
# Generators of waits

A generator hands out the waits of a schedule one at a time. Its clock readings
are given to it in milliseconds, so it holds no clock, only the reading at which
it was first asked. A generator that was given something else for a clock has no
readings.
-/

namespace HttpRetry

structure Backoff where
  schedule : Schedule
  /-- The wait that is handed out next. -/
  interval : Number
  /-- How many waits have been handed out since the start. -/
  attempts : Nat
  /-- The clock reading when the first wait was asked for. -/
  startedAt : Option Int
  /-- What was given for a clock, if anything was. -/
  givenClock : Option Value

namespace Backoff

def start (schedule : Schedule) (givenClock : Option Value) : Backoff :=
  { schedule, interval := schedule.initial, attempts := 0, startedAt := none, givenClock }

def ofRequest (request : Schedule.Request) : Except Fault Backoff := do
  return start (← Schedule.accept request) request.clock

def reset (b : Backoff) : Backoff :=
  start b.schedule b.givenClock

def reading (ambient : Except RangeError Int) (b : Backoff) : Except Fault Int :=
  match b.givenClock with
  | none => ofRange ambient
  | some v => .error v.callFault

def elapsed (now : Int) (b : Backoff) : Int :=
  match b.startedAt with
  | none => 0
  | some t => now - t

def isSpent (b : Backoff) : Bool :=
  match b.schedule.limit with
  | none => false
  | some limit => limit ≤ b.attempts

def isLate (now : Int) (b : Backoff) : Bool :=
  b.schedule.allowance.lt (b.elapsed now)

/-- The wait after a given one: the whole part of its multiple, within the ceiling. -/
def grow (schedule : Schedule) (interval : Number) : Except RangeError Number := do
  let product ← interval.mul schedule.multiplier
  let whole ← product.truncate
  return Number.least whole schedule.ceiling

def begin (now : Int) (b : Backoff) : Backoff :=
  { b with startedAt := some (b.startedAt.getD now) }

/-- Asks for the next wait at a clock reading; `none` means that there is none.
Where the wait after it cannot be computed the attempt counts and the interval
stays. -/
def next (now : Int) (b : Backoff) : Except RangeError (Option Number) × Backoff :=
  let b := b.begin now
  if b.isSpent || b.isLate now then (.ok none, b)
  else
    let counted := { b with attempts := b.attempts + 1 }
    match grow b.schedule b.interval with
    | .ok interval => (.ok (some b.interval), { counted with interval })
    | .error e => (.error e, counted)

/-- Asks for the next wait when the clock may fail to be read. A spent generator
that has started needs no reading. -/
def nextAt (ambient : Except RangeError Int) (b : Backoff) :
    Except Fault (Option Number) × Backoff :=
  match b.reading ambient with
  | .ok now =>
    let (result, b) := b.next now
    (ofRange result, b)
  | .error e => if b.startedAt.isSome && b.isSpent then (.ok none, b) else (.error e, b)

/-- Asks for up to `n` waits at one clock reading: the waits, and whether the
generator stopped before them all. -/
def take (ambient : Except RangeError Int) :
    Nat → Backoff → Except Fault (List Number × Bool) × Backoff
  | 0, b => (.ok ([], false), b)
  | n + 1, b =>
    match b.nextAt ambient with
    | (.error e, b) => (.error e, b)
    | (.ok none, b) => (.ok ([], true), b)
    | (.ok (some wait), b) =>
      let (rest, b) := take ambient n b
      (rest.map fun (waits, stopped) => (wait :: waits, stopped), b)

structure Snapshot where
  attempts : Nat
  current : Number
  elapsed : Int

def snapshot (ambient : Except RangeError Int) (b : Backoff) : Except Fault Snapshot :=
  match b.startedAt with
  | none => .ok ⟨b.attempts, b.interval, 0⟩
  | some t => (b.reading ambient).map fun now => ⟨b.attempts, b.interval, now - t⟩

end Backoff

end HttpRetry

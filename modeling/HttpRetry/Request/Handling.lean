import HttpRetry.Challenge
import HttpRetry.Credentials.Basic
import HttpRetry.Fault.Family
import HttpRetry.Request.Basic
import HttpRetry.RetryAfter

/-!
# Asking handlers

How each handler answers. The answer is a value; it grants a retry if it does not
count as false. What lies outside the library is a record of operations on an
unknown state: the clock, waiting, the date, credentials, the session, and
handlers made elsewhere.
-/

namespace HttpRetry

/-- A request among the generators that handlers know by number, with the state of
what lies outside. -/
structure Stage (σ : Type) where
  request : Request
  generators : List Backoff
  outer : σ

structure Host (σ ε : Type) where
  /-- The clock in milliseconds. -/
  millis : σ → Except RangeError Int
  /-- Lets the given seconds pass. -/
  pause : Double → Act σ ε Unit
  today : σ → Moment
  credentials : Credentials σ ε
  send : Message → Act σ ε Response
  /-- A handler that is not of this library. -/
  consult : Nat → Question → Act (Stage σ) ε Value

namespace Handling

inductive Event (ε : Type) where
  /-- A generator is asked for its next wait at a reading of the clock. -/
  | drawn (generator : Nat) (now : Except RangeError Int)
  | slept (seconds : Double)
  /-- New credentials are asked for. -/
  | refreshing
  /-- The request has been given this token. -/
  | stamped (token : Value)
  | noted (notice : Log.Notice)
  /-- Something outside the library. -/
  | outside (event : ε)

variable {σ ε : Type}

def aside {α : Type} (act : Act σ ε α) : Act (Stage σ) (Event ε) α :=
  act.within Stage.outer (fun outer stage => { stage with outer }) .outside

def note (notice : Log.Notice) : Act (Stage σ) (Event ε) Unit :=
  .emit (.noted notice)

/-! ## Waiting -/

def sleep (host : Host σ ε) (waiter : Value) (millis : Number) : Act (Stage σ) (Event ε) Unit := do
  let seconds ← .ofExcept (ofRange millis.millisToSeconds)
  match waiter with
  | .sleeper =>
    .emit (.slept seconds)
    aside (host.pause seconds)
  | v => .fail (.notCallable v.typeName)

def nextWait (host : Host σ ε) (generator : Nat) : Act (Stage σ) (Event ε) (Option Number) := do
  let stage ← .read id
  match stage.generators[generator]? with
  | none => return none
  | some backoff =>
    let now := host.millis stage.outer
    .emit (.drawn generator now)
    let (result, backoff) := backoff.nextAt now
    .change fun stage => { stage with generators := stage.generators.set generator backoff }
    .ofExcept result

def waitNext (host : Host σ ε) (waiter : Value) (generator : Nat) :
    Act (Stage σ) (Event ε) Bool := do
  match ← nextWait host generator with
  | none => return false
  | some millis =>
    sleep host waiter millis
    return true

/-! ## Statuses -/

/-- Waits before a retry: as long as the response asks for, within the policy's
ceiling, else for the next wait of the generator. -/
def waitForStatus (host : Host σ ε) (policy : Policy) (generator : Nat) (response : Response) :
    Act (Stage σ) (Event ε) Unit := do
  let today ← .read fun stage => host.today stage.outer
  match ← .ofExcept (RetryAfter.millis today response) with
  | some delay =>
    let delay := Number.least (.int delay) policy.ceiling
    note (.retryAfterHonoured response.status delay)
    sleep host policy.sleeper delay
  | none =>
    if !(← waitNext host policy.sleeper generator) then note (.statusWaitsExhausted response.status)

def answerStatus (host : Host σ ε) (policy : Option Policy) (generator : Nat)
    (response : Response) (supportsRetry : Bool) : Act (Stage σ) (Event ε) Value := do
  if !supportsRetry then return .bool false
  match policy with
  | none => .fail (.noAttribute "NoneType" "is_retryable_status")
  | some policy =>
    if !(← .ofExcept (policy.isRetryable response.status)) then return .bool false
    waitForStatus host policy generator response
    return .bool true

/-! ## Failures to connect -/

def attemptsOf (generator : Nat) (stage : Stage σ) : Nat :=
  (stage.generators[generator]?.map Backoff.attempts).getD 0

def answerFailure (host : Host σ ε) (generator : Nat) (waiter : Value) (supportsRetry : Bool) :
    Act (Stage σ) (Event ε) Value := do
  if !supportsRetry then return .bool false
  if ← waitNext host waiter generator then return .bool true
  note (.failureWaitsExhausted (← .read (attemptsOf generator)))
  return .bool false

/-! ## Credentials -/

def stamp (host : Host σ ε) : Act (Stage σ) (Event ε) Unit := do
  let token ← aside host.credentials.token
  let text ← .ofExcept (plainText token)
  let stage ← .read id
  let request ← .ofExcept (stage.request.withToken text)
  .change fun stage => { stage with request }
  .emit (.stamped token)

def renew (host : Host σ ε) : Act (Stage σ) (Event ε) Unit := do
  .emit .refreshing
  aside host.credentials.refresh
  stamp host

/-- Renews the credentials if the response asks for that. A renewal that gives no
token is no reason to fail, only not to retry. -/
def answerBearer (host : Host σ ε) (response : Response) : Act (Stage σ) (Event ε) Value := do
  if !(← .ofExcept (Challenge.needsRefresh response)) then return .bool false
  match ← (renew host).attempt with
  | .ok () =>
    note (.tokenRefreshed response.status)
    return .bool true
  | .error fault =>
    if !fault.isAboutCredentials then .fail fault
    note (.refreshFailed response.status fault.message)
    return .bool false

/-! ## All handlers -/

def ask (host : Host σ ε) : Handler → Question → Act (Stage σ) (Event ε) Value
  | .bearer, .response response _ => answerBearer host response
  | .status policy generator, .response response supportsRetry =>
    answerStatus host policy generator response supportsRetry
  | .failure generator waiter, .failure supportsRetry =>
    answerFailure host generator waiter supportsRetry
  | .chain first second, .response response supportsRetry => do
    let granted ← ask host first (.response response supportsRetry)
    if granted.isTrue then
      note (.retryAfterRefresh response.status)
      return .bool true
    let answer ← ask host second (.response response supportsRetry)
    note (if answer.isTrue then .retryGranted response.status else .retryDeclined response.status)
    return answer
  | .external index, question => (host.consult index question).told .outside
  | handler, question => .fail (.noAttribute handler.typeName question.name)

end Handling

end HttpRetry

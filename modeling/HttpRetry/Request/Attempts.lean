import HttpRetry.Log.Notice
import HttpRetry.Request.Basic
import HttpRetry.Act
import HttpRetry.Fault.Family

/-!
# Attempts

One execution of a request is a row of attempts, each but the last followed by a
granted retry. Who decides is not known here: the handlers are looked up again
after every failed attempt, in a state that anything may have changed.
-/

namespace HttpRetry

/-- What an execution reaches: the message as it stands, the session, and the
handlers that are installed at the time. -/
structure Exchange (σ φ : Type) where
  message : σ → Except Fault Message
  send : Message → Act σ φ Response
  /-- How a question is answered, if there is a handler for it. -/
  handler : Question → σ → Option (Act σ φ Value)
  /-- Why the session cannot be closed, if it cannot. -/
  closeFault : σ → Option Fault
  ownsSession : σ → Bool

namespace Attempts

inductive Event (φ : Type) where
  | sent (message : Message)
  /-- What came of the sending. -/
  | received (outcome : Except Fault Response)
  | asked (question : Question)
  /-- Something a handler did while it answered a question. -/
  | answering (question : Question) (event : φ)
  | noted (notice : Log.Notice)
  | closed (response : Response)
  | sessionClosed
  /-- Something the session did. -/
  | during (event : φ)

variable {σ φ : Type}

def note (notice : Log.Notice) : Act σ (Event φ) Unit :=
  .emit (.noted notice)

def isSuccess (status : Value) : Except Fault Bool :=
  match status.number? with
  | none => .error (.unorderable "<=" "int" status.typeName)
  | some n => .ok (Number.le 200 n && n.lt 300)

/-- Sends the message; a failure of the session is an outcome like any other. -/
def send (x : Exchange σ φ) : Act σ (Event φ) (Except Fault Response) := do
  let message ← .ofExcept (x.message (← .read id))
  .emit (.sent message)
  let outcome ← ((x.send message).told .during).attempt
  .emit (.received outcome)
  return outcome

def ask (x : Exchange σ φ) (question : Question) : Act σ (Event φ) Bool := do
  match ← .read (x.handler question) with
  | none => return false
  | some answer =>
    .emit (.asked question)
    return (← answer.told (.answering question)).isTrue

def close (response : Response) : Act σ (Event φ) Unit :=
  if response.bare then .fail (.noAttribute "Bare" "close") else .emit (.closed response)

/-- Goes on after a failure if that is one to connect and the handler grants a retry. -/
def afterFailure (x : Exchange σ φ) (remaining : Number) (fault : Fault) :
    Act σ (Event φ) Unit := do
  if !fault.isConnectionFailure then .fail fault
  if ← ask x (.failure (Number.lt 0 remaining)) then
    note (.requestRetried .ioError remaining.pred)
  else
    note (.requestFailed fault.message)
    .fail fault

/-- Ends with a response if that is a success, and else goes on if the handler grants a
retry that the budget has. -/
def afterResponse (x : Exchange σ φ) (remaining : Number) (response : Response) :
    Act σ (Event φ) (Option Response) := do
  if ← .ofExcept (isSuccess response.status) then return some response
  let supportsRetry := Number.lt 0 remaining
  let retry ← ask x (.response response supportsRetry)
  if retry && supportsRetry then
    note (.requestRetried (.status response.status) remaining.pred)
    close response
    return none
  else
    note (.requestUnsuccessful response.status)
    .fail (← .ofExcept (response.failure .null))

def attempt (x : Exchange σ φ) (remaining : Number) : Act σ (Event φ) (Option Response) := do
  match ← send x with
  | .error fault =>
    afterFailure x remaining fault
    return none
  | .ok response => afterResponse x remaining response

/-- Attempts until one succeeds or is not followed by another, of which at most
`limit` are made: nothing stands for an execution that is not finished by then.
`remaining` counts the retries of the budget down. -/
def attempts (x : Exchange σ φ) : (limit : Nat) → (remaining : Number) →
    Act σ (Event φ) (Option Response)
  | 0, _ => return none
  | limit + 1, remaining => do
    match ← attempt x remaining with
    | some response => return some response
    | none => attempts x limit remaining.pred

def closeSession (x : Exchange σ φ) : Act σ (Event φ) Unit := do
  if ← .read x.ownsSession then
    match ← .read x.closeFault with
    | some fault => .fail fault
    | none => .emit .sessionClosed

/-- An execution with a budget of retries. An owned session is closed at the end,
whatever the end is. -/
def execute (x : Exchange σ φ) (limit : Nat) (budget : σ → Except Fault Number) :
    Act σ (Event φ) (Option Response) :=
  .finallyDo (do attempts x limit (← .ofExcept (budget (← .read id)))) (closeSession x)

end Attempts

end HttpRetry

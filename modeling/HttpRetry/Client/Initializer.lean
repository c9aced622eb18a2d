import HttpRetry.Policy.OfSettings
import HttpRetry.Request.Handling

/-!
# Initializers

What is done to every request that a client makes: stamp it with a token, limit
its times, and give it handlers and a budget of retries. Every request gets
generators of its own.
-/

namespace HttpRetry.Client

open Handling (Event note stamp)

inductive Initializer where
  /-- Credentials, time limits, and retries by a policy if there is one. -/
  | client (policy : Option Policy) (connectTimeout readTimeout : Value)
  /-- Credentials alone. -/
  | credentials
  /-- Retries by a policy, after the answer of a given handler. -/
  | retries (handler : Handler) (policy : Option Policy)

/-! ## Acceptance -/

def isNegative (millis : Value) : Except Fault Bool :=
  match millis.number? with
  | some n => .ok (n.lt 0)
  | none => .error (.unorderable "<" millis.typeName "int")

def checkTimeouts (connect read : Value) : Except Fault Unit := do
  if ← isNegative connect then .error (.config .negativeTimeouts)
  if ← isNegative read then .error (.config .negativeTimeouts)

def checkCredentials (given : Bool) : Except Fault Unit :=
  if given then .ok () else .error (.config .missingCredentials)

def acceptClient (credentialsGiven : Bool) (policy : Option Policy) (connect read : Value) :
    Except Fault Initializer := do
  checkTimeouts connect read
  checkCredentials credentialsGiven
  return .client policy connect read

def acceptCredentials (credentialsGiven : Bool) : Except Fault Initializer := do
  checkCredentials credentialsGiven
  return .credentials

def acceptRetries (handler : Handler) (policy : Option Policy) : Except Fault Initializer :=
  if handler.isAbsent then .error (.config .missingCredentialsHandler)
  else .ok (.retries handler policy)

def ofSettings (credentialsGiven : Bool) (s : Settings) : Except Fault Initializer := do
  acceptClient credentialsGiven (← Policy.ofSettings s) (.int s.connectTimeoutMillis)
    (.int s.readTimeoutMillis)

/-! ## What an initializer does -/

variable {σ ε : Type}

def update (f : Request → Request) : Act (Stage σ) (Event ε) Unit :=
  .change fun stage => { stage with request := f stage.request }

def addGenerator (backoff : Backoff) : Act (Stage σ) (Event ε) Nat := do
  let number ← .read (·.generators.length)
  .change fun stage => { stage with generators := stage.generators ++ [backoff] }
  return number

/-- Gives the request a budget and handlers: a policy's, with the given handler asked
first, or without a policy no budget and the given handler alone. -/
def installRetries (handler : Handler) : Option Policy → Act (Stage σ) (Event ε) Unit
  | none => update fun r =>
      { r with retries := .int 0, onFailure := .absent, onResponse := handler }
  | some policy => do
    let forStatuses ← addGenerator policy.newBackoff
    let forFailures ← addGenerator policy.newBackoff
    update fun r =>
      { r with
        retries := .int policy.maxRetries
        onResponse := .chain handler (.status (some policy) forStatuses)
        onFailure := .failure forFailures policy.sleeper }

def installCredentials (host : Host σ ε) : Act (Stage σ) (Event ε) Unit := do
  update fun r => { r with onResponse := .bearer }
  stamp host

def prepare (host : Host σ ε) : Initializer → Act (Stage σ) (Event ε) Unit
  | .client policy connectTimeout readTimeout => do
    installCredentials host
    update fun r => { r with connectTimeout, readTimeout }
    installRetries .bearer policy
    let r ← .read Stage.request
    note (.requestInitialized r.id r.retries)
  | .credentials => installCredentials host
  | .retries handler policy => installRetries handler policy

end HttpRetry.Client

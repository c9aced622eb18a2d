import HttpRetry.Policy.Basic

/-!
# Requests

A request is what is sent and what decides about sending it again. Handlers are
descriptions: the generators of waits that they use, and handlers that are not of
this library, are known by number, so that several requests can share one.
-/

namespace HttpRetry

/-! ## Handlers -/

inductive Handler where
  | absent
  /-- Gets new credentials when the response asks for them. -/
  | bearer
  /-- Retries the statuses of a policy, with the waits of a generator. -/
  | status (policy : Option Policy) (generator : Nat)
  /-- Retries failures to connect, with the waits of a generator, by what is called
  to wait. -/
  | failure (generator : Nat) (waiter : Value)
  /-- Asks the first and, if that does not want a retry, the second. -/
  | chain (first second : Handler)
  | external (index : Nat)
  /-- A value that is no handler. -/
  | improper (value : Value)

namespace Handler

def typeName : Handler → String
  | absent => "NoneType"
  | bearer => "CredentialsAdapter"
  | status .. => "StatusCodeRetryHandler"
  | failure .. => "BackOffIOExceptionHandler"
  | chain .. => "CredentialRefreshingRetryHandler"
  | external _ => "StubHandler"
  | improper v => v.typeName

def isAbsent : Handler → Bool
  | absent => true
  | _ => false

end Handler

/-- What a handler is asked: whether to retry after a failure to connect or after a
response, and whether retries remain. -/
inductive Question where
  | failure (supportsRetry : Bool)
  | response (response : Response) (supportsRetry : Bool)

namespace Question

def name : Question → String
  | failure _ => "handle_io_exception"
  | response .. => "handle_response"

def supportsRetry : Question → Bool
  | failure b | response _ b => b

end Question

/-! ## Requests -/

inductive SessionSlot where
  | session
  /-- A value that is no session. -/
  | improper (value : Value)

/-- The parts of an execution that another value can be put in place of. -/
inductive Part where
  /-- All of it. -/
  | execution
  /-- What is done before the session is closed. -/
  | attempts
  /-- One sending of the message. -/
  | sending
deriving DecidableEq

structure Request where
  id : Value
  method : Value
  url : Value
  headers : Value
  json : Value
  params : Value
  session : SessionSlot
  /-- The session ends with an execution of the request unless this counts as false. -/
  ownsSession : Value
  connectTimeout : Value
  readTimeout : Value
  /-- How many retries an execution may make. -/
  retries : Value
  onResponse : Handler
  onFailure : Handler
  /-- What has been put in place of parts of an execution. -/
  replaced : List (Part × Value)

structure Message where
  method : Value
  url : Value
  headers : Value
  json : Value
  params : Value
  /-- Seconds to connect and to read; nothing stands for no limit. -/
  timeout : Option (Option Double × Option Double)

namespace Request

def replace (part : Part) (v : Value) (r : Request) : Request :=
  { r with replaced := (part, v) :: r.replaced }

def checkPart (part : Part) (r : Request) : Except Fault Unit :=
  match r.replaced.lookup part with
  | some v => .error v.callFault
  | none => .ok ()

/-- A limit in milliseconds in seconds; only positive ones are limits. -/
def seconds? (millis : Value) : Except Fault (Option Double) :=
  match millis.number? with
  | none => .error (.unorderable ">" millis.typeName "int")
  | some n => if Number.lt 0 n then (ofRange n.millisToSeconds).map some else .ok none

def timeout (r : Request) : Except Fault (Option (Option Double × Option Double)) := do
  let connect ← seconds? r.connectTimeout
  let read ← seconds? r.readTimeout
  return if connect.isNone && read.isNone then none else some (connect, read)

def message (r : Request) : Except Fault Message := do
  r.checkPart .sending
  let method ← match r.session with
    | .session => .ok r.method
    | .improper v => .error (.noAttribute v.typeName "request")
  let timeout ← r.timeout
  return { method, url := r.url, headers := r.headers, json := r.json, params := r.params, timeout }

def budget (r : Request) : Except Fault Number := do
  r.checkPart .attempts
  match r.retries.number? with
  | some n => .ok n
  | none => .error (.unorderable ">" r.retries.typeName "int")

def context (r : Request) : List (String × Value) :=
  [("request_id", r.id), ("method", r.method), ("url", r.url)]

def authorization : String := "Authorization"

def setField (name : String) (value : String) : Value → Except Fault Value
  | .map fields => .ok (.map (Entries.put (.text name) (.text value) fields))
  | .list _ => .error .textIndex
  | v => .error (.noItemAssignment v.typeName)

def withToken (token : String) (r : Request) : Except Fault Request := do
  let headers ← setField authorization ("Bearer " ++ token) r.headers
  return { r with headers }

end Request

end HttpRetry

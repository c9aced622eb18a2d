import HttpRetry.Request.Basic
import HttpRetry.Text.Case
import HttpRetry.Value.Pairs

/-!
# Orders of requests

A request is ordered from a client, which gives it the client's session, or made
on its own with a session of its own. Arguments given by name may repeat one that
is given already or be unknown.
-/

namespace HttpRetry.Client

inductive Way where
  | request (method : Value)
  | get
  | post
  | delete
  /-- Without a client. -/
  | standalone (method : Value)

structure Order where
  method : Value
  url : Value
  headers : Value
  json : Value
  params : Value
  session : SessionSlot
  ownsSession : Bool

namespace Way

def method : Way → Value
  | request method | standalone method => method
  | get => .text "GET"
  | post => .text "POST"
  | delete => .text "DELETE"

def clientCallee (name : String) : String := "HttpRequestFactory.build_" ++ name

def requestCallee : String := "HttpRequest.__init__"

/-- The calls that the arguments pass through on their way to the request, each with
the names it is given already. -/
def calls : Way → List (String × List String)
  | request _ => [(clientCallee "request", ["self", "method", "url"])]
  | get => passedOn "get_request"
  | post => passedOn "post_request"
  | delete => passedOn "delete_request"
  | standalone _ => []
where
  passedOn (name : String) : List (String × List String) :=
    [(clientCallee name, ["self", "url"]), (clientCallee "request", ["self", "method", "url"])]

def isStandalone : Way → Bool
  | standalone _ => true
  | _ => false

end Way

def repeated? (named : List (String × Value)) (call : String × List String) : Option Fault :=
  (named.find? fun argument => call.2.contains argument.1).map fun argument =>
    .repeatedArgument call.1 argument.1

def argumentFault? (name : String) : Option Fault :=
  if ["self", "method", "url"].contains name then some (.repeatedArgument Way.requestCallee name)
  else if ["session", "headers", "json", "params"].contains name then none
  else some (.unexpectedArgument Way.requestCallee name)

def checkNames (way : Way) (named : List (String × Value)) : Except Fault Unit := do
  if let some fault := way.calls.findSome? (repeated? named) then .error fault
  if !way.isStandalone && (named.lookup "session").isSome then
    .error (.repeatedKeyword "api.http_request.HttpRequest" "session")
  if let some fault := named.findSome? fun argument => argumentFault? argument.1 then .error fault

def order (way : Way) (url : Value) (named : List (String × Value)) : Except Fault Order := do
  checkNames way named
  let given (name : String) : Value := (named.lookup name).getD .null
  let session := given "session"
  return {
    method := way.method, url, headers := given "headers", json := given "json"
    params := given "params"
    session := if session.isTrue then .improper session else .session
    ownsSession := way.isStandalone && session.isNull }

def upperMethod : Value → Except Fault Value
  | .text method => .ok (.text (upperCase method))
  | v => .error (.noAttribute v.typeName "upper")

/-- The request of an order: its method in upper case, its headers as a mapping of
their own, no time limits, no handlers and no retries. -/
def make (id : String) (order : Order) : Except Fault Request := do
  let method ← upperMethod order.method
  let headers ← order.headers.toEntries
  return {
    id := .text id, method, url := order.url, headers := .map headers, json := order.json
    params := order.params, session := order.session, ownsSession := .bool order.ownsSession
    connectTimeout := .int 0, readTimeout := .int 0, retries := .int 0
    onResponse := .absent, onFailure := .absent, replaced := [] }

end HttpRetry.Client

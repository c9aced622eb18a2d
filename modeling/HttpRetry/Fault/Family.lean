import HttpRetry.Fault.Basic

/-!
# Families of faults

The classes under which a caller of the library can catch its own faults, which
of them a failed refresh of credentials belongs to, and which failures of a
session are failures to connect.
-/

namespace HttpRetry

inductive Family where
  | base
  | configuration
  | credentials
  | response
deriving DecidableEq

namespace Family

def name : Family → String
  | base => "SDKError"
  | configuration => "InvalidConfiguration"
  | credentials => "CredentialsError"
  | response => "HttpResponseError"

def commonAncestry : List String := ["Exception", "BaseException", "object"]

/-- All names under which a fault of the family can be caught, nearest first. A
refused configuration is also a refused value. -/
def ancestry : Family → List String
  | base => "SDKError" :: commonAncestry
  | configuration => "InvalidConfiguration" :: "SDKError" :: "ValueError" :: commonAncestry
  | credentials => "CredentialsError" :: "SDKError" :: commonAncestry
  | response => "HttpResponseError" :: "SDKError" :: commonAncestry

def ofName? (name : String) : Option Family :=
  [base, configuration, credentials, response].find? (·.name = name)

end Family

def kindAliases : List (String × String) := [
  ("IOError", "OSError"), ("EnvironmentError", "OSError"), ("BaseHTTPError", "HTTPError"),
  ("CompatJSONDecodeError", "JSONDecodeError")]

/-- What goes wrong where a failure of a class cannot be made of a message alone. -/
def unmakeable? (kind : String) : Option Fault :=
  if kind = Family.response.name then some (.noAttribute "str" "status_code")
  else if kind = "JSONDecodeError" then
    some (.missingArguments "JSONDecodeError.__init__" ["doc", "pos"])
  else (exactCounts.lookup kind).map fun (callee, count) => .inexactArguments callee count 1
where
  exactCounts : List (String × String × Nat) := [
    ("UnicodeDecodeError", "function", 5), ("UnicodeEncodeError", "function", 5),
    ("UnicodeTranslateError", "function", 4),
    ("ExceptionGroup", "BaseExceptionGroup.__new__()", 2),
    ("BaseExceptionGroup", "BaseExceptionGroup.__new__()", 2)]

def Fault.ofKind (name message : String) : Fault :=
  let kind := (kindAliases.lookup name).getD name
  (unmakeable? kind).getD (.raised kind message)

def Fault.family? : Fault → Option Family
  | config _ => some .configuration
  | noCredential _ | undecryptable _ => some .credentials
  | unsuccessful .. => some .response
  | raised kind _ => Family.ofName? kind
  | _ => none

def Fault.isAboutCredentials (f : Fault) : Bool :=
  f.family? = some .credentials

def connectionFailures : List String :=
  ["ConnectionError", "SSLError", "ProxyError", "ConnectTimeout", "Timeout", "ReadTimeout"]

def Fault.isConnectionFailure : Fault → Bool
  | raised kind _ => connectionFailures.contains kind
  | _ => false

end HttpRetry

import HttpRetry.Value.Basic
import HttpRetry.Text.Case

/-!
# Responses

What a retry decision reads of a response: its status, its reason phrase and its
header fields. Statuses are loosely typed because sessions may be too.
-/

namespace HttpRetry

inductive Headers where
  | absent
  /-- Names are compared without case, and the last of equal names counts. -/
  | caseless (fields : List (String × Value))
  | exact (fields : List (String × Value))

namespace Headers

def get? (headers : Headers) (name : String) : Option Value :=
  match headers with
  | absent => none
  | caseless fields =>
    (fields.reverse.find? fun field => lowerCase field.1 = lowerCase name).map (·.2)
  | exact fields => fields.lookup name

end Headers

/-- A response. A bare one is known by its status alone: it has no reason phrase
to report and cannot be closed. -/
structure Response where
  status : Value
  reason : Value
  headers : Headers
  bare : Bool

def Response.ofStatus (status : Int) : Response :=
  { status := .int status, reason := .text "Reason", headers := .absent, bare := false }

end HttpRetry

import HttpRetry.Defaults
import HttpRetry.Fault.Basic
import HttpRetry.Text.Blank

/-!
# Bearer challenges

A `WWW-Authenticate` field is cut at its commas. From the first piece that
starts with `Bearer` on, a piece may report that the token is invalid; a response
without such a piece asks for new credentials by its status alone.
-/

namespace HttpRetry.Challenge

def fieldName : String := "WWW-Authenticate"

/-! ## Pieces -/

def pieces (text : String) : List (List Char) :=
  ((text.toList.splitOn ',').map trimBlanks).filter (!·.isEmpty)

def ofResponse (response : Response) : Except Fault (List (List Char)) :=
  match response.headers.get? fieldName with
  | none => .ok []
  | some v => if v.isTrue then do return pieces (← plainText v) else .ok []

/-! ## The report of an invalid token -/

def after? (start cs : List Char) : Option (List Char) :=
  if start.isPrefixOf cs then some (cs.drop start.length) else none

/-- `error`, an equals sign with blanks around it, and `invalid_token` with or
without a quote before it, at the beginning of a text. -/
def startsWithReport (cs : List Char) : Bool :=
  match (after? "error".toList cs).map (·.dropWhile isBlank) with
  | some ('=' :: rest) =>
    let value := match rest.dropWhile isBlank with
      | '"' :: value => value
      | value => value
    "invalid_token".toList.isPrefixOf value
  | _ => false

def reportsInvalidToken : List Char → Bool
  | [] => false
  | c :: rest => startsWithReport (c :: rest) || reportsInvalidToken rest

/-! ## What the pieces say -/

inductive Verdict where
  | noBearer
  | bearer
  | invalidToken
deriving DecidableEq

/-- Goes through pieces; `seen` tells whether a piece before them started with `Bearer`. -/
def verdictFrom (seen : Bool) : List (List Char) → Verdict
  | [] => if seen then .bearer else .noBearer
  | piece :: rest =>
    match after? "Bearer".toList piece with
    | some parameters =>
      if reportsInvalidToken parameters then .invalidToken else verdictFrom true rest
    | none =>
      if seen && reportsInvalidToken piece then .invalidToken else verdictFrom seen rest

def verdict (pieces : List (List Char)) : Verdict :=
  verdictFrom false pieces

def isUnauthorized (status : Value) : Bool :=
  match status.number? with
  | some n => n.same (.int Defaults.unauthorizedStatus)
  | none => false

def needsRefresh (response : Response) : Except Fault Bool := do
  return match verdict (← ofResponse response) with
    | .invalidToken => true
    | .bearer => false
    | .noBearer => isUnauthorized response.status

end HttpRetry.Challenge

import HttpRetry.Calendar.MailDate
import HttpRetry.Fault.Basic

/-!
# Delays that servers ask for

A `Retry-After` field holds a number of seconds or a date. Either gives a delay
in whole milliseconds that is never negative; any other text gives none.
-/

namespace HttpRetry.RetryAfter

def fieldName : String := "Retry-After"

/-- The delay until a date, from its distance in microseconds as a double of seconds. -/
def untilDate (now : Moment) (date : MailDate.Zoned) : Except RangeError Int := do
  let micros := date.seconds * 1000000 - now.micros
  let seconds := Double.ofRat (mkRat micros 1000000) false
  let millis ← (Number.double (seconds.mul (Double.ofInt 1000))).truncate
  return max millis 0

def readText (now : Moment) (text : String) : Except Fault (Option Int) :=
  let cs := trimBlanks text.toList
  match readInteger? cs with
  | some seconds => .ok (some (max seconds 0 * 1000))
  | none =>
    match MailDate.read cs with
    | .error overflow => .error (.calendar overflow)
    | .ok none => .ok none
    | .ok (some date) => (ofRange (untilDate now date)).map some

def millis (now : Moment) (response : Response) : Except Fault (Option Int) :=
  match response.headers.get? fieldName with
  | none | some .null => .ok none
  | some v => do readText now (← plainText v)

end HttpRetry.RetryAfter

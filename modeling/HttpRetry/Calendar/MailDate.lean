import HttpRetry.Calendar.Civil
import HttpRetry.Text.Case
import HttpRetry.Text.Integer

/-!
# Dates in mail and HTTP headers

A lenient reader: weekday names are passed over, the old form with dashes, the
form that ends in the year and times with points are understood, and fields that
stand in each other's place are exchanged. What it makes of the words is then
checked against the calendar.
-/

namespace HttpRetry.MailDate

/-- A number that is too wide for the calendar's fields. Such a date is not
merely wrong: no calendar can be asked about it. -/
inductive Overflow where
  | fieldAbove
  | fieldBelow
  | fieldBeyondWord
  | zoneBeyondWord
  | zoneDays (days : Int)
deriving DecidableEq

/-- A date and time, and the offset of its zone in seconds; without a zone it is
universal time. -/
structure Zoned where
  civil : Civil
  offset : Option Int

abbrev Word := List Char

def endsWithComma (w : Word) : Bool :=
  w.getLast? = some ','

def dropComma (w : Word) : Word :=
  if endsWithComma w then w.dropLast else w

def lowered (w : Word) : String :=
  String.ofList (Case.lower w)

/-! ## Words to fields -/

def dayNames : List String := ["mon", "tue", "wed", "thu", "fri", "sat", "sun"]

/-- Passes over a weekday: a first word that names one or ends with a comma, or
what stands before the last comma of the first word. -/
def dropWeekday : List Word → List Word
  | [] => []
  | first :: rest =>
    if endsWithComma first || dayNames.contains (lowered first) then rest
    else (first.reverse.takeWhile (· ≠ ',')).reverse :: rest

/-- The old form writes day, month and year as one word with dashes. -/
def splitDashes : List Word → List Word
  | [date, time, zone] =>
    match date.splitOn '-' with
    | [day, month, year] => [day, month, year, time, zone]
    | _ => [date, time, zone]
  | ws => ws

/-- A time may be written together with its zone, which then starts at the first
plus or else the first minus. -/
def splitZone : List Word → List Word
  | [day, month, year, time] =>
    let sign := if time.contains '+' then '+' else '-'
    let (clock, zone) := time.span (· ≠ sign)
    if zone.isEmpty || clock.isEmpty then [day, month, year, time, []]
    else [day, month, year, clock, zone]
  | ws => ws

structure Fields where
  day : Word
  month : Nat
  year : Word
  time : Word
  zone : Word

def months : List (List String) := [
  ["jan", "january"], ["feb", "february"], ["mar", "march"], ["apr", "april"], ["may"],
  ["jun", "june"], ["jul", "july"], ["aug", "august"], ["sep", "september"],
  ["oct", "october"], ["nov", "november"], ["dec", "december"]]

def month? (w : Word) : Option Nat :=
  let name := lowered w
  (months.findIdx? (·.contains name)).map (· + 1)

/-- Day and month may stand in either order. -/
def monthAndDay? (day month : Word) : Option (Nat × Word) :=
  match month? month with
  | some m => some (m, day)
  | none => (month? day).map fun m => (m, Case.lower month)

/-- Year and time, or year and zone, may have changed places. -/
def exchange (year time zone : Word) : Word × Word × Word :=
  let (year, time) :=
    if year.contains ':' && year.head? ≠ some ':' then (time, year) else (year, time)
  let year := dropComma year
  match year with
  | c :: _ => if looksLikeDigit c then (year, time, zone) else (zone, time, year)
  | [] => (year, time, zone)

def fields? (text : List Char) : Option Fields :=
  match splitZone (splitDashes (dropWeekday (words text))) with
  | day :: month :: year :: time :: zone :: _ => do
    if day.isEmpty || month.isEmpty || year.isEmpty then none
    else
      let (month, day) ← monthAndDay? day month
      let (year, time, zone) := exchange year time zone
      return { day := dropComma day, month, year, time := dropComma time, zone }
  | _ => none

/-! ## Fields to numbers -/

def clock? (time : Word) : Option (Int × Int × Int) :=
  match (if time.contains ':' then time.splitOn ':' else time.splitOn '.') with
  | [h, m] => do return (← readInteger? h, ← readInteger? m, 0)
  | [h, m, s] => do return (← readInteger? h, ← readInteger? m, ← readInteger? s)
  | _ => none

/-- Years below 100 are those nearest to 2000, from 1969 to 2068. -/
def fullYear (year : Int) : Int :=
  if year < 100 then (if year > 68 then year + 1900 else year + 2000) else year

def zoneNames : List (String × Int) := [
  ("UT", 0), ("UTC", 0), ("GMT", 0), ("Z", 0), ("AST", -400), ("ADT", -300), ("EST", -500),
  ("EDT", -400), ("CST", -600), ("CDT", -500), ("MST", -700), ("MDT", -600), ("PST", -800),
  ("PDT", -700)]

/-- A zone as hours and minutes, `hhmm` with a sign. A zero with a minus says that
the zone is not known. -/
def zoneNumber? (zone : Word) : Option Int :=
  let zone := Case.upper zone
  match zoneNames.lookup (String.ofList zone) with
  | some n => some n
  | none =>
    match readInteger? zone with
    | some 0 => if zone.head? = some '-' then none else some 0
    | n => n

def zoneSeconds (hhmm : Int) : Int :=
  let size := hhmm.natAbs
  let seconds : Int := size / 100 * 3600 + size % 100 * 60
  if hhmm < 0 then -seconds else seconds

/-! ## Numbers to a date -/

def isWord (half : Nat) (n : Int) : Bool :=
  -half ≤ n && n < half

/-- A zone's offset must be a duration of fewer than 10⁹ days. -/
def checkZone (seconds : Int) : Except Overflow Unit :=
  let days := seconds.fdiv 86400
  if !isWord 0x80000000 days then .error .zoneBeyondWord
  else if days.natAbs > 999999999 then .error (.zoneDays days)
  else .ok ()

def checkField (n : Int) : Except Overflow Unit :=
  if isWord 0x80000000 n then .ok ()
  else if !isWord 0x8000000000000000 n then .error .fieldBeyondWord
  else .error (if n < 0 then .fieldBelow else .fieldAbove)

def checkFields : List Int → Except Overflow Unit
  | [] => .ok ()
  | n :: rest => do checkField n; checkFields rest

def civil? : List Int → Option Civil
  | [.ofNat year, .ofNat month, .ofNat day, .ofNat hour, .ofNat minute, .ofNat second] =>
    let c : Civil := { year, month, day, hour, minute, second }
    if c.isValid then some c else none
  | _ => none

/-- Puts numbers and zone together. A zone that is out of range decides before
the width of the other fields is looked at, and their width before their range. -/
def assemble (numbers : List Int) (offset : Option Int) : Except Overflow (Option Zoned) := do
  match offset with
  | some seconds =>
    checkZone seconds
    if seconds.natAbs ≥ 86400 then return none
  | none => pure ()
  checkFields numbers
  return (civil? numbers).map fun civil => { civil, offset }

def read (text : List Char) : Except Overflow (Option Zoned) :=
  match (do
    let fields ← fields? text
    let (hour, minute, second) ← clock? fields.time
    let year ← readInteger? fields.year
    let day ← readInteger? fields.day
    return ([fullYear year, (fields.month : Int), day, hour, minute, second], fields.zone)) with
  | none => .ok none
  | some (numbers, zone) => assemble numbers ((zoneNumber? zone).map zoneSeconds)

def Overflow.message : Overflow → String
  | fieldAbove => "signed integer is greater than maximum"
  | fieldBelow => "signed integer is less than minimum"
  | fieldBeyondWord => "Python int too large to convert to C long"
  | zoneBeyondWord => "Python int too large to convert to C int"
  | zoneDays days => s!"days={days}; must have magnitude <= 999999999"

def Zoned.seconds (z : Zoned) : Int :=
  z.civil.seconds - z.offset.getD 0

end HttpRetry.MailDate

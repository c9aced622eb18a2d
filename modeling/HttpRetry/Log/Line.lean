import HttpRetry.Log.Configuration

/-!
# Lines of the log

A record is printed with its level, the time, the part of the library that made it
and the context. A text line starts with time, level, event and names of loggers in
columns and then has the other fields in the order of their names. What belongs to a
failure follows below the line.
-/

namespace HttpRetry.Log

inductive Line where
  | object (fields : List (String × Value))
  | text (line : String)

/-- Fields by name, of which the later ones of one name count. -/
abbrev Fields := List (String × Value)

namespace Fields

def put (name : String) (v : Value) (fields : Fields) : Fields :=
  (name, v) :: fields.filter (·.1 ≠ name)

def putAll (fields others : Fields) : Fields :=
  others.foldl (fun fields (name, v) => fields.put name v) fields

def get? (fields : Fields) (name : String) : Option Value :=
  List.lookup name fields

def sorted (fields : Fields) : Fields :=
  fields.mergeSort fun a b => CodePoint.precedes a.1 b.1

end Fields

/-- All fields of a record: its own ones win over the context, and level, time and
component over both. An event that is nothing is left out. -/
def Record.fields (context : Fields) (time : String) (r : Record) : Fields :=
  let own := if r.event.isNull then r.details else r.details ++ [("event", r.event)]
  let added := [("level", .text r.level.label), ("timestamp", .text time),
    ("module", .text r.component.name)]
  ((Fields.putAll [] context).putAll own).putAll added

/-! ## Text lines -/

def padTo (width : Nat) (s : String) : String :=
  s ++ String.ofList (List.replicate (width - (CodePoint.ofText s).length) ' ')

def levelWidth : Nat := 9
def eventWidth : Nat := 30

def quotedFor : List Char := [' ', '\t', '=', '\r', '\n', '"', '\'']

def fieldValue (v : Value) : Except Fault String :=
  match v with
  | .text s => .ok (if s.toList.any quotedFor.contains then quoted s else s)
  | v => showValue v

def fieldText (field : String × Value) : Except Fault String := do
  return field.1 ++ "=" ++ (← fieldValue field.2)

def eventColumn (event : Value) : Except Fault (List String) :=
  if event.isNull then .ok [] else do return [padTo eventWidth (← plainText event)]

def loggerNames : List String := ["logger", "logger_name"]

def loggerColumns (fields : Fields) : Except Fault (List String) :=
  (loggerNames.filterMap fields.get?).mapM fun v => do return "[" ++ (← plainText v) ++ "]"

def reservedNames : List String :=
  ["timestamp", "level", "event", "stack", "exception", "exc_info"] ++ loggerNames

def headLine (fields : Fields) (time : String) (r : Record) : Except Fault String := do
  let others := fields.filter fun field => !reservedNames.contains field.1
  let event ← eventColumn r.event
  let loggers ← loggerColumns fields
  let pairs ← (Fields.sorted others).mapM fieldText
  return " ".intercalate
    ([time, "[" ++ padTo levelWidth r.level.label ++ "]"] ++ event ++ loggers ++ pairs)

def belowLine : Value → Except Fault String
  | .null => .ok ""
  | .text s => .ok ("\n" ++ s)
  | v => .error (.notConcatenable v.typeName)

/-- What a text line is followed by: a stack and an exception, with a rule between
them. The exception may be announced without being given. -/
def failureText (fields : Fields) : Except Fault String := do
  let given (name : String) : Value := (fields.get? name).getD .null
  let announced := (given "exc_info").isTrue || !(given "exception").isNull
  let rule :=
    if announced && !(given "stack").isNull then
      "\n\n" ++ String.ofList (List.replicate 79 '=') ++ "\n"
    else ""
  return (← belowLine (given "stack")) ++ rule ++ (← belowLine (given "exception"))

def textLine (context : Fields) (time : String) (r : Record) : Except Fault String := do
  let fields := r.fields context time
  return (← headLine fields time r) ++ (← failureText fields)

/-! ## Printing -/

def cut (s : String) : List String :=
  (s.toList.splitOn '\n').map String.ofList

def objectLine (fields : Fields) : Except Fault Line := do
  let _ ← fields.mapM fun field => showValue field.2
  return .object fields

/-- The names that a log call gives its own arguments on the way, from the outermost. -/
def takenNames : List (String × String) := [
  ("self", "_make_filtering_bound_logger.<locals>.make_method.<locals>.meth"),
  ("method_name", "BoundLoggerBase._proxy_to_logger")]

def Record.checkNames (r : Record) : Except Fault Unit :=
  match takenNames.find? fun (name, _) => (r.details.lookup name).isSome with
  | some (name, callee) => .error (.repeatedArgument callee name)
  | none => .ok ()

/-- Refuses a field that claims to be the record of another logger: nothing has what is
asked of one. -/
def checkForeign (fields : Fields) : Except Fault Unit :=
  let given (name : String) : Value := (fields.get? name).getD .null
  if (given "_record").isNull || (given "_from_structlog").isTrue then .ok ()
  else
    match given "_record" with
    | .sleeper | .unprintable _ => .error (.missingKey (quoted "module"))
    | v => .error (.noAttribute v.typeName "__dict__")

def Record.print (format : Format) (context : Fields) (time : String) (r : Record) :
    Except Fault (List Line) := do
  r.checkNames
  checkForeign (r.fields context time)
  match format with
  | .json => return [← objectLine (r.fields context time)]
  | .console => return (cut (← textLine context time r)).map .text

def Record.drop (r : Record) : Except Fault (List Line) :=
  if (r.details.lookup "self").isSome then .error (.repeatedArgument "_nop" "self") else .ok []

def Record.lines (c : Configuration) (context : Fields) (time : String) (r : Record) :
    Except Fault (List Line) :=
  if c.prints r then r.print c.format context time else r.drop

end HttpRetry.Log

import HttpRetry.Settings.Rules
import HttpRetry.Text.Blank

/-!
# Settings on a command line

A setting is given as its name after two hyphens, and its value follows as the next
argument or after an equals sign. The last value of a setting counts; the status
codes of all values together are one list.
-/

namespace HttpRetry.Settings.Arguments

inductive Problem where
  | missingValue (f : Field)
  | unrecognized (arguments : List String)

def Problem.message : Problem → String
  | missingValue f => s!"argument --{f.name}: expected one argument"
  | unrecognized arguments => "unrecognized arguments: " ++ " ".intercalate arguments

def optionOf? (argument : String) : Option Field :=
  Field.all.find? fun f => "--" ++ f.name = argument

def assignment? (argument : String) : Option (Field × String) :=
  let (name, rest) := argument.toList.span (· ≠ '=')
  match optionOf? (String.ofList name), rest with
  | some f, _ :: value => some (f, String.ofList value)
  | _, _ => none

def isNegativeNumber (cs : List Char) : Bool :=
  match cs with
  | '-' :: rest =>
    let (whole, after) := rest.span Char.isDigit
    match after with
    | [] => !whole.isEmpty
    | '.' :: fraction => !fraction.isEmpty && fraction.all Char.isDigit
    | _ => false
  | _ => false

/-- Whether an argument can be a value: it does not look like an option. -/
def isValue (argument : String) : Bool :=
  let cs := argument.toList
  cs.head? ≠ some '-' || cs.length = 1 || isNegativeNumber cs || cs.contains ' '

structure Parsed where
  values : List (Field × String)
  others : List String

def parse : List String → Except Problem Parsed
  | [] => .ok ⟨[], []⟩
  | argument :: rest =>
    match optionOf? argument, assignment? argument, rest with
    | some f, _, value :: rest =>
      if isValue value then
        (parse rest).map fun parsed => { parsed with values := (f, value) :: parsed.values }
      else .error (.missingValue f)
    | some f, _, [] => .error (.missingValue f)
    | none, some (f, value), rest =>
      (parse rest).map fun parsed => { parsed with values := (f, value) :: parsed.values }
    | none, none, rest =>
      (parse rest).map fun parsed => { parsed with others := argument :: parsed.others }

def foldOption (r : Rules) (argument : String) : String :=
  if argument.toList.head? = some '-' then
    let (name, rest) := argument.toList.span fun c => c ≠ '=' && !isBlank c
    r.fold (String.ofList name) ++ String.ofList rest
  else argument

/-! ## Values -/

def listBody (value : String) : List Char :=
  match trimBlanks value.toList with
  | '[' :: body => if body.getLast? = some ']' then trimBlanks body.dropLast else '[' :: body
  | body => body

/-- An item as it stands in a list: a word that is no number is put into quotes. -/
def item (word : List Char) : List Char :=
  let word := trimBlanks word
  if word.head? = some '"' || ["true", "false", "null"].contains (String.ofList word) ||
      (Double.ofChars? word).isSome then word
  else '"' :: word ++ ['"']

def items (value : String) : List (List Char) :=
  let body := listBody value
  if body.any fun c => c = '[' || c = '\x7b' || c = '"' then [body]
  else ((body.splitOn ',').filter fun word => !(trimBlanks word).isEmpty).map item

def joinLists (values : List String) : String :=
  String.ofList ('[' :: [','].intercalate (values.flatMap items) ++ [']'])

def textOf (parsed : Parsed) (f : Field) : Option String :=
  let given := (parsed.values.filter fun entry => entry.1 == f).map (·.2)
  match f with
  | .retryStatusCodes => if given.isEmpty then none else some (joinLists given)
  | _ => given.getLast?

def ofRule : Value → Except Fault (List String)
  | .list items => items.mapM fun
    | .text argument => .ok argument
    | v => .error (.notArgument v.typeName)
  | .null | .bool _ => .ok []
  | v => .error (.notArguments v.typeName)

def Problem.fault (r : Rules) (problem : Problem) : Fault :=
  if r.exits then .exit else .commandLine problem.message

def read (r : Rules) : Except Fault Parsed := do
  let parsed ← (parse ((← ofRule r.arguments).map (foldOption r))).mapError (Problem.fault r)
  if parsed.others.isEmpty then return parsed
  else .error (Problem.fault r (.unrecognized parsed.others))

end HttpRetry.Settings.Arguments

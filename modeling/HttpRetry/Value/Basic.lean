import HttpRetry.Number.Basic

/-!
# Loosely typed values

Options, settings, secrets and the attributes of a request arrive untyped. A
mapping keeps its keys in order of first insertion.
-/

namespace HttpRetry

inductive Value where
  | null
  | bool (value : Bool)
  | number (value : Number)
  | text (value : String)
  | list (items : List Value)
  | map (entries : List (Value × Value))
  /-- A function that waits for the seconds it is given. -/
  | sleeper
  /-- An object that is none of the above and fails with this message when it is to be shown. -/
  | unprintable (message : String)
deriving Inhabited

namespace Value

def int (i : Int) : Value :=
  number (.int i)

def double (d : Double) : Value :=
  number (.double d)

def typeName : Value → String
  | null => "NoneType"
  | bool _ => "bool"
  | number (.int _) => "int"
  | number (.ratio _) => "Fraction"
  | number (.double _) => "float"
  | text _ => "str"
  | list _ => "list"
  | map _ => "dict"
  | sleeper => "RecordingSleeper"
  | unprintable _ => "Unprintable"

def isNull : Value → Bool
  | null => true
  | _ => false

/-- Zeros, nothing and empty collections count as false. -/
def isTrue : Value → Bool
  | null => false
  | bool b => b
  | number n => !n.same 0
  | text s => !s.isEmpty
  | list items => !items.isEmpty
  | map entries => !entries.isEmpty
  | sleeper | unprintable _ => true

/-- The number a value counts as in comparisons and arithmetic: booleans are 0 and 1. -/
def number? : Value → Option Number
  | bool b => some (.int (if b then 1 else 0))
  | number n => some n
  | _ => none

def int? : Value → Option Int
  | number (.int i) => some i
  | _ => none

def text? : Value → Option String
  | text s => some s
  | _ => none

/-! ## Keys of mappings -/

def isHashable : Value → Bool
  | list _ | map _ => false
  | _ => true

/-- Keys are the same if they are equal numbers, booleans counting as numbers,
or equal texts. -/
def sameKey (a b : Value) : Bool :=
  match a.number?, b.number? with
  | some m, some n => m.same n
  | none, none =>
    match a, b with
    | null, null | sleeper, sleeper => true
    | text s, text t => s = t
    | _, _ => false
  | _, _ => false

end Value

abbrev Entries := List (Value × Value)

namespace Entries

def put (key value : Value) : Entries → Entries
  | [] => [(key, value)]
  | (k, v) :: rest => if k.sameKey key then (k, value) :: rest else (k, v) :: put key value rest

def get? (key : Value) (entries : Entries) : Option Value :=
  (entries.find? (·.1.sameKey key)).map (·.2)

def erase (key : Value) (entries : Entries) : Entries :=
  entries.filter fun entry => !entry.1.sameKey key

def getText? (name : String) (entries : Entries) : Option Value :=
  get? (.text name) entries

end Entries

end HttpRetry

import HttpRetry.Text.CaseTable

/-!
# Upper and lower case

Full case mapping: a letter may map to several characters, and a capital sigma
that ends a word has a lower case of its own.
-/

namespace HttpRetry.Case

def Run.image? (run : Run) (c : Char) : Option Char :=
  let code := c.toNat
  if run.first ≤ code ∧ code ≤ run.last ∧ (code - run.first) % run.stride = 0 then
    some (Char.ofNat (code + run.delta).toNat)
  else none

/-- The image of a character: its sequence, else its run's, else itself. -/
def mapChar (sequences : List (Nat × List Nat)) (runs : List Run) (c : Char) : List Char :=
  match sequences.lookup c.toNat with
  | some image => image.map Char.ofNat
  | none => [(runs.findSome? (·.image? c)).getD c]

def upper (cs : List Char) : List Char :=
  cs.flatMap (mapChar upperSequences upperRuns)

def nextToCased (cs : List Char) : Bool :=
  match cs.dropWhile ignorableRanges.has with
  | c :: _ => casedRanges.has c
  | [] => false

/-- Lower case of a text that follows `before`, the characters passed, latest first. -/
def lowerAfter (before : List Char) : List Char → List Char
  | [] => []
  | c :: rest =>
    (if c = 'Σ' then
      if nextToCased before && !nextToCased rest then ['ς'] else ['σ']
    else mapChar lowerSequences lowerRuns c) ++ lowerAfter (c :: before) rest

def lower (cs : List Char) : List Char :=
  lowerAfter [] cs

end HttpRetry.Case

namespace HttpRetry

def upperCase (s : String) : String :=
  String.ofList (Case.upper s.toList)

def lowerCase (s : String) : String :=
  String.ofList (Case.lower s.toList)

end HttpRetry

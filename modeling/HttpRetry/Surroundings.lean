import HttpRetry.Text.Utf8

/-!
# Surroundings

What the library finds around it: variables by name, and files by the path they
have from where it runs.
-/

namespace HttpRetry

inductive FileNode where
  | regular (content : Bytes)
  | directory
deriving DecidableEq

structure Surroundings where
  environment : List (String × String)
  /-- By the names of the steps that lead to them, with a slash between two. -/
  files : List (String × FileNode)

namespace Surroundings

def readVariable (name : String) (s : Surroundings) : Option String :=
  s.environment.lookup name

def readFile (path : String) (s : Surroundings) : Option FileNode :=
  s.files.lookup path

def rebind {α : Type} (name : String) (image : Option α) (known : List (String × α)) :
    List (String × α) :=
  let others := known.filter (·.1 ≠ name)
  match image with
  | some a => (name, a) :: others
  | none => others

def setVariable (name : String) (value : Option String) (s : Surroundings) : Surroundings :=
  { s with environment := rebind name value s.environment }

def setFile (path : String) (node : Option FileNode) (s : Surroundings) : Surroundings :=
  { s with files := rebind path node s.files }

/-! ## Lookup after a change -/

theorem lookup_filter_ne {α : Type} {name other : String} (h : other ≠ name)
    (known : List (String × α)) :
    (known.filter (·.1 ≠ name)).lookup other = known.lookup other := by
  induction known with
  | nil => rfl
  | cons entry rest ih =>
    by_cases hk : entry.1 = name
    · have : (other == entry.1) = false := by simpa [hk] using h
      rw [List.filter_cons_of_neg (by simpa using hk), ih, List.lookup_cons, this]
    · rw [List.filter_cons_of_pos (by simpa using hk), List.lookup_cons, List.lookup_cons, ih]

theorem lookup_filter_self {α : Type} (name : String) (known : List (String × α)) :
    (known.filter (·.1 ≠ name)).lookup name = none := by
  induction known with
  | nil => rfl
  | cons entry rest ih =>
    by_cases hk : entry.1 = name
    · rw [List.filter_cons_of_neg (by simpa using hk), ih]
    · have : (name == entry.1) = false := by simpa using fun e => hk e.symm
      rw [List.filter_cons_of_pos (by simpa using hk), List.lookup_cons, this, ih]

theorem lookup_rebind_self {α : Type} (name : String) (image : Option α)
    (known : List (String × α)) : (rebind name image known).lookup name = image := by
  cases image with
  | none => exact lookup_filter_self name known
  | some a => simp [rebind]

theorem lookup_rebind_of_ne {α : Type} {name other : String} (h : other ≠ name)
    (image : Option α) (known : List (String × α)) :
    (rebind name image known).lookup other = known.lookup other := by
  cases image with
  | none => exact lookup_filter_ne h known
  | some a =>
    have : (other == name) = false := by simpa using h
    rw [rebind, List.lookup_cons, this, lookup_filter_ne h]

end Surroundings

end HttpRetry

import HttpRetry.Log.Line
import HttpRetry.Rehearsal.Scenario

/-!
# Rehearsing the log

The records of a step are told apart from what else happened and are printed as a
configuration says.
-/

namespace HttpRetry.Rehearsal

/-- The lines printed for what happened, under a fixed time, up to the first record
that cannot be printed, and why that one cannot. -/
def printed (c : Log.Configuration) (time : String) :
    List Happening → List Log.Line × Option Fault
  | [] => ([], none)
  | .logged r context :: rest =>
    match r.lines c context time with
    | .error fault => ([], some fault)
    | .ok lines =>
      let (more, fault) := printed c time rest
      (lines ++ more, fault)
  | _ :: rest => printed c time rest

def isLogged : Happening → Bool
  | .logged .. => true
  | _ => false

def unlogged (happenings : List Happening) : List Happening :=
  happenings.filter (!isLogged ·)

end HttpRetry.Rehearsal

import HttpRetry.Clock
import HttpRetry.Credentials.Managed
import HttpRetry.Request.Handling

/-!
# The world of a rehearsal

A rehearsal runs the library in a world where everything is set out beforehand:
the clock moves only by waiting and by hand, the session, the backend and the
credentials answer from lists, and all that is done to them is recorded.
-/

namespace HttpRetry.Rehearsal

/-- The next item of a list, of which the last one stays and repeats. -/
def takeTurn {α : Type} : List α → Option (α × List α)
  | [] => none
  | [a] => some (a, [a])
  | a :: rest => some (a, rest)

inductive Outcome where
  | response (response : Response)
  | failure (kind message : String)

inductive BackendTurn where
  | answer (value : Value)
  | failure (kind message : String)

inductive Holder where
  | none
  | fixed (token : Value)
  /-- Tokens that count the refreshes; `failures` lists how the next ones fail, if they do. -/
  | counting (refreshes : Nat) (failures : List (Option String))
  | managed (managed : Credentials.Managed) (hasBackend : Bool)

inductive Outside where
  | noted (notice : Log.Notice)
  | refreshed (failure : Option String)
  | backendAsked (name : String)
  | handlerAsked (name : Value) (question : Question)

structure World (η : Type) where
  clock : Clock
  today : Moment
  surroundings : Surroundings
  outcomes : List Outcome
  backend : List (String × List BackendTurn)
  holder : Holder
  handlers : List η

namespace World

variable {η : Type}

def pause (seconds : Double) : Act (World η) Outside Unit := do
  let clock ← .ofExcept (ofRange ((← .read World.clock).advance (.double seconds)))
  .change fun w => { w with clock }

/-! ## The environment -/

def setVariable (name : String) (v : Value) (s : Surroundings) : Except Fault Surroundings := do
  checkHalves CodePoint.isByte name
  match v with
  | .null => return s.setVariable (Utf8.throughBytes name) none
  | .text text =>
    checkHalves CodePoint.isByte text
    if name.contains '\x00' || text.contains '\x00' then .error .nulByte
    if name.contains '=' then .error .badVariableName
    if name.isEmpty then .error .emptyVariableName
    return s.setVariable (Utf8.throughBytes name) (some (Utf8.throughBytes text))
  | v => .error (.notText v.typeName)

/-! ## The session -/

def deliver : Act (World η) Outside Response := do
  match takeTurn (← .read World.outcomes) with
  | none => .fail .noOutcome
  | some (outcome, outcomes) =>
    .change fun w => { w with outcomes }
    match outcome with
    | .response response => return response
    | .failure kind message => .fail (.ofKind kind message)

/-! ## Credentials -/

def askBackend (name : String) : Act (World η) Outside Value := do
  .emit (.backendAsked name)
  match takeTurn (((← .read World.backend).lookup name).getD []) with
  | none => return .null
  | some (turn, turns) =>
    .change fun w => { w with backend := Surroundings.rebind name (some turns) w.backend }
    match turn with
    | .answer v => return v
    | .failure kind message => .fail (.ofKind kind message)

def vault (hasBackend : Bool) : Secrets.Vault (World η) Outside :=
  { surroundings := World.surroundings
    backend := if hasBackend then some askBackend else none
    tell := .noted }

def byManaged {α : Type} (managed : Credentials.Managed) (hasBackend : Bool)
    (act : Secrets.Vault (World η) Outside → Act (Credentials.Managed × World η) Outside α) :
    Act (World η) Outside α :=
  (act (vault hasBackend)).within (fun w => (managed, w))
    (fun after _ => { after.2 with holder := .managed after.1 hasBackend }) id

def byManager {α : Type} (missing : String)
    (act : Secrets.Vault (World η) Outside → Act (Secrets.Manager × World η) Outside α) :
    Act (World η) Outside α := do
  match ← .read World.holder with
  | .managed managed hasBackend =>
    byManaged managed hasBackend fun vault => Credentials.Managed.byManager (act vault)
  | _ => .fail (.noAttribute "NoneType" missing)

def countedRefresh (refreshes : Nat) (failures : List (Option String)) :
    Act (World η) Outside Unit := do
  let failure := failures.head?.join
  .emit (.refreshed failure)
  match failure with
  | some kind =>
    .change fun w => { w with holder := .counting refreshes failures.tail }
    .fail (.ofKind kind "refresh failed")
  | none => .change fun w => { w with holder := .counting (refreshes + 1) failures.tail }

def token : Act (World η) Outside Value := do
  match ← .read World.holder with
  | .none => .fail (.noAttribute "NoneType" "get_access_token")
  | .fixed token => (Credentials.fixed .noted token).token
  | .counting refreshes _ => return .text s!"token-{refreshes}"
  | .managed managed hasBackend => byManaged managed hasBackend Credentials.Managed.token

def refresh : Act (World η) Outside Unit := do
  match ← .read World.holder with
  | .none => .fail (.noAttribute "NoneType" "refresh")
  | .fixed token => (Credentials.fixed .noted token).refresh
  | .counting refreshes failures => countedRefresh refreshes failures
  | .managed managed hasBackend => byManaged managed hasBackend Credentials.Managed.refresh

def hasCredentials (w : World η) : Bool :=
  match w.holder with
  | .none => false
  | _ => true

end World

end HttpRetry.Rehearsal

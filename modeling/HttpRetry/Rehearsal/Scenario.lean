import HttpRetry.Client.Order
import HttpRetry.Rehearsal.Setup
import HttpRetry.Rehearsal.Waits
import HttpRetry.Request.Execution

/-!
# Rehearsing requests

A script builds requests, executes them, changes them and the world between
executions, and looks at what has become of them.
-/

namespace HttpRetry.Rehearsal

inductive Step where
  | build (name : String) (way : Client.Way) (url : Value) (named : List (String × Value))
  | inspect (name : String)
  | execute (name : String)
  | ask (name : String) (question : Question)
  | install (name : String) (installation : Installation)
  | prepare (name : String)
  /-- A step of the generator of the request's status handler, else of its failure handler. -/
  | waits (name : String) (ofStatus : Bool) (step : Waits.Step)
  | queue (outcomes : List Outcome)
  | advance (amount : Number)
  | setToday (today : Moment)
  | setVariables (changes : List (String × Value))
  | setFile (path : String) (node : Option FileNode)
  | get (secret : Value)
  | invalidate (secret : Value)
  | token
  | refresh
  | audit (event : Value) (details : List (String × Value))

/-! ## Views -/

inductive HandlerView where
  | absent
  | plain (typeName : String)
  | withWaits (typeName : String) (waits : Backoff.Snapshot)
  | chain (typeName : String) (first second : HandlerView)

structure RequestView where
  request : Request
  timeout : Option (Option Double × Option Double)
  onResponse : HandlerView
  onFailure : HandlerView

inductive Answer where
  | nothing
  | value (value : Value)
  | status (code : Value)
  | request (view : RequestView)
  | waits (answer : Waits.Answer) (after : Backoff.Snapshot)

namespace Scenario

def snapshot (s : Scenario) (generator : Nat) : Except Fault Backoff.Snapshot :=
  match s.generators[generator]? with
  | some backoff => backoff.snapshot s.world.clock.read
  | none => .error (.missingKey (toString generator))

def view (s : Scenario) : Handler → Except Fault HandlerView
  | .absent => .ok .absent
  | .improper v => .ok (if v.isNull then .absent else .plain v.typeName)
  | handler@(.status _ generator) | handler@(.failure generator _) => do
    return .withWaits handler.typeName (← s.snapshot generator)
  | handler@(.chain first second) => do
    return .chain handler.typeName (← s.view first) (← s.view second)
  | handler => .ok (.plain handler.typeName)

def find (name : String) (s : Scenario) : Except Fault Request :=
  match s.requests.lookup name with
  | some r => .ok r
  | none => .error (.missingKey (quoted name))

def inspect (name : String) : Act Scenario Happening Answer := do
  let s ← .read id
  .ofExcept do
    let request ← s.find name
    let timeout ← request.timeout
    let onResponse ← s.view request.onResponse
    let onFailure ← s.view request.onFailure
    return .request { request, timeout, onResponse, onFailure }

/-! ## Requests on their stage -/

def stage (s : Scenario) (request : Request) : Stage ScriptedWorld :=
  { request, generators := s.generators, outer := s.world }

def putRequest (name : String) (request : Request) (s : Scenario) : Scenario :=
  { s with requests := Surroundings.rebind name (some request) s.requests }

def settle (name : String) (stage : Stage ScriptedWorld) (s : Scenario) : Scenario :=
  putRequest name stage.request { s with generators := stage.generators, world := stage.outer }

def onStage {ε α : Type} (name : String) (tell : ε → List Happening)
    (act : Act (Stage ScriptedWorld) ε α) : Act Scenario Happening α := do
  let request ← .ofExcept ((← .read id).find name)
  recorded tell (act.within (fun s => s.stage request) (settle name) id)

def attemptLimit : Nat := 100000

def execute (name : String) : Act Scenario Happening Answer := do
  let request ← .ofExcept ((← .read id).find name)
  match ← onStage name (Happening.ofAttempts request.context) (Request.execute host attemptLimit) with
  | some response => return .status response.status
  | none => return .nothing

def ask (name : String) (question : Question) : Act Scenario Happening Answer :=
  onStage name (Happening.ofHandling []) do
    let handler := (← .read Stage.request).handlerFor question
    return .value (← Handling.ask host handler question)

def runInitializer : Option Client.Initializer →
    Act (Stage ScriptedWorld) (Handling.Event Outside) Unit
  | some initializer => Client.prepare host initializer
  | none => return

def requestId (number : Nat) : String :=
  String.ofList (hexDigits 8 number)

def build (name : String) (way : Client.Way) (url : Value) (named : List (String × Value)) :
    Act Scenario Happening Answer := do
  let order ← .ofExcept (Client.order way url named)
  let s ← .read id
  let request ← .ofExcept (Client.make (requestId (s.issued + 1)) order)
  .change fun s => { s with issued := s.issued + 1 }
  let initializer := if way.isStandalone then none else s.initializer
  let request ← recorded (Happening.ofHandling [])
    ((do runInitializer initializer; .read Stage.request : Act (Stage ScriptedWorld) _ _).within
      (fun s => s.stage request)
      (fun stage s => { s with generators := stage.generators, world := stage.outer }) id)
  .change (putRequest name request)
  inspect name

def prepare (name : String) : Act Scenario Happening Answer := do
  let initializer ← .read Scenario.initializer
  onStage name (Happening.ofHandling []) (runInitializer initializer)
  return .nothing

/-! ## Generators -/

def generatorOf : Handler → Except Fault Nat
  | .status _ generator | .failure generator _ => .ok generator
  | handler => .error (.noAttribute handler.typeName "backoff")

/-- The handler of a request that has the generator; for statuses a chain's second. -/
def waitingHandler (ofStatus : Bool) (r : Request) : Handler :=
  if ofStatus then
    match r.onResponse with
    | .chain _ second => second
    | handler => handler
  else r.onFailure

def waits (name : String) (ofStatus : Bool) (step : Waits.Step) : Act Scenario Happening Answer := do
  let s ← .read id
  let request ← .ofExcept (s.find name)
  let generator ← .ofExcept (generatorOf (waitingHandler ofStatus request))
  match s.generators[generator]? with
  | none => return .nothing
  | some backoff =>
    let (result, after) := Waits.observe { clock := s.world.clock, backoff } step
    .change fun s =>
      { s with
        generators := s.generators.set generator after.backoff
        world := { s.world with clock := after.clock } }
    let (answer, snapshot) ← .ofExcept result
    return .waits answer snapshot

/-! ## Steps -/

def onWorld {α : Type} (act : Act ScriptedWorld Outside α) : Act Scenario Happening α :=
  act.within Scenario.world (fun world s => { s with world }) (Happening.ofOutside [])

def changeWorld (f : ScriptedWorld → ScriptedWorld) : Act Scenario Happening Answer := do
  .change fun s => { s with world := f s.world }
  return .nothing

def setVariables : List (String × Value) → Act Scenario Happening Answer
  | [] => return .nothing
  | (name, v) :: rest => do
    let w ← .read Scenario.world
    let surroundings ← .ofExcept (World.setVariable name v w.surroundings)
    .change fun s => { s with world := { s.world with surroundings } }
    setVariables rest

def audit (event : Value) (details : List (String × Value)) : Act Scenario Happening Answer := do
  if (details.lookup "event").isSome then .fail (.repeatedArgument "audit_log" "event")
  .emit (.logged ⟨.audit, .info, event, details⟩ [])
  return .nothing

def perform : Step → Act Scenario Happening Answer
  | .build name way url named => build name way url named
  | .inspect name => inspect name
  | .execute name => execute name
  | .ask name question => ask name question
  | .install name installation => do
    onStage name (Happening.ofHandling []) (Rehearsal.install installation)
    return .nothing
  | .prepare name => prepare name
  | .waits name ofStatus step => waits name ofStatus step
  | .queue outcomes => changeWorld fun w => { w with outcomes }
  | .advance amount => do
    let clock ← .ofExcept (ofRange ((← .read fun s => s.world.clock).advance amount))
    changeWorld fun w => { w with clock }
  | .setToday today => changeWorld fun w => { w with today }
  | .setVariables changes => setVariables changes
  | .setFile path node =>
    changeWorld fun w =>
      { w with surroundings := w.surroundings.setFile (Path.fileName path) node }
  | .get secret => return .value (← onWorld (World.byManager "get" fun vault => vault.get secret))
  | .invalidate secret => do
    onWorld (World.byManager "invalidate" fun vault => vault.invalidate secret)
    return .nothing
  | .token => return .value (← onWorld World.token)
  | .refresh => do
    onWorld World.refresh
    return .nothing
  | .audit event details => audit event details

end Scenario

end HttpRetry.Rehearsal

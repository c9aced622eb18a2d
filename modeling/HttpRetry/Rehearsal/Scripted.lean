import HttpRetry.Client.Initializer
import HttpRetry.Rehearsal.World

/-!
# Scripted handlers

Handlers as a script describes them, how they are made, and how a handler that
follows a script of its own answers: it may first change the request it is asked
about, then fail or answer.
-/

namespace HttpRetry.Rehearsal

inductive PolicySpec where
  | none
  /-- The policy of clients that configure none. -/
  | standard
  | options (options : Value)

/-- The policy of a specification; options that do not say otherwise wait by the
rehearsal's clock. -/
def PolicySpec.build : PolicySpec → Except Fault (Option Policy)
  | none => .ok Option.none
  | standard => .ok (some Policy.clientDefault)
  | options (.map entries) =>
    let waiter := (Entries.getText? "sleeper" entries).getD .sleeper
    (Policy.build (.map (Entries.put (.text "sleeper") waiter entries))).map some
  | options v => (Policy.build v).map some

mutual

inductive HandlerSpec where
  | absent
  | scripted (name : Value) (turns : List Turn)
  | status (policy : PolicySpec) (waits : Option (List (String × Value)))
  | failure (waits : List (String × Value))
  | chain (first second : HandlerSpec)
  | bearer

inductive Turn where
  | answer (value : Value)
  | act (installs : List Installation) (failure : Option String) (answer : Value)

inductive Installation where
  | onResponse (handler : HandlerSpec)
  | onFailure (handler : HandlerSpec)
  | attribute (name : String) (value : Value)

end

instance : Inhabited HandlerSpec := ⟨.absent⟩
instance : Inhabited Turn := ⟨.answer .null⟩
instance : Inhabited Installation := ⟨.onResponse .absent⟩

structure ScriptedHandler where
  name : Value
  turns : List Turn

/-! ## Making handlers -/

structure Bench where
  generators : List Backoff
  handlers : List ScriptedHandler
  hasCredentials : Bool

namespace Bench

def addGenerator (backoff : Backoff) (b : Bench) : Nat × Bench :=
  (b.generators.length, { b with generators := b.generators ++ [backoff] })

def generatorOf (waits : List (String × Value)) : Except Fault Backoff := do
  Backoff.ofRequest (← Schedule.Request.ofNamed waits)

def statusGenerator (policy : Option Policy) (waits : Option (List (String × Value))) :
    Except Fault Backoff :=
  match waits, policy with
  | some waits, _ => generatorOf waits
  | none, some policy => .ok policy.newBackoff
  | none, none => .error (.noAttribute "NoneType" "new_backoff")

def make : HandlerSpec → Bench → Except Fault (Handler × Bench)
  | .absent, b => .ok (.absent, b)
  | .scripted name turns, b =>
    .ok (.external b.handlers.length, { b with handlers := b.handlers ++ [⟨name, turns⟩] })
  | .status policy waits, b => do
    let policy ← policy.build
    let (number, b) := b.addGenerator (← statusGenerator policy waits)
    return (.status policy number, b)
  | .failure waits, b => do
    let (number, b) := b.addGenerator (← generatorOf waits)
    return (.failure number .sleeper, b)
  | .chain first second, b => do
    let (first, b) ← make first b
    let (second, b) ← make second b
    return (.chain first second, b)
  | .bearer, b => do
    Client.checkCredentials b.hasCredentials
    return (.bearer, b)

end Bench

/-! ## Changing requests -/

abbrev ScriptedWorld := World ScriptedHandler

def handlerOfValue (v : Value) : Handler :=
  if v.isNull then .absent else .improper v

def assign (name : String) (v : Value) (r : Request) : Except Fault Request :=
  match name with
  | "request_id" => .ok { r with id := v }
  | "method" => .ok { r with method := v }
  | "url" => .ok { r with url := v }
  | "headers" => .ok { r with headers := v }
  | "json" => .ok { r with json := v }
  | "params" => .ok { r with params := v }
  | "session" => .ok { r with session := .improper v }
  | "_owns_session" => .ok { r with ownsSession := v }
  | "execute" => .ok (r.replace .execution v)
  | "_execute_attempts" => .ok (r.replace .attempts v)
  | "_send" => .ok (r.replace .sending v)
  | "connect_timeout_millis" => .ok { r with connectTimeout := v }
  | "read_timeout_millis" => .ok { r with readTimeout := v }
  | "number_of_retries" => .ok { r with retries := v }
  | "unsuccessful_response_handler" => .ok { r with onResponse := handlerOfValue v }
  | "io_exception_handler" => .ok { r with onFailure := handlerOfValue v }
  | "timeout" => .error (.noSetter "HttpRequest" "timeout")
  | "__class__" => .error (.notClass v.typeName)
  | "__dict__" =>
    match v with
    | .map _ => .ok r
    | v => .error (.notAttributes v.typeName)
  | "__weakref__" => .error (.notWritable "HttpRequest" "__weakref__")
  | _ => .ok r

def bench (stage : Stage ScriptedWorld) : Bench :=
  { generators := stage.generators, handlers := stage.outer.handlers
    hasCredentials := stage.outer.hasCredentials }

variable {ε : Type}

def makeHandler (spec : HandlerSpec) : Act (Stage ScriptedWorld) ε Handler := do
  let (handler, b) ← .ofExcept (Bench.make spec (bench (← .read id)))
  .change fun stage =>
    { stage with
      generators := b.generators, outer := { stage.outer with handlers := b.handlers } }
  return handler

def install : Installation → Act (Stage ScriptedWorld) ε Unit
  | .onResponse spec => do
    let handler ← makeHandler spec
    .change fun stage => { stage with request := { stage.request with onResponse := handler } }
  | .onFailure spec => do
    let handler ← makeHandler spec
    .change fun stage => { stage with request := { stage.request with onFailure := handler } }
  | .attribute name v => do
    let request ← .ofExcept (assign name v (← .read Stage.request))
    .change fun stage => { stage with request }

/-! ## Asking scripted handlers -/

def installAll : List Installation → Act (Stage ScriptedWorld) ε Unit
  | [] => return
  | first :: rest => do
    install first
    installAll rest

def follow : Turn → Act (Stage ScriptedWorld) ε Value
  | .answer v => return v
  | .act installs failure answer => do
    installAll installs
    match failure with
    | some kind => .fail (.ofKind kind "stub")
    | none => return answer

def consult (index : Nat) (question : Question) : Act (Stage ScriptedWorld) Outside Value := do
  match (← .read fun stage => stage.outer.handlers)[index]? with
  | none => return .null
  | some handler =>
    .emit (.handlerAsked handler.name question)
    match takeTurn handler.turns with
    | none => return .null
    | some (turn, turns) =>
      .change fun stage =>
        let handlers := stage.outer.handlers.set index { handler with turns }
        { stage with outer := { stage.outer with handlers } }
      follow turn

def host : Host ScriptedWorld Outside :=
  { millis := fun w => w.clock.read
    pause := World.pause
    today := World.today
    credentials := { token := World.token, refresh := World.refresh }
    send := fun _ => World.deliver
    consult }

end HttpRetry.Rehearsal

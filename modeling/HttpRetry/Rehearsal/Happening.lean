import HttpRetry.Rehearsal.World
import HttpRetry.Request.Attempts

/-!
# Records of a rehearsal

What is recorded of a step: the library's log with the context it was written in,
and everything that was done to the world.
-/

namespace HttpRetry.Rehearsal

abbrev Context := List (String × Value)

inductive Happening where
  | logged (record : Log.Record) (context : Context)
  | slept (seconds : Double)
  | sent (message : Message)
  | closed (status : Value)
  | sessionClosed
  | refreshed (failure : Option String)
  | backendAsked (name : String)
  | handlerAsked (name : Value) (question : Question)

namespace Happening

def ofOutside (context : Context) : Outside → Happening
  | .noted notice => logged notice.record context
  | .refreshed failure => refreshed failure
  | .backendAsked name => backendAsked name
  | .handlerAsked name question => handlerAsked name question

def ofHandling (context : Context) : Handling.Event Outside → List Happening
  | .slept seconds => [slept seconds]
  | .drawn .. | .refreshing | .stamped _ => []
  | .noted notice => [logged notice.record context]
  | .outside event => [ofOutside context event]

def ofAttempts (context : Context) : Attempts.Event (Handling.Event Outside) → List Happening
  | .sent message => [sent message]
  | .received _ | .asked _ => []
  | .answering _ event => ofHandling context event
  | .noted notice => [logged notice.record context]
  | .closed response => [closed response.status]
  | .sessionClosed => [sessionClosed]
  | .during event => ofHandling context event

end Happening

def recorded {σ ε α : Type} (tell : ε → List Happening) (act : Act σ ε α) : Act σ Happening α :=
  fun s =>
    let reply := act s
    ⟨reply.result, reply.state, reply.events.flatMap tell⟩

end HttpRetry.Rehearsal

import HttpRetry.Request.Attempts
import HttpRetry.Request.Handling

/-!
# Executions

Executions of a request with its own handlers, in given surroundings.
-/

namespace HttpRetry.Request

variable {σ ε : Type}

def handlerFor (r : Request) : Question → Handler
  | .failure _ => r.onFailure
  | .response .. => r.onResponse

def exchange (host : Host σ ε) : Exchange (Stage σ) (Handling.Event ε) where
  message stage := stage.request.message
  send message := Handling.aside (host.send message)
  handler question stage :=
    let handler := stage.request.handlerFor question
    if handler.isAbsent then none else some (Handling.ask host handler question)
  closeFault stage :=
    match stage.request.session with
    | .session => none
    | .improper v => some (.noAttribute v.typeName "close")
  ownsSession stage := stage.request.ownsSession.isTrue

def execute (host : Host σ ε) (limit : Nat) :
    Act (Stage σ) (Attempts.Event (Handling.Event ε)) (Option Response) := do
  .ofExcept ((← .read Stage.request).checkPart .execution)
  Attempts.execute (exchange host) limit fun stage => stage.request.budget

end HttpRetry.Request

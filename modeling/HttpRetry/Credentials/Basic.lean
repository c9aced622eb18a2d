import HttpRetry.Act
import HttpRetry.Log.Notice

/-!
# Credentials

Credentials give a token and can be asked to get a new one. Either may fail.
-/

namespace HttpRetry

structure Credentials (σ ε : Type) where
  token : Act σ ε Value
  refresh : Act σ ε Unit

namespace Credentials

def acceptToken (token : Value) : Except Fault Value :=
  if token.isTrue then .ok token else .error (.config .emptyToken)

def fixed {σ ε : Type} (tell : Log.Notice → ε) (token : Value) : Credentials σ ε :=
  { token := return token
    refresh := .emit (tell .staticRefreshSkipped) }

end Credentials

end HttpRetry

import HttpRetry.Credentials.Basic
import HttpRetry.Secrets.Manager

/-!
# Managed credentials

The token is a secret that a manager looks up by name. It is kept until it is
refreshed, and a refresh that fails keeps it.
-/

namespace HttpRetry.Credentials

open Secrets (Manager Vault)

structure Managed where
  manager : Manager
  /-- The name under which the manager has the token. -/
  name : Value
  /-- The token that was looked up last. -/
  kept : Option Value

namespace Managed

variable {σ ε : Type}

def start (manager : Manager) (name : Value) : Managed :=
  { manager, name, kept := none }

def byManager {α : Type} (act : Act (Manager × σ) ε α) : Act (Managed × σ) ε α :=
  act.within (fun state => (state.1.manager, state.2))
    (fun after state => ({ state.1 with manager := after.1 }, after.2)) id

def lookUp (vault : Vault σ ε) : Act (Managed × σ) ε Value := do
  let name ← .read (·.1.name)
  let token ← byManager (vault.get name)
  if !token.isTrue then .fail (.noCredential (← .ofExcept (plainText name)))
  return token

def keep (token : Value) : Act (Managed × σ) ε Unit :=
  .change fun (m, outer) => ({ m with kept := some token }, outer)

def token (vault : Vault σ ε) : Act (Managed × σ) ε Value := do
  match ← .read (·.1.kept) with
  | some token => return token
  | none =>
    let token ← lookUp vault
    keep token
    return token

def refresh (vault : Vault σ ε) : Act (Managed × σ) ε Unit := do
  let name ← .read (·.1.name)
  byManager (vault.invalidate name)
  let token ← lookUp vault
  keep token
  .emit (vault.tell (.credentialsRefreshed name))

def credentials (vault : Vault σ ε) : Credentials (Managed × σ) ε :=
  { token := token vault, refresh := refresh vault }

end Managed

end HttpRetry.Credentials

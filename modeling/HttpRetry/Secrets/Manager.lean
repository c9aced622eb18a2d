import HttpRetry.Act
import HttpRetry.Log.Notice
import HttpRetry.Secrets.File

/-!
# Managers of secrets

A manager looks a secret up in the environment, then in its cache, then in a
backend. The cache holds what the secrets file held when it was read last, what
earlier contents of it held, and what the backend has answered. Invalidating a
secret forgets it and reads the file again.
-/

namespace HttpRetry.Secrets

open Log (Notice)

structure Manager where
  /-- The secrets file, if one is named. -/
  path : Option String
  /-- What seals the file; a value that counts as false means that nothing does. -/
  key : Value
  cache : Entries

namespace Manager

def pathVariable : String := "SECRETS_FILE"
def keyVariable : String := "SECRETS_KEY"

/-- A given value, or where it counts as false a variable's. -/
def orVariable (s : Surroundings) (name : String) (given : Value) : Value :=
  if given.isTrue then given
  else
    match s.readVariable name with
    | some text => .text text
    | none => .null

def pathOf (v : Value) : Except Fault (Option String) :=
  if !v.isTrue then .ok none
  else
    match v with
    | .text path => .ok (some (Path.normal path))
    | v => .error (.notPath v.typeName)

def unread (s : Surroundings) (file key : Value) : Except Fault Manager := do
  let path ← pathOf (orVariable s pathVariable file)
  return { path, key := orVariable s keyVariable key, cache := [] }

/-! ## The file -/

def merge (cache : Entries) (pairs : List (Value × Value)) : Entries :=
  pairs.foldl (fun cache (name, secret) => cache.put name secret) cache

/-- Adds a value's pairs to the cache. Those before a defective one are added before
the defect is reported. -/
def absorb (path : String) (v : Value) : Act Manager Notice Unit := do
  let pairing := v.pairing
  .change fun m => { m with cache := merge m.cache pairing.pairs }
  match pairing.fault with
  | some fault => .fail fault
  | none =>
    let m ← .read id
    .emit (.secretsLoaded path m.key.isTrue)

def reload (s : Surroundings) : Act Manager Notice Unit := do
  let m ← .read id
  match m.path with
  | none => return
  | some path =>
    match ← .ofExcept (Path.nodeAt s path) with
    | none => return
    | some node =>
      let v ← .ofExcept (readNode path m.key node)
      absorb path v

def create (s : Surroundings) (file key : Value) : Except Fault (Manager × List Notice) := do
  let reply := reload s (← unread s file key)
  let () ← reply.result
  return (reply.state, reply.events)

/-- Forgets a secret and reads the file again. A name that cannot be a key is refused
unless nothing is cached. -/
def invalidate (s : Surroundings) (name : Value) : Act Manager Notice Unit := do
  let m ← .read id
  if !m.cache.isEmpty && !name.isHashable then .fail (.unhashable name.typeName)
  .change fun m => { m with cache := m.cache.erase name }
  reload s
  .emit (.secretInvalidated name)

/-! ## Looking up -/

def find? (s : Surroundings) (name : String) (m : Manager) : Option (Value × Log.SecretSource) :=
  match s.readVariable (Utf8.throughBytes name), m.cache.getText? name with
  | some text, _ => some (.text text, .environment)
  | none, some secret => some (secret, .cache)
  | none, none => none

def remember (name : String) (secret : Value) (m : Manager) : Manager :=
  { m with cache := m.cache.put (.text name) secret }

end Manager

structure Vault (σ ε : Type) where
  surroundings : σ → Surroundings
  /-- The backend, asked by name, if there is one. -/
  backend : Option (String → Act σ ε Value)
  /-- How a notice is told. -/
  tell : Notice → ε

namespace Vault

variable {σ ε : Type}

def aside {μ α : Type} (act : Act σ ε α) : Act (μ × σ) ε α :=
  act.within Prod.snd (fun outer s => (s.1, outer)) id

def byManager {α : Type} (vault : Vault σ ε) (act : Surroundings → Act Manager Notice α) :
    Act (Manager × σ) ε α := do
  let s ← .read fun state => vault.surroundings state.2
  (act s).within Prod.fst (fun m state => (m, state.2)) vault.tell

def invalidate (vault : Vault σ ε) (name : Value) : Act (Manager × σ) ε Unit :=
  vault.byManager fun s => Manager.invalidate s name

/-- The backend's answer, which is remembered unless it counts as false. A failing
backend has nothing. -/
def askBackend (vault : Vault σ ε) (ask : String → Act σ ε Value) (name : String) :
    Act (Manager × σ) ε Value := do
  match ← (aside (ask name)).attempt with
  | .error fault =>
    .emit (vault.tell (.backendFailed name fault.message))
    return .null
  | .ok secret =>
    if secret.isTrue then
      .change fun (m, outer) => (m.remember name secret, outer)
      .emit (vault.tell (.secretRetrieved name .backend))
    return secret

def getNamed (vault : Vault σ ε) (name : String) : Act (Manager × σ) ε Value := do
  match ← .read fun (m, outer) => Manager.find? (vault.surroundings outer) name m with
  | some (secret, source) =>
    .emit (vault.tell (.secretRetrieved name source))
    return secret
  | none =>
    match vault.backend with
    | some ask => vault.askBackend ask name
    | none => return .null

def variableName (name : Value) : Except Fault String :=
  match name with
  | .text name => do
    checkHalves CodePoint.isByte name
    return name
  | v => .error (.notText v.typeName)

def get (vault : Vault σ ε) (name : Value) : Act (Manager × σ) ε Value := do
  vault.getNamed (← .ofExcept (variableName name))

end Vault

end HttpRetry.Secrets

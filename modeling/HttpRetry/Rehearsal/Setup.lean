import HttpRetry.Rehearsal.Happening
import HttpRetry.Rehearsal.Scripted

/-!
# Setting a rehearsal up

Credentials, the policy if the initializer is to use one, and the initializer are
made in this order; the first that is refused ends the rehearsal before it begins.
-/

namespace HttpRetry.Rehearsal

inductive CredentialsSpec where
  | none
  | fixed (token : Value)
  | counting (failures : List (Option String))
  | managed (file key : Value) (backend : Option (List (String × List BackendTurn))) (name : Value)

inductive InitializerSpec where
  | none
  | client (connectTimeout readTimeout : Value)
  | settings (overrides : List (String × Value))
  | credentials
  | retries (handler : HandlerSpec)

def InitializerSpec.usesPolicy : InitializerSpec → Bool
  | client .. | retries _ => true
  | none | settings _ | credentials => false

structure Setup where
  today : Moment
  surroundings : Surroundings
  outcomes : List Outcome
  credentials : CredentialsSpec
  /-- The policy, if one is given. -/
  policy : Option PolicySpec
  initializer : InitializerSpec

structure Scenario where
  requests : List (String × Request)
  generators : List Backoff
  /-- How many requests have been numbered. -/
  issued : Nat
  initializer : Option Client.Initializer
  world : ScriptedWorld

namespace Setup

def makeHolder (s : Surroundings) : CredentialsSpec →
    Except Fault (Holder × List (String × List BackendTurn) × List Log.Notice)
  | .none => .ok (.none, [], [])
  | .fixed token => do return (.fixed (← Credentials.acceptToken token), [], [])
  | .counting failures => .ok (.counting 0 failures, [], [])
  | .managed file key backend name => do
    let (manager, notices) ← Secrets.Manager.create s file key
    return (.managed (.start manager name) backend.isSome, backend.getD [], notices)

structure Site where
  surroundings : Surroundings
  policy : Option PolicySpec
  built : Option Policy
  bench : Bench

def makeInitializer (site : Site) : InitializerSpec →
    Except Fault (Option Client.Initializer × Bench × List Log.Notice)
  | .none => .ok (none, site.bench, [])
  | .client connect read => do
    let policy := if site.policy.isSome then site.built else some Policy.clientDefault
    let made ← Client.acceptClient site.bench.hasCredentials policy connect read
    return (some made, site.bench, [])
  | .settings overrides => do
    let settings ← Settings.load overrides site.surroundings
    let made ← Client.ofSettings site.bench.hasCredentials settings
    return (some made, site.bench, Policy.settingsNotices settings)
  | .credentials => do
    return (some (← Client.acceptCredentials site.bench.hasCredentials), site.bench, [])
  | .retries spec => do
    let (handler, bench) ← site.bench.make spec
    return (some (← Client.acceptRetries handler site.built), bench, [])

def start (setup : Setup) : Except Fault (Scenario × List Happening) := do
  let (holder, backend, reported) ← makeHolder setup.surroundings setup.credentials
  let built ← if setup.initializer.usesPolicy then (setup.policy.getD .none).build else .ok none
  let world : ScriptedWorld :=
    { clock := .seconds (Double.zero false), today := setup.today
      surroundings := setup.surroundings, outcomes := setup.outcomes, backend, holder
      handlers := [] }
  let site : Site :=
    { surroundings := setup.surroundings, policy := setup.policy, built
      bench := { generators := [], handlers := [], hasCredentials := world.hasCredentials } }
  let (made, bench, alsoReported) ← makeInitializer site setup.initializer
  let scenario : Scenario :=
    { requests := [], generators := bench.generators, issued := 0, initializer := made
      world := { world with handlers := bench.handlers } }
  return (scenario, (reported ++ alsoReported).map fun notice => .logged notice.record [])

end Setup

end HttpRetry.Rehearsal

import HttpRetry.Client.Initializer
import HttpRetry.Proofs.Rehearsal.Obliging
import HttpRetry.Proofs.Request.Waits

/-!
# The life of a request

A request is prepared once and executed any number of times, while everything else
goes its own way. What its generators have handed out is known at every point of its
life, and with it the order and number of all its waits.
-/

namespace HttpRetry

def Handler.generators : Handler → List Nat
  | .status _ generator | .failure generator _ => [generator]
  | .chain first second => first.generators ++ second.generators
  | _ => []

namespace Request

open Attempts (ioRetries)
open Handling (Equipped)

variable {σ ε : Type}

structure Undisturbed (s t : Stage σ) : Prop where
  onFailure : t.request.onFailure = s.request.onFailure
  onResponse : t.request.onResponse = s.request.onResponse
  retries : t.request.retries = s.request.retries
  generators : ∀ i ∈ s.request.onFailure.generators ++ s.request.onResponse.generators,
    t.generators[i]? = s.generators[i]?

/-- What happens to a request from a stage on, with the events of its executions. A limit
that is too small ends an execution in its middle, after that number of attempts. -/
inductive Life (host : Host σ ε) (s : Stage σ) : List (Happening ε) → Stage σ → Prop
  | start : Life host s [] s
  | execute {trace t} (limit : Nat) (before : Life host s trace t) :
      Life host s (trace ++ (execute host limit t).events) (execute host limit t).state
  | meanwhile {trace t u} (before : Life host s trace t) (undisturbed : Undisturbed t u) :
      Life host s trace u

inductive RetriesBy (policy : Option Policy) : Client.Initializer → Prop
  | client (connectTimeout readTimeout : Value) :
      RetriesBy policy (.client policy connectTimeout readTimeout)
  | adapter : RetriesBy policy (.retries .bearer policy)

variable {host : Host σ ε} {p : Policy} {f g : Nat} {failures statuses : List Double}
  {s t : Stage σ}

theorem equipped_of_undisturbed (h : Equipped p f g failures statuses s)
    (undisturbed : Undisturbed s t) : Equipped p f g failures statuses t := by
  obtain ⟨b, present, serves⟩ := h.forFailures
  obtain ⟨c, present', serves'⟩ := h.forStatuses
  refine ⟨?_, ?_, h.apart, ⟨b, ?_, serves⟩, c, ?_, serves'⟩
  · rw [undisturbed.onFailure, h.onFailure]
  · rw [undisturbed.onResponse, h.onResponse]
  · rw [undisturbed.generators f (by simp [h.onFailure, Handler.generators]), present]
  · rw [undisturbed.generators g (by simp [h.onResponse, Handler.generators]), present']

/-! ## Preparation -/

theorem installRetries_apply (p : Policy) (s : Stage σ) :
    (Client.installRetries .bearer (some p) : Act (Stage σ) (Handling.Event ε) Unit) s =
      ⟨.ok (),
        { s with
          request :=
            { s.request with
              retries := .int p.maxRetries
              onResponse := .chain .bearer (.status (some p) s.generators.length)
              onFailure := .failure (s.generators.length + 1) p.sleeper }
          generators := s.generators ++ [p.newBackoff] ++ [p.newBackoff] },
        []⟩ := by
  simp [Client.installRetries, Client.addGenerator, Client.update, bind, Act.andThen]

theorem equipped_installRetries (p : Policy) (s : Stage σ) :
    Equipped p (s.generators.length + 1) s.generators.length [] []
      ((Client.installRetries .bearer (some p) :
        Act (Stage σ) (Handling.Event ε) Unit) s).state := by
  rw [installRetries_apply]
  have serves := Policy.serves_newBackoff (p := p)
  refine ⟨rfl, rfl, by omega, ⟨p.newBackoff, ?_, serves⟩, p.newBackoff, ?_, serves⟩
  · simp
  · simp

/-- Handlers are installed last, whatever the credentials and time limits are. -/
theorem exists_prepare_state {policy : Option Policy} {init : Client.Initializer}
    (by_policy : RetriesBy policy init) (prepared : (Client.prepare host init s).result = .ok ()) :
    ∃ t, (Client.prepare host init s).state =
      ((Client.installRetries .bearer policy : Act (Stage σ) (Handling.Event ε) Unit) t).state := by
  cases by_policy with
  | adapter => exact ⟨s, rfl⟩
  | client connectTimeout readTimeout =>
    cases stamped : Client.installCredentials host s with
    | mk result t events =>
      cases result with
      | error fault => simp [Client.prepare, bind, Act.andThen, stamped] at prepared
      | ok =>
        refine ⟨{ t with request := { t.request with connectTimeout, readTimeout } }, ?_⟩
        cases policy <;>
          simp [Client.prepare, Client.installRetries, Client.addGenerator, Client.update,
            Handling.note, bind, Act.andThen, stamped]

/-! ## Waits of a life -/

theorem life_equipped (h : Equipped p f g [] [] s) {trace : List (Happening ε)}
    (life : Life host s trace t) :
    Equipped p f g (failureWaits trace) (statusWaits trace) t ∧
      ioRetries trace ≤ (failureWaits trace).length := by
  induction life with
  | start => exact ⟨h, Nat.le_refl 0⟩
  | execute limit before ih =>
    obtain ⟨equipped, retried⟩ := ih
    obtain ⟨equipped', retried'⟩ := execute_equipped host limit equipped
    refine ⟨by simpa using equipped', ?_⟩
    simp only [Attempts.ioRetries_append, failureWaits_append, List.length_append]
    exact Nat.add_le_add retried retried'
  | meanwhile before undisturbed ih => exact ⟨equipped_of_undisturbed ih.1 undisturbed, ih.2⟩

/-- All waits that failures to connect have led to are the first of the policy's, and so,
on their own, are those that responses have led to. Neither sequence is advanced by a retry
with new credentials or after a delay that the response asks for. -/
theorem waits_follow {init : Client.Initializer} (by_policy : RetriesBy (some p) init)
    (prepared : (Client.prepare host init s).result = .ok ()) {trace : List (Happening ε)}
    (life : Life host (Client.prepare host init s).state trace t) :
    p.Follows (failureWaits trace) ∧ p.Follows (statusWaits trace) ∧
      ioRetries trace ≤ p.maxRetries ∧
      ∀ outer r supportsRetry,
        let reply := Handling.ask host t.request.onResponse (.response r supportsRetry)
          { t with outer }
        (∃ e ∈ reply.events, e.isRenewal = true) ∨ RetryAfter.isGiven r = true →
          reply.state.generators = t.generators := by
  obtain ⟨u, state_eq⟩ := exists_prepare_state by_policy prepared
  rw [state_eq] at life
  obtain ⟨equipped, retried⟩ := life_equipped (equipped_installRetries p u) life
  obtain ⟨_, -, serves⟩ := equipped.forFailures
  obtain ⟨_, -, serves'⟩ := equipped.forStatuses
  refine ⟨serves.follows, serves'.follows, retried.trans serves.follows.length_le, ?_⟩
  intro outer r supportsRetry reply
  have aside : Equipped p _ _ (failureWaits trace) (statusWaits trace) { t with outer } :=
    equipped.of_restamped ⟨rfl, t.request.headers, rfl⟩
  exact (Handling.ask_response host aside r supportsRetry).still

/-- Two executions that retry eight times: their statuses lead to four waits alone. -/
theorem waits_follow_twice :
    let first := execute Rehearsal.untimedHost 9 Rehearsal.preparedStage
    let second := execute Rehearsal.untimedHost 9 first.state
    let trace := first.events ++ second.events
    (Attempts.retries trace).length = 8 ∧ (failureWaits trace).length = 1 ∧
      (statusWaits trace).length = 4 ∧ Policy.clientDefault.Follows (failureWaits trace) ∧
      Policy.clientDefault.Follows (statusWaits trace) := by
  intro first second trace
  have prepared : (Client.prepare Rehearsal.untimedHost Rehearsal.clientInitializer
      Rehearsal.clientStage).result = .ok () := rfl
  obtain ⟨failures, statuses, -⟩ :=
    waits_follow (.client (.int 0) (.int 0)) prepared (.execute 9 (.execute 9 .start))
  exact ⟨by decide +kernel, by decide +kernel, by decide +kernel, failures, statuses⟩

end Request

end HttpRetry

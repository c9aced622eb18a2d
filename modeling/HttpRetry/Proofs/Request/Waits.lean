import HttpRetry.Proofs.Handling.Installed
import HttpRetry.Proofs.Request.Passage
import HttpRetry.Request.Execution

/-!
# The waits of an execution

Waits of an execution by what caused them: a failure to connect, or a response that
asks for no delay of its own. An execution of a request with the handlers of a policy
takes each kind from its own generator.
-/

namespace HttpRetry.Request

open Attempts (attempt attempts ioRetries sending)
open Handling (Equipped)

variable {σ ε : Type}

abbrev Happening (ε : Type) : Type :=
  Attempts.Event (Handling.Event ε)

def failureWait? : Happening ε → Option Double
  | .answering (.failure _) event => event.wait?
  | _ => none

def statusWait? : Happening ε → Option Double
  | .answering (.response r _) event => if RetryAfter.isGiven r then none else event.wait?
  | _ => none

def failureWaits (trace : List (Happening ε)) : List Double :=
  trace.filterMap failureWait?

def statusWaits (trace : List (Happening ε)) : List Double :=
  trace.filterMap statusWait?

section
variable (a b : List (Happening ε)) (events : List (Handling.Event ε)) (supportsRetry : Bool)
  (r : Response)

@[simp] theorem failureWaits_append : failureWaits (a ++ b) = failureWaits a ++ failureWaits b :=
  List.filterMap_append ..

@[simp] theorem statusWaits_append : statusWaits (a ++ b) = statusWaits a ++ statusWaits b :=
  List.filterMap_append ..

@[simp] theorem failureWaits_asked (q : Question) : failureWaits (.asked q :: a) = failureWaits a :=
  rfl

@[simp] theorem statusWaits_asked (q : Question) : statusWaits (.asked q :: a) = statusWaits a :=
  rfl

@[simp] theorem failureWaits_failure :
    failureWaits (events.map (.answering (.failure supportsRetry))) = Handling.waits events := by
  rw [failureWaits, List.filterMap_map]
  rfl

@[simp] theorem failureWaits_response :
    failureWaits (events.map (.answering (.response r supportsRetry))) = [] := by
  simp [failureWaits, List.filterMap_map, Function.comp_def, failureWait?]

@[simp] theorem statusWaits_failure :
    statusWaits (events.map (.answering (.failure supportsRetry))) = [] := by
  simp [statusWaits, List.filterMap_map, Function.comp_def, statusWait?]

@[simp] theorem statusWaits_response :
    statusWaits (events.map (.answering (.response r supportsRetry))) =
      if RetryAfter.isGiven r then [] else Handling.waits events := by
  rw [statusWaits, List.filterMap_map]
  cases given : RetryAfter.isGiven r <;>
    simp [Function.comp_def, statusWait?, given, Handling.waits]

theorem filterMap_remarks {α : Type} {view : Happening ε → Option α}
    (noted : ∀ notice, view (.noted notice) = none) (closed : ∀ r, view (.closed r) = none)
    {remarks : List (Happening ε)} (h : ∀ e ∈ remarks, e.IsRemark) :
    remarks.filterMap view = [] := by
  refine List.filterMap_eq_nil_iff.mpr fun e he => ?_
  have remark := h e he
  cases e with
  | noted notice => exact noted notice
  | closed r => exact closed r
  | _ => exact remark.elim

end

/-! ## Questions -/

section
variable (host : Host σ ε)

theorem ask_exchange {q : Question} {s : Stage σ}
    (installed : (s.request.handlerFor q).isAbsent = false) :
    Attempts.ask (exchange host) q s =
      let answer := Handling.ask host (s.request.handlerFor q) q s
      ⟨answer.result.map Value.isTrue, answer.state,
        .asked q :: answer.events.map (.answering q)⟩ :=
  Attempts.ask_apply_of_some (by simp [exchange, installed])

variable {p : Policy} {f g : Nat} {failures statuses : List Double} {s : Stage σ}

theorem ask_equipped (h : Equipped p f g failures statuses s) (q : Question) :
    let reply := Attempts.ask (exchange host) q s
    Equipped p f g (failures ++ failureWaits reply.events) (statuses ++ statusWaits reply.events)
      reply.state := by
  cases q with
  | failure supportsRetry =>
    rw [ask_exchange host (by simp [handlerFor, h.onFailure, Handler.isAbsent])]
    obtain ⟨-, equipped, -, -⟩ := Handling.ask_failure host h supportsRetry
    simpa [handlerFor] using equipped
  | response r supportsRetry =>
    rw [ask_exchange host (by simp [handlerFor, h.onResponse, Handler.isAbsent])]
    have responded := Handling.ask_response host h r supportsRetry
    simpa [handlerFor] using responded.equipped

theorem made_of_granted (h : Equipped p f g failures statuses s) {supportsRetry : Bool}
    (granted : (Attempts.ask (exchange host) (.failure supportsRetry) s).result = .ok true) :
    failureWaits (Attempts.ask (exchange host) (.failure supportsRetry) s).events ≠ [] := by
  rw [ask_exchange host (by simp [handlerFor, h.onFailure, Handler.isAbsent])] at granted ⊢
  obtain ⟨-, -, -, made⟩ := Handling.ask_failure host h supportsRetry
  simp only [handlerFor] at granted ⊢
  obtain ⟨v, answer, truth⟩ := exists_of_map_ok granted
  simpa using made v answer truth

/-! ## Attempts -/

theorem equipped_send (h : Equipped p f g failures statuses s) (m : Message) :
    Equipped p f g failures statuses ((exchange host).send m s).state :=
  h.of_restamped (Handling.keeps_aside (host.send m) s).1

@[simp] theorem failureWaits_sending (m : Message) (s : Stage σ) :
    failureWaits (sending (exchange host) m s) = [] :=
  Attempts.filterMap_sending _ _ m s fun _ => rfl

@[simp] theorem statusWaits_sending (m : Message) (s : Stage σ) :
    statusWaits (sending (exchange host) m s) = [] :=
  Attempts.filterMap_sending _ _ m s fun _ => rfl

/-- An attempt takes its waits from the generators, and a retry after a failure has one. -/
theorem attempt_equipped (h : Equipped p f g failures statuses s) (remaining : Number) :
    let reply := attempt (exchange host) remaining s
    Equipped p f g (failures ++ failureWaits reply.events) (statuses ++ statusWaits reply.events)
        reply.state ∧
      ioRetries reply.events ≤ (failureWaits reply.events).length := by
  intro reply
  cases Attempts.attempt_passed (exchange host) remaining s with
  | unsent message reply_eq =>
    simp only [reply, reply_eq]
    exact ⟨by simpa [failureWaits, statusWaits] using h, Nat.zero_le _⟩
  | unasked m message ends state_eq events_eq =>
    rw [state_eq, events_eq]
    exact ⟨by simpa using equipped_send host h m, by simp⟩
  | asked m q remarks ask_eq message supports state_eq events_eq remark granted continues retried =>
    have sent := equipped_send host h m
    have equipped := ask_equipped host sent q
    have remarkFailures : failureWaits remarks = [] :=
      filterMap_remarks (fun _ => rfl) (fun _ => rfl) remark
    have remarkStatuses : statusWaits remarks = [] :=
      filterMap_remarks (fun _ => rfl) (fun _ => rfl) remark
    subst ask_eq
    rw [state_eq, events_eq]
    constructor
    · simpa [remarkFailures, remarkStatuses] using equipped
    · rcases Nat.eq_zero_or_pos (ioRetries remarks) with zero | pos
      · simp [zero]
      · obtain ⟨yes, supportsRetry, rfl⟩ := retried.2 pos
        have made := List.length_pos_iff.mpr (made_of_granted host sent yes)
        simp only [failureWaits_append, failureWaits_sending, remarkFailures, List.nil_append,
          List.append_nil, Attempts.ioRetries_append, Attempts.ioRetries_sending,
          Attempts.ioRetries_ask, Nat.zero_add]
        exact retried.1.trans made

theorem attempts_equipped (limit : Nat) (h : Equipped p f g failures statuses s)
    (remaining : Number) :
    let reply := attempts (exchange host) limit remaining s
    Equipped p f g (failures ++ failureWaits reply.events) (statuses ++ statusWaits reply.events)
        reply.state ∧
      ioRetries reply.events ≤ (failureWaits reply.events).length := by
  induction limit generalizing s failures statuses remaining with
  | zero =>
    exact ⟨by simpa [attempts, failureWaits, statusWaits] using h, Nat.zero_le _⟩
  | succ limit ih =>
    obtain ⟨equipped, retried⟩ := attempt_equipped host h remaining
    by_cases again : (attempt (exchange host) remaining s).result = .ok none
    · obtain ⟨equipped', retried'⟩ := ih equipped remaining.pred
      rw [Attempts.attempts_succ_of_retry again]
      refine ⟨by simpa using equipped', ?_⟩
      simp only [Attempts.ioRetries_append, failureWaits_append, List.length_append]
      exact Nat.add_le_add retried retried'
    · rw [Attempts.attempts_succ_of_end again]
      exact ⟨equipped, retried⟩

/-! ## Executions -/

theorem execute_of_whole {s : Stage σ} (whole : s.request.checkPart .execution = .ok ())
    (limit : Nat) : execute host limit s =
      Attempts.execute (exchange host) limit (fun stage => stage.request.budget) s := by
  simp [execute, bind, Act.andThen, whole]

theorem execute_of_replaced {s : Stage σ} {fault : Fault}
    (replaced : s.request.checkPart .execution = .error fault) (limit : Nat) :
    execute host limit s = ⟨.error fault, s, []⟩ := by
  simp [execute, bind, Act.andThen, replaced]

theorem execute_executed (limit : Nat) (s : Stage σ) :
    Attempts.Executed (exchange host) limit (fun stage => stage.request.budget) s
      (execute host limit s) := by
  cases checked : s.request.checkPart .execution with
  | error fault =>
    rw [execute_of_replaced host checked]
    exact .unbegun ⟨fault, rfl⟩ rfl (.inl rfl)
  | ok =>
    rw [execute_of_whole host checked]
    exact Attempts.execute_executed (exchange host) limit _ s

theorem execute_equipped (limit : Nat) (h : Equipped p f g failures statuses s) :
    let reply := execute host limit s
    Equipped p f g (failures ++ failureWaits reply.events) (statuses ++ statusWaits reply.events)
        reply.state ∧
      ioRetries reply.events ≤ (failureWaits reply.events).length := by
  intro reply
  cases execute_executed host limit s with
  | unbegun result state_eq events_eq =>
    have none : failureWaits reply.events = [] ∧ statusWaits reply.events = [] ∧
        ioRetries reply.events = 0 := by
      rcases events_eq with events_eq | events_eq <;>
        rw [show reply.events = _ from events_eq] <;> exact ⟨rfl, rfl, rfl⟩
    rw [show reply.state = s from state_eq, none.1, none.2.1, none.2.2]
    exact ⟨by simpa using h, Nat.zero_le _⟩
  | @ended n close budget_eq result state_eq events_eq close_eq =>
    obtain ⟨equipped, retried⟩ := attempts_equipped host limit h n
    have none : failureWaits close = [] ∧ statusWaits close = [] ∧ ioRetries close = 0 := by
      rcases close_eq with rfl | rfl <;> exact ⟨rfl, rfl, rfl⟩
    rw [show reply.state = _ from state_eq, show reply.events = _ from events_eq]
    exact ⟨by simpa [none.1, none.2.1] using equipped, by simpa [none.1, none.2.2] using retried⟩

end

end HttpRetry.Request

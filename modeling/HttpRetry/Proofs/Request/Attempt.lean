import HttpRetry.Request.Attempts

/-!
# One attempt

`attempt_attempted` lists everything that one attempt can come to, with what was
done on the way. What is said of executions is derived from this list.
-/

namespace HttpRetry.Attempts

variable {σ φ : Type}

/-! ## Sending and asking -/

def sending (x : Exchange σ φ) (m : Message) (s : σ) : List (Event φ) :=
  .sent m :: ((x.send m s).events.map .during ++ [.received (x.send m s).result])

theorem send_apply_of_error {x : Exchange σ φ} {s : σ} {fault : Fault}
    (h : x.message s = .error fault) : send x s = ⟨.error fault, s, []⟩ := by
  simp [send, bind, Act.andThen, h]

theorem send_apply_of_ok {x : Exchange σ φ} {s : σ} {m : Message} (h : x.message s = .ok m) :
    send x s = ⟨.ok (x.send m s).result, (x.send m s).state, sending x m s⟩ := by
  simp [send, sending, bind, Act.andThen, h]

theorem ask_apply_of_none {x : Exchange σ φ} {q : Question} {s : σ} (h : x.handler q s = none) :
    ask x q s = ⟨.ok false, s, []⟩ := by
  simp [ask, bind, Act.andThen, h]

theorem ask_apply_of_some {x : Exchange σ φ} {q : Question} {s : σ} {answer : Act σ φ Value}
    (h : x.handler q s = some answer) :
    ask x q s = ⟨(answer s).result.map Value.isTrue, (answer s).state,
      .asked q :: (answer s).events.map (.answering q)⟩ := by
  cases h' : (answer s).result <;> simp [ask, bind, Act.andThen, h, h', Except.map]

theorem asked_mem_ask {x : Exchange σ φ} {q : Question} {s : σ} (h : (ask x q s).events ≠ []) :
    .asked q ∈ (ask x q s).events := by
  cases installed : x.handler q s with
  | none =>
    rw [ask_apply_of_none installed] at h
    exact absurd rfl h
  | some answer =>
    rw [ask_apply_of_some installed]
    exact List.mem_cons_self

theorem eq_of_mem_ask {x : Exchange σ φ} {q : Question} {s : σ} {e : Event φ}
    (h : e ∈ (ask x q s).events) : e = .asked q ∨ ∃ event, e = .answering q event := by
  cases installed : x.handler q s with
  | none =>
    rw [ask_apply_of_none installed] at h
    exact absurd h List.not_mem_nil
  | some answer =>
    rw [ask_apply_of_some installed, List.mem_cons, List.mem_map] at h
    rcases h with rfl | ⟨event, -, rfl⟩
    · exact .inl rfl
    · exact .inr ⟨event, rfl⟩

/-! ## What an attempt comes to -/

inductive Attempted (x : Exchange σ φ) (remaining : Number) (s : σ) :
    Reply σ (Event φ) (Option Response) → Prop
  /-- There is no message to be sent. -/
  | unsent {fault} (message : x.message s = .error fault) :
      Attempted x remaining s ⟨.error fault, s, []⟩
  /-- A failure that is not one to connect ends the execution. -/
  | broken {m fault} (message : x.message s = .ok m)
      (outcome : (x.send m s).result = .error fault)
      (foreign : fault.isConnectionFailure = false) :
      Attempted x remaining s ⟨.error fault, (x.send m s).state, sending x m s⟩
  | failureUnanswered {m fault reply problem} (message : x.message s = .ok m)
      (outcome : (x.send m s).result = .error fault)
      (failure : fault.isConnectionFailure = true)
      (answer : ask x (.failure (Number.lt 0 remaining)) (x.send m s).state = reply)
      (fails : reply.result = .error problem) :
      Attempted x remaining s ⟨.error problem, reply.state, sending x m s ++ reply.events⟩
  | failureFinal {m fault reply} (message : x.message s = .ok m)
      (outcome : (x.send m s).result = .error fault)
      (failure : fault.isConnectionFailure = true)
      (answer : ask x (.failure (Number.lt 0 remaining)) (x.send m s).state = reply)
      (refused : reply.result = .ok false) :
      Attempted x remaining s ⟨.error fault, reply.state,
        sending x m s ++ reply.events ++ [.noted (.requestFailed fault.message)]⟩
  | failureRetried {m fault reply} (message : x.message s = .ok m)
      (outcome : (x.send m s).result = .error fault)
      (failure : fault.isConnectionFailure = true)
      (answer : ask x (.failure (Number.lt 0 remaining)) (x.send m s).state = reply)
      (granted : reply.result = .ok true) :
      Attempted x remaining s ⟨.ok none, reply.state,
        sending x m s ++ reply.events ++ [.noted (.requestRetried .ioError remaining.pred)]⟩
  /-- The status of the response is no number. -/
  | illegible {m response problem} (message : x.message s = .ok m)
      (outcome : (x.send m s).result = .ok response)
      (status : isSuccess response.status = .error problem) :
      Attempted x remaining s ⟨.error problem, (x.send m s).state, sending x m s⟩
  | succeeded {m response} (message : x.message s = .ok m)
      (outcome : (x.send m s).result = .ok response)
      (status : isSuccess response.status = .ok true) :
      Attempted x remaining s ⟨.ok (some response), (x.send m s).state, sending x m s⟩
  | responseUnanswered {m response reply problem} (message : x.message s = .ok m)
      (outcome : (x.send m s).result = .ok response)
      (status : isSuccess response.status = .ok false)
      (answer : ask x (.response response (Number.lt 0 remaining)) (x.send m s).state = reply)
      (fails : reply.result = .error problem) :
      Attempted x remaining s ⟨.error problem, reply.state, sending x m s ++ reply.events⟩
  | responseFinal {m response reply answered} (message : x.message s = .ok m)
      (outcome : (x.send m s).result = .ok response)
      (status : isSuccess response.status = .ok false)
      (answer : ask x (.response response (Number.lt 0 remaining)) (x.send m s).state = reply)
      (answered_eq : reply.result = .ok answered)
      (refused : (answered && Number.lt 0 remaining) = false) :
      Attempted x remaining s ⟨.error (match response.failure .null with | .ok e | .error e => e),
        reply.state,
        sending x m s ++ reply.events ++ [.noted (.requestUnsuccessful response.status)]⟩
  /-- A retry is granted, but the response cannot be closed. -/
  | unclosed {m response reply} (message : x.message s = .ok m)
      (outcome : (x.send m s).result = .ok response)
      (status : isSuccess response.status = .ok false)
      (answer : ask x (.response response (Number.lt 0 remaining)) (x.send m s).state = reply)
      (granted : reply.result = .ok true) (budget : Number.lt 0 remaining = true)
      (bare : response.bare = true) :
      Attempted x remaining s ⟨.error (.noAttribute "Bare" "close"), reply.state,
        sending x m s ++ reply.events ++
          [.noted (.requestRetried (.status response.status) remaining.pred)]⟩
  | responseRetried {m response reply} (message : x.message s = .ok m)
      (outcome : (x.send m s).result = .ok response)
      (status : isSuccess response.status = .ok false)
      (answer : ask x (.response response (Number.lt 0 remaining)) (x.send m s).state = reply)
      (granted : reply.result = .ok true) (budget : Number.lt 0 remaining = true)
      (closable : response.bare = false) :
      Attempted x remaining s ⟨.ok none, reply.state,
        sending x m s ++ reply.events ++
          [.noted (.requestRetried (.status response.status) remaining.pred), .closed response]⟩

theorem attempt_of_failure {x : Exchange σ φ} {remaining : Number} {s : σ} {m : Message}
    {fault : Fault} (message : x.message s = .ok m) (outcome : (x.send m s).result = .error fault) :
    attempt x remaining s =
      let reply := afterFailure x remaining fault (x.send m s).state
      ⟨reply.result.map fun _ => none, reply.state, sending x m s ++ reply.events⟩ := by
  cases h : afterFailure x remaining fault (x.send m s).state with
  | mk result t events =>
    cases result <;>
      simp [attempt, bind, Act.andThen, send_apply_of_ok message, outcome, h, Except.map]

theorem attempt_of_response {x : Exchange σ φ} {remaining : Number} {s : σ} {m : Message}
    {response : Response} (message : x.message s = .ok m)
    (outcome : (x.send m s).result = .ok response) :
    attempt x remaining s =
      let reply := afterResponse x remaining response (x.send m s).state
      ⟨reply.result, reply.state, sending x m s ++ reply.events⟩ := by
  simp [attempt, bind, Act.andThen, send_apply_of_ok message, outcome]

theorem afterFailure_attempted {x : Exchange σ φ} {remaining : Number} {s : σ} {m : Message}
    {fault : Fault} (message : x.message s = .ok m) (outcome : (x.send m s).result = .error fault) :
    Attempted x remaining s (attempt x remaining s) := by
  rw [attempt_of_failure message outcome]
  cases kind : fault.isConnectionFailure with
  | false => simpa [afterFailure, bind, Act.andThen, kind, Except.map] using
      Attempted.broken message outcome kind
  | true =>
    cases answer : ask x (.failure (Number.lt 0 remaining)) (x.send m s).state with
    | mk result t events =>
      cases result with
      | error problem => simpa [afterFailure, bind, Act.andThen, kind, answer, Except.map] using
          Attempted.failureUnanswered message outcome kind answer rfl
      | ok granted =>
        cases granted with
        | false => simpa [afterFailure, note, bind, Act.andThen, kind, answer, Except.map] using
            Attempted.failureFinal message outcome kind answer rfl
        | true => simpa [afterFailure, note, bind, Act.andThen, kind, answer, Except.map] using
            Attempted.failureRetried message outcome kind answer rfl

theorem afterResponse_attempted {x : Exchange σ φ} {remaining : Number} {s : σ} {m : Message}
    {response : Response} (message : x.message s = .ok m)
    (outcome : (x.send m s).result = .ok response) :
    Attempted x remaining s (attempt x remaining s) := by
  rw [attempt_of_response message outcome]
  cases status : isSuccess response.status with
  | error problem => simpa [afterResponse, bind, Act.andThen, status] using
      Attempted.illegible message outcome status
  | ok success =>
    cases success with
    | true => simpa [afterResponse, bind, Act.andThen, status] using
        Attempted.succeeded message outcome status
    | false =>
      cases answer : ask x (.response response (Number.lt 0 remaining)) (x.send m s).state with
      | mk result t events =>
        cases result with
        | error problem => simpa [afterResponse, bind, Act.andThen, status, answer] using
            Attempted.responseUnanswered message outcome status answer rfl
        | ok answered =>
          by_cases granted : answered = true ∧ Number.lt 0 remaining = true
          · have h := congrArg (Except.ok (ε := Fault)) granted.1
            cases bare : response.bare with
            | true =>
              simpa [afterResponse, note, close, bind, Act.andThen, status, answer, if_pos granted,
                bare] using Attempted.unclosed message outcome status answer h granted.2 bare
            | false =>
              simpa [afterResponse, note, close, bind, Act.andThen, status, answer, if_pos granted,
                bare] using Attempted.responseRetried message outcome status answer h granted.2 bare
          · have h := Attempted.responseFinal message outcome status answer rfl
              (by simpa using granted)
            cases failure : response.failure .null <;>
              simpa [afterResponse, note, bind, Act.andThen, status, answer, if_neg granted, failure]
                using h

theorem attempt_attempted (x : Exchange σ φ) (remaining : Number) (s : σ) :
    Attempted x remaining s (attempt x remaining s) := by
  cases message : x.message s with
  | error fault =>
    have h : attempt x remaining s = ⟨.error fault, s, []⟩ := by
      simp [attempt, bind, Act.andThen, send_apply_of_error message]
    exact h ▸ .unsent message
  | ok m =>
    cases outcome : (x.send m s).result with
    | error fault => exact afterFailure_attempted message outcome
    | ok response => exact afterResponse_attempted message outcome

/-! ## Attempts in a row -/

theorem attempts_succ_of_end {x : Exchange σ φ} {remaining : Number} {s : σ}
    (h : (attempt x remaining s).result ≠ .ok none) (limit : Nat) :
    attempts x (limit + 1) remaining s = attempt x remaining s := by
  cases reply : attempt x remaining s with
  | mk result t events =>
    cases result with
    | error fault => simp [attempts, bind, Act.andThen, reply]
    | ok concluded =>
      cases concluded with
      | some response => simp [attempts, bind, Act.andThen, reply]
      | none => simp [reply] at h

theorem attempts_succ_of_retry {x : Exchange σ φ} {remaining : Number} {s : σ}
    (h : (attempt x remaining s).result = .ok none) (limit : Nat) :
    attempts x (limit + 1) remaining s =
      let rest := attempts x limit remaining.pred (attempt x remaining s).state
      ⟨rest.result, rest.state, (attempt x remaining s).events ++ rest.events⟩ := by
  cases reply : attempt x remaining s with
  | mk result t events =>
    rw [reply] at h
    subst h
    simp [attempts, bind, Act.andThen, reply]

/-! ## The end of an execution -/

def closing (x : Exchange σ φ) (s : σ) : List (Event φ) :=
  if x.ownsSession s then [.sessionClosed] else []

def ClosesSession (x : Exchange σ φ) (s : σ) : Prop :=
  x.ownsSession s = true → x.closeFault s = none

theorem closeSession_eq {x : Exchange σ φ} {s : σ} (h : ClosesSession x s) :
    closeSession x s = ⟨.ok (), s, closing x s⟩ := by
  by_cases owns : x.ownsSession s = true
  · simp [closeSession, closing, bind, Act.andThen, owns, h owns]
  · simp [closeSession, closing, bind, Act.andThen, owns]

theorem execute_of_unbegun {x : Exchange σ φ} {limit : Nat} {budget : σ → Except Fault Number}
    {s : σ} {fault : Fault} (h : ClosesSession x s) (unbegun : budget s = .error fault) :
    execute x limit budget s = ⟨.error fault, s, closing x s⟩ := by
  simp [execute, Act.finallyDo_apply, bind, Act.andThen, unbegun, closeSession_eq h, Except.bind]

theorem execute_of_begun {x : Exchange σ φ} {limit : Nat} {budget : σ → Except Fault Number}
    {s : σ} {n : Number} (h : ClosesSession x (attempts x limit n s).state)
    (begun : budget s = .ok n) :
    execute x limit budget s =
      let reply := attempts x limit n s
      ⟨reply.result, reply.state, reply.events ++ closing x reply.state⟩ := by
  simp [execute, Act.finallyDo_apply, bind, Act.andThen, begun, closeSession_eq h, Except.bind]

theorem execute_apply {x : Exchange σ φ} {limit : Nat} {budget : σ → Except Fault Number} {s : σ}
    {n : Number} (hb : budget s = .ok n) (hc : x.closeFault (attempts x limit n s).state = none) :
    execute x limit budget s =
      let reply := attempts x limit n s
      ⟨reply.result, reply.state, reply.events ++ closing x reply.state⟩ :=
  execute_of_begun (fun _ => hc) hb

end HttpRetry.Attempts

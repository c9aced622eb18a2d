import HttpRetry.Proofs.Request.Trace

/-!
# The passage of an attempt

What an attempt does in the order in which it does it: it sends, it may ask one
handler, and it remarks on what it makes of the answer.
-/

namespace HttpRetry.Attempts

variable {σ φ : Type}

def isIoRetry : Log.RetryReason × Number → Bool
  | (.ioError, _) => true
  | (.status _, _) => false

def ioRetries (trace : List (Event φ)) : Nat :=
  (retries trace).countP isIoRetry

@[simp] theorem ioRetries_append (a b : List (Event φ)) :
    ioRetries (a ++ b) = ioRetries a + ioRetries b := by
  simp [ioRetries]

@[simp] theorem ioRetries_sending (x : Exchange σ φ) (m : Message) (s : σ) :
    ioRetries (sending x m s) = 0 := by
  simp [ioRetries]

@[simp] theorem ioRetries_ask (x : Exchange σ φ) (q : Question) (s : σ) :
    ioRetries (ask x q s).events = 0 := by
  simp [ioRetries]

def Event.IsRemark : Event φ → Prop
  | .noted _ | .closed _ => True
  | _ => False

/-- What an attempt passes through. It goes on only if a question is answered with yes, after
a response only within the budget, and within the budget it does go on if the response can
be closed. -/
inductive Passed (x : Exchange σ φ) (remaining : Number) (s : σ)
    (reply : Reply σ (Event φ) (Option Response)) : Prop
  | unsent {fault} (message : x.message s = .error fault) (reply_eq : reply = ⟨.error fault, s, []⟩)
  | unasked (m : Message) (message : x.message s = .ok m) (ends : reply.result ≠ .ok none)
      (state_eq : reply.state = (x.send m s).state) (events_eq : reply.events = sending x m s)
  | asked (m : Message) (q : Question) (remarks : List (Event φ)) {asked}
      (ask_eq : ask x q (x.send m s).state = asked) (message : x.message s = .ok m)
      (supports : q.supportsRetry = Number.lt 0 remaining)
      (state_eq : reply.state = asked.state)
      (events_eq : reply.events = sending x m s ++ asked.events ++ remarks)
      (remark : ∀ e ∈ remarks, e.IsRemark)
      (granted : reply.result = .ok none →
        asked.result = .ok true ∧ ((∃ b, q = .failure b) ∨ Number.lt 0 remaining = true))
      (continues : asked.result = .ok true → Number.lt 0 remaining = true →
        (∀ r b, q = .response r b → r.bare = false) → reply.result = .ok none)
      (retried : ioRetries remarks ≤ 1 ∧
        (0 < ioRetries remarks → asked.result = .ok true ∧ ∃ b, q = .failure b))
      (affirmed : retries remarks ≠ [] → asked.result = .ok true)
      (refused : ∀ error, .noted (.requestFailed error) ∈ remarks →
        asked.result = .ok false ∧ ∃ b, q = .failure b)

theorem attempt_passed (x : Exchange σ φ) (remaining : Number) (s : σ) :
    Passed x remaining s (attempt x remaining s) := by
  generalize attempt_eq : attempt x remaining s = reply
  have step : Attempted x remaining s reply := attempt_eq ▸ attempt_attempted x remaining s
  clear attempt_eq
  cases step with
  | unsent message => exact .unsent message rfl
  | broken message outcome foreign => exact .unasked _ message (by simp) rfl rfl
  | failureUnanswered message outcome failure answer fails =>
    exact .asked _ _ [] answer message rfl rfl (by simp) (by simp) (by simp) (by simp [fails])
      (by simp [ioRetries]) (by simp) (by simp)
  | failureFinal message outcome failure answer refused =>
    exact .asked _ _ _ answer message rfl rfl rfl (by simp [Event.IsRemark]) (by simp)
      (by simp [refused]) (by simp [ioRetries]) (by simp) fun _ _ => ⟨refused, _, rfl⟩
  | failureRetried message outcome failure answer granted =>
    exact .asked _ _ _ answer message rfl rfl rfl (by simp [Event.IsRemark])
      (fun _ => ⟨granted, .inl ⟨_, rfl⟩⟩) (fun _ _ _ => rfl)
      ⟨by simp [ioRetries, isIoRetry], fun _ => ⟨granted, _, rfl⟩⟩ (fun _ => granted) (by simp)
  | illegible message outcome status => exact .unasked _ message (by simp) rfl rfl
  | succeeded message outcome status => exact .unasked _ message (by simp) rfl rfl
  | responseUnanswered message outcome status answer fails =>
    exact .asked _ _ [] answer message rfl rfl (by simp) (by simp) (by simp) (by simp [fails])
      (by simp [ioRetries]) (by simp) (by simp)
  | responseFinal message outcome status answer answered_eq refused =>
    refine .asked _ _ _ answer message rfl rfl rfl (by simp [Event.IsRemark]) (by simp) ?_
      (by simp [ioRetries]) (by simp) (by simp)
    intro granted budget
    rw [answered_eq, Except.ok.injEq] at granted
    simp [granted, budget] at refused
  | unclosed message outcome status answer granted budget bare =>
    refine .asked _ _ _ answer message rfl rfl rfl (by simp [Event.IsRemark]) (by simp) ?_
      (by simp [ioRetries, isIoRetry]) (fun _ => granted) (by simp)
    intro _ _ closable
    simp [closable _ _ rfl] at bare
  | responseRetried message outcome status answer granted budget closable =>
    exact .asked _ _ _ answer message rfl rfl rfl (by simp [Event.IsRemark])
      (fun _ => ⟨granted, .inr budget⟩) (fun _ _ _ => rfl) (by simp [ioRetries, isIoRetry])
      (fun _ => granted) (by simp)

/-! ## Executions -/

theorem closeSession_apply (x : Exchange σ φ) (s : σ) :
    (closeSession x s).state = s ∧
      ((closeSession x s).events = [] ∨ (closeSession x s).events = [.sessionClosed]) := by
  cases owns : x.ownsSession s with
  | false => simp [closeSession, bind, Act.andThen, owns]
  | true =>
    cases fault : x.closeFault s <;> simp [closeSession, bind, Act.andThen, owns, fault]

inductive Executed (x : Exchange σ φ) (limit : Nat) (budget : σ → Except Fault Number) (s : σ)
    (reply : Reply σ (Event φ) (Option Response)) : Prop
  | unbegun (result : ∃ fault, reply.result = .error fault) (state_eq : reply.state = s)
      (events_eq : reply.events = [] ∨ reply.events = [.sessionClosed])
  | ended {n} (close : List (Event φ)) (budget_eq : budget s = .ok n)
      (result : reply.result = (attempts x limit n s).result ∨ ∃ fault, reply.result = .error fault)
      (state_eq : reply.state = (attempts x limit n s).state)
      (events_eq : reply.events = (attempts x limit n s).events ++ close)
      (close_eq : close = [] ∨ close = [.sessionClosed])

theorem execute_executed (x : Exchange σ φ) (limit : Nat) (budget : σ → Except Fault Number)
    (s : σ) : Executed x limit budget s (execute x limit budget s) := by
  rw [execute, Act.finallyDo_apply]
  cases budget_eq : budget s with
  | error problem =>
    obtain ⟨state_eq, events_eq⟩ := closeSession_apply x s
    have begun : (do attempts x limit (← .ofExcept (budget (← .read id))) :
        Act σ (Event φ) (Option Response)) s = ⟨.error problem, s, []⟩ := by
      simp [bind, Act.andThen, budget_eq]
    rw [begun]
    cases closed : (closeSession x s).result with
    | error fault => exact .unbegun ⟨fault, by simp [closed, Except.bind]⟩ state_eq events_eq
    | ok => exact .unbegun ⟨problem, by simp [closed, Except.bind]⟩ state_eq events_eq
  | ok n =>
    obtain ⟨state_eq, events_eq⟩ := closeSession_apply x (attempts x limit n s).state
    have begun : (do attempts x limit (← .ofExcept (budget (← .read id))) :
        Act σ (Event φ) (Option Response)) s = attempts x limit n s := by
      simp [bind, Act.andThen, budget_eq]
    rw [begun]
    refine .ended _ budget_eq ?_ state_eq rfl events_eq
    cases closed : (closeSession x (attempts x limit n s).state).result with
    | error fault => exact .inr ⟨fault, by simp [closed, Except.bind]⟩
    | ok => exact .inl (by simp [closed, Except.bind])

end HttpRetry.Attempts

import HttpRetry.Proofs.Request.Rounds

/-!
# Orderly executions

An execution goes in orderly rounds and stays within its budget if every question it
asks is answered in an orderly way, and if a handler of failures grants a retry only
when some remain.
-/

namespace HttpRetry.Request

open Attempts (ask attempt attempts messages sending)

variable {σ ε : Type}

structure Answered (host : Host σ ε) (permits : Double → Prop) (q : Question) (s : Stage σ)
    (reply : Reply (Stage σ) (Happening ε) Bool) : Prop where
  orderly : IsOrderly permits reply.events
  supported : waits reply.events ≠ [] → q.supportsRetry = true
  returns : host.Pauses permits → waits reply.events ≠ [] → reply.result = .ok true
  budgeted : ∀ supportsRetry, q = .failure supportsRetry → reply.result = .ok true →
    supportsRetry = true
  request : ∃ headers, reply.state.request = { s.request with headers }

structure Disciplined (host : Host σ ε) (permits : Double → Prop) (I : Stage σ → Prop) :
    Prop where
  outer : ∀ s outer, I s → I { s with outer }
  answered : ∀ s q, I s → Answered host permits q s (ask (exchange host) q s)
  keeps : ∀ s q, I s → I (ask (exchange host) q s).state

/-! ## Messages -/

theorem message_headers (r : Request) (headers : Value) :
    ({ r with headers } : Request).message = r.message.map fun m => { m with headers } := by
  have part : ({ r with headers } : Request).checkPart .sending = r.checkPart .sending := rfl
  have limits : ({ r with headers } : Request).timeout = r.timeout := rfl
  unfold message
  rw [part, limits]
  cases r.checkPart .sending with
  | error => rfl
  | ok =>
    cases r.session with
    | improper => rfl
    | session => cases r.timeout <;> rfl

theorem exists_sending {τ : Type} (x : Exchange τ (Handling.Event ε)) (m : Message) (s : τ) :
    ∃ during, sending x m s = .sent m :: during ∧ messages during = [] := by
  refine ⟨_, rfl, ?_⟩
  simp [messages, List.filterMap_map, Function.comp_def, Attempts.Event.message?]

theorem unanswering_sending {τ : Type} (x : Exchange τ (Handling.Event ε)) (m : Message) (s : τ) :
    ∀ e ∈ sending x m s, Happening.isAnswering e = false := by
  intro e he
  rw [sending, List.mem_cons, List.mem_append, List.mem_map, List.mem_singleton] at he
  rcases he with rfl | ⟨event, -, rfl⟩ | rfl <;> rfl

theorem unanswering_remarks {remarks : List (Happening ε)} (h : ∀ e ∈ remarks, e.IsRemark) :
    ∀ e ∈ remarks, Happening.isAnswering e = false := by
  intro e he
  have remark := h e he
  cases e with
  | answering => exact remark.elim
  | _ => rfl

theorem messages_of_remarks {remarks : List (Happening ε)} (h : ∀ e ∈ remarks, e.IsRemark) :
    messages remarks = [] :=
  filterMap_remarks (fun _ => rfl) (fun _ => rfl) h

theorem unanswering_close {close : List (Happening ε)}
    (h : close = [] ∨ close = [.sessionClosed]) :
    (∀ e ∈ close, Happening.isAnswering e = false) ∧ messages close = [] := by
  rcases h with rfl | rfl
  · simp
  · exact ⟨by simp [Happening.isAnswering], rfl⟩

/-! ## Attempts -/

structure Rounded (host : Host σ ε) (permits : Double → Prop) (n : Nat) (s : Stage σ)
    (reply : Reply (Stage σ) (Happening ε) (Option Response)) : Prop where
  round : (reply.events = [] ∧ reply.result ≠ .ok none ∧ ∀ m, s.request.message ≠ .ok m) ∨
    ∃ m round, reply.events = .sent m :: round ∧ messages round = [] ∧ IsOrderly permits round
  continues : reply.result = .ok none → 0 < n ∧ ∃ m, reply.state.request.message = .ok m
  waited : host.Pauses permits → IsClosable reply.events → waits reply.events ≠ [] →
    reply.result = .ok none

variable {host : Host σ ε} {permits : Double → Prop} {I : Stage σ → Prop} {s : Stage σ}

section
variable (disciplined : Disciplined host permits I) (hs : I s)
include disciplined hs

theorem attempt_rounded (n : Nat) :
    Rounded host permits n s (attempt (exchange host) (.int n) s) ∧
      I (attempt (exchange host) (.int n) s).state := by
  generalize attempt_eq : attempt (exchange host) (.int n) s = reply
  have passed := Attempts.attempt_passed (exchange host) (.int n) s
  rw [attempt_eq] at passed
  clear attempt_eq
  have sent (m : Message) : I ((exchange host).send m s).state :=
    disciplined.outer s _ hs
  cases passed with
  | unsent message reply_eq =>
    subst reply_eq
    refine ⟨⟨.inl ⟨rfl, by simp, fun m hm => ?_⟩, by simp, by simp [waits]⟩, hs⟩
    rw [show s.request.message = .error _ from message] at hm
    cases hm
  | unasked m message ends state_eq events_eq =>
    obtain ⟨during, sending_eq, silent⟩ := exists_sending (exchange host) m s
    have unanswering := unanswering_sending (exchange host) m s
    have waits_eq : waits reply.events = [] := events_eq ▸ waits_of_unanswering unanswering
    rw [sending_eq] at events_eq unanswering
    refine ⟨⟨.inr ⟨m, during, events_eq, silent, ?_⟩, fun h => absurd h ends,
      fun _ _ made => absurd waits_eq made⟩, state_eq ▸ sent m⟩
    simpa using isOrderly_nil.frame (b := [])
      (fun e he => unanswering e (List.mem_cons_of_mem _ he)) (by simp)
  | asked m q remarks ask_eq message supports state_eq events_eq remark granted continues retried =>
    obtain ⟨during, sending_eq, silent⟩ := exists_sending (exchange host) m s
    have unanswering := unanswering_sending (exchange host) m s
    have answered := disciplined.answered _ q (sent m)
    have keeps := disciplined.keeps _ q (sent m)
    subst ask_eq
    have waits_eq : waits reply.events =
        waits (ask (exchange host) q ((exchange host).send m s).state).events := by
      rw [events_eq]
      exact waits_frame unanswering (unanswering_remarks remark)
    have supports_eq : q.supportsRetry = decide (0 < (n : Int)) :=
      supports.trans (Number.lt_int 0 n)
    refine ⟨⟨?_, ?_, ?_⟩, state_eq ▸ keeps⟩
    · rw [sending_eq] at events_eq unanswering
      refine .inr ⟨m, _, by simpa using events_eq, ?_, ?_⟩
      · simp [silent, messages_of_remarks remark]
      · simpa using answered.orderly.frame (fun e he => unanswering e (List.mem_cons_of_mem _ he))
          (unanswering_remarks remark)
    · intro goes_on
      obtain ⟨yes, within⟩ := granted goes_on
      have budget : q.supportsRetry = true := by
        rcases within with ⟨supportsRetry, rfl⟩ | positive
        · exact answered.budgeted supportsRetry rfl yes
        · exact supports.trans positive
      obtain ⟨headers, request_eq⟩ := answered.request
      have message_eq : s.request.message = .ok m := message
      refine ⟨by simpa [supports_eq] using budget, { m with headers }, ?_⟩
      rw [state_eq, request_eq, message_headers]
      exact congrArg (Except.map _) message_eq
    · intro pauses closable made
      rw [waits_eq] at made
      -- A question that led to a wait has been asked.
      have asked : .asked q ∈ reply.events := by
        rw [events_eq, List.mem_append, List.mem_append]
        refine .inl (.inr (Attempts.asked_mem_ask fun quiet => made ?_))
        rw [quiet]
        rfl
      refine continues (answered.returns pauses made)
        (supports.symm.trans (answered.supported made)) ?_
      rintro r supportsRetry rfl
      exact closable _ asked

end

/-! ## Runs of attempts -/

structure OrderlyRun (host : Host σ ε) (permits : Double → Prop) (limit n : Nat)
    (close : List (Happening ε)) (s : Stage σ)
    (reply : Reply (Stage σ) (Happening ε) (Option Response)) : Prop where
  messages_le : (messages reply.events).length ≤ n + 1
  ends : n < limit → reply.result ≠ .ok none
  trace : GoesInRounds permits (reply.events ++ close)
  sends : ∀ m, s.request.message = .ok m → 0 < limit → messages reply.events ≠ []
  followed : host.Pauses permits → IsClosable reply.events → n < limit →
    IsFollowed (reply.events ++ close)

variable {limit n : Nat} {close : List (Happening ε)}
  {reply : Reply (Stage σ) (Happening ε) (Option Response)}

section
variable (unanswering : ∀ e ∈ close, Happening.isAnswering e = false)
  (silent : messages close = [])
include unanswering silent

theorem OrderlyRun.of_unsent (events_eq : reply.events = [])
    (ends : n < limit → reply.result ≠ .ok none)
    (unsendable : ∀ m, s.request.message = .ok m → limit = 0) :
    OrderlyRun host permits limit n close s reply := by
  refine ⟨by simp [events_eq], ends, ?_, ?_, fun _ _ _ => ?_⟩
  · rw [events_eq]
    exact goesInRounds_of_silent unanswering silent
  · intro m message pos
    rw [unsendable m message] at pos
    exact absurd pos (Nat.lt_irrefl 0)
  · rw [events_eq]
    exact isFollowed_of_waits (waits_of_unanswering unanswering)

theorem OrderlyRun.of_last (rounded : Rounded host permits n s reply)
    (ends : reply.result ≠ .ok none) : OrderlyRun host permits limit n close s reply := by
  obtain ⟨events_eq, -, unsendable⟩ | ⟨m, round, events_eq, round_silent, orderly⟩ := rounded.round
  · exact .of_unsent unanswering silent events_eq (fun _ => ends)
      fun m message => absurd message (unsendable m)
  · refine ⟨?_, fun _ => ends, ?_, ?_, fun pauses closable _ => ?_⟩
    · simp [events_eq, round_silent]
    · rw [events_eq]
      exact (goesInRounds_of_silent unanswering silent).sent m round_silent orderly
    · simp [events_eq]
    · refine isFollowed_of_waits ?_
      rw [waits_append, waits_of_unanswering unanswering, List.append_nil]
      by_contra made
      exact ends (rounded.waited pauses closable made)

end

theorem OrderlyRun.of_retry {first : Reply (Stage σ) (Happening ε) (Option Response)}
    (rounded : Rounded host permits (n + 1) s first) (again : first.result = .ok none)
    (run : OrderlyRun host permits limit n close first.state reply) :
    OrderlyRun host permits (limit + 1) (n + 1) close s
      ⟨reply.result, reply.state, first.events ++ reply.events⟩ := by
  obtain ⟨-, m', sendable⟩ := rounded.continues again
  obtain ⟨-, ends, -⟩ | ⟨m, round, events_eq, round_silent, orderly⟩ := rounded.round
  · exact absurd again ends
  · refine ⟨?_, fun more => run.ends (Nat.lt_of_succ_lt_succ more), ?_, ?_,
      fun pauses closable more => ?_⟩
    · simpa [events_eq, round_silent] using run.messages_le
    · simpa [events_eq] using run.trace.sent m round_silent orderly
    · simp [events_eq]
    · have within : n < limit := Nat.lt_of_succ_lt_succ more
      have later : messages reply.events ≠ [] :=
        run.sends m' sendable (Nat.lt_of_le_of_lt (Nat.zero_le n) within)
      rw [List.append_assoc]
      refine .append ?_ (run.followed pauses ?_ within)
      · intro before q w after _ none_sent
        simp [later] at none_sent
      · intro e he
        exact closable e (List.mem_append_right _ he)

theorem attempts_orderly (disciplined : Disciplined host permits I) (hs : I s) (limit n : Nat)
    (unanswering : ∀ e ∈ close, Happening.isAnswering e = false) (silent : messages close = []) :
    OrderlyRun host permits limit n close s (attempts (exchange host) limit (.int n) s) ∧
      I (attempts (exchange host) limit (.int n) s).state := by
  induction limit generalizing s n with
  | zero =>
    refine ⟨.of_unsent unanswering silent rfl (fun more => ?_) fun _ _ => rfl, hs⟩
    exact absurd more (Nat.not_lt_zero n)
  | succ limit ih =>
    obtain ⟨rounded, keeps⟩ := attempt_rounded disciplined hs n
    by_cases again : (attempt (exchange host) (.int n) s).result = .ok none
    · obtain ⟨pos, -⟩ := rounded.continues again
      obtain ⟨k, rfl⟩ := Nat.exists_eq_succ_of_ne_zero (Nat.ne_of_gt pos)
      have pred_eq : (Number.int (k + 1 : Nat)).pred = .int k := by
        simp [Number.pred]
      rw [Attempts.attempts_succ_of_retry again, pred_eq]
      obtain ⟨run, keeps'⟩ := ih keeps k
      exact ⟨run.of_retry rounded again, keeps'⟩
    · rw [Attempts.attempts_succ_of_end again]
      exact ⟨.of_last unanswering silent rounded again, keeps⟩

/-! ## Executions -/

theorem budget_of_retries {r : Request} {i : Int} {m : Number} (retries : r.retries = .int i)
    (budget : r.budget = .ok m) : m = .int i := by
  have number : r.retries.number? = some (.int i) := by rw [retries]; rfl
  cases checked : r.checkPart .attempts with
  | error fault => simp [Request.budget, bind, Except.bind, checked] at budget
  | ok => simpa [Request.budget, bind, Except.bind, checked, number, eq_comm] using budget

/-- An execution of a disciplined request with a budget of `n` retries. -/
structure OrderlyExecution (host : Host σ ε) (permits : Double → Prop) (limit n : Nat)
    (reply : Reply (Stage σ) (Happening ε) (Option Response)) : Prop where
  messages_le : (messages reply.events).length ≤ n + 1
  ends : n < limit → reply.result ≠ .ok none
  trace : GoesInRounds permits reply.events
  followed : host.Pauses permits → IsClosable reply.events → n < limit → IsFollowed reply.events

theorem execute_of_disciplined (disciplined : Disciplined host permits I) (hs : I s) (limit : Nat)
    (retries : s.request.retries = .int n) :
    OrderlyExecution host permits limit n (execute host limit s) ∧
      I (execute host limit s).state := by
  generalize execute_eq : execute host limit s = reply
  have executed := execute_executed host limit s
  rw [execute_eq] at executed
  clear execute_eq
  cases executed with
  | unbegun result state_eq events_eq =>
    obtain ⟨unanswering, silent⟩ := unanswering_close events_eq
    obtain ⟨fault, result_eq⟩ := result
    refine ⟨⟨by simp [silent], by simp [result_eq], goesInRounds_of_silent unanswering silent,
      fun _ _ _ => isFollowed_of_waits (waits_of_unanswering unanswering)⟩, state_eq ▸ hs⟩
  | @ended m close budget_eq result state_eq events_eq close_eq =>
    obtain ⟨unanswering, silent⟩ := unanswering_close close_eq
    obtain rfl : m = .int n := budget_of_retries retries budget_eq
    obtain ⟨run, keeps⟩ := attempts_orderly disciplined hs limit n unanswering silent
    refine ⟨⟨?_, fun more ends => ?_, ?_, fun pauses closable more => ?_⟩, state_eq ▸ keeps⟩
    · simpa [events_eq, silent] using run.messages_le
    · rcases result with result_eq | ⟨fault, result_eq⟩
      · exact run.ends more (result_eq.symm.trans ends)
      · simp [result_eq] at ends
    · rw [events_eq]
      exact run.trace
    · rw [events_eq]
      refine run.followed pauses (fun e he => ?_) more
      exact closable e (events_eq ▸ List.mem_append_left _ he)

end HttpRetry.Request

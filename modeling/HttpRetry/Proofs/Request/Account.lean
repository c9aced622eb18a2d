import HttpRetry.Proofs.Number.Order
import HttpRetry.Proofs.Request.Trace

/-!
# The account of an execution

With handlers that answer whatever they are asked, and a session that comes to
any outcome, an execution is accounted for by its outcomes: `attempts_account`
says which questions are asked in between, which retries are noted, how the
execution ends, and by how much it can exceed its budget. The account of a run is
built from that of one attempt.
-/

namespace HttpRetry

/-- What a response of a session is: its status is an integer, it can be closed, and
its status and its reason can be shown. -/
structure Response.IsWhole (r : Response) : Prop where
  status : ∃ code : Int, r.status = .int code
  shown : ∃ text, plainText r.status = .ok text
  closable : r.bare = false
  reason : ∃ text, plainText r.reason = .ok text

/-- In the states that keep `I` there is a message to send, the session comes to any
failure or to a whole response, and the handlers that are installed return some answer;
what they and the session do keeps `I`. -/
structure Exchange.Answers {σ φ : Type} (x : Exchange σ φ) (I : σ → Prop)
    (installed : Question → Bool) : Prop where
  message : ∀ s, I s → ∃ m, x.message s = .ok m
  send : ∀ s m, I s → I (x.send m s).state
  whole : ∀ s m r, I s → (x.send m s).result = .ok r → r.IsWhole
  handler : ∀ s q, I s → (x.handler q s).isSome = installed q
  answer : ∀ s q answer, I s → x.handler q s = some answer →
    (∃ v, (answer s).result = .ok v) ∧ I (answer s).state
  close : ∀ s, I s → x.closeFault s = none

namespace Attempts

variable {σ φ : Type}

/-! ## One attempt -/

theorem isSuccess_of_isWhole {r : Response} (h : r.IsWhole) :
    isSuccess r.status = .ok (succeeded r) := by
  obtain ⟨code, hc⟩ := h.status
  have h300 : decide (code < 300) = decide (code ≤ 299) := by simp; omega
  rw [hc]
  simp only [isSuccess, succeeded, hc, Value.int, Value.number?, Value.int?]
  change Except.ok (Number.le (.int 200) (.int code) && Number.lt (.int code) (.int 300)) = _
  rw [Number.le_int, Number.lt_int, h300]

theorem failure_of_isWhole {r : Response} (h : r.IsWhole) :
    ∃ text, r.failure .null = .ok (.unsuccessful r text) := by
  obtain ⟨status, hs⟩ := h.shown
  obtain ⟨reason, hr⟩ := h.reason
  refine ⟨s!"HTTP {status}: {reason}", ?_⟩
  simp [Response.failure, Value.isTrue, hs, hr, h.closable, bind, Except.bind, pure, Except.pure]

def consulted (installed : Question → Bool) (supportsRetry : Bool) (o : Outcome) :
    List Question :=
  if o.isFailed && installed (o.question supportsRetry) then [o.question supportsRetry] else []

def Concludes : Outcome → Except Fault (Option Response) → Prop
  | .error fault, result => result = .error fault
  | .ok response, result =>
    if succeeded response then result = .ok (some response)
    else ∃ text, result = .error (.unsuccessful response text)

theorem Concludes.ne_none {o : Outcome} {result : Except Fault (Option Response)}
    (h : Concludes o result) : result ≠ .ok none := by
  cases o with
  | error fault => simp [show result = .error fault from h]
  | ok response =>
    simp only [Concludes] at h
    split at h
    · simp [h]
    · obtain ⟨text, h⟩ := h
      simp [h]

def Oversteps (x : Exchange σ φ) (I : σ → Prop) : Prop :=
  ∃ s, I s ∧ (ask x (.failure false) s).result = .ok true

structure AttemptAccount (x : Exchange σ φ) (I : σ → Prop) (installed : Question → Bool) (n : Int)
    (o : Outcome) (reply : Reply σ (Event φ) (Option Response)) : Prop where
  sent : (messages reply.events).length = 1
  outcome : outcomes reply.events = [o]
  said : dialogue reply.events = .inl o :: (consulted installed (0 < n) o).map .inr
  end_or_retry : (retries reply.events = [] ∧ Concludes o reply.result) ∨
    (reply.result = .ok none ∧ o.isFailed = true ∧ ∃ reason,
      retries reply.events = [(reason, .int (n - 1))] ∧
        (0 < n ∨ reason = .ioError ∧ Oversteps x I))

variable {x : Exchange σ φ} {I : σ → Prop} {installed : Question → Bool}

theorem ask_of_answers (h : x.Answers I installed) {s : σ} (hs : I s) (q : Question) :
    (∃ granted, (ask x q s).result = .ok granted) ∧ I (ask x q s).state := by
  cases hq : x.handler q s with
  | none =>
    rw [ask_apply_of_none hq]
    exact ⟨⟨false, rfl⟩, hs⟩
  | some answer =>
    obtain ⟨⟨v, hv⟩, keeps⟩ := h.answer s q answer hs hq
    rw [ask_apply_of_some hq]
    exact ⟨⟨v.isTrue, by simp [hv, Except.map]⟩, keeps⟩

theorem dialogue_ask_of_isFailed (h : x.Answers I installed) {s : σ} (hs : I s) {o : Outcome}
    (failed : o.isFailed = true) (b : Bool) :
    dialogue (ask x (o.question b) s).events = (consulted installed b o).map .inr := by
  rw [dialogue_ask, h.handler s _ hs, consulted, failed, Bool.true_and]
  split <;> rfl

theorem attempt_account (h : x.Answers I installed) {s : σ} (hs : I s) (n : Int) :
    I (attempt x (.int n) s).state ∧
      ∃ o, AttemptAccount x I installed n o (attempt x (.int n) s) := by
  have lt_eq : Number.lt 0 (.int n) = decide (0 < n) := Number.lt_int 0 n
  have sent : ∀ m, I (x.send m s).state := fun m => h.send s m hs
  generalize attempt_eq : attempt x (.int n) s = reply
  have step : Attempted x (.int n) s reply := attempt_eq ▸ attempt_attempted x (.int n) s
  clear attempt_eq
  cases step with
  | unsent message =>
    obtain ⟨m, hm⟩ := h.message s hs
    simp [hm] at message
  | @broken m fault message outcome foreign =>
    refine ⟨sent m, .error fault, by simp, by simp [outcome], ?_, .inl ⟨by simp, rfl⟩⟩
    simp [outcome, consulted, Outcome.isFailed, foreign]
  | @failureUnanswered m fault reply problem message outcome failure answer fails =>
    obtain ⟨⟨granted, answered⟩, -⟩ := ask_of_answers h (sent m) (.failure (Number.lt 0 (.int n)))
    simp [← answer, answered] at fails
  | @failureFinal m fault reply message outcome failure answer refused =>
    subst answer
    obtain ⟨-, keeps⟩ := ask_of_answers h (sent m) (.failure (Number.lt 0 (.int n)))
    have hd := dialogue_ask_of_isFailed h (sent m) (o := .error fault) failure (0 < n)
    refine ⟨keeps, .error fault, by simp, by simp [outcome], ?_, .inl ⟨by simp, rfl⟩⟩
    simpa [outcome, lt_eq, Outcome.question] using hd
  | @failureRetried m fault reply message outcome failure answer granted =>
    subst answer
    obtain ⟨-, keeps⟩ := ask_of_answers h (sent m) (.failure (Number.lt 0 (.int n)))
    have hd := dialogue_ask_of_isFailed h (sent m) (o := .error fault) failure (0 < n)
    refine ⟨keeps, .error fault, by simp, by simp [outcome], ?_,
      .inr ⟨rfl, failure, .ioError, by simp [Number.pred], ?_⟩⟩
    · simpa [outcome, lt_eq, Outcome.question] using hd
    · by_cases hn : 0 < n
      · exact .inl hn
      · rw [lt_eq, decide_eq_false hn] at granted
        exact .inr ⟨rfl, _, sent m, granted⟩
  | @illegible m response problem message outcome status =>
    rw [isSuccess_of_isWhole (h.whole s m response hs outcome)] at status
    cases status
  | @succeeded m response message outcome status =>
    rw [isSuccess_of_isWhole (h.whole s m response hs outcome), Except.ok.injEq] at status
    refine ⟨sent m, .ok response, by simp, by simp [outcome], ?_,
      .inl ⟨by simp, by simp [Concludes, status]⟩⟩
    simp [outcome, consulted, Outcome.isFailed, status]
  | @responseUnanswered m response reply problem message outcome status answer fails =>
    obtain ⟨⟨granted, answered⟩, -⟩ :=
      ask_of_answers h (sent m) (.response response (Number.lt 0 (.int n)))
    simp [← answer, answered] at fails
  | @responseFinal m response reply answered message outcome status answer answered_eq refused =>
    subst answer
    have whole := h.whole s m response hs outcome
    rw [isSuccess_of_isWhole whole, Except.ok.injEq] at status
    obtain ⟨text, ht⟩ := failure_of_isWhole whole
    obtain ⟨-, keeps⟩ := ask_of_answers h (sent m) (.response response (Number.lt 0 (.int n)))
    have hd := dialogue_ask_of_isFailed h (sent m) (o := .ok response)
      (by simp [Outcome.isFailed, status]) (0 < n)
    refine ⟨keeps, .ok response, by simp, by simp [outcome], ?_,
      .inl ⟨by simp, by simp [Concludes, status, ht]⟩⟩
    simpa [outcome, lt_eq, Outcome.question] using hd
  | @unclosed m response reply message outcome status answer granted budget bare =>
    simp [(h.whole s m response hs outcome).closable] at bare
  | @responseRetried m response reply message outcome status answer granted budget closable =>
    subst answer
    rw [isSuccess_of_isWhole (h.whole s m response hs outcome), Except.ok.injEq] at status
    have failed : Outcome.isFailed (.ok response) = true := by simp [Outcome.isFailed, status]
    obtain ⟨-, keeps⟩ := ask_of_answers h (sent m) (.response response (Number.lt 0 (.int n)))
    have hd := dialogue_ask_of_isFailed h (sent m) (o := .ok response) failed (0 < n)
    refine ⟨keeps, .ok response, by simp, by simp [outcome], ?_,
      .inr ⟨rfl, failed, .status response.status, by simp [Number.pred], .inl ?_⟩⟩
    · simpa [outcome, lt_eq, Outcome.question] using hd
    · simpa [lt_eq] using budget

/-! ## A run of attempts -/

/-- The account of a run that begins when `k` retries of a budget of `n` have been made. -/
structure Account (x : Exchange σ φ) (I : σ → Prop) (installed : Question → Bool) (n : Int) (k : Nat)
    (reply : Reply σ (Event φ) (Option Response)) : Prop where
  sent : (messages reply.events).length = (outcomes reply.events).length
  said : dialogue reply.events = ((outcomes reply.events).zipIdx k).flatMap fun (o, i) =>
    .inl o :: (consulted installed (0 < n - i) o).map .inr
  counted : (retries reply.events).map (·.2) =
    (List.range' k (retries reply.events).length).map fun i => .int (n - (i + 1))
  bound : (outcomes reply.events).length ≤ (n - k).toNat + 1 + overdrawn reply.events
  oversteps : 0 < overdrawn reply.events → Oversteps x I
  finished : reply.result ≠ .ok none → ∃ before last,
    outcomes reply.events = before ++ [last] ∧ before.length = (retries reply.events).length ∧
      (∀ o ∈ before, o.isFailed = true) ∧ Concludes last reply.result ∧
      ((n - k).toNat + 1 < (outcomes reply.events).length ↔ 0 < overdrawn reply.events)

theorem AttemptAccount.account {n : Int} {k : Nat} {o : Outcome}
    {reply : Reply σ (Event φ) (Option Response)}
    (h : AttemptAccount x I installed (n - k) o reply) (hr : retries reply.events = [])
    (hc : Concludes o reply.result) : Account x I installed n k reply where
  sent := by rw [h.sent, h.outcome]; rfl
  said := by rw [h.said, h.outcome]; simp
  counted := by simp [hr]
  bound := by simp only [h.outcome, List.length_singleton]; omega
  oversteps spent := by simp [overdrawn, hr] at spent
  finished _ := ⟨[], o, by simp [h.outcome], by simp [hr], by simp, hc,
    by simp [h.outcome, overdrawn, hr]⟩

theorem isOverdrawn_retry {reason : Log.RetryReason} {n : Int} {p : Prop}
    (h : 0 < n ∨ reason = .ioError ∧ p) :
    isOverdrawn (reason, .int (n - 1)) = decide (n ≤ 0) := by
  have lt_eq : (Number.int (n - 1)).lt 0 = decide (n ≤ 0) := by
    rw [show (Number.int (n - 1)).lt 0 = decide (n - 1 < 0) from Number.lt_int _ 0]
    exact decide_eq_decide.mpr (by omega)
  cases reason with
  | ioError => exact lt_eq
  | status code =>
    obtain h | ⟨h, -⟩ := h
    · simp [isOverdrawn, h]
    · cases h

theorem AttemptAccount.account_append {n : Int} {k : Nat} {o : Outcome}
    {first rest : Reply σ (Event φ) (Option Response)}
    (h : AttemptAccount x I installed (n - k) o first)
    (account : Account x I installed n (k + 1) rest)
    (failed : o.isFailed = true) {reason : Log.RetryReason}
    (hr : retries first.events = [(reason, .int (n - k - 1))])
    (budget : 0 < n - k ∨ reason = .ioError ∧ Oversteps x I) :
    Account x I installed n k ⟨rest.result, rest.state, first.events ++ rest.events⟩ := by
  have spent : overdrawn (first.events ++ rest.events) =
      (if n - k ≤ 0 then 1 else 0) + overdrawn rest.events := by
    simp [overdrawn, hr, isOverdrawn_retry budget, List.countP_cons, Nat.add_comm]
  have toNat_eq : (n - k).toNat = (n - (k + 1 : Nat)).toNat + if n - k ≤ 0 then 0 else 1 := by
    split <;> omega
  have bound := account.bound
  refine ⟨?_, ?_, ?_, ?_, fun exceeding => ?_, fun hf => ?_⟩
  · simp [h.sent, h.outcome, account.sent, Nat.add_comm]
  · simp [h.said, h.outcome, account.said]
  · simp [hr, account.counted, List.range'_succ]
    omega
  · simp only [outcomes_append, h.outcome, List.length_append, List.length_singleton, spent]
    split <;> omega
  · obtain positive | ⟨-, oversteps⟩ := budget
    · simp only [spent, if_neg (Int.not_le.mpr positive), Nat.zero_add] at exceeding
      exact account.oversteps exceeding
    · exact oversteps
  · obtain ⟨before, last, outcomes_eq, length_eq, all_failed, conclusion, exceeds⟩ :=
      account.finished hf
    refine ⟨o :: before, last, ?_, ?_, ?_, conclusion, ?_⟩
    · simp [h.outcome, outcomes_eq]
    · simp [hr, length_eq, Nat.add_comm]
    · simpa [failed] using all_failed
    · have nonempty : 0 < (outcomes rest.events).length := by simp [outcomes_eq]
      simp only [outcomes_append, h.outcome, List.length_append, List.length_singleton, spent]
      split <;> omega

theorem attempts_account (h : x.Answers I installed) (limit : Nat) {s : σ} (hs : I s) (n : Int)
    (k : Nat) : I (attempts x limit (.int (n - k)) s).state ∧
      Account x I installed n k (attempts x limit (.int (n - k)) s) := by
  induction limit generalizing s k with
  | zero => exact ⟨hs, rfl, rfl, rfl, Nat.zero_le _, fun spent => (by cases spent),
      fun hf => absurd rfl hf⟩
  | succ limit ih =>
    obtain ⟨keeps, o, one⟩ := attempt_account h hs (n - k)
    rcases one.end_or_retry with ⟨hr, hc⟩ | ⟨again, failed, reason, hr, budget⟩
    · rw [attempts_succ_of_end hc.ne_none]
      exact ⟨keeps, one.account hr hc⟩
    · have pred_eq : (Number.int (n - k)).pred = .int (n - (k + 1 : Nat)) := by
        simp only [Number.pred, Number.int.injEq]
        omega
      rw [attempts_succ_of_retry again, pred_eq]
      obtain ⟨keeps', account⟩ := ih keeps (k + 1)
      exact ⟨keeps', one.account_append account failed hr budget⟩

/-- Closing the session at the end is no part of the account. -/
theorem Account.append_closing {n : Int} {k : Nat} {reply : Reply σ (Event φ) (Option Response)}
    (h : Account x I installed n k reply) : Account x I installed n k
      ⟨reply.result, reply.state, reply.events ++ closing x reply.state⟩ where
  sent := by simpa using h.sent
  said := by simpa using h.said
  counted := by simpa using h.counted
  bound := by simpa [overdrawn] using h.bound
  oversteps := by simpa [overdrawn] using h.oversteps
  finished hf := by simpa [overdrawn] using h.finished hf

theorem execute_account (h : x.Answers I installed) (limit : Nat) {s : σ} (hs : I s) {n : Int}
    {budget : σ → Except Fault Number} (hb : budget s = .ok (.int n)) :
    Account x I installed n 0 (execute x limit budget s) := by
  obtain ⟨keeps, account⟩ := attempts_account h limit hs n 0
  rw [Int.natCast_zero, Int.sub_zero] at keeps account
  rw [execute_apply hb (h.close _ keeps)]
  exact account.append_closing

end Attempts

end HttpRetry

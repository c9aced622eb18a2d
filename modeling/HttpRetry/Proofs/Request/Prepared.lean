import HttpRetry.Proofs.Request.Life
import HttpRetry.Proofs.Request.Orderly

/-!
# Prepared requests

The handlers of a prepared request answer in an orderly way whatever it has been
through, with a policy or without one. All its executions are therefore orderly.
-/

namespace HttpRetry

def Policy.budgetOf (policy : Option Policy) : Nat :=
  (policy.map maxRetries).getD 0

def Policy.PermittedBy (policy : Option Policy) (w : Double) : Prop :=
  ∃ p ∈ policy, p.Permits w

namespace Request

open Attempts (ask messages)
open Handling (Called Equipped)

variable {σ ε : Type} {host : Host σ ε} {policy : Option Policy} {s t : Stage σ}

inductive Prepared : Option Policy → Stage σ → Prop
  | alone {s : Stage σ} (onFailure : s.request.onFailure = .absent)
      (onResponse : s.request.onResponse = .bearer) (retries : s.request.retries = .int 0) :
      Prepared none s
  | equipped {p f g failures statuses} {s : Stage σ} (h : Equipped p f g failures statuses s)
      (retries : s.request.retries = .int p.maxRetries) : Prepared (some p) s

theorem Prepared.retries (h : Prepared policy s) :
    s.request.retries = .int (Policy.budgetOf policy) := by
  cases h with
  | alone _ _ retries => exact retries
  | equipped _ retries => exact retries

theorem Prepared.of_undisturbed (h : Prepared policy s) (undisturbed : Undisturbed s t) :
    Prepared policy t := by
  cases h with
  | alone onFailure onResponse retries =>
    refine .alone ?_ ?_ ?_
    · rw [undisturbed.onFailure, onFailure]
    · rw [undisturbed.onResponse, onResponse]
    · rw [undisturbed.retries, retries]
  | equipped h retries =>
    refine .equipped (equipped_of_undisturbed h undisturbed) ?_
    rw [undisturbed.retries, retries]

theorem Prepared.of_installRetries (policy : Option Policy) (s : Stage σ) :
    Prepared policy
      ((Client.installRetries .bearer policy : Act (Stage σ) (Handling.Event ε) Unit) s).state := by
  cases policy with
  | none => exact .alone rfl rfl rfl
  | some p =>
    refine .equipped (equipped_installRetries p s) ?_
    rw [installRetries_apply]

/-! ## Answers -/

section
variable (q : Question) (events : List (Handling.Event ε))

@[simp] theorem waits_asked :
    waits (.asked q :: events.map (.answering q)) = Handling.waits events := by
  rw [waits, List.filterMap_cons_none rfl, List.filterMap_map]
  rfl

@[simp] theorem refreshes_asked :
    refreshes (.asked q :: events.map (.answering q)) = Handling.refreshes events := by
  rw [refreshes, List.countP_cons_of_neg (by simp [Happening.isRefresh]), List.countP_map]
  rfl

end

theorem isOrderly_of_called {permits : Double → Prop} {q : Question}
    {reply : Reply (Stage σ) (Handling.Event ε) Value} (called : Called host permits q reply) :
    IsOrderly permits (.asked q :: reply.events.map (.answering q)) := by
  refine ⟨?_, ?_, ?_, ?_⟩
  · simpa using called.length_le
  · simpa using called.permitted
  · simpa using called.refreshes_le
  · simpa [Happening.isRenewal] using called.renewed

theorem answered_of_called {permits : Double → Prop} {q : Question}
    (installed : (s.request.handlerFor q).isAbsent = false)
    (called : Called host permits q (Handling.ask host (s.request.handlerFor q) q s))
    (budgeted : ∀ supportsRetry, q = .failure supportsRetry → ∀ v,
      (Handling.ask host (s.request.handlerFor q) q s).result = .ok v → v.isTrue = true →
      supportsRetry = true)
    (request : ∃ headers, (Handling.ask host (s.request.handlerFor q) q s).state.request =
      { s.request with headers }) :
    Answered host permits q s (ask (exchange host) q s) := by
  rw [ask_exchange host installed]
  refine ⟨isOrderly_of_called called, ?_, ?_, ?_, request⟩
  · simpa using called.supported
  · intro pauses made
    rw [waits_asked] at made
    simp [called.returns pauses made, Except.map, Value.isTrue]
  · intro supportsRetry failure yes
    obtain ⟨v, answer, truth⟩ := exists_of_map_ok yes
    exact budgeted supportsRetry failure v answer truth

theorem ask_of_absent (host : Host σ ε) {q : Question}
    (absent : (s.request.handlerFor q).isAbsent = true) :
    ask (exchange host) q s = ⟨.ok false, s, []⟩ :=
  Attempts.ask_apply_of_none (by simp [exchange, absent])

theorem answered_of_unasked {permits : Double → Prop} (q : Question) :
    Answered host permits q s ⟨.ok false, s, []⟩ :=
  ⟨isOrderly_nil, fun made => absurd rfl made, fun _ made => absurd rfl made, by simp,
    s.request.headers, rfl⟩

theorem Prepared.of_restamped (h : Prepared policy s) (restamped : Handling.Restamped s t) :
    Prepared policy t := by
  obtain ⟨headers, request_eq⟩ := restamped.request
  cases h with
  | alone onFailure onResponse retries =>
    refine .alone ?_ ?_ ?_
    · rw [request_eq, ← onFailure]
    · rw [request_eq, ← onResponse]
    · rw [request_eq, ← retries]
  | equipped h retries =>
    refine .equipped (h.of_restamped restamped) ?_
    rw [request_eq, ← retries]

theorem permittedBy_some (p : Policy) : Policy.PermittedBy (some p) = p.Permits := by
  funext w
  simp [Policy.PermittedBy]

theorem answered_of_alone (h : Prepared none s) (q : Question) :
    Answered host (Policy.PermittedBy none) q s (ask (exchange host) q s) ∧
      Prepared none (ask (exchange host) q s).state := by
  cases h with
  | alone onFailure onResponse retries =>
    cases q with
    | failure supportsRetry =>
      rw [ask_of_absent host (by simp [handlerFor, onFailure, Handler.isAbsent])]
      exact ⟨answered_of_unasked _, .alone onFailure onResponse retries⟩
    | response r supportsRetry =>
      have installed : (s.request.handlerFor (.response r supportsRetry)).isAbsent = false := by
        simp [handlerFor, onResponse, Handler.isAbsent]
      have renewed : Handling.Renewed s (Handling.ask host
          (s.request.handlerFor (.response r supportsRetry)) (.response r supportsRetry) s) := by
        simpa [handlerFor, onResponse, Handling.ask] using Handling.answerBearer_renewed host r s
      refine ⟨answered_of_called installed (Handling.called_of_renewed renewed) (by simp)
        renewed.restamped.request, ?_⟩
      rw [ask_exchange host installed]
      exact Prepared.of_restamped (.alone onFailure onResponse retries) renewed.restamped

theorem answered_of_equipped {p : Policy} {f g : Nat} {failures statuses : List Double}
    (h : Equipped p f g failures statuses s) (q : Question) :
    Answered host p.Permits q s (ask (exchange host) q s) := by
  cases q with
  | failure supportsRetry =>
    obtain ⟨called, -, request_eq, granted⟩ := Handling.ask_failure host h supportsRetry
    refine answered_of_called (by simp [handlerFor, h.onFailure, Handler.isAbsent]) called ?_ ?_
    · intro _ failure v answer truth
      cases failure
      exact called.supported (granted v answer truth)
    · exact ⟨s.request.headers, request_eq⟩
  | response r supportsRetry =>
    have responded := Handling.ask_response host h r supportsRetry
    exact answered_of_called (by simp [handlerFor, h.onResponse, Handler.isAbsent])
      responded.called (by simp) responded.request

/-- The handlers of a prepared request keep its executions orderly. -/
theorem disciplined_prepared (host : Host σ ε) (policy : Option Policy) :
    Disciplined host (Policy.PermittedBy policy) (Prepared policy) := by
  have answers (s : Stage σ) (q : Question) (h : Prepared policy s) :
      Answered host (Policy.PermittedBy policy) q s (ask (exchange host) q s) ∧
        Prepared policy (ask (exchange host) q s).state := by
    cases policy with
    | none => exact answered_of_alone h q
    | some p =>
      cases h with
      | equipped h retries =>
        rw [permittedBy_some]
        have answered : Answered host p.Permits q s _ := answered_of_equipped h q
        obtain ⟨headers, request_eq⟩ := answered.request
        refine ⟨answered, .equipped (ask_equipped host h q) ?_⟩
        rw [request_eq, ← retries]
  refine ⟨?_, ?_, ?_⟩
  · intro s outer h
    exact h.of_restamped ⟨rfl, s.request.headers, rfl⟩
  · intro s q h
    exact (answers s q h).1
  · intro s q h
    exact (answers s q h).2

/-! ## Executions -/

theorem life_prepared (h : Prepared policy s) {trace : List (Happening ε)}
    (life : Life host s trace t) : Prepared policy t := by
  induction life with
  | start => exact h
  | execute limit before ih =>
    exact (execute_of_disciplined (disciplined_prepared host policy) ih limit ih.retries).2
  | meanwhile before undisturbed ih => exact ih.of_undisturbed undisturbed

/-- Every execution of a request that is prepared with a policy, or without one, sends one
message more than the budget at most and ends. In every round there is one wait at most,
which the policy permits, and one renewal of the credentials at most, with no wait if it
succeeds. If waiting succeeds and responses can be closed, no wait is the last that is done. -/
theorem execute_orderly {init : Client.Initializer} (by_policy : RetriesBy policy init)
    (prepared : (Client.prepare host init s).result = .ok ()) {trace : List (Happening ε)}
    (life : Life host (Client.prepare host init s).state trace t) (limit : Nat) :
    let reply := execute host limit t
    (messages reply.events).length ≤ Policy.budgetOf policy + 1 ∧
      (Policy.budgetOf policy < limit → reply.result ≠ .ok none) ∧
      GoesInRounds (Policy.PermittedBy policy) reply.events ∧
      (host.Pauses (Policy.PermittedBy policy) → IsClosable reply.events →
        Policy.budgetOf policy < limit → IsFollowed reply.events) := by
  obtain ⟨u, state_eq⟩ := exists_prepare_state by_policy prepared
  rw [state_eq] at life
  have h : Prepared policy t := life_prepared (.of_installRetries policy u) life
  obtain ⟨orderly, -⟩ :=
    execute_of_disciplined (disciplined_prepared host policy) h limit h.retries
  exact ⟨orderly.messages_le, orderly.ends, orderly.trace, orderly.followed⟩

/-- A failure, a renewal and statuses until the budget is spent: one wait for the failure
and two for the statuses, each with a sending after it. -/
theorem execute_orderly_to_the_end :
    let reply := execute Rehearsal.untimedHost 9 Rehearsal.preparedStage
    (messages reply.events).length = 5 ∧ (waits reply.events).length = 3 ∧
      refreshes reply.events = 1 ∧
      GoesInRounds (Policy.PermittedBy (some Policy.clientDefault)) reply.events ∧
      IsFollowed reply.events := by
  intro reply
  have prepared : (Client.prepare Rehearsal.untimedHost Rehearsal.clientInitializer
      Rehearsal.clientStage).result = .ok () := rfl
  obtain ⟨-, -, trace, followed⟩ :=
    execute_orderly (.client (.int 0) (.int 0)) prepared .start 9
  have closable : IsClosable reply.events := by decide +kernel
  exact ⟨by decide +kernel, by decide +kernel, by decide +kernel, trace,
    followed (fun _ _ _ => rfl) closable (by decide)⟩

end Request

end HttpRetry

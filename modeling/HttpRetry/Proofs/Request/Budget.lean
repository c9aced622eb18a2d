import HttpRetry.Proofs.Rehearsal.Obliging

/-!
# Budgets and conclusions

Executions of a request whose handlers answer whatever they are asked.
`execute_concludes` gives the whole account of one that is finished, and
`messages_le_budget` the number of its sendings: the budget is exceeded exactly by
the retries that the handler of failures grants when none remain.
-/

namespace HttpRetry.Request

open Attempts

variable {σ ε : Type}

theorem execute_eq {host : Host σ ε} {stage : Stage σ} (h : stage.request.replaced = [])
    (limit : Nat) : execute host limit stage =
      Attempts.execute (exchange host) limit (fun stage => stage.request.budget) stage := by
  have checked : stage.request.checkPart .execution = .ok () := by simp [checkPart, h]
  simp [execute, bind, Act.andThen, checked]

variable {host : Host σ ε} {I : Stage σ → Prop} {installed : Question → Bool}

theorem account_execute (answers : (exchange host).Answers I installed) {stage : Stage σ}
    (keeps : I stage) (intact : stage.request.replaced = []) {n : Int}
    (budget : stage.request.retries.number? = some (.int n)) (limit : Nat) :
    Account (exchange host) I installed n 0 (execute host limit stage) := by
  have hb : stage.request.budget = .ok (.int n) := by
    simp only [Request.budget, checkPart, intact, budget]
    rfl
  rw [execute_eq intact]
  exact execute_account answers limit keeps (s := stage) hb

/-- Everything about an execution that is finished, from the outcomes of its sendings: all
but the last are failed ones, the last is what the execution ends with, each failed one
leads to one question with what remains of the budget, and each retry counts down by one. -/
theorem execute_concludes (answers : (exchange host).Answers I installed) {stage : Stage σ}
    (keeps : I stage) (intact : stage.request.replaced = []) {n : Int}
    (budget : stage.request.retries.number? = some (.int n)) (limit : Nat)
    (finished : (execute host limit stage).result ≠ .ok none) :
    let reply := execute host limit stage
    ∃ before last, outcomes reply.events = before ++ [last] ∧
      (messages reply.events).length = before.length + 1 ∧
      (∀ o ∈ before, o.isFailed = true) ∧
      Concludes last reply.result ∧
      (dialogue reply.events = (before ++ [last]).zipIdx.flatMap fun (o, i) =>
        .inl o :: (consulted installed (0 < n - i) o).map .inr) ∧
      ((Attempts.retries reply.events).map (·.2) =
        (List.range before.length).map fun k => .int (n - (k + 1))) := by
  have account := account_execute answers keeps intact budget limit
  obtain ⟨before, last, outcomes_eq, length_eq, failed, conclusion, -⟩ := account.finished finished
  refine ⟨before, last, outcomes_eq, ?_, failed, conclusion, ?_, ?_⟩
  · rw [account.sent, outcomes_eq, List.length_append, List.length_singleton]
  · rw [account.said, outcomes_eq]
  · rw [account.counted, length_eq, List.range_eq_range']

/-- One retry, and then a response that the handler would retry once more. -/
theorem concludes_of_unsuccessful :
    let reply := execute Rehearsal.host 3 (Rehearsal.scriptedStage 1 503 (.bool true))
    ∃ before last, outcomes reply.events = before ++ [last] ∧ before.length = 1 ∧
      (∀ o ∈ before, o.isFailed = true) ∧ Concludes last reply.result := by
  intro reply
  have finished : reply.result ≠ .ok none := fun h => by cases h
  have sent : (messages reply.events).length = 2 := by decide +kernel
  obtain ⟨before, last, outcomes_eq, length_eq, failed, conclusion, -⟩ :=
    execute_concludes (Rehearsal.answers_scriptedRequest 1)
      (Rehearsal.obliging_scriptedStage 1 503 ⟨_, rfl⟩ (.bool true)) rfl rfl 3 finished
  exact ⟨before, last, outcomes_eq, Nat.succ.inj (length_eq.symm.trans sent), failed, conclusion⟩

/-- The sendings of an execution exceed the budget by no more than the retries that the
handler of failures is granted when none remain. Once the execution is finished they exceed
it if there is such a retry, for which the handler has to grant one though told that none
remain. -/
theorem messages_le_budget (answers : (exchange host).Answers I installed) {stage : Stage σ}
    (keeps : I stage) (intact : stage.request.replaced = []) {n : Int}
    (budget : stage.request.retries.number? = some (.int n)) (limit : Nat) :
    let reply := execute host limit stage
    (messages reply.events).length ≤ n.toNat + 1 + overdrawn reply.events ∧
      (reply.result ≠ .ok none →
        (n.toNat + 1 < (messages reply.events).length ↔ 0 < overdrawn reply.events)) ∧
      (0 < overdrawn reply.events → Oversteps (exchange host) I) := by
  have account := account_execute answers keeps intact budget limit
  have bound := account.bound
  rw [Int.natCast_zero, Int.sub_zero] at bound
  refine ⟨by rwa [account.sent], fun finished => ?_, account.oversteps⟩
  obtain ⟨_, _, _, _, _, _, exceeds⟩ := account.finished finished
  rwa [account.sent, ← Int.sub_zero n]

/-- After a response the second retry is refused, whatever the handler answers. -/
theorem messages_le_budget_after_response :
    let reply := execute Rehearsal.host 4 (Rehearsal.scriptedStage 1 503 (.bool true))
    (messages reply.events).length = 2 ∧ overdrawn reply.events = 0 := by
  intro reply
  have finished : reply.result ≠ .ok none := fun h => by cases h
  have sent : (messages reply.events).length = 2 := by decide +kernel
  obtain ⟨-, exceeds, -⟩ := messages_le_budget (Rehearsal.answers_scriptedRequest 1)
    (Rehearsal.obliging_scriptedStage 1 503 ⟨_, rfl⟩ (.bool true)) rfl rfl 4
  refine ⟨sent, Nat.eq_zero_of_not_pos fun exceeding => ?_⟩
  have more := (exceeds finished).mpr exceeding
  rw [sent] at more
  exact absurd more (by decide)

/-- Without any budget a handler that always answers gets the message sent again after a
failure: the attempts themselves refuse a retry only after a response. -/
theorem messages_exceed_budget :
    let stage := Rehearsal.scriptedStage 0 200 (.bool true)
    (exchange Rehearsal.host).Answers (Rehearsal.Obliging stage.request) (fun _ => true) ∧
      Rehearsal.Obliging stage.request stage ∧ stage.request.retries = .int 0 ∧
      ¬ (messages (execute Rehearsal.host 3 stage).events).length ≤ (0 : Int).toNat + 1 := by
  refine ⟨Rehearsal.answers_scriptedRequest 0,
    Rehearsal.obliging_scriptedStage 0 200 ⟨_, rfl⟩ _, rfl, ?_⟩
  decide +kernel

end HttpRetry.Request

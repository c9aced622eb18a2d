import HttpRetry.Proofs.Request.Attempt

/-!
# Views of a trace

What the events of an execution say about its sendings, its retries, and the
questions that were asked in between.
-/

namespace HttpRetry.Attempts

abbrev Outcome : Type := Except Fault Response

def succeeded (r : Response) : Bool :=
  match r.status.int? with
  | some code => 200 ≤ code && code ≤ 299
  | none => false

namespace Outcome

def isFailed : Outcome → Bool
  | .error fault => fault.isConnectionFailure
  | .ok response => !succeeded response

def question (supportsRetry : Bool) : Outcome → Question
  | .error _ => .failure supportsRetry
  | .ok response => .response response supportsRetry

end Outcome

variable {σ φ : Type}

namespace Event

def message? : Event φ → Option Message
  | .sent message => some message
  | _ => none

def outcome? : Event φ → Option Outcome
  | .received outcome => some outcome
  | _ => none

def retry? : Event φ → Option (Log.RetryReason × Number)
  | .noted (.requestRetried reason remaining) => some (reason, remaining)
  | _ => none

def line? : Event φ → Option (Outcome ⊕ Question)
  | .received outcome => some (.inl outcome)
  | .asked question => some (.inr question)
  | _ => none

end Event

def messages (trace : List (Event φ)) : List Message :=
  trace.filterMap Event.message?

def outcomes (trace : List (Event φ)) : List Outcome :=
  trace.filterMap Event.outcome?

def retries (trace : List (Event φ)) : List (Log.RetryReason × Number) :=
  trace.filterMap Event.retry?

def dialogue (trace : List (Event φ)) : List (Outcome ⊕ Question) :=
  trace.filterMap Event.line?

/-- A retry after a failure to connect that was granted with none remaining. -/
def isOverdrawn : Log.RetryReason × Number → Bool
  | (.ioError, remaining) => remaining.lt 0
  | (.status _, _) => false

def overdrawn (trace : List (Event φ)) : Nat :=
  (retries trace).countP isOverdrawn

/-! ## Sendings and answers -/

section
variable {α : Type} (view : Event φ → Option α) (x : Exchange σ φ)

theorem filterMap_sending (m : Message) (s : σ) (h : ∀ event, view (.during event) = none) :
    (sending x m s).filterMap view =
      (view (.sent m)).toList ++ (view (.received (x.send m s).result)).toList := by
  have hd : ((x.send m s).events.map Event.during).filterMap view = [] := by
    simp [List.filterMap_map, h]
  cases h₁ : view (.sent m) <;> cases h₂ : view (.received (x.send m s).result) <;>
    simp [sending, hd, h₁, h₂]

theorem filterMap_ask (q : Question) (s : σ) (h : ∀ event, view (.answering q event) = none) :
    (ask x q s).events.filterMap view =
      if (x.handler q s).isSome then (view (.asked q)).toList else [] := by
  cases handler : x.handler q s with
  | none => simp [ask_apply_of_none handler]
  | some answer =>
    have ha : ((answer s).events.map (Event.answering q)).filterMap view = [] := by
      simp [List.filterMap_map, h]
    cases h₁ : view (.asked q) <;>
      simp [ask_apply_of_some handler, ha, h₁]

end

section
variable (x : Exchange σ φ) (m : Message) (q : Question) (s : σ)

@[simp] theorem messages_sending : messages (sending x m s) = [m] :=
  filterMap_sending _ x m s fun _ => rfl

@[simp] theorem outcomes_sending : outcomes (sending x m s) = [(x.send m s).result] :=
  filterMap_sending _ x m s fun _ => rfl

@[simp] theorem retries_sending : retries (sending x m s) = [] :=
  filterMap_sending _ x m s fun _ => rfl

@[simp] theorem dialogue_sending : dialogue (sending x m s) = [.inl (x.send m s).result] :=
  filterMap_sending _ x m s fun _ => rfl

@[simp] theorem messages_ask : messages (ask x q s).events = [] :=
  (filterMap_ask _ x q s fun _ => rfl).trans (ite_self _)

@[simp] theorem outcomes_ask : outcomes (ask x q s).events = [] :=
  (filterMap_ask _ x q s fun _ => rfl).trans (ite_self _)

@[simp] theorem retries_ask : retries (ask x q s).events = [] :=
  (filterMap_ask _ x q s fun _ => rfl).trans (ite_self _)

theorem dialogue_ask :
    dialogue (ask x q s).events = if (x.handler q s).isSome then [.inr q] else [] :=
  filterMap_ask _ x q s fun _ => rfl

@[simp] theorem messages_closing : messages (closing x s) = [] := by
  unfold closing; split <;> rfl

@[simp] theorem outcomes_closing : outcomes (closing x s) = [] := by
  unfold closing; split <;> rfl

@[simp] theorem retries_closing : retries (closing x s) = [] := by
  unfold closing; split <;> rfl

@[simp] theorem dialogue_closing : dialogue (closing x s) = [] := by
  unfold closing; split <;> rfl

end

section
variable (a b : List (Event φ)) (notice : Log.Notice) (r : Response) (m : Message)

@[simp] theorem messages_nil : messages ([] : List (Event φ)) = [] := rfl
@[simp] theorem outcomes_nil : outcomes ([] : List (Event φ)) = [] := rfl
@[simp] theorem retries_nil : retries ([] : List (Event φ)) = [] := rfl
@[simp] theorem dialogue_nil : dialogue ([] : List (Event φ)) = [] := rfl
@[simp] theorem messages_sent : messages (.sent m :: a) = m :: messages a := rfl
@[simp] theorem messages_noted : messages (.noted notice :: a) = messages a := rfl
@[simp] theorem outcomes_noted : outcomes (.noted notice :: a) = outcomes a := rfl
@[simp] theorem dialogue_noted : dialogue (.noted notice :: a) = dialogue a := rfl
@[simp] theorem messages_closed : messages (.closed r :: a) = messages a := rfl
@[simp] theorem outcomes_closed : outcomes (.closed r :: a) = outcomes a := rfl
@[simp] theorem retries_closed : retries (.closed r :: a) = retries a := rfl
@[simp] theorem dialogue_closed : dialogue (.closed r :: a) = dialogue a := rfl

@[simp] theorem retries_requestFailed (error : String) :
    retries (.noted (.requestFailed error) :: a) = retries a := rfl

@[simp] theorem retries_requestUnsuccessful (status : Value) :
    retries (.noted (.requestUnsuccessful status) :: a) = retries a := rfl

@[simp] theorem retries_requestRetried (reason : Log.RetryReason) (remaining : Number) :
    retries (.noted (.requestRetried reason remaining) :: a) = (reason, remaining) :: retries a :=
  rfl

@[simp] theorem messages_append : messages (a ++ b) = messages a ++ messages b :=
  List.filterMap_append ..

@[simp] theorem outcomes_append : outcomes (a ++ b) = outcomes a ++ outcomes b :=
  List.filterMap_append ..

@[simp] theorem retries_append : retries (a ++ b) = retries a ++ retries b :=
  List.filterMap_append ..

@[simp] theorem dialogue_append : dialogue (a ++ b) = dialogue a ++ dialogue b :=
  List.filterMap_append ..

end

end HttpRetry.Attempts

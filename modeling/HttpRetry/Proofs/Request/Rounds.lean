import HttpRetry.Proofs.Request.Waits

/-!
# Rounds

A round is what follows a sending, up to the next one. This module cuts traces into
rounds and says which rounds are in order; that those of executions are is shown
for any handlers whose answers are.
-/

namespace HttpRetry.Request

variable {σ ε : Type}

/-! ## Views -/

namespace Happening

def isSent : Happening ε → Bool
  | .sent _ => true
  | _ => false

def isAnswering : Happening ε → Bool
  | .answering .. => true
  | _ => false

def isBare : Happening ε → Bool
  | .asked (.response r _) => r.bare
  | _ => false

def wait? : Happening ε → Option Double
  | .answering _ event => event.wait?
  | _ => none

def isRefresh : Happening ε → Bool
  | .answering _ event => event.isRefresh
  | _ => false

def isRenewal : Happening ε → Bool
  | .answering _ event => event.isRenewal
  | _ => false

end Happening

def waits (trace : List (Happening ε)) : List Double :=
  trace.filterMap Happening.wait?

def refreshes (trace : List (Happening ε)) : Nat :=
  trace.countP Happening.isRefresh

def rounds : List (Happening ε) → List (List (Happening ε))
  | [] => []
  | event :: rest =>
    if Happening.isSent event then
      rest.takeWhile (fun e => !Happening.isSent e) :: rounds rest
    else rounds rest

/-- There is one wait at most, which is one of those permitted, and new credentials are
asked for once at most, with no wait if they are had. -/
structure IsOrderly (permits : Double → Prop) (round : List (Happening ε)) : Prop where
  waits_le : (waits round).length ≤ 1
  permitted : ∀ w ∈ waits round, permits w
  refreshes_le : refreshes round ≤ 1
  renewed : (∃ e ∈ round, Happening.isRenewal e = true) → waits round = []

def IsClosable (trace : List (Happening ε)) : Prop :=
  ∀ e ∈ trace, Happening.isBare e = false

instance (trace : List (Happening ε)) : Decidable (IsClosable trace) :=
  inferInstanceAs (Decidable (∀ e ∈ trace, Happening.isBare e = false))

/-- Every wait has a sending after it. -/
def IsFollowed (trace : List (Happening ε)) : Prop :=
  ∀ before q w after, trace = before ++ .answering q (.slept w) :: after →
    Attempts.messages after ≠ []

@[simp] theorem waits_append (a b : List (Happening ε)) : waits (a ++ b) = waits a ++ waits b :=
  List.filterMap_append ..

@[simp] theorem refreshes_append (a b : List (Happening ε)) :
    refreshes (a ++ b) = refreshes a + refreshes b :=
  List.countP_append

section
variable {events : List (Happening ε)} (h : ∀ e ∈ events, Happening.isAnswering e = false)
include h

theorem waits_of_unanswering : waits events = [] := by
  refine List.filterMap_eq_nil_iff.mpr fun e he => ?_
  have unanswering := h e he
  cases e with
  | answering => cases unanswering
  | _ => rfl

theorem refreshes_of_unanswering : refreshes events = 0 := by
  refine List.countP_eq_zero.mpr fun e he => ?_
  have unanswering := h e he
  cases e with
  | answering => cases unanswering
  | _ => simp [Happening.isRefresh]

theorem isRenewal_of_unanswering : ∀ e ∈ events, Happening.isRenewal e = false := by
  intro e he
  have unanswering := h e he
  cases e with
  | answering => cases unanswering
  | _ => rfl

end

section
variable {permits : Double → Prop} {a b events : List (Happening ε)}

theorem waits_frame (ha : ∀ e ∈ a, Happening.isAnswering e = false)
    (hb : ∀ e ∈ b, Happening.isAnswering e = false) : waits (a ++ events ++ b) = waits events := by
  simp [waits_of_unanswering ha, waits_of_unanswering hb]

/-- What happens around the question of a round is of no account. -/
theorem IsOrderly.frame (h : IsOrderly permits events)
    (ha : ∀ e ∈ a, Happening.isAnswering e = false)
    (hb : ∀ e ∈ b, Happening.isAnswering e = false) : IsOrderly permits (a ++ events ++ b) := by
  have waits_eq : waits (a ++ events ++ b) = waits events := waits_frame ha hb
  refine ⟨?_, ?_, ?_, ?_⟩
  · rw [waits_eq]
    exact h.waits_le
  · rw [waits_eq]
    exact h.permitted
  · simpa [refreshes_of_unanswering ha, refreshes_of_unanswering hb] using h.refreshes_le
  · rw [waits_eq]
    rintro ⟨e, he, renewal⟩
    rw [List.append_assoc, List.mem_append, List.mem_append] at he
    rcases he with he | he | he
    · simp [isRenewal_of_unanswering ha e he] at renewal
    · exact h.renewed ⟨e, he, renewal⟩
    · simp [isRenewal_of_unanswering hb e he] at renewal

theorem isOrderly_nil : IsOrderly permits ([] : List (Happening ε)) :=
  ⟨Nat.zero_le 1, by simp [waits], Nat.zero_le 1, fun _ => rfl⟩

/-! ## Rounds of longer traces -/

theorem isSent_eq_false (h : Attempts.messages events = []) :
    ∀ e ∈ events, Happening.isSent e = false := by
  intro e he
  have unsent := List.filterMap_eq_nil_iff.mp h e he
  cases e with
  | sent m => cases unsent
  | _ => rfl

theorem rounds_append_of_silent (h : Attempts.messages a = []) :
    rounds (a ++ b) = rounds b := by
  induction a with
  | nil => rfl
  | cons e rest ih =>
    have unsent := isSent_eq_false h
    have silent : Attempts.messages rest = [] :=
      List.filterMap_eq_nil_iff.mpr fun e he =>
        List.filterMap_eq_nil_iff.mp h e (List.mem_cons_of_mem _ he)
    rw [List.cons_append, rounds, if_neg (by simp [unsent e List.mem_cons_self]), ih silent]

theorem rounds_of_silent (h : Attempts.messages a = []) : rounds a = [] := by
  simpa [rounds] using rounds_append_of_silent (b := []) h

theorem rounds_sent_append (m : Message) (h : Attempts.messages a = []) :
    rounds (.sent m :: a ++ b) =
      (a ++ b.takeWhile fun e => !Happening.isSent e) :: rounds b := by
  rw [List.cons_append, rounds, if_pos (show Happening.isSent (.sent m) = true from rfl),
    rounds_append_of_silent h,
    List.takeWhile_append_of_pos fun e he => by simp [isSent_eq_false h e he]]

structure GoesInRounds (permits : Double → Prop) (trace : List (Happening ε)) : Prop where
  opening : ∀ e ∈ trace.takeWhile (fun e => !Happening.isSent e), Happening.isAnswering e = false
  orderly : ∀ round ∈ rounds trace, IsOrderly permits round
  permitted : ∀ w ∈ waits trace, permits w

theorem goesInRounds_of_silent (h : ∀ e ∈ a, Happening.isAnswering e = false)
    (silent : Attempts.messages a = []) : GoesInRounds permits a := by
  refine ⟨?_, ?_, ?_⟩
  · intro e he
    exact h e (List.takeWhile_subset _ he)
  · simp [rounds_of_silent silent]
  · simp [waits_of_unanswering h]

theorem GoesInRounds.sent (h : GoesInRounds permits b) (m : Message)
    (silent : Attempts.messages a = []) (orderly : IsOrderly permits a) :
    GoesInRounds permits (.sent m :: a ++ b) := by
  refine ⟨?_, ?_, ?_⟩
  · simp [Happening.isSent]
  · rw [rounds_sent_append m silent, List.forall_mem_cons]
    refine ⟨?_, h.orderly⟩
    simpa using orderly.frame (a := []) (by simp) h.opening
  · rw [waits_append, List.forall_mem_append]
    exact ⟨orderly.permitted, h.permitted⟩

/-! ## Waits of longer traces -/

theorem IsFollowed.append (ha : ∀ before q w after,
      a = before ++ .answering q (.slept w) :: after → Attempts.messages (after ++ b) ≠ [])
    (hb : IsFollowed b) : IsFollowed (a ++ b) := by
  intro before q w after trace_eq
  rcases List.append_eq_append_iff.mp trace_eq with ⟨mid, rfl, b_eq⟩ | ⟨mid, a_eq, after_eq⟩
  · exact hb mid q w after b_eq
  · cases mid with
    | nil => exact hb [] q w after (by simpa using after_eq.symm)
    | cons e mid =>
      rw [List.cons_append, List.cons.injEq] at after_eq
      obtain ⟨rfl, rfl⟩ := after_eq
      exact ha before q w mid a_eq

theorem isFollowed_of_waits (h : waits events = []) : IsFollowed events := by
  rintro before q w after rfl
  rw [waits_append, List.append_eq_nil_iff] at h
  cases h.2

end

end HttpRetry.Request

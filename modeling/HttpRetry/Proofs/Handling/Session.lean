import HttpRetry.Proofs.Handling.Stamps

/-!
# Handlers and the session

The handlers of this library leave a request its session. A handler made elsewhere may
do otherwise, so that it has to be assumed of those.
-/

namespace HttpRetry

namespace Handling

variable {σ ε : Type}

structure SameSession (s t : Stage σ) : Prop where
  session : t.request.session = s.request.session
  ownsSession : t.request.ownsSession = s.request.ownsSession

theorem SameSession.refl (s : Stage σ) : SameSession s s :=
  ⟨rfl, rfl⟩

theorem SameSession.trans {s t u : Stage σ} (h : SameSession s t) (h' : SameSession t u) :
    SameSession s u :=
  ⟨h'.session.trans h.session, h'.ownsSession.trans h.ownsSession⟩

theorem SameRequest.sameSession {s t : Stage σ} (h : SameRequest s t) : SameSession s t :=
  ⟨congrArg Request.session h, congrArg Request.ownsSession h⟩

theorem Restamped.sameSession {s t : Stage σ} (h : Restamped s t) : SameSession s t := by
  obtain ⟨headers, request_eq⟩ := h.request
  refine ⟨?_, ?_⟩
  · rw [request_eq]
  · rw [request_eq]

end Handling

/-- Handlers that are not of this library leave a request its session. -/
def Host.KeepsSession {σ ε : Type} (host : Host σ ε) : Prop :=
  ∀ index q, (host.consult index q).Keeps Handling.SameSession fun _ => True

namespace Handling

variable {σ ε : Type} {host : Host σ ε}

theorem ask_sameSession (keeps : host.KeepsSession) (h : Handler) (q : Question) :
    (ask host h q).Keeps SameSession fun _ => True := by
  have fails (fault : Fault) :
      (.fail fault : Act (Stage σ) (Event ε) Value).Keeps SameSession fun _ => True :=
    .fail .refl fault
  have notes (notice : Log.Notice) :
      (note notice : Act (Stage σ) (Event ε) Unit).Keeps SameSession fun _ => True :=
    .emit .refl trivial
  induction h generalizing q with
  | bearer =>
    cases q with
    | failure => exact fails _
    | response r supportsRetry =>
      intro s
      exact ⟨(answerBearer_renewed host r s).restamped.sameSession, fun _ _ => trivial⟩
  | status policy g =>
    cases q with
    | failure => exact fails _
    | response r supportsRetry =>
      exact (still_answerStatus host policy g r supportsRetry).weaken SameRequest.sameSession
        fun _ => trivial
  | failure g waiter =>
    cases q with
    | failure supportsRetry =>
      exact (still_answerFailure host g waiter supportsRetry).weaken SameRequest.sameSession
        fun _ => trivial
    | response => exact fails _
  | chain first second ih ih' =>
    cases q with
    | failure => exact fails _
    | response r supportsRetry =>
      simp only [ask]
      refine .bind .trans (ih _) fun granted => ?_
      by_cases truth : granted.isTrue = true
      · simp only [truth, if_true]
        exact .bind .trans (notes _) fun _ => .pure .refl _
      · simp only [truth, Bool.false_eq_true, if_false]
        refine .bind .trans (ih' _) fun answer => ?_
        exact .bind .trans (notes _) fun _ => .pure .refl _
  | external index =>
    intro s
    exact ⟨(keeps index q s).1, fun _ _ => trivial⟩
  | absent => exact fails _
  | improper => exact fails _

end Handling

end HttpRetry

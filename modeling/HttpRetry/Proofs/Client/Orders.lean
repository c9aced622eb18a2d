import HttpRetry.Client.Order

/-!
# Orders of requests

What a request has of the order that it is made from, and what an order has of the
arguments that it comes down from.
-/

namespace HttpRetry.Client

/-- The header fields are a mapping of their own, and everything else is taken over. -/
theorem of_make {id : String} {order : Order} {r : Request} (made : make id order = .ok r) :
    ∃ fields, order.headers.toEntries = .ok fields ∧ r.headers = .map fields ∧
      r.session = order.session ∧ r.ownsSession = .bool order.ownsSession := by
  unfold make at made
  cases method : upperMethod order.method with
  | error => simp [method, bind, Except.bind] at made
  | ok =>
    cases given : order.headers.toEntries with
    | error => simp [method, given, bind, Except.bind] at made
    | ok fields =>
      simp only [method, given, bind, Except.bind, pure, Except.pure, Except.ok.injEq] at made
      subst made
      exact ⟨fields, rfl, rfl, rfl, rfl⟩

def sessionGiven (named : List (String × Value)) : Value :=
  (named.lookup "session").getD .null

theorem session_of_order {way : Way} {url : Value} {named : List (String × Value)} {o : Order}
    (ordered : order way url named = .ok o) :
    o.ownsSession = (way.isStandalone && (sessionGiven named).isNull) ∧
      o.session = if (sessionGiven named).isTrue then .improper (sessionGiven named)
        else .session := by
  unfold order at ordered
  cases checked : checkNames way named with
  | error => simp [checked, bind, Except.bind] at ordered
  | ok =>
    simp only [checked, bind, Except.bind, pure, Except.pure, Except.ok.injEq] at ordered
    subst ordered
    exact ⟨rfl, rfl⟩

end HttpRetry.Client

import HttpRetry.Proofs.Handling.Bearer
import HttpRetry.Proofs.Value.Lookup

/-!
# Stamps

A stamp puts a token into the header fields of a request and leaves every other field as
it is. Of the handlers of this library only that of credentials stamps: when it does, it
has renewed the credentials and grants a retry, and when it grants none, it has not.
-/

namespace HttpRetry

/-! ## Header fields -/

namespace Request

def HasFieldsOf (built : Entries) (headers : Value) : Prop :=
  ∃ fields : Entries, headers = .map fields ∧ (fields.named authorization).length ≤ 1 ∧
    fields.erase (.text authorization) = built.erase (.text authorization)

/-- The fields are the given ones, except that the one field of authorization is that of a
bearer of the token. -/
def Carries (built : Entries) (token : Value) (headers : Value) : Prop :=
  ∃ (text : String) (fields : Entries), plainText token = .ok text ∧ headers = .map fields ∧
    fields.named authorization = [(.text authorization, .text ("Bearer " ++ text))] ∧
    fields.erase (.text authorization) = built.erase (.text authorization)

variable {built : Entries} {token headers : Value}

theorem Carries.hasFieldsOf (h : Carries built token headers) : HasFieldsOf built headers := by
  obtain ⟨text, fields, -, headers_eq, one, others⟩ := h
  exact ⟨fields, headers_eq, by simp [one], others⟩

theorem carries_withToken {r r' : Request} (h : HasFieldsOf built r.headers) {text : String}
    (shown : plainText token = .ok text) (stamped : r.withToken text = .ok r') :
    Carries built token r'.headers := by
  obtain ⟨fields, headers_eq, one, others⟩ := h
  simp only [withToken, setField, headers_eq, bind, Except.bind, pure, Except.pure,
    Except.ok.injEq] at stamped
  subst stamped
  refine ⟨text, _, shown, rfl, Entries.named_put_self one, ?_⟩
  rw [Entries.erase_put_self, others]

end Request

/-! ## What handlers stamp -/

/-- The handler is of this library, and so are those that it asks. -/
def Handler.IsOwn : Handler → Prop
  | .external _ => False
  | .chain first second => first.IsOwn ∧ second.IsOwn
  | _ => True

namespace Handling

open Request (Carries)

variable {σ ε α β : Type}

def Event.stamp? : Event ε → Option Value
  | .stamped token => some token
  | _ => none

def stamps (events : List (Event ε)) : List Value :=
  events.filterMap Event.stamp?

@[simp] theorem stamps_append (a b : List (Event ε)) : stamps (a ++ b) = stamps a ++ stamps b :=
  List.filterMap_append ..

@[simp] theorem stamps_stamped (token : Value) (a : List (Event ε)) :
    stamps (.stamped token :: a) = token :: stamps a := rfl

@[simp] theorem stamps_refreshing (a : List (Event ε)) : stamps (.refreshing :: a) = stamps a := rfl

@[simp] theorem stamps_nil : stamps ([] : List (Event ε)) = [] := rfl

@[simp] theorem stamps_outside (a : List ε) : stamps (a.map Event.outside) = [] := by
  simp [stamps, List.filterMap_map, Function.comp_def, Event.stamp?]

@[simp] theorem stamps_notices (notices : List Log.Notice) :
    stamps (notices.map (.noted : Log.Notice → Event ε)) = [] := by
  simp [stamps, List.filterMap_map, Function.comp_def, Event.stamp?]

def SameRequest (s t : Stage σ) : Prop :=
  t.request = s.request

theorem SameRequest.refl (s : Stage σ) : SameRequest s s :=
  rfl

theorem SameRequest.trans {s t u : Stage σ} (h : SameRequest s t) (h' : SameRequest t u) :
    SameRequest s u :=
  Eq.trans h' h

def Event.IsUnstamped (e : Event ε) : Prop :=
  e.stamp? = none

def latest (held : Value) (tokens : List Value) : Value :=
  tokens.getLast?.getD held

@[simp] theorem latest_nil (held : Value) : latest held [] = held := rfl

@[simp] theorem latest_singleton (held token : Value) : latest held [token] = token := rfl

theorem latest_append (held : Value) (a b : List Value) :
    latest held (a ++ b) = latest (latest held a) b := by
  simp [latest, List.getLast?_append, Option.getD_or]

/-- What an action comes to that stamps the request with the token of a source if it comes
to `granted`, and otherwise leaves the request alone. -/
inductive Stamped (source : Except Fault Value) (granted : α) (s : Stage σ)
    (reply : Reply (Stage σ) (Event ε) α) : Prop
  | still (result : reply.result ≠ .ok granted) (request : reply.state.request = s.request)
      (unstamped : stamps reply.events = [])
  | done {token text r} (given : source = .ok token) (shown : plainText token = .ok text)
      (fields : s.request.withToken text = .ok r) (result : reply.result = .ok granted)
      (request : reply.state.request = r) (stamps_eq : stamps reply.events = [token])

section
variable (host : Host σ ε) (s : Stage σ)

theorem stamp_stamped :
    Stamped (host.credentials.token s.outer).result () s (stamp host s) := by
  cases asked : host.credentials.token s.outer with
  | mk result outer events =>
    cases result with
    | error fault =>
      apply Stamped.still <;> simp [stamp, aside, bind, Act.andThen, asked]
    | ok token =>
      cases shown : plainText token with
      | error fault =>
        apply Stamped.still <;> simp [stamp, aside, bind, Act.andThen, asked, shown]
      | ok text =>
        cases fields : s.request.withToken text with
        | error fault =>
          apply Stamped.still <;> simp [stamp, aside, bind, Act.andThen, asked, shown, fields]
        | ok r =>
          apply Stamped.done rfl shown fields <;>
            simp [stamp, aside, bind, Act.andThen, asked, shown, fields]

def tokenRefreshed (outer : σ) : Except Fault Value :=
  ((host.credentials.refresh >>= fun _ => host.credentials.token) outer).result

theorem renew_stamped : Stamped (tokenRefreshed host s.outer) () s (renew host s) := by
  cases refreshed : host.credentials.refresh s.outer with
  | mk result outer events =>
    cases result with
    | error fault =>
      apply Stamped.still <;> simp [renew, aside, bind, Act.andThen, refreshed]
    | ok =>
      have source : tokenRefreshed host s.outer = (host.credentials.token outer).result := by
        rw [tokenRefreshed, Act.bind_apply_of_ok refreshed]
      have renewed : renew host s =
          let reply := stamp host { s with outer }
          ⟨reply.result, reply.state, .refreshing :: (events.map .outside ++ reply.events)⟩ := by
        simp [renew, aside, bind, Act.andThen, refreshed]
      rw [source, renewed]
      cases stamp_stamped host { s with outer } with
      | still result request unstamped => exact .still result request (by simpa using unstamped)
      | done given shown fields result request stamps_eq =>
        exact .done given shown fields result request (by simpa using stamps_eq)

theorem answerBearer_stamped (r : Response) :
    Stamped (tokenRefreshed host s.outer) (.bool true) s (answerBearer host r s) := by
  by_cases needed : Challenge.needsRefresh r = .ok true
  · obtain ⟨notices, -, reply_eq⟩ := answerBearer_of_needed host s needed
    rw [reply_eq]
    cases renew_stamped host s with
    | still result request unstamped =>
      refine .still ?_ request (by simp [unstamped])
      cases renewal : (renew host s).result with
      | ok => exact absurd renewal result
      | error fault =>
        cases expected : fault.isAboutCredentials <;> simp [renewal, answerTo, expected]
    | done given shown fields result request stamps_eq =>
      exact .done given shown fields (by simp [result, answerTo]) request (by simp [stamps_eq])
  · obtain ⟨result, reply_eq, refused⟩ := answerBearer_of_unneeded host s needed
    rw [reply_eq]
    refine .still ?_ rfl rfl
    intro granted
    cases refused _ granted

end

/-! ## Fields after an answer -/

structure Tracked (s : Stage σ) (reply : Reply (Stage σ) (Event ε) α) : Prop where
  request : ∃ headers, reply.state.request = { s.request with headers }
  carries : ∀ {built held}, Carries built held s.request.headers →
    Carries built (latest held (stamps reply.events)) reply.state.request.headers

theorem Stamped.tracked {source : Except Fault Value} {granted : α} {s : Stage σ}
    {reply : Reply (Stage σ) (Event ε) α} (h : Stamped source granted s reply) :
    Tracked s reply := by
  cases h with
  | still result request unstamped =>
    refine ⟨⟨s.request.headers, request⟩, fun carries => ?_⟩
    simpa [request, unstamped] using carries
  | done given shown fields result request stamps_eq =>
    subst request
    refine ⟨exists_of_withToken fields, fun carries => ?_⟩
    rw [stamps_eq, latest_singleton]
    exact Request.carries_withToken carries.hasFieldsOf shown fields

theorem Tracked.of_keeps {act : Act (Stage σ) (Event ε) α}
    (h : act.Keeps SameRequest Event.IsUnstamped) (s : Stage σ) :
    Tracked s (act s) := by
  obtain ⟨request, unstamped⟩ := h s
  refine ⟨⟨s.request.headers, request⟩, fun carries => ?_⟩
  rw [stamps, List.filterMap_eq_nil_iff.mpr unstamped, request]
  exact carries

theorem Tracked.bind {act : Act (Stage σ) (Event ε) α} {next : α → Act (Stage σ) (Event ε) β}
    {s : Stage σ} (h : Tracked s (act s)) (h' : ∀ a t, Tracked t (next a t)) :
    Tracked s ((act >>= next) s) := by
  cases reply : act s with
  | mk result t events =>
    rw [reply] at h
    cases result with
    | error fault =>
      rw [Act.bind_apply_of_error reply]
      exact ⟨h.request, h.carries⟩
    | ok a =>
      rw [Act.bind_apply_of_ok reply]
      obtain ⟨headers, request_eq⟩ := h.request
      obtain ⟨headers', request_eq'⟩ := (h' a t).request
      refine ⟨⟨headers', ?_⟩, fun carries => ?_⟩
      · rw [request_eq', request_eq]
      · rw [stamps_append, latest_append]
        exact (h' a t).carries (h.carries carries)

/-! ## Handlers that wait -/

section
variable (host : Host σ ε)

theorem still_aside (act : Act σ ε α) :
    (aside act).Keeps SameRequest Event.IsUnstamped := by
  intro s
  refine ⟨rfl, fun e he => ?_⟩
  obtain ⟨event, -, rfl⟩ := List.mem_map.mp he
  rfl

theorem still_note (notice : Log.Notice) :
    (note notice : Act (Stage σ) (Event ε) Unit).Keeps SameRequest Event.IsUnstamped :=
  .emit .refl (show Event.stamp? (.noted notice) = none from rfl)

theorem still_sleep (waiter : Value) (m : Number) :
    (sleep host waiter m).Keeps SameRequest Event.IsUnstamped := by
  refine .bind .trans (.ofExcept .refl _) fun seconds => ?_
  cases waiter with
  | sleeper =>
    exact .bind .trans (.emit .refl rfl) fun _ => still_aside _
  | _ => exact .fail .refl _

theorem still_nextWait (g : Nat) :
    (nextWait host g).Keeps SameRequest Event.IsUnstamped := by
  intro s
  cases present : s.generators[g]? with
  | none => simp [nextWait, bind, Act.andThen, present, SameRequest]
  | some b =>
    simp [nextWait_apply host present, drawnFrom, SameRequest, Event.IsUnstamped, Event.stamp?]

theorem still_waitNext (waiter : Value) (g : Nat) :
    (waitNext host waiter g).Keeps SameRequest Event.IsUnstamped := by
  refine .bind .trans (still_nextWait host g) fun next => ?_
  cases next with
  | none => exact .pure .refl _
  | some m =>
    exact .bind .trans (still_sleep host waiter m) fun _ => .pure .refl _

theorem still_answerFailure (g : Nat) (waiter : Value) (supportsRetry : Bool) :
    (answerFailure host g waiter supportsRetry).Keeps SameRequest Event.IsUnstamped := by
  cases supportsRetry with
  | false => exact .pure .refl _
  | true =>
    intro s
    obtain ⟨notices, -, reply_eq⟩ := answerFailure_apply host g s waiter
    obtain ⟨request, unstamped⟩ := still_waitNext host waiter g s
    rw [reply_eq]
    refine ⟨request, fun e he => ?_⟩
    rw [List.mem_append, List.mem_map] at he
    rcases he with he | ⟨notice, -, rfl⟩
    · exact unstamped e he
    · rfl

theorem still_waitForStatus (p : Policy) (g : Nat) (r : Response) :
    (waitForStatus host p g r).Keeps SameRequest Event.IsUnstamped := by
  refine .bind .trans (.read .refl _) fun today => ?_
  refine .bind .trans (.ofExcept .refl _) fun delay => ?_
  cases delay with
  | some millis =>
    exact .bind .trans (still_note _) fun _ => still_sleep host _ _
  | none =>
    refine .bind .trans (still_waitNext host _ g) fun made => ?_
    cases made with
    | true => exact .pure .refl _
    | false => exact still_note _

theorem still_answerStatus (policy : Option Policy) (g : Nat) (r : Response) (supportsRetry : Bool) :
    (answerStatus host policy g r supportsRetry).Keeps SameRequest Event.IsUnstamped := by
  cases supportsRetry with
  | false => exact .pure .refl _
  | true =>
    cases policy with
    | none => exact .fail .refl _
    | some p =>
      refine .bind .trans (.ofExcept .refl _) fun retryable => ?_
      cases retryable with
      | false => exact .pure .refl _
      | true =>
        exact .bind .trans (still_waitForStatus host p g r) fun _ =>
          .pure .refl _

/-- Whatever a handler of this library is asked, the fields carry the last token. -/
theorem ask_tracked {h : Handler} (own : h.IsOwn) (q : Question) (s : Stage σ) :
    Tracked s (ask host h q s) := by
  induction h generalizing q s with
  | external => exact own.elim
  | bearer =>
    cases q with
    | failure => exact .of_keeps (.fail .refl _) s
    | response r supportsRetry => exact (answerBearer_stamped host s r).tracked
  | status policy g =>
    cases q with
    | failure => exact .of_keeps (.fail .refl _) s
    | response r supportsRetry =>
      exact .of_keeps (still_answerStatus host policy g r supportsRetry) s
  | failure g waiter =>
    cases q with
    | failure supportsRetry => exact .of_keeps (still_answerFailure host g waiter supportsRetry) s
    | response => exact .of_keeps (.fail .refl _) s
  | chain first second ih ih' =>
    cases q with
    | failure => exact .of_keeps (.fail .refl _) s
    | response r supportsRetry =>
      have noted (notice : Log.Notice) (v : Value) (t : Stage σ) :
          Tracked t ((note notice >>= fun _ => pure v : Act (Stage σ) (Event ε) Value) t) :=
        .of_keeps (.bind .trans (still_note notice) fun _ => .pure .refl _) t
      simp only [ask]
      refine .bind (ih own.1 _ s) fun granted t => ?_
      by_cases truth : granted.isTrue = true
      · simpa only [truth, if_true] using noted _ _ t
      · simp only [truth, Bool.false_eq_true, if_false]
        exact .bind (ih' own.2 _ t) fun answer u => noted _ _ u
  | absent => exact .of_keeps (.fail .refl _) s
  | improper => exact .of_keeps (.fail .refl _) s

end

end Handling

end HttpRetry

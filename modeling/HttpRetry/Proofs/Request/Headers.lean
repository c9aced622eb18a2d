import HttpRetry.Proofs.Client.Orders
import HttpRetry.Proofs.Handling.Stamps
import HttpRetry.Proofs.Request.Prepared

/-!
# Header fields of messages

A request that a client has prepared sends the header fields it was built with and the
token that was stamped last. The invariant is on the request; the messages of a trace get
it from the stage that each of them is sent from.
-/

namespace HttpRetry.Request

open Attempts (ask attempt attempts messages sending)
open Handling (latest latest_append)

variable {σ ε : Type}

/-! ## Stamps of a trace -/

def Happening.stamp? : Happening ε → Option Value
  | .answering _ event => event.stamp?
  | _ => none

def stamps (trace : List (Happening ε)) : List Value :=
  trace.filterMap Happening.stamp?

@[simp] theorem stamps_append (a b : List (Happening ε)) : stamps (a ++ b) = stamps a ++ stamps b :=
  List.filterMap_append ..

@[simp] theorem stamps_asked (q : Question) (events : List (Handling.Event ε)) :
    stamps (.asked q :: events.map (.answering q)) = Handling.stamps events := by
  rw [stamps, List.filterMap_cons_none rfl, List.filterMap_map]
  rfl

theorem stamps_of_unanswering {events : List (Happening ε)}
    (h : ∀ e ∈ events, Happening.isAnswering e = false) : stamps events = [] := by
  refine List.filterMap_eq_nil_iff.mpr fun e he => ?_
  have unanswering := h e he
  cases e with
  | answering => cases unanswering
  | _ => rfl

/-! ## Messages of a trace -/

/-- Every message carries the token that was stamped last before it, or else the one held
when the trace begins. -/
def Carried (built : Entries) (held : Value) (trace : List (Happening ε)) : Prop :=
  ∀ before m after, trace = before ++ .sent m :: after →
    Carries built (latest held (stamps before)) m.headers

section
variable {built : Entries} {held : Value} {a b : List (Happening ε)}

theorem carried_of_silent (silent : messages a = []) : Carried built held a := by
  rintro before m after rfl
  simp at silent

theorem Carried.append (ha : Carried built held a) (hb : Carried built (latest held (stamps a)) b) :
    Carried built held (a ++ b) := by
  intro before m after trace_eq
  rcases List.append_eq_append_iff.mp trace_eq with ⟨mid, rfl, b_eq⟩ | ⟨mid, a_eq, after_eq⟩
  · rw [stamps_append, latest_append]
    exact hb mid m after b_eq
  · cases mid with
    | nil =>
      have a_eq : a = before := by simpa using a_eq
      subst a_eq
      exact hb [] m after (by simpa using after_eq.symm)
    | cons e mid =>
      rw [List.cons_append, List.cons.injEq] at after_eq
      obtain ⟨rfl, -⟩ := after_eq
      exact ha before m mid a_eq

theorem carried_sent {m : Message} (carries : Carries built held m.headers)
    (silent : messages a = []) : Carried built held (.sent m :: a) := by
  intro before m' after trace_eq
  cases before with
  | nil =>
    obtain ⟨rfl, -⟩ : m = m' ∧ a = after := by simpa using trace_eq
    exact carries
  | cons e before =>
    rw [List.cons_append, List.cons.injEq] at trace_eq
    obtain ⟨-, rfl⟩ := trace_eq
    simp at silent

end

theorem headers_of_message {r : Request} {m : Message} (h : r.message = .ok m) :
    m.headers = r.headers := by
  unfold message at h
  cases part : r.checkPart .sending with
  | error => simp [part, bind, Except.bind] at h
  | ok =>
    cases session : r.session with
    | improper => simp [part, session, bind, Except.bind] at h
    | session =>
      cases limits : r.timeout with
      | error => simp [part, session, limits, bind, Except.bind] at h
      | ok =>
        simp only [part, session, limits, bind, Except.bind, pure, Except.pure,
          Except.ok.injEq] at h
        subst h
        rfl

/-! ## Executions -/

structure Serving (built : Entries) (held : Value) (s : Stage σ) : Prop where
  own : ∀ q, (s.request.handlerFor q).IsOwn
  carries : Carries built held s.request.headers

structure Served {α : Type} (built : Entries) (held : Value)
    (reply : Reply (Stage σ) (Happening ε) α) : Prop where
  serving : Serving built (latest held (stamps reply.events)) reply.state
  carried : Carried built held reply.events

section
variable {built : Entries} {held : Value} {s : Stage σ}

theorem Serving.of_tracked {α : Type} (h : Serving built held s)
    {reply : Reply (Stage σ) (Handling.Event ε) α} (tracked : Handling.Tracked s reply) :
    Serving built (latest held (Handling.stamps reply.events)) reply.state := by
  refine ⟨fun q => ?_, tracked.carries h.carries⟩
  obtain ⟨headers, request_eq⟩ := tracked.request
  rw [request_eq]
  have own := h.own q
  cases q <;> exact own

theorem ask_serving (host : Host σ ε) (h : Serving built held s) (q : Question) :
    Serving built (latest held (stamps (ask (exchange host) q s).events))
      (ask (exchange host) q s).state := by
  cases absent : (s.request.handlerFor q).isAbsent with
  | true =>
    rw [ask_of_absent host absent]
    exact h
  | false =>
    rw [ask_exchange host absent]
    simp only [stamps_asked]
    exact h.of_tracked (Handling.ask_tracked host (h.own q) q s)

theorem attempt_served (host : Host σ ε) (h : Serving built held s) (remaining : Number) :
    Served built held (attempt (exchange host) remaining s) := by
  generalize attempt_eq : attempt (exchange host) remaining s = reply
  have passed := Attempts.attempt_passed (exchange host) remaining s
  rw [attempt_eq] at passed
  clear attempt_eq
  -- what the session does leaves the request alone
  have sent (m : Message) : Serving built held ((exchange host).send m s).state := ⟨h.own, h.carries⟩
  have unstamped (m : Message) : stamps (sending (exchange host) m s) = [] :=
    stamps_of_unanswering (unanswering_sending _ m s)
  cases passed with
  | unsent message reply_eq =>
    subst reply_eq
    exact ⟨h, carried_of_silent rfl⟩
  | unasked m message ends state_eq events_eq =>
    have headers_eq : m.headers = s.request.headers := headers_of_message message
    obtain ⟨during, sending_eq, silent⟩ := exists_sending (exchange host) m s
    refine ⟨?_, ?_⟩
    · rw [state_eq, events_eq, unstamped]
      exact sent m
    · rw [events_eq, sending_eq]
      exact carried_sent (headers_eq ▸ h.carries) silent
  | asked m q remarks ask_eq message supports state_eq events_eq remark =>
    have headers_eq : m.headers = s.request.headers := headers_of_message message
    obtain ⟨during, sending_eq, silent⟩ := exists_sending (exchange host) m s
    have serving := ask_serving host (sent m) q
    subst ask_eq
    refine ⟨?_, ?_⟩
    · rw [state_eq, events_eq, stamps_append, stamps_append, unstamped,
        stamps_of_unanswering (unanswering_remarks remark), List.nil_append, List.append_nil]
      exact serving
    · rw [events_eq, sending_eq]
      apply carried_sent (headers_eq ▸ h.carries)
      simp [silent, messages_of_remarks remark]

theorem attempts_served (host : Host σ ε) (limit : Nat) (h : Serving built held s)
    (remaining : Number) : Served built held (attempts (exchange host) limit remaining s) := by
  induction limit generalizing s held remaining with
  | zero => exact ⟨h, carried_of_silent rfl⟩
  | succ limit ih =>
    have first := attempt_served host h remaining
    by_cases again : (attempt (exchange host) remaining s).result = .ok none
    · rw [Attempts.attempts_succ_of_retry again]
      have rest := ih first.serving remaining.pred
      refine ⟨?_, first.carried.append rest.carried⟩
      simpa [latest_append] using rest.serving
    · rw [Attempts.attempts_succ_of_end again]
      exact first

theorem execute_served (host : Host σ ε) (limit : Nat) (h : Serving built held s) :
    Served built held (execute host limit s) := by
  generalize execute_eq : execute host limit s = reply
  have executed := execute_executed host limit s
  rw [execute_eq] at executed
  clear execute_eq
  cases executed with
  | unbegun result state_eq events_eq =>
    obtain ⟨unanswering, silent⟩ := unanswering_close events_eq
    refine ⟨?_, carried_of_silent silent⟩
    rw [state_eq, stamps_of_unanswering unanswering]
    exact h
  | @ended n close budget_eq result state_eq events_eq close_eq =>
    obtain ⟨unanswering, silent⟩ := unanswering_close close_eq
    have served := attempts_served host limit h n
    refine ⟨?_, ?_⟩
    · rw [state_eq, events_eq, stamps_append, stamps_of_unanswering unanswering, List.append_nil]
      exact served.serving
    · rw [events_eq]
      exact served.carried.append (carried_of_silent silent)

end

/-! ## Preparation -/

theorem prepare_serving {host : Host σ ε} {policy : Option Policy}
    {connectTimeout readTimeout : Value} {s : Stage σ} {built : Entries}
    (fields : HasFieldsOf built s.request.headers)
    (prepared : (Client.prepare host (.client policy connectTimeout readTimeout) s).result =
      .ok ()) :
    ∃ first, (host.credentials.token s.outer).result = .ok first ∧
      Serving built first
        (Client.prepare host (.client policy connectTimeout readTimeout) s).state := by
  have stamped := Handling.stamp_stamped host
    { s with request := { s.request with onResponse := .bearer } }
  have installed : Client.installCredentials host s =
      Handling.stamp host { s with request := { s.request with onResponse := .bearer } } := by
    simp [Client.installCredentials, Client.update, bind, Act.andThen]
  rw [← installed] at stamped
  cases reply : Client.installCredentials host s with
  | mk result t events =>
    rw [reply] at stamped
    cases stamped with
    | still result_ne =>
      cases result with
      | ok => exact absurd rfl result_ne
      | error fault => simp [Client.prepare, bind, Act.andThen, reply] at prepared
    | @done token text r given shown withToken result_eq request_eq =>
      have carries : Carries built token t.request.headers := by
        rw [request_eq]
        exact carries_withToken (r := { s.request with onResponse := .bearer }) fields shown withToken
      cases result_eq
      refine ⟨token, given, ?_, ?_⟩
      · intro q
        cases q <;> cases policy <;>
          simp [Client.prepare, Client.installRetries, Client.addGenerator, Client.update,
            Handling.note, bind, Act.andThen, reply, handlerFor, Handler.IsOwn]
      · cases policy <;>
          simpa [Client.prepare, Client.installRetries, Client.addGenerator, Client.update,
            Handling.note, bind, Act.andThen, reply] using carries

theorem hasFieldsOf_make {id : String} {order : Client.Order} {built : Entries} {r : Request}
    (fields : order.headers.toEntries = .ok built) (made : Client.make id order = .ok r) :
    HasFieldsOf built r.headers := by
  obtain ⟨fields', given, headers_eq, -⟩ := Client.of_make made
  obtain rfl : fields' = built := Except.ok.inj (given.symm.trans fields)
  exact ⟨fields', headers_eq, Value.named_toEntries fields authorization, rfl⟩

/-! ## The service of a request -/

structure Untouched (s t : Stage σ) : Prop where
  headers : t.request.headers = s.request.headers
  onFailure : t.request.onFailure = s.request.onFailure
  onResponse : t.request.onResponse = s.request.onResponse

/-- What happens to a request from a stage on: it is executed, its handlers are asked by
others too, and everything else goes its own way. -/
inductive Service (host : Host σ ε) (s : Stage σ) : List (Happening ε) → Stage σ → Prop
  | start : Service host s [] s
  | execute {trace t} (limit : Nat) (before : Service host s trace t) :
      Service host s (trace ++ (execute host limit t).events) (execute host limit t).state
  | asked {trace t} (q : Question) (before : Service host s trace t) :
      Service host s (trace ++ (ask (exchange host) q t).events) (ask (exchange host) q t).state
  | meanwhile {trace t u} (before : Service host s trace t) (untouched : Untouched t u) :
      Service host s trace u

theorem service_served {host : Host σ ε} {s t : Stage σ} {built : Entries} {first : Value}
    (h : Serving built first s) {trace : List (Happening ε)} (service : Service host s trace t) :
    Serving built (latest first (stamps trace)) t ∧ Carried built first trace := by
  induction service with
  | start => exact ⟨h, carried_of_silent rfl⟩
  | execute limit before ih =>
    obtain ⟨serving, carried⟩ := ih
    have served := execute_served host limit serving
    refine ⟨?_, carried.append served.carried⟩
    rw [stamps_append, latest_append]
    exact served.serving
  | asked q before ih =>
    obtain ⟨serving, carried⟩ := ih
    refine ⟨?_, carried.append (carried_of_silent (Attempts.messages_ask _ q _))⟩
    rw [stamps_append, latest_append]
    exact ask_serving host serving q
  | meanwhile before untouched ih =>
    obtain ⟨serving, carried⟩ := ih
    refine ⟨⟨fun q => ?_, ?_⟩, carried⟩
    · have own := serving.own q
      cases q with
      | failure => simpa [handlerFor, untouched.onFailure] using own
      | response => simpa [handlerFor, untouched.onResponse] using own
    · rw [untouched.headers]
      exact serving.carries

/-- Every message of a prepared request carries the fields that the request was built with
and one of authorization, with the token that the credentials gave first or the one stamped
last before it. The handler of credentials stamps if it grants a retry, with the token that
they give after their refresh, and otherwise leaves the request as it is. -/
theorem messages_carry {host : Host σ ε} {policy : Option Policy}
    {connectTimeout readTimeout : Value} {s t : Stage σ} {id : String} {order : Client.Order}
    {built : Entries} (fields : order.headers.toEntries = .ok built)
    (made : Client.make id order = .ok s.request)
    (prepared : (Client.prepare host (.client policy connectTimeout readTimeout) s).result =
      .ok ())
    {trace : List (Happening ε)}
    (service : Service host
      (Client.prepare host (.client policy connectTimeout readTimeout) s).state trace t) :
    (∃ first, (host.credentials.token s.outer).result = .ok first ∧
      ∀ before m after, trace = before ++ .sent m :: after →
        Carries built (latest first (stamps before)) m.headers) ∧
    ∀ (u : Stage σ) (r : Response),
      let reply := Handling.answerBearer host r u
      (reply.result = .ok (.bool true) → ∃ token,
        Handling.tokenRefreshed host u.outer = .ok token ∧
          Handling.stamps reply.events = [token]) ∧
      (reply.result ≠ .ok (.bool true) →
        Handling.stamps reply.events = [] ∧ reply.state.request = u.request) := by
  refine ⟨?_, fun u r => ?_⟩
  · obtain ⟨first, given, serving⟩ := prepare_serving (hasFieldsOf_make fields made) prepared
    exact ⟨first, given, (service_served serving service).2⟩
  · cases Handling.answerBearer_stamped host u r with
    | still result request unstamped =>
      exact ⟨fun granted => absurd granted result, fun _ => ⟨unstamped, request⟩⟩
    | done given shown withToken result request stamps_eq =>
      exact ⟨fun _ => ⟨_, given, stamps_eq⟩, fun refused => absurd result refused⟩

def fieldOrder : Client.Order :=
  { method := .text "GET", url := .text "https://example.com/v1"
    headers := .map [(.text "Accept", .text "text/plain")], json := .null, params := .null
    session := .session, ownsSession := false }

def fieldStage : Stage Rehearsal.ScriptedWorld :=
  { Rehearsal.clientStage with
    request := { Rehearsal.clientStage.request with headers := fieldOrder.headers } }

/-- The third message follows a renewal: it has the second token, and its own field still. -/
theorem messages_carry_renewed :
    let prepared := (Client.prepare Rehearsal.untimedHost Rehearsal.clientInitializer
      fieldStage).state
    let events := (execute Rehearsal.untimedHost 9 prepared).events
    ∃ m, events = events.take 16 ++ .sent m :: events.drop 17 ∧
      (messages (events.take 16)).length = 2 ∧
      Carries [(.text "Accept", .text "text/plain")] (.text "token-1") m.headers := by
  intro prepared events
  have fields : fieldOrder.headers.toEntries = .ok [(.text "Accept", .text "text/plain")] := rfl
  have made : Client.make "00000001" fieldOrder = .ok fieldStage.request := rfl
  have succeeds : (Client.prepare Rehearsal.untimedHost Rehearsal.clientInitializer
      fieldStage).result = .ok () := rfl
  have service : Service Rehearsal.untimedHost prepared events
      (execute Rehearsal.untimedHost 9 prepared).state := by
    rw [← List.nil_append events]
    exact .execute 9 .start
  obtain ⟨sent, renewed, third⟩ : (events[16]?).map Happening.isSent = some true ∧
      (stamps (events.take 16)).map Value.text? = [some "token-1"] ∧
      (messages (events.take 16)).length = 2 := by decide +kernel
  cases event : events[16]? with
  | none => simp [event] at sent
  | some e =>
    obtain ⟨lt, event⟩ := List.getElem?_eq_some_iff.mp event
    cases e with
    | sent m =>
      have events_eq : events = events.take 16 ++ .sent m :: events.drop 17 := by
        rw [← event, List.getElem_cons_drop, List.take_append_drop]
      obtain ⟨⟨first, -, carried⟩, -⟩ :=
        messages_carry fields made succeeds service
      have carries := carried _ m _ events_eq
      refine ⟨m, events_eq, third, ?_⟩
      cases given : stamps (events.take 16) with
      | nil => simp [given] at renewed
      | cons token rest =>
        rw [given] at renewed carries
        cases token with
        | text token =>
          obtain ⟨rfl, rfl⟩ : token = "token-1" ∧ rest = [] := by simpa [Value.text?] using renewed
          exact carries
        | _ => simp [Value.text?] at renewed
    | _ => simp [List.getElem?_eq_getElem lt, event, Happening.isSent] at sent

end HttpRetry.Request

import Mathlib.Data.List.TakeWhile
import HttpRetry.Proofs.Client.Orders
import HttpRetry.Proofs.Handling.Session
import HttpRetry.Proofs.Request.Prepared

/-!
# Releases

An execution closes what it is through with: a response that another sending follows is
closed once, before that sending, and the last response is left open. A session of the
request's own is closed at the end, whatever the end is, and any other stays open.
-/

namespace HttpRetry

namespace Attempts

variable {σ φ : Type}

/-! ## Responses that are closed -/

def Event.closure? : Event φ → Option Response
  | .closed response => some response
  | _ => none

def closures (trace : List (Event φ)) : List Response :=
  trace.filterMap Event.closure?

section
variable (x : Exchange σ φ) (m : Message) (q : Question) (s : σ) (a b : List (Event φ))

@[simp] theorem closures_sending : closures (sending x m s) = [] :=
  filterMap_sending _ x m s fun _ => rfl

@[simp] theorem closures_ask : closures (ask x q s).events = [] :=
  (filterMap_ask _ x q s fun _ => rfl).trans (ite_self _)

@[simp] theorem closures_closing : closures (closing x s) = [] := by
  unfold closing; split <;> rfl

@[simp] theorem closures_nil : closures ([] : List (Event φ)) = [] := rfl

@[simp] theorem closures_sent : closures (.sent m :: a) = closures a := rfl

@[simp] theorem closures_noted (notice : Log.Notice) :
    closures (.noted notice :: a) = closures a := rfl

@[simp] theorem closures_closed (r : Response) : closures (.closed r :: a) = r :: closures a := rfl

@[simp] theorem outcomes_sent : outcomes (.sent m :: a) = outcomes a := rfl

@[simp] theorem closures_append : closures (a ++ b) = closures a ++ closures b :=
  List.filterMap_append ..

end

/-- A round that came to one outcome, of which the response has been closed once. -/
def IsReleased (round : List (Event φ)) : Prop :=
  ∃ outcome, outcomes round = [outcome] ∧ closures round = outcome.toOption.toList

def IsKept (round : List (Event φ)) : Prop :=
  ∃ outcome, outcomes round = [outcome] ∧ closures round = []

inductive Parted (x : Exchange σ φ) (s : σ) (reply : Reply σ (Event φ) (Option Response)) : Prop
  | unsent {fault} (message : x.message s = .error fault) (reply_eq : reply = ⟨.error fault, s, []⟩)
  | kept (m : Message) (round : List (Event φ)) (events_eq : reply.events = .sent m :: round)
      (silent : messages round = []) (keeps : IsKept round) (ends : reply.result ≠ .ok none)
  | released (m : Message) (round : List (Event φ)) (events_eq : reply.events = .sent m :: round)
      (silent : messages round = []) (releases : IsReleased round)
      (again : reply.result = .ok none)

section
variable {x : Exchange σ φ} {s t : σ} {m : Message} {rest : List (Event φ)}
  {result : Except Fault (Option Response)}

/-- A sending begins a round, of which the rest is quiet but for what it closes. -/
theorem exists_round (silent : messages rest = []) (quiet : outcomes rest = []) :
    ∃ round, sending x m s ++ rest = .sent m :: round ∧ messages round = [] ∧
      outcomes round = [(x.send m s).result] ∧ closures round = closures rest := by
  have sent := messages_sending x m s
  have came := outcomes_sending x m s
  have opened := closures_sending x m s
  unfold sending at *
  rw [messages_sent, List.cons.injEq] at sent
  rw [outcomes_sent] at came
  rw [closures_sent] at opened
  rw [List.cons_append]
  refine ⟨_, rfl, ?_, ?_, ?_⟩
  · rw [messages_append, sent.2, silent, List.nil_append]
  · rw [outcomes_append, came, quiet, List.append_nil]
  · rw [closures_append, opened, List.nil_append]

theorem Parted.of_end (silent : messages rest = []) (quiet : outcomes rest = [])
    (opened : closures rest = []) (ends : result ≠ .ok none) :
    Parted x s ⟨result, t, sending x m s ++ rest⟩ := by
  obtain ⟨round, events_eq, round_silent, came, closed⟩ := exists_round (x := x) (m := m) (s := s)
    silent quiet
  exact .kept m round events_eq round_silent ⟨_, came, closed.trans opened⟩ ends

theorem Parted.of_retry (silent : messages rest = []) (quiet : outcomes rest = [])
    (closed : closures rest = (x.send m s).result.toOption.toList) :
    Parted x s ⟨.ok none, t, sending x m s ++ rest⟩ := by
  obtain ⟨round, events_eq, round_silent, came, closures_eq⟩ := exists_round (x := x) (m := m)
    (s := s) silent quiet
  exact .released m round events_eq round_silent ⟨_, came, closures_eq.trans closed⟩ rfl

end

theorem attempt_parted (x : Exchange σ φ) (remaining : Number) (s : σ) :
    Parted x s (attempt x remaining s) := by
  generalize attempt_eq : attempt x remaining s = reply
  have step : Attempted x remaining s reply := attempt_eq ▸ attempt_attempted x remaining s
  clear attempt_eq
  cases step with
  | unsent message => exact .unsent message rfl
  | broken message outcome foreign =>
    rw [← List.append_nil (sending _ _ _)]
    exact .of_end rfl rfl rfl (by simp)
  | failureUnanswered message outcome failure answer fails =>
    subst answer
    exact .of_end (by simp) (by simp) (by simp) (by simp)
  | failureFinal message outcome failure answer refused =>
    subst answer
    rw [List.append_assoc]
    exact .of_end (by simp) (by simp) (by simp) (by simp)
  | failureRetried message outcome failure answer granted =>
    subst answer
    rw [List.append_assoc]
    exact .of_retry (by simp) (by simp) (by simp [outcome, Except.toOption])
  | illegible message outcome status =>
    rw [← List.append_nil (sending _ _ _)]
    exact .of_end rfl rfl rfl (by simp)
  | succeeded message outcome status =>
    rw [← List.append_nil (sending _ _ _)]
    exact .of_end rfl rfl rfl (by simp)
  | responseUnanswered message outcome status answer fails =>
    subst answer
    exact .of_end (by simp) (by simp) (by simp) (by simp)
  | responseFinal message outcome status answer answered_eq refused =>
    subst answer
    rw [List.append_assoc]
    exact .of_end (by simp) (by simp) (by simp) (by simp)
  | unclosed message outcome status answer granted budget bare =>
    subst answer
    rw [List.append_assoc]
    exact .of_end (by simp) (by simp) (by simp) (by simp)
  | responseRetried message outcome status answer granted budget closable =>
    subst answer
    rw [List.append_assoc]
    exact .of_retry (by simp) (by simp) (by simp [outcome, Except.toOption])

/-! ## The session at the end -/

theorem session_open_attempt (x : Exchange σ φ) (remaining : Number) (s : σ) :
    Event.sessionClosed ∉ (attempt x remaining s).events := by
  have open_sending (m : Message) : Event.sessionClosed ∉ sending x m s := by
    simp [sending]
  cases attempt_passed x remaining s with
  | unsent message reply_eq =>
    rw [reply_eq]
    exact List.not_mem_nil
  | unasked m message ends state_eq events_eq =>
    rw [events_eq]
    exact open_sending m
  | asked m q remarks ask_eq message supports state_eq events_eq remark =>
    subst ask_eq
    rw [events_eq]
    intro he
    rw [List.mem_append, List.mem_append] at he
    rcases he with (he | he) | he
    · exact open_sending m he
    · obtain he | ⟨event, he⟩ := eq_of_mem_ask he
      · cases he
      · cases he
    · exact remark _ he

theorem session_open_attempts (x : Exchange σ φ) (limit : Nat) (remaining : Number) (s : σ) :
    Event.sessionClosed ∉ (attempts x limit remaining s).events := by
  induction limit generalizing remaining s with
  | zero => exact List.not_mem_nil
  | succ limit ih =>
    by_cases again : (attempt x remaining s).result = .ok none
    · rw [attempts_succ_of_retry again]
      intro he
      rcases List.mem_append.mp he with he | he
      · exact session_open_attempt x remaining s he
      · exact ih _ _ he
    · rw [attempts_succ_of_end again]
      exact session_open_attempt x remaining s

end Attempts

namespace Request

open Attempts (ask attempt attempts messages outcomes closures closing IsReleased IsKept)
open Handling (SameSession)

variable {σ ε : Type}

section
variable {host : Host σ ε} (keeps : host.KeepsSession)
include keeps

theorem ask_sameSession (q : Question) (s : Stage σ) :
    SameSession s (ask (exchange host) q s).state := by
  cases absent : (s.request.handlerFor q).isAbsent with
  | true =>
    rw [ask_of_absent host absent]
    exact .refl s
  | false =>
    rw [ask_exchange host absent]
    exact (Handling.ask_sameSession keeps _ q s).1

theorem attempt_sameSession (remaining : Number) (s : Stage σ) :
    SameSession s (attempt (exchange host) remaining s).state := by
  have sent (m : Message) : SameSession s ((exchange host).send m s).state := ⟨rfl, rfl⟩
  cases Attempts.attempt_passed (exchange host) remaining s with
  | unsent message reply_eq =>
    rw [reply_eq]
    exact .refl s
  | unasked m message ends state_eq events_eq =>
    rw [state_eq]
    exact sent m
  | asked m q remarks ask_eq message supports state_eq events_eq remark =>
    subst ask_eq
    rw [state_eq]
    exact (sent m).trans (ask_sameSession keeps q _)

theorem attempts_sameSession (limit : Nat) (remaining : Number) (s : Stage σ) :
    SameSession s (attempts (exchange host) limit remaining s).state := by
  induction limit generalizing remaining s with
  | zero => exact .refl s
  | succ limit ih =>
    have first := attempt_sameSession keeps remaining s
    by_cases again : (attempt (exchange host) remaining s).result = .ok none
    · rw [Attempts.attempts_succ_of_retry again]
      exact first.trans (ih _ _)
    · rw [Attempts.attempts_succ_of_end again]
      exact first

end

/-! ## Rounds and their responses -/

/-- Every round closes its response once if another follows, and nothing is closed before
the first. If the execution has ended, the last round closes nothing, unless another
sending was due whose message could not be put together. -/
structure Released (message : Except Fault Message) (result : Except Fault (Option Response))
    (trace : List (Happening ε)) : Prop where
  opening : closures (trace.takeWhile fun e => !Happening.isSent e) = []
  followed : ∀ round ∈ (rounds trace).dropLast, IsReleased round
  last : result ≠ .ok none → ∀ round ∈ (rounds trace).getLast?, IsKept round ∨
    IsReleased round ∧ ∃ fault, message = .error fault ∧ result = .error fault

structure ReleasedRun (message : Except Fault Message) (result : Except Fault (Option Response))
    (trace : List (Happening ε)) : Prop extends Released message result trace where
  quiet : outcomes (trace.takeWhile fun e => !Happening.isSent e) = []
  unsent : rounds trace = [] →
    result = .ok none ∨ ∃ fault, message = .error fault ∧ result = .error fault

section
variable {message : Except Fault Message} {result : Except Fault (Option Response)}
  {a b : List (Happening ε)}

theorem takeWhile_of_silent (silent : messages a = []) :
    a.takeWhile (fun e => !Happening.isSent e) = a := by
  refine List.takeWhile_eq_self_iff.mpr fun e he => ?_
  rw [isSent_eq_false silent e he]
  rfl

theorem released_of_silent (silent : messages a = []) (opened : closures a = []) :
    Released message result a := by
  have rounds_eq : rounds a = [] := rounds_of_silent silent
  refine ⟨?_, ?_, ?_⟩
  · rw [takeWhile_of_silent silent, opened]
  · simp [rounds_eq]
  · simp [rounds_eq]

theorem releasedRun_of_silent (silent : messages a = []) (quiet : outcomes a = [])
    (opened : closures a = [])
    (unsent : result = .ok none ∨ ∃ fault, message = .error fault ∧ result = .error fault) :
    ReleasedRun message result a := by
  refine ⟨released_of_silent silent opened, ?_, fun _ => unsent⟩
  rw [takeWhile_of_silent silent, quiet]

theorem releasedRun_of_kept (m : Message) (silent : messages a = []) (keeps : IsKept a)
    (silent' : messages b = []) (quiet : outcomes b = []) (opened : closures b = []) :
    ReleasedRun message result (.sent m :: a ++ b) := by
  have rounds_eq : rounds (.sent m :: a ++ b) = [a ++ b] := by
    rw [rounds_sent_append m silent, rounds_of_silent silent', takeWhile_of_silent silent']
  refine ⟨⟨?_, ?_, fun _ round last => ?_⟩, ?_, ?_⟩
  · simp [Happening.isSent]
  · rw [rounds_eq]
    simp
  · obtain ⟨outcome, came, kept⟩ := keeps
    rw [rounds_eq, List.getLast?_singleton, Option.mem_some_iff] at last
    subst last
    refine .inl ⟨outcome, ?_, ?_⟩
    · rw [Attempts.outcomes_append, came, quiet, List.append_nil]
    · rw [Attempts.closures_append, kept, opened, List.append_nil]
  · simp [Happening.isSent]
  · rw [rounds_eq]
    intro unsent
    cases unsent

theorem ReleasedRun.released (h : ReleasedRun message result b) (m : Message)
    (silent : messages a = []) (releases : IsReleased a) :
    ReleasedRun message result (.sent m :: a ++ b) := by
  obtain ⟨outcome, came, closed⟩ := releases
  have first : IsReleased (a ++ b.takeWhile fun e => !Happening.isSent e) := by
    refine ⟨outcome, ?_, ?_⟩
    · rw [Attempts.outcomes_append, came, h.quiet, List.append_nil]
    · rw [Attempts.closures_append, closed, h.opening, List.append_nil]
  have rounds_eq := rounds_sent_append (b := b) m silent
  refine ⟨⟨?_, ?_, fun ended round last => ?_⟩, ?_, ?_⟩
  · simp [Happening.isSent]
  · rw [rounds_eq]
    intro round he
    by_cases more : rounds b = []
    · simp [more] at he
    · rw [List.dropLast_cons_of_ne_nil more, List.mem_cons] at he
      rcases he with rfl | he
      · exact first
      · exact h.followed round he
  · rw [rounds_eq] at last
    cases more : rounds b with
    | nil =>
      rw [more, List.getLast?_singleton, Option.mem_some_iff] at last
      subst last
      exact .inr ⟨first, (h.unsent more).resolve_left ended⟩
    | cons next rest =>
      rw [more, List.getLast?_cons_cons, ← more] at last
      exact h.last ended round last
  · simp [Happening.isSent]
  · rw [rounds_eq]
    intro unsent
    cases unsent

end

theorem attempts_released {τ : Type} (x : Exchange τ (Handling.Event ε)) (limit : Nat)
    (remaining : Number) (s : τ) {close : List (Happening ε)} (silent : messages close = [])
    (quiet : outcomes close = []) (opened : closures close = []) :
    let reply := attempts x limit remaining s
    ReleasedRun (x.message reply.state) reply.result (reply.events ++ close) := by
  induction limit generalizing remaining s with
  | zero => exact releasedRun_of_silent silent quiet opened (.inl rfl)
  | succ limit ih =>
    have parted := Attempts.attempt_parted x remaining s
    by_cases again : (attempt x remaining s).result = .ok none
    · rw [Attempts.attempts_succ_of_retry again]
      cases parted with
      | unsent message reply_eq => simp [reply_eq] at again
      | kept m round events_eq silent keeps ends => exact absurd again ends
      | released m round events_eq round_silent releases =>
        simp only [events_eq, List.append_assoc]
        exact (ih _ _).released m round_silent releases
    · rw [Attempts.attempts_succ_of_end again]
      cases parted with
      | @unsent fault message reply_eq =>
        rw [reply_eq]
        exact releasedRun_of_silent silent quiet opened (.inr ⟨fault, message, rfl⟩)
      | kept m round events_eq round_silent keeps ends =>
        simp only [events_eq]
        exact releasedRun_of_kept m round_silent keeps silent quiet opened
      | released m round events_eq silent releases goes_on => exact absurd goes_on again

/-! ## Executions -/

section
variable {host : Host σ ε} {s t : Stage σ}

def OwnsASession (s : Stage σ) : Prop :=
  s.request.ownsSession.isTrue = true → s.request.session = .session

theorem closesSession (sound : OwnsASession s) (same : SameSession s t) :
    Attempts.ClosesSession (exchange host) t := by
  intro owns
  have session : t.request.session = .session := by
    rw [same.session]
    apply sound
    rw [← same.ownsSession]
    exact owns
  simp only [exchange, session]

theorem closing_of_sameSession (same : SameSession s t) :
    closing (exchange host) t = closing (exchange host) s := by
  have owns : (exchange host).ownsSession t = (exchange host).ownsSession s :=
    congrArg Value.isTrue same.ownsSession
  unfold closing
  rw [owns]

theorem execute_closing (keeps : host.KeepsSession) (sound : OwnsASession s)
    (whole : s.request.checkPart .execution = .ok ()) (limit : Nat) :
    let reply := execute host limit s
    Released reply.state.request.message reply.result reply.events ∧
      ∃ before, reply.events = before ++ closing (exchange host) s ∧
        .sessionClosed ∉ before := by
  have silent := Attempts.messages_closing (exchange host) s
  have opened := Attempts.closures_closing (exchange host) s
  rw [execute_of_whole host whole]
  cases begun : s.request.budget with
  | error fault =>
    rw [Attempts.execute_of_unbegun (closesSession sound (.refl s)) begun]
    exact ⟨released_of_silent silent opened, [], rfl, List.not_mem_nil⟩
  | ok n =>
    have same := attempts_sameSession keeps limit n s
    have run := attempts_released (exchange host) limit n s silent
      (Attempts.outcomes_closing (exchange host) s) opened
    rw [Attempts.execute_of_begun (closesSession sound same) begun]
    simp only [closing_of_sameSession same]
    exact ⟨run.toReleased, _, rfl, Attempts.session_open_attempts _ limit n s⟩

/-- What an execution is through with is closed, once: a response when another sending
follows it, before that one, and the session of a request that was built without any at the
very end, on whichever way the execution ends. The last response and the session that a
request was given are left open. -/
theorem execute_releases (keeps : host.KeepsSession) (sound : OwnsASession s) (limit : Nat) :
    let reply := execute host limit s
    Released reply.state.request.message reply.result reply.events ∧
      (s.request.ownsSession.isTrue = true → s.request.checkPart .execution = .ok () →
        ∃ before, reply.events = before ++ [.sessionClosed] ∧ .sessionClosed ∉ before) ∧
      (s.request.ownsSession.isTrue = false → .sessionClosed ∉ reply.events) ∧
      ∀ way url named order id r, Client.order way url named = .ok order →
        Client.make id order = .ok r →
        r.ownsSession.isTrue =
            (way.isStandalone && (Client.sessionGiven named).isNull) ∧
          (r.ownsSession.isTrue = true → r.session = .session) := by
  intro reply
  refine ⟨?_, ?_, ?_, ?_⟩
  · cases whole : s.request.checkPart .execution with
    | error fault =>
      simp only [reply, execute_of_replaced host whole]
      exact released_of_silent rfl rfl
    | ok => exact (execute_closing keeps sound whole limit).1
  · intro owns whole
    obtain ⟨-, before, events_eq, opened⟩ := execute_closing keeps sound whole limit
    refine ⟨before, ?_, opened⟩
    rw [events_eq]
    simp [closing, exchange, owns]
  · intro foreign
    cases whole : s.request.checkPart .execution with
    | error fault =>
      simp only [reply, execute_of_replaced host whole]
      exact List.not_mem_nil
    | ok =>
      obtain ⟨-, before, events_eq, opened⟩ := execute_closing keeps sound whole limit
      rw [events_eq]
      simpa [closing, exchange, foreign] using opened
  · intro way url named order id r ordered made
    obtain ⟨owns_eq, session_eq⟩ := Client.session_of_order ordered
    obtain ⟨-, -, -, session, ownsSession⟩ := Client.of_make made
    rw [ownsSession, session, session_eq, ← owns_eq]
    refine ⟨rfl, fun owns => ?_⟩
    change order.ownsSession = true at owns
    rw [owns_eq, Bool.and_eq_true] at owns
    cases given : Client.sessionGiven named with
    | null => rfl
    | _ => simp [given, Value.isNull] at owns

end

def grantingHost : Host Rehearsal.ScriptedWorld Rehearsal.Outside :=
  { Rehearsal.host with consult := fun _ _ => pure (.bool true) }

def ownStage : Stage Rehearsal.ScriptedWorld :=
  { Rehearsal.scriptedStage 2 503 .null with
    request := { Rehearsal.scriptedRequest 2 with ownsSession := .bool true } }

/-- Of three rounds the first has no response, the second closes its own, and the third keeps
it, although its handler grants a retry too. -/
theorem execute_releases_own :
    let reply := execute grantingHost 9 ownStage
    (rounds reply.events).map (fun round => (closures round).length) = [0, 1, 0] ∧
      Released reply.state.request.message reply.result reply.events ∧
      ∃ before, reply.events = before ++ [.sessionClosed] ∧ .sessionClosed ∉ before := by
  intro reply
  have keeps : grantingHost.KeepsSession := fun _ _ s => ⟨.refl s, fun _ _ => trivial⟩
  obtain ⟨released, closes, -⟩ := execute_releases keeps (s := ownStage) (fun _ => rfl) 9
  refine ⟨by decide +kernel, released, ?_⟩
  exact closes rfl rfl

end Request

end HttpRetry

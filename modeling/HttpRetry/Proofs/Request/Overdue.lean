import HttpRetry.Proofs.Handling.Draws
import HttpRetry.Proofs.Request.Prepared

/-!
# Retries without waits

The generators of a prepared request have a wait for every retry of the budget. In its
first execution a failure is therefore given up with retries left, or a response retried
without a wait, only when the generator's time is over.
-/

namespace HttpRetry.Request

open Attempts (ask attempt attempts messages sending)
open Handling (Equipped)

variable {σ ε : Type}

/-! ## Readings of the clock -/

def failureReading? : Happening ε → Option Int
  | .answering (.failure _) event => event.reading?
  | _ => none

def statusReading? : Happening ε → Option Int
  | .answering (.response ..) event => event.reading?
  | _ => none

def failureReadings (trace : List (Happening ε)) : List Int :=
  trace.filterMap failureReading?

def statusReadings (trace : List (Happening ε)) : List Int :=
  trace.filterMap statusReading?

section
variable (a b : List (Happening ε)) (events : List (Handling.Event ε)) (supportsRetry : Bool)
  (r : Response)

@[simp] theorem failureReadings_nil : failureReadings ([] : List (Happening ε)) = [] := rfl

@[simp] theorem statusReadings_nil : statusReadings ([] : List (Happening ε)) = [] := rfl

@[simp] theorem failureReadings_append :
    failureReadings (a ++ b) = failureReadings a ++ failureReadings b :=
  List.filterMap_append ..

@[simp] theorem statusReadings_append :
    statusReadings (a ++ b) = statusReadings a ++ statusReadings b :=
  List.filterMap_append ..

@[simp] theorem failureReadings_asked (q : Question) :
    failureReadings (.asked q :: a) = failureReadings a :=
  rfl

@[simp] theorem statusReadings_asked (q : Question) :
    statusReadings (.asked q :: a) = statusReadings a :=
  rfl

@[simp] theorem failureReadings_failure :
    failureReadings (events.map (.answering (.failure supportsRetry))) =
      Handling.readings events := by
  rw [failureReadings, List.filterMap_map]
  rfl

@[simp] theorem failureReadings_response :
    failureReadings (events.map (.answering (.response r supportsRetry))) = [] := by
  simp [failureReadings, List.filterMap_map, Function.comp_def, failureReading?]

@[simp] theorem statusReadings_failure :
    statusReadings (events.map (.answering (.failure supportsRetry))) = [] := by
  simp [statusReadings, List.filterMap_map, Function.comp_def, statusReading?]

@[simp] theorem statusReadings_response :
    statusReadings (events.map (.answering (.response r supportsRetry))) =
      Handling.readings events := by
  rw [statusReadings, List.filterMap_map]
  rfl

@[simp] theorem failureReadings_sending (x : Exchange (Stage σ) (Handling.Event ε)) (m : Message)
    (s : Stage σ) : failureReadings (sending x m s) = [] :=
  Attempts.filterMap_sending _ x m s fun _ => rfl

@[simp] theorem statusReadings_sending (x : Exchange (Stage σ) (Handling.Event ε)) (m : Message)
    (s : Stage σ) : statusReadings (sending x m s) = [] :=
  Attempts.filterMap_sending _ x m s fun _ => rfl

end

/-! ## Rounds -/

namespace Happening

def isGivenUp : Happening ε → Bool
  | .noted (.requestFailed _) => true
  | _ => false

def isAboutResponse : Happening ε → Bool
  | .asked (.response ..) => true
  | _ => false

end Happening

/-- After earlier readings, a round that gives a failure up is overdue, and so is one that
retries a response without new credentials and without a wait. -/
structure IsPunctual (failures statuses : List Int) (round : List (Happening ε)) : Prop where
  failure : (∃ e ∈ round, Happening.isGivenUp e = true) →
    Overdue (failures ++ failureReadings round)
  status : (∃ e ∈ round, Happening.isAboutResponse e = true) → Attempts.retries round ≠ [] →
    (∀ e ∈ round, Happening.isRenewal e = false) → waits round = [] →
    Overdue (statuses ++ statusReadings round)

def Happening.IsSession : Happening ε → Prop
  | .sent _ | .during _ | .received _ | .sessionClosed => True
  | _ => False

theorem Happening.IsSession.views {e : Happening ε} (session : Happening.IsSession e) :
    isGivenUp e = false ∧ isAboutResponse e = false := by
  cases e with
  | sent | received | during | sessionClosed => exact ⟨rfl, rfl⟩
  | _ => exact session.elim

theorem isSession_during (x : Exchange (Stage σ) (Handling.Event ε)) (m : Message)
    (s : Stage σ) : ∃ during, sending x m s = .sent m :: during ∧ messages during = [] ∧
      ∀ e ∈ during, Happening.IsSession e := by
  obtain ⟨during, sending_eq, silent⟩ := exists_sending x m s
  refine ⟨during, sending_eq, silent, fun e he => ?_⟩
  have mem : e ∈ sending x m s := sending_eq ▸ List.mem_cons_of_mem _ he
  rw [sending, List.mem_cons, List.mem_append, List.mem_map, List.mem_singleton] at mem
  rcases mem with rfl | ⟨event, -, rfl⟩ | rfl <;> trivial

section
variable {events : List (Happening ε)} (h : ∀ e ∈ events, Happening.IsSession e)
include h

theorem filterMap_session {α : Type} {view : Happening ε → Option α}
    (sent : ∀ m, view (.sent m) = none) (received : ∀ o, view (.received o) = none)
    (during : ∀ event, view (.during event) = none) (ended : view .sessionClosed = none) :
    events.filterMap view = [] := by
  refine List.filterMap_eq_nil_iff.mpr fun e he => ?_
  have session := h e he
  cases e with
  | sent m => exact sent m
  | received outcome => exact received outcome
  | during event => exact during event
  | sessionClosed => exact ended
  | _ => exact session.elim

theorem failureReadings_session : failureReadings events = [] :=
  filterMap_session h (fun _ => rfl) (fun _ => rfl) (fun _ => rfl) rfl

theorem statusReadings_session : statusReadings events = [] :=
  filterMap_session h (fun _ => rfl) (fun _ => rfl) (fun _ => rfl) rfl

theorem retries_session : Attempts.retries events = [] :=
  filterMap_session h (fun _ => rfl) (fun _ => rfl) (fun _ => rfl) rfl

theorem waits_session : waits events = [] :=
  filterMap_session h (fun _ => rfl) (fun _ => rfl) (fun _ => rfl) rfl

end

section
variable {failures statuses : List Int}

theorem exists_of_frame {view : Happening ε → Bool} {a b events : List (Happening ε)}
    (blind : ∀ e, Happening.IsSession e → view e = false) (ha : ∀ e ∈ a, Happening.IsSession e)
    (hb : ∀ e ∈ b, Happening.IsSession e) (h : ∃ e ∈ a ++ events ++ b, view e = true) :
    ∃ e ∈ events, view e = true := by
  obtain ⟨e, he, seen⟩ := h
  rw [List.mem_append, List.mem_append] at he
  rcases he with (he | he) | he
  · simp [blind e (ha e he)] at seen
  · exact ⟨e, he, seen⟩
  · simp [blind e (hb e he)] at seen

/-- What the session does decides nothing about a round. -/
theorem IsPunctual.frame {a b events : List (Happening ε)}
    (h : IsPunctual failures statuses events) (ha : ∀ e ∈ a, Happening.IsSession e)
    (hb : ∀ e ∈ b, Happening.IsSession e) : IsPunctual failures statuses (a ++ events ++ b) := by
  refine ⟨fun given => ?_, fun asked retried unrenewed idle => ?_⟩
  · have overdue := h.failure (exists_of_frame (fun _ session => session.views.1) ha hb given)
    simpa [failureReadings_session ha, failureReadings_session hb] using overdue
  · have asked' := exists_of_frame (fun _ session => session.views.2) ha hb asked
    simp only [Attempts.retries_append, retries_session ha, retries_session hb, List.nil_append,
      List.append_nil] at retried
    simp only [waits_append, waits_session ha, waits_session hb, List.nil_append,
      List.append_nil] at idle
    have overdue := h.status asked' retried
      (fun e he => unrenewed e (List.mem_append_left _ (List.mem_append_right _ he))) idle
    simpa [statusReadings_session ha, statusReadings_session hb] using overdue

theorem isPunctual_nil : IsPunctual failures statuses ([] : List (Happening ε)) :=
  ⟨by simp, by simp⟩

end

/-! ## Questions -/

section
variable (host : Host σ ε) {p : Policy} {f g n : Nat} {failures statuses : List Int}
  {s : Stage σ}

/-- The generators of the handlers, after readings of the clock, have `n` waits left or more. -/
structure Paced (p : Policy) (f g n : Nat) (failures statuses : List Int) (s : Stage σ) :
    Prop where
  forFailures : ∃ b, s.generators[f]? = some b ∧ p.Paces n failures b
  forStatuses : ∃ b, s.generators[g]? = some b ∧ p.Paces n statuses b

section
variable {ws ws' : List Double} (h : Equipped p f g ws ws' s)
  (paced : Paced p f g (n + 1) failures statuses s)
include h paced

theorem ask_failure_paced :
    let reply := ask (exchange host) (.failure true) s
    Paced p f g n (failures ++ failureReadings reply.events)
        (statuses ++ statusReadings reply.events) reply.state ∧
      (reply.result = .ok false → Overdue (failures ++ failureReadings reply.events)) := by
  obtain ⟨b, present, paces⟩ := paced.forFailures
  obtain ⟨c, other, others⟩ := paced.forStatuses
  have draws := Handling.answerFailure_draws host present paces p.sleeper
  rw [ask_exchange host (by simp [handlerFor, h.onFailure, Handler.isAbsent])]
  simp only [handlerFor, h.onFailure, Handling.ask]
  refine ⟨⟨by simpa using draws.generator, c, ?_, by simpa using others.pred⟩, fun refused => ?_⟩
  · rw [draws.others g h.apart.symm, other]
  · have overdue := draws.overdue (exists_of_map_ok refused)
    simpa using overdue

theorem ask_response_paced (r : Response) :
    let reply := ask (exchange host) (.response r true) s
    Paced p f g n (failures ++ failureReadings reply.events)
        (statuses ++ statusReadings reply.events) reply.state ∧
      (reply.result = .ok true → (∀ e ∈ reply.events, Happening.isRenewal e = false) →
        waits reply.events = [] → Overdue (statuses ++ statusReadings reply.events)) := by
  obtain ⟨b, other, others⟩ := paced.forFailures
  obtain ⟨c, present, paces⟩ := paced.forStatuses
  have draws := Handling.askResponse_draws host present paces p r
  rw [ask_exchange host (by simp [handlerFor, h.onResponse, Handler.isAbsent])]
  simp only [handlerFor, h.onResponse]
  refine ⟨⟨⟨b, ?_, by simpa using others.pred⟩, by simpa using draws.generator⟩,
    fun granted unrenewed idle => ?_⟩
  · rw [draws.others f h.apart, other]
  · have unrenewed' : ∀ e ∈ (Handling.ask host (.chain .bearer (.status (some p) g))
        (.response r true) s).events, e.isRenewal = false := fun e he =>
      unrenewed _ (List.mem_cons_of_mem _ (List.mem_map_of_mem he))
    have overdue := draws.overdue ⟨exists_of_map_ok granted, unrenewed', by simpa using idle⟩
    simpa using overdue

end

end

/-! ## Attempts -/

section
variable {host : Host σ ε} {p : Policy} {f g n : Nat} {failures statuses : List Int}
  {s : Stage σ}

theorem readings_remarks {remarks : List (Happening ε)} (remark : ∀ e ∈ remarks, e.IsRemark) :
    failureReadings remarks = [] ∧ statusReadings remarks = [] :=
  ⟨filterMap_remarks (fun _ => rfl) (fun _ => rfl) remark,
    filterMap_remarks (fun _ => rfl) (fun _ => rfl) remark⟩

theorem isPunctual_of_asked {q : Question} {remarks : List (Happening ε)}
    (remark : ∀ e ∈ remarks, e.IsRemark)
    (failure : ∀ error, .noted (.requestFailed error) ∈ remarks →
      Overdue (failures ++ failureReadings (ask (exchange host) q s).events))
    (status : ∀ r supportsRetry, q = .response r supportsRetry → Attempts.retries remarks ≠ [] →
      (∀ e ∈ (ask (exchange host) q s).events, Happening.isRenewal e = false) →
      waits (ask (exchange host) q s).events = [] →
      Overdue (statuses ++ statusReadings (ask (exchange host) q s).events)) :
    IsPunctual failures statuses ((ask (exchange host) q s).events ++ remarks) := by
  obtain ⟨failureReadings_eq, statusReadings_eq⟩ := readings_remarks remark
  have waits_eq : waits remarks = [] := waits_of_unanswering (unanswering_remarks remark)
  refine ⟨fun ⟨e, he, given⟩ => ?_, fun ⟨e, he, asked⟩ retried unrenewed idle => ?_⟩
  · rw [failureReadings_append, failureReadings_eq, List.append_nil]
    rcases List.mem_append.mp he with he | he
    · obtain rfl | ⟨_, rfl⟩ := Attempts.eq_of_mem_ask he <;> cases given
    · cases e with
      | noted notice =>
        cases notice with
        | requestFailed error => exact failure error he
        | _ => cases given
      | _ => cases given
  · rw [statusReadings_append, statusReadings_eq, List.append_nil]
    rw [Attempts.retries_append, Attempts.retries_ask, List.nil_append] at retried
    rw [waits_append, waits_eq, List.append_nil] at idle
    rcases List.mem_append.mp he with he | he
    · obtain rfl | ⟨_, rfl⟩ := Attempts.eq_of_mem_ask he
      · cases q with
        | failure => cases asked
        | response r supportsRetry =>
          exact status r supportsRetry rfl retried
            (fun e he => unrenewed e (List.mem_append_left _ he)) idle
      · cases asked
    · cases e with
      | asked => exact (remark _ he).elim
      | _ => cases asked

theorem ask_punctual {ws ws' : List Double} (h : Equipped p f g ws ws' s)
    (paced : Paced p f g (n + 1) failures statuses s) {q : Question}
    (supports : q.supportsRetry = true) {remarks : List (Happening ε)}
    (remark : ∀ e ∈ remarks, e.IsRemark)
    (affirmed : Attempts.retries remarks ≠ [] → (ask (exchange host) q s).result = .ok true)
    (refused : ∀ error, .noted (.requestFailed error) ∈ remarks →
      (ask (exchange host) q s).result = .ok false ∧ ∃ b, q = .failure b) :
    IsPunctual failures statuses ((ask (exchange host) q s).events ++ remarks) ∧
      Paced p f g n (failures ++ failureReadings (ask (exchange host) q s).events)
        (statuses ++ statusReadings (ask (exchange host) q s).events)
        (ask (exchange host) q s).state := by
  cases q with
  | failure supportsRetry =>
    obtain rfl : supportsRetry = true := supports
    obtain ⟨paced', overdue⟩ := ask_failure_paced host h paced
    refine ⟨isPunctual_of_asked remark (fun error noted => ?_) (by simp), paced'⟩
    exact overdue (refused error noted).1
  | response r supportsRetry =>
    obtain rfl : supportsRetry = true := supports
    obtain ⟨paced', overdue⟩ := ask_response_paced host h paced r
    refine ⟨isPunctual_of_asked remark (fun error noted => ?_) ?_, paced'⟩
    · obtain ⟨_, impossible⟩ := (refused error noted).2
      cases impossible
    · intro _ _ _ retried
      exact overdue (affirmed retried)

structure PunctualAttempt (p : Policy) (f g n : Nat) (failures statuses : List Int)
    (reply : Reply (Stage σ) (Happening ε) (Option Response)) : Prop where
  round : (reply.events = [] ∧ reply.result ≠ .ok none) ∨
    ∃ m round, reply.events = .sent m :: round ∧ messages round = [] ∧
      (0 < n → IsPunctual failures statuses round)
  continues : reply.result = .ok none → ∃ k, n = k + 1 ∧
    Paced p f g k (failures ++ failureReadings reply.events)
      (statuses ++ statusReadings reply.events) reply.state

theorem attempt_punctual (host : Host σ ε) {ws ws' : List Double} (h : Equipped p f g ws ws' s)
    (paced : Paced p f g n failures statuses s) :
    PunctualAttempt p f g n failures statuses (attempt (exchange host) (.int n) s) := by
  generalize attempt_eq : attempt (exchange host) (.int n) s = reply
  have passed := Attempts.attempt_passed (exchange host) (.int n) s
  rw [attempt_eq] at passed
  clear attempt_eq
  cases passed with
  | unsent message reply_eq =>
    subst reply_eq
    exact ⟨.inl ⟨rfl, by simp⟩, by simp⟩
  | unasked m message ends state_eq events_eq =>
    obtain ⟨during, sending_eq, silent, session⟩ := isSession_during (exchange host) m s
    rw [sending_eq] at events_eq
    refine ⟨.inr ⟨m, during, events_eq, silent, fun _ => ?_⟩, fun again => absurd again ends⟩
    simpa using isPunctual_nil.frame (b := []) session (by simp)
  | asked m q remarks ask_eq message supports state_eq events_eq remark granted continues retried
      affirmed refused =>
    obtain ⟨during, sending_eq, silent, session⟩ := isSession_during (exchange host) m s
    have sent := equipped_send host h m
    have paced_sent : Paced p f g n failures statuses ((exchange host).send m s).state :=
      ⟨paced.forFailures, paced.forStatuses⟩
    subst ask_eq
    have round_eq : reply.events = .sent m :: (during ++
        ((ask (exchange host) q ((exchange host).send m s).state).events ++ remarks) ++ []) := by
      simp [events_eq, sending_eq]
    have silent_round : messages (during ++
        ((ask (exchange host) q ((exchange host).send m s).state).events ++ remarks) ++ []) = [] := by
      simp [silent, messages_of_remarks remark]
    have supports_eq : q.supportsRetry = decide (0 < (n : Int)) :=
      supports.trans (Number.lt_int 0 n)
    cases n with
    | zero =>
      refine ⟨.inr ⟨m, _, round_eq, silent_round, fun some_left => absurd some_left (by simp)⟩,
        fun again => ?_⟩
      -- with no retries left none is granted
      obtain ⟨yes, ⟨supportsRetry, rfl⟩ | positive⟩ := granted again
      · have answered : Answered host p.Permits (.failure supportsRetry) _ _ :=
          answered_of_equipped sent _
        have supported : (Question.failure supportsRetry).supportsRetry = true :=
          answered.budgeted supportsRetry rfl yes
        simp [supported] at supports_eq
      · simp [supports.trans positive] at supports_eq
    | succ k =>
      obtain ⟨punctual, paced'⟩ :=
        ask_punctual sent paced_sent (by simp [supports_eq]) remark affirmed refused
      obtain ⟨failureReadings_eq, statusReadings_eq⟩ := readings_remarks remark
      refine ⟨.inr ⟨m, _, round_eq, silent_round, fun _ => punctual.frame session (by simp)⟩,
        fun _ => ⟨k, rfl, ?_⟩⟩
      rw [state_eq, events_eq]
      simpa [failureReadings_eq, statusReadings_eq] using paced'

/-! ## Runs of attempts -/

/-- Nothing but the end of the session comes before the first sending, and the first `n`
rounds are punctual. -/
structure Spaced (n : Nat) (failures statuses : List Int) (trace : List (Happening ε)) :
    Prop where
  opening : ∀ e ∈ trace.takeWhile (fun e => !Happening.isSent e), Happening.IsSession e
  punctual : ∀ earlier round later, rounds trace = earlier ++ round :: later →
    earlier.length < n → IsPunctual (failures ++ failureReadings earlier.flatten)
      (statuses ++ statusReadings earlier.flatten) round

theorem spaced_of_silent {close : List (Happening ε)} (session : ∀ e ∈ close, Happening.IsSession e)
    (silent : messages close = []) : Spaced n failures statuses close := by
  refine ⟨fun e he => session e (List.takeWhile_subset _ he), fun earlier round later cut => ?_⟩
  rw [rounds_of_silent silent] at cut
  simp at cut

theorem Spaced.sent {a b : List (Happening ε)} (m : Message) (silent : messages a = [])
    (punctual : 0 < n → IsPunctual failures statuses a)
    (h : Spaced (n - 1) (failures ++ failureReadings a) (statuses ++ statusReadings a) b) :
    Spaced n failures statuses (.sent m :: a ++ b) := by
  refine ⟨by simp [Happening.isSent], fun earlier round later cut within => ?_⟩
  rw [rounds_sent_append m silent] at cut
  cases earlier with
  | nil =>
    obtain ⟨rfl, rfl⟩ := List.cons.inj cut
    simpa using (punctual within).frame (a := []) (by simp) h.opening
  | cons first earlier =>
    rw [List.cons_append, List.cons.injEq] at cut
    obtain ⟨rfl, cut⟩ := cut
    have later_punctual := h.punctual earlier round later cut (Nat.lt_sub_of_add_lt within)
    simpa [failureReadings_session h.opening, statusReadings_session h.opening] using later_punctual

/-- A run with `n` retries left, before the session is closed. -/
theorem attempts_punctual {ws ws' : List Double} (limit : Nat) (h : Equipped p f g ws ws' s)
    (paced : Paced p f g n failures statuses s) {close : List (Happening ε)}
    (session : ∀ e ∈ close, Happening.IsSession e) (silent : messages close = []) :
    Spaced n failures statuses ((attempts (exchange host) limit (.int n) s).events ++ close) := by
  induction limit generalizing s n failures statuses ws ws' with
  | zero => exact spaced_of_silent session silent
  | succ limit ih =>
    have first := attempt_punctual host h paced
    by_cases again : (attempt (exchange host) (.int n) s).result = .ok none
    · obtain ⟨k, rfl, paced'⟩ := first.continues again
      have pred_eq : (Number.int (k + 1 : Nat)).pred = .int k := by
        simp [Number.pred]
      have rest := ih (attempt_equipped host h _).1 paced'
      rw [Attempts.attempts_succ_of_retry again, pred_eq, List.append_assoc]
      obtain ⟨-, ends⟩ | ⟨m, round, events_eq, silent_round, punctual⟩ := first.round
      · exact absurd again ends
      · rw [events_eq] at rest ⊢
        exact rest.sent m silent_round punctual
    · rw [Attempts.attempts_succ_of_end again]
      obtain ⟨events_eq, -⟩ | ⟨m, round, events_eq, silent_round, punctual⟩ := first.round
      · rw [events_eq]
        exact spaced_of_silent session silent
      · rw [events_eq]
        exact (spaced_of_silent session silent).sent m silent_round punctual

end

/-! ## Executions -/

section
variable {host : Host σ ε} {p : Policy} {s t : Stage σ}

theorem session_close {close : List (Happening ε)} (h : close = [] ∨ close = [.sessionClosed]) :
    ∀ e ∈ close, Happening.IsSession e := by
  rcases h with rfl | rfl
  · simp
  · simp [Happening.IsSession]

theorem execute_spaced (host : Host σ ε) {f g n : Nat} {ws ws' : List Double}
    {failures statuses : List Int} (h : Equipped p f g ws ws' s) (limit : Nat)
    (retries : s.request.retries = .int n) (paced : Paced p f g n failures statuses s) :
    Spaced n failures statuses (execute host limit s).events := by
  generalize execute_eq : execute host limit s = reply
  have executed := execute_executed host limit s
  rw [execute_eq] at executed
  clear execute_eq
  cases executed with
  | unbegun result state_eq events_eq =>
    exact spaced_of_silent (session_close events_eq) (unanswering_close events_eq).2
  | @ended m close budget_eq result state_eq events_eq close_eq =>
    obtain rfl : m = .int n := budget_of_retries retries budget_eq
    rw [events_eq]
    exact attempts_punctual limit h paced (session_close close_eq) (unanswering_close close_eq).2

theorem paced_installRetries (p : Policy) (s : Stage σ) :
    Paced p (s.generators.length + 1) s.generators.length p.maxRetries [] []
      ((Client.installRetries .bearer (some p) :
        Act (Stage σ) (Handling.Event ε) Unit) s).state := by
  rw [installRetries_apply]
  have paces := Policy.paces_newBackoff (p := p)
  refine ⟨⟨p.newBackoff, ?_, paces⟩, p.newBackoff, ?_, paces⟩
  · simp
  · simp

theorem Paced.of_undisturbed {f g n : Nat} {ws ws' : List Double} {failures statuses : List Int}
    (paced : Paced p f g n failures statuses s) (h : Equipped p f g ws ws' s)
    (undisturbed : Undisturbed s t) : Paced p f g n failures statuses t := by
  obtain ⟨b, present, paces⟩ := paced.forFailures
  obtain ⟨c, present', paces'⟩ := paced.forStatuses
  refine ⟨⟨b, ?_, paces⟩, c, ?_, paces'⟩
  · rw [undisturbed.generators f (by simp [h.onFailure, Handler.generators]), present]
  · rw [undisturbed.generators g (by simp [h.onResponse, Handler.generators]), present']

/-- In the first execution of a request that is prepared with a policy, every round that
has retries of the budget left is punctual: however failures and statuses take turns, no
generator runs out of waits before the budget is spent. -/
theorem execute_punctual {init : Client.Initializer} (by_policy : RetriesBy (some p) init)
    (prepared : (Client.prepare host init s).result = .ok ())
    (undisturbed : Undisturbed (Client.prepare host init s).state t) (limit : Nat)
    {earlier later : List (List (Happening ε))} {round : List (Happening ε)}
    (cut : rounds (execute host limit t).events = earlier ++ round :: later)
    (remain : earlier.length < p.maxRetries) :
    IsPunctual (failureReadings earlier.flatten) (statusReadings earlier.flatten) round := by
  obtain ⟨u, state_eq⟩ := exists_prepare_state by_policy prepared
  rw [state_eq] at undisturbed
  have equipped := equipped_installRetries (ε := ε) p u
  have retries : t.request.retries = .int p.maxRetries := by
    rw [undisturbed.retries, installRetries_apply]
  have spaced := execute_spaced host (equipped_of_undisturbed equipped undisturbed) limit
    retries ((paced_installRetries p u).of_undisturbed equipped undisturbed)
  simpa using spaced.punctual earlier round later cut remain

end

/-- With waits of a thousand seconds the second of two statuses is retried without one, and
the second of two failures is given up with a retry left. -/
theorem execute_punctual_late :
    let all := rounds (execute Rehearsal.slowHost 9 (Client.prepare Rehearsal.slowHost
      Rehearsal.clientInitializer Rehearsal.failingStage).state).events
    all.length = 4 ∧
      Overdue (statusReadings (all.take 1).flatten ++ statusReadings (all.getD 1 [])) ∧
      Overdue (failureReadings (all.take 3).flatten ++ failureReadings (all.getD 3 [])) := by
  intro all
  have prepared : (Client.prepare Rehearsal.slowHost Rehearsal.clientInitializer
      Rehearsal.failingStage).result = .ok () := rfl
  have length_eq : all.length = 4 := by decide +kernel
  have punctual (i : Nat) (within : i < 4) : IsPunctual (failureReadings (all.take i).flatten)
      (statusReadings (all.take i).flatten) (all.getD i []) := by
    have lt : i < all.length := length_eq ▸ within
    have cut : all = all.take i ++ all.getD i [] :: all.drop (i + 1) := by
      rw [List.getD_eq_getElem?_getD, List.getElem?_eq_getElem lt, Option.getD_some,
        ← List.drop_eq_getElem_cons lt, List.take_append_drop]
    have remain : (all.take i).length < Policy.clientDefault.maxRetries := by
      rw [List.length_take_of_le lt.le]
      exact within
    exact execute_punctual (.client (.int 0) (.int 0)) prepared ⟨rfl, rfl, rfl, fun _ _ => rfl⟩ 9
      cut remain
  exact ⟨length_eq,
    (punctual 1 (by decide)).status (by decide +kernel) (by decide +kernel) (by decide +kernel)
      (by decide +kernel),
    (punctual 3 (by decide)).failure (by decide +kernel)⟩

end HttpRetry.Request

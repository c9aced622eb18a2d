import HttpRetry.Proofs.Request.Account
import HttpRetry.Rehearsal.Scripted
import HttpRetry.Request.Execution

/-!
# Obliging rehearsals

In a rehearsal whose responses are whole and whose scripted handlers only answer,
the executions of a request with such handlers meet the assumptions of accounts. A
request with scripted handlers and one that a client has prepared are the runs on which
general statements are tried.
-/

namespace HttpRetry.Rehearsal

theorem mem_of_takeTurn {α : Type} {items rest : List α} {a : α}
    (h : takeTurn items = some (a, rest)) : a ∈ items ∧ ∀ b ∈ rest, b ∈ items := by
  cases items with
  | nil => simp [takeTurn] at h
  | cons first others =>
    cases others with
    | nil =>
      obtain ⟨rfl, rfl⟩ : first = a ∧ [first] = rest := by simpa [takeTurn] using h
      exact ⟨List.mem_singleton_self _, fun _ hb => hb⟩
    | cons second others =>
      obtain ⟨rfl, rfl⟩ : first = a ∧ second :: others = rest := by simpa [takeTurn] using h
      exact ⟨List.mem_cons_self, fun _ hb => List.mem_cons_of_mem _ hb⟩

/-- The request is `r`, the responses to come are whole, and scripted handlers only answer. -/
structure Obliging (r : Request) (stage : Stage ScriptedWorld) : Prop where
  request : stage.request = r
  whole : ∀ response, Outcome.response response ∈ stage.outer.outcomes → response.IsWhole
  answers : ∀ handler ∈ stage.outer.handlers, ∀ turn ∈ handler.turns, ∃ v, turn = .answer v

variable {r : Request} {stage : Stage ScriptedWorld}

theorem Obliging.send (h : Obliging r stage) (m : Message) :
    Obliging r ((Request.exchange host).send m stage).state ∧
      ∀ response, ((Request.exchange host).send m stage).result = .ok response →
        response.IsWhole := by
  cases taken : takeTurn stage.outer.outcomes with
  | none =>
    simp only [Request.exchange, Handling.aside, host, World.deliver, bind, Act.andThen,
      Act.within_apply, Act.read_apply, taken, Act.fail_apply]
    exact ⟨h, fun _ hr => by cases hr⟩
  | some turn =>
    obtain ⟨outcome, rest⟩ := turn
    obtain ⟨first, others⟩ := mem_of_takeTurn taken
    cases outcome with
    | response response =>
      simp only [Request.exchange, Handling.aside, host, World.deliver, bind, Act.andThen,
        Act.within_apply, Act.read_apply, taken, Act.change_apply, Act.pure_apply]
      refine ⟨⟨h.request, fun r hr => h.whole r (others _ hr), h.answers⟩, fun r hr => ?_⟩
      cases hr
      exact h.whole response first
    | failure kind message =>
      simp only [Request.exchange, Handling.aside, host, World.deliver, bind, Act.andThen,
        Act.within_apply, Act.read_apply, taken, Act.change_apply, Act.fail_apply]
      exact ⟨⟨h.request, fun r hr => h.whole r (others _ hr), h.answers⟩, fun _ hr => by cases hr⟩

theorem Obliging.consult (h : Obliging r stage) (index : Nat) (q : Question) :
    (∃ v, (Rehearsal.consult index q stage).result = .ok v) ∧
      Obliging r (Rehearsal.consult index q stage).state := by
  cases found : stage.outer.handlers[index]? with
  | none => simpa [Rehearsal.consult, bind, Act.andThen, found] using h
  | some handler =>
    have known := h.answers handler (List.mem_of_getElem? found)
    cases taken : takeTurn handler.turns with
    | none => simpa [Rehearsal.consult, bind, Act.andThen, found, taken] using h
    | some turn =>
      obtain ⟨turn, turns⟩ := turn
      obtain ⟨first, others⟩ := mem_of_takeTurn taken
      obtain ⟨v, rfl⟩ := known turn first
      simp only [Rehearsal.consult, bind, Act.andThen, Act.read_apply, found, Act.emit_apply,
        taken, Act.change_apply, follow, Act.pure_apply]
      refine ⟨⟨v, rfl⟩, h.request, h.whole, fun other hm turn ht => ?_⟩
      obtain hm | rfl := List.mem_or_eq_of_mem_set hm
      · exact h.answers other hm turn ht
      · exact known turn (others turn ht)

theorem answers_of_obliging {m : Message} (message : r.message = .ok m)
    (session : r.session = .session)
    (scripted : ∀ q, r.handlerFor q = .absent ∨ ∃ index, r.handlerFor q = .external index) :
    (Request.exchange host).Answers (Obliging r) fun q => !(r.handlerFor q).isAbsent where
  message s h := ⟨m, by simpa [Request.exchange, h.request] using message⟩
  send s m h := (h.send m).1
  whole s m response h := (h.send m).2 response
  handler s q h := by
    simp only [Request.exchange, h.request]
    cases (r.handlerFor q).isAbsent <;> rfl
  answer s q answer h installed := by
    simp only [Request.exchange, h.request] at installed
    obtain absent | ⟨index, external⟩ := scripted q
    · simp [absent, Handler.isAbsent] at installed
    · simp only [external, Handler.isAbsent, Bool.false_eq_true, if_false,
        Option.some.injEq] at installed
      subst installed
      simpa [Handling.ask, host] using h.consult index q
  close s h := by simp [Request.exchange, h.request, session]

/-! ## A rehearsal of one request -/

def scriptedRequest (retries : Int) : Request :=
  { id := .text "00000001", method := .text "GET", url := .text "https://example.com/v1"
    headers := .map [], json := .null, params := .null, session := .session
    ownsSession := .bool false, connectTimeout := .int 0, readTimeout := .int 0
    retries := .int retries, onResponse := .external 0, onFailure := .external 0, replaced := [] }

/-- The request before a session that loses its first connection and responds with a status
from then on, and a handler that always gives one answer. -/
def scriptedStage (retries status : Int) (answer : Value) : Stage ScriptedWorld :=
  { request := scriptedRequest retries
    generators := []
    outer :=
      { clock := .seconds (Double.zero false), today := ⟨⟨2024, 1, 1, 0, 0, 0⟩, 0⟩
        surroundings := ⟨[], []⟩
        outcomes := [.failure "ConnectionError" "down", .response (.ofStatus status)]
        backend := [], holder := .none
        handlers := [⟨.text "s", [.answer answer]⟩] } }

theorem answers_scriptedRequest (retries : Int) :
    (Request.exchange host).Answers (Obliging (scriptedRequest retries)) fun _ => true := by
  have handler_eq : ∀ q, (scriptedRequest retries).handlerFor q = .external 0 := by
    rintro (_ | _) <;> rfl
  have h := answers_of_obliging (r := scriptedRequest retries) rfl rfl
    fun q => .inr ⟨0, handler_eq q⟩
  simpa only [handler_eq, Handler.isAbsent, Bool.not_false] using h

theorem isWhole_ofStatus {status : Int} (shown : ∃ text, plainText (.int status) = .ok text) :
    (Response.ofStatus status).IsWhole :=
  ⟨⟨status, rfl⟩, shown, rfl, "Reason", rfl⟩

theorem obliging_scriptedStage (retries status : Int)
    (shown : ∃ text, plainText (.int status) = .ok text) (answer : Value) :
    Obliging (scriptedRequest retries) (scriptedStage retries status answer) where
  request := rfl
  whole response h := by
    obtain rfl : response = .ofStatus status := by simpa [scriptedStage] using h
    exact isWhole_ofStatus shown
  answers handler hm turn ht := by
    obtain rfl := List.mem_singleton.mp hm
    exact ⟨answer, List.mem_singleton.mp ht⟩

/-! ## A rehearsal of a client's request -/

def untimedHost : Host ScriptedWorld Outside :=
  { host with pause := fun _ => pure () }

def slowHost : Host ScriptedWorld Outside :=
  { host with pause := fun _ => World.pause (Double.ofInt 1000000) }

def clientStage : Stage ScriptedWorld :=
  { request := { scriptedRequest 0 with onResponse := .absent, onFailure := .absent }
    generators := []
    outer :=
      { clock := .millis 0, today := ⟨⟨2024, 1, 1, 0, 0, 0⟩, 0⟩
        surroundings := ⟨[], []⟩
        outcomes := [.failure "ConnectionError" "down", .response (.ofStatus 401),
          .response (.ofStatus 503)]
        backend := [], holder := .counting 0 []
        handlers := [] } }

def failingStage : Stage ScriptedWorld :=
  { clientStage with
    outer :=
      { clientStage.outer with
        outcomes := [.response (.ofStatus 503), .response (.ofStatus 503),
          .failure "ConnectionError" "down"] } }

def clientInitializer : Client.Initializer :=
  .client (some Policy.clientDefault) (.int 0) (.int 0)

def preparedStage : Stage ScriptedWorld :=
  (Client.prepare untimedHost clientInitializer clientStage).state

end HttpRetry.Rehearsal

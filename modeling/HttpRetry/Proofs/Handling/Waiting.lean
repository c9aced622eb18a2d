import HttpRetry.Proofs.Act
import HttpRetry.Proofs.Backoff.Waits
import HttpRetry.Proofs.RetryAfter
import HttpRetry.Request.Handling

/-!
# Handlers that wait

What the handlers of a policy do when they are asked: at most one wait, of a length
that the policy allows, and no step of the generator where the server's delay is
waited for.
-/

namespace HttpRetry

/-- Waits of these lengths come to an end without a fault. -/
def Host.Pauses {σ ε : Type} (host : Host σ ε) (permits : Double → Prop) : Prop :=
  ∀ w, permits w → ∀ s, (host.pause w s).result = .ok ()

def Policy.Permits (p : Policy) (w : Double) : Prop :=
  ∃ m, p.Allows m ∧ m.millisToSeconds = .ok w

namespace Handling

variable {σ ε α : Type}

namespace Event

def wait? : Event ε → Option Double
  | slept w => some w
  | _ => none

def isRefresh : Event ε → Bool
  | refreshing => true
  | _ => false

def isRenewal : Event ε → Bool
  | noted (.tokenRefreshed _) => true
  | _ => false

end Event

def waits (events : List (Event ε)) : List Double :=
  events.filterMap Event.wait?

@[simp] theorem waits_nil : waits ([] : List (Event ε)) = [] := rfl

@[simp] theorem waits_append (a b : List (Event ε)) : waits (a ++ b) = waits a ++ waits b :=
  List.filterMap_append ..

@[simp] theorem waits_drawn (g : Nat) (now : Except RangeError Int) (a : List (Event ε)) :
    waits (.drawn g now :: a) = waits a := rfl

@[simp] theorem waits_slept (w : Double) (a : List (Event ε)) :
    waits (.slept w :: a) = w :: waits a := rfl

@[simp] theorem waits_noted (notice : Log.Notice) (a : List (Event ε)) :
    waits (.noted notice :: a) = waits a := rfl

@[simp] theorem waits_refreshing (a : List (Event ε)) : waits (.refreshing :: a) = waits a := rfl

@[simp] theorem waits_outside (a : List ε) : waits (a.map Event.outside) = [] := by
  simp [waits, List.filterMap_map, Function.comp_def, Event.wait?]

@[simp] theorem waits_notices (notices : List Log.Notice) :
    waits (notices.map (.noted : Log.Notice → Event ε)) = [] := by
  simp [waits, List.filterMap_map, Function.comp_def, Event.wait?]

def refreshes (events : List (Event ε)) : Nat :=
  events.countP Event.isRefresh

@[simp] theorem refreshes_nil : refreshes ([] : List (Event ε)) = 0 := rfl

@[simp] theorem refreshes_append (a b : List (Event ε)) :
    refreshes (a ++ b) = refreshes a + refreshes b :=
  List.countP_append

@[simp] theorem refreshes_refreshing (a : List (Event ε)) :
    refreshes (.refreshing :: a) = refreshes a + 1 :=
  List.countP_cons_of_pos rfl

@[simp] theorem refreshes_noted (notice : Log.Notice) (a : List (Event ε)) :
    refreshes (.noted notice :: a) = refreshes a :=
  List.countP_cons_of_neg (by simp [Event.isRefresh])

@[simp] theorem refreshes_notices (notices : List Log.Notice) :
    refreshes (notices.map (.noted : Log.Notice → Event ε)) = 0 := by
  simp [refreshes, List.countP_eq_zero, Event.isRefresh]

theorem refreshes_eq_zero {events : List (Event ε)} (h : ∀ e ∈ events, e.isRefresh = false) :
    refreshes events = 0 :=
  List.countP_eq_zero.mpr fun e he => by simp [h e he]

/-! ## Waits -/

/-- What an action comes to that may wait by a policy whose generator has made the waits
`past`. With `given` the generator is not asked, and a wait grants `granted`. -/
structure Waited (host : Host σ ε) (p : Policy) (g : Nat) (past : List Double) (given : Bool)
    (granted : α) (s : Stage σ) (reply : Reply (Stage σ) (Event ε) α) : Prop where
  request : reply.state.request = s.request
  generator : ∃ b, reply.state.generators[g]? = some b ∧
    p.Serves (past ++ if given then [] else waits reply.events) b
  others : ∀ i, i ≠ g → reply.state.generators[i]? = s.generators[i]?
  still : given = true → reply.state.generators = s.generators
  length_le : (waits reply.events).length ≤ 1
  permitted : ∀ w ∈ waits reply.events, p.Permits w
  quiet : ∀ e ∈ reply.events, e.isRefresh = false ∧ e.isRenewal = false
  returns : host.Pauses p.Permits → waits reply.events ≠ [] → reply.result = .ok granted

/-- What follows a wait without another one leaves it as it is. -/
theorem Waited.append {β : Type} {host : Host σ ε} {p : Policy} {g : Nat} {past : List Double}
    {given : Bool} {granted : α} {granted' : β} {s : Stage σ}
    {reply : Reply (Stage σ) (Event ε) α} {reply' : Reply (Stage σ) (Event ε) β}
    (h : Waited host p g past given granted s reply) (notices : List Log.Notice)
    (state_eq : reply'.state = reply.state)
    (events_eq : reply'.events = reply.events ++ notices.map .noted)
    (quiet : ∀ notice ∈ notices, Event.isRenewal (.noted notice : Event ε) = false)
    (returns : reply.result = .ok granted → reply'.result = .ok granted') :
    Waited host p g past given granted' s reply' := by
  have waits_eq : waits reply'.events = waits reply.events := by
    simp [events_eq]
  refine ⟨by rw [state_eq, h.request], ?_, fun i hi => by rw [state_eq, h.others i hi],
    fun hg => by rw [state_eq, h.still hg], ?_, ?_, fun e he => ?_, fun pauses made => ?_⟩
  · rw [state_eq, waits_eq]
    exact h.generator
  · rw [waits_eq]
    exact h.length_le
  · rw [waits_eq]
    exact h.permitted
  · rw [events_eq, List.mem_append, List.mem_map] at he
    rcases he with he | ⟨notice, hn, rfl⟩
    · exact h.quiet e he
    · exact ⟨rfl, quiet notice hn⟩
  · rw [waits_eq] at made
    exact returns (h.returns pauses made)

theorem sleep_of_callable {host : Host σ ε} {m : Number} {w : Double}
    (hw : m.millisToSeconds = .ok w) (s : Stage σ) :
    sleep host .sleeper m s =
      let reply := host.pause w s.outer
      ⟨reply.result, { s with outer := reply.state }, .slept w :: reply.events.map .outside⟩ := by
  simp [sleep, aside, bind, Act.andThen, hw]

theorem sleep_of_not_callable (host : Host σ ε) {waiter : Value} (h : waiter ≠ .sleeper)
    (m : Number) (s : Stage σ) :
    ∃ fault, sleep host waiter m s = ⟨.error fault, s, []⟩ := by
  cases hw : m.millisToSeconds with
  | error e => exact ⟨.range e, by simp [sleep, bind, Act.andThen, hw]⟩
  | ok w =>
    refine ⟨.notCallable waiter.typeName, ?_⟩
    cases waiter with
    | sleeper => exact absurd rfl h
    | _ => simp [sleep, bind, Act.andThen, hw]

section
variable (host : Host σ ε) {g : Nat} {s : Stage σ} {b : Backoff}

def drawnFrom (g : Nat) (b : Backoff) (s : Stage σ) : Stage σ :=
  { s with generators := s.generators.set g (b.nextAt (host.millis s.outer)).2 }

theorem nextWait_apply (present : s.generators[g]? = some b) :
    nextWait host g s = ⟨(b.nextAt (host.millis s.outer)).1, drawnFrom host g b s,
      [.drawn g (host.millis s.outer)]⟩ := by
  simp [nextWait, drawnFrom, bind, Act.andThen, present]

theorem waitNext_of_nothing (present : s.generators[g]? = some b)
    (nothing : ∀ m, (b.nextAt (host.millis s.outer)).1 ≠ .ok (some m)) (waiter : Value) :
    waitNext host waiter g s = ⟨(b.nextAt (host.millis s.outer)).1.map fun _ => false,
      drawnFrom host g b s, [.drawn g (host.millis s.outer)]⟩ := by
  have next_eq := nextWait_apply host present
  cases result : (b.nextAt (host.millis s.outer)).1 with
  | error fault => simp [waitNext, bind, Act.andThen, next_eq, result, Except.map]
  | ok handed =>
    cases handed with
    | none => simp [waitNext, bind, Act.andThen, next_eq, result, Except.map]
    | some m => exact absurd result (nothing m)

theorem waitNext_of_some (present : s.generators[g]? = some b) {m : Number}
    (handed : (b.nextAt (host.millis s.outer)).1 = .ok (some m)) (waiter : Value) :
    waitNext host waiter g s =
      let reply := sleep host waiter m (drawnFrom host g b s)
      ⟨reply.result.map fun _ => true, reply.state,
        .drawn g (host.millis s.outer) :: reply.events⟩ := by
  have next_eq := nextWait_apply host present
  rw [handed] at next_eq
  have slept := Act.bind_pure_apply (sleep host waiter m) (fun _ => true) (drawnFrom host g b s)
  rw [waitNext, Act.bind_apply_of_ok next_eq]
  simp only [slept]
  rfl

end

/-! ## Replies -/

section
variable (host : Host σ ε) (g : Nat) (s : Stage σ)

/-- The handler of failures says whether it has waited, and at most notes that it has not. -/
theorem answerFailure_apply (waiter : Value) : ∃ notices : List Log.Notice,
    (∀ notice ∈ notices, Event.isRenewal (.noted notice : Event ε) = false) ∧
      answerFailure host g waiter true s =
        let reply := waitNext host waiter g s
        ⟨reply.result.map .bool, reply.state, reply.events ++ notices.map .noted⟩ := by
  cases next : waitNext host waiter g s with
  | mk result t events =>
    cases result with
    | error fault =>
      exact ⟨[], by simp, by simp [answerFailure, bind, Act.andThen, next, Except.map]⟩
    | ok made =>
      cases made with
      | true => exact ⟨[], by simp, by simp [answerFailure, bind, Act.andThen, next, Except.map]⟩
      | false =>
        exact ⟨[.failureWaitsExhausted (attemptsOf g t)], by simp [Event.isRenewal],
          by simp [answerFailure, note, bind, Act.andThen, next, Except.map]⟩

variable (p : Policy) {r : Response}

theorem waitForStatus_of_error {fault : Fault}
    (delay : RetryAfter.millis (host.today s.outer) r = .error fault) :
    waitForStatus host p g r s = ⟨.error fault, s, []⟩ := by
  simp [waitForStatus, bind, Act.andThen, delay]

theorem waitForStatus_of_some {millis : Int}
    (delay : RetryAfter.millis (host.today s.outer) r = .ok (some millis)) :
    waitForStatus host p g r s =
      let reply := sleep host p.sleeper (Number.least millis p.ceiling) s
      ⟨reply.result, reply.state,
        .noted (.retryAfterHonoured r.status (Number.least millis p.ceiling)) :: reply.events⟩ := by
  simp [waitForStatus, note, bind, Act.andThen, delay]

/-- Whether a wait of the generator has been made is no more than noted. -/
theorem waitForStatus_of_none
    (delay : RetryAfter.millis (host.today s.outer) r = .ok none) : ∃ notices : List Log.Notice,
    (∀ notice ∈ notices, Event.isRenewal (.noted notice : Event ε) = false) ∧
      waitForStatus host p g r s =
        let reply := waitNext host p.sleeper g s
        ⟨reply.result.map fun _ => (), reply.state, reply.events ++ notices.map .noted⟩ := by
  cases next : waitNext host p.sleeper g s with
  | mk result t events =>
    cases result with
    | error fault =>
      exact ⟨[], by simp, by simp [waitForStatus, bind, Act.andThen, delay, next, Except.map]⟩
    | ok made =>
      cases made with
      | true =>
        exact ⟨[], by simp, by simp [waitForStatus, bind, Act.andThen, delay, next, Except.map]⟩
      | false =>
        exact ⟨[.statusWaitsExhausted r.status], by simp [Event.isRenewal],
          by simp [waitForStatus, note, bind, Act.andThen, delay, next, Except.map]⟩

def IsWorth (p : Policy) (r : Response) (supportsRetry : Bool) : Prop :=
  supportsRetry = true ∧ p.isRetryable r.status = .ok true

theorem answerStatus_of_isWorth {supportsRetry : Bool} (worth : IsWorth p r supportsRetry) :
    answerStatus host (some p) g r supportsRetry s =
      let reply := waitForStatus host p g r s
      ⟨reply.result.map fun _ => .bool true, reply.state, reply.events⟩ := by
  obtain ⟨rfl, retryable⟩ := worth
  rw [← Act.bind_pure_apply]
  simp [answerStatus, bind, Act.andThen, retryable]

theorem answerStatus_of_not_isWorth {supportsRetry : Bool} (idle : ¬IsWorth p r supportsRetry) :
    ∃ result, answerStatus host (some p) g r supportsRetry s = ⟨result, s, []⟩ ∧
      ∀ v, result = .ok v → v = .bool false := by
  cases supportsRetry with
  | false => exact ⟨.ok (.bool false), rfl, by simp⟩
  | true =>
    cases retryable : p.isRetryable r.status with
    | error fault =>
      exact ⟨.error fault, by simp [answerStatus, bind, Act.andThen, retryable], by simp⟩
    | ok worth =>
      cases worth with
      | false =>
        exact ⟨.ok (.bool false), by simp [answerStatus, bind, Act.andThen, retryable], by simp⟩
      | true => exact absurd ⟨rfl, retryable⟩ idle

/-- The handler of statuses does nothing, or it has waited and grants a retry. -/
theorem answerStatus_apply (r : Response) :
    (∃ result, answerStatus host (some p) g r true s = ⟨result, s, []⟩ ∧
        ∀ v, result = .ok v → v = .bool false) ∨
      answerStatus host (some p) g r true s =
        let reply := waitForStatus host p g r s
        ⟨reply.result.map fun _ => .bool true, reply.state, reply.events⟩ := by
  by_cases worth : IsWorth p r true
  · exact .inr (answerStatus_of_isWorth host g s p worth)
  · exact .inl (answerStatus_of_not_isWorth host g s p worth)

end

/-! ## Waits of a generator -/

section
variable (host : Host σ ε) {p : Policy} {g : Nat} {past : List Double} {s : Stage σ} {b : Backoff}
  (present : s.generators[g]? = some b)
include present

theorem Waited.of_still (serves : p.Serves past b) {given : Bool} {granted : α}
    {reply : Reply (Stage σ) (Event ε) α} (state_eq : reply.state = s)
    (none_made : waits reply.events = [])
    (quiet : ∀ e ∈ reply.events, e.isRefresh = false ∧ e.isRenewal = false) :
    Waited host p g past given granted s reply where
  request := by rw [state_eq]
  generator := ⟨b, by rw [state_eq, present], by simpa [none_made] using serves⟩
  others _ _ := by rw [state_eq]
  still _ := by rw [state_eq]
  length_le := by simp [none_made]
  permitted := by simp [none_made]
  quiet := quiet
  returns _ made := absurd none_made made

theorem Waited.of_drawn {granted : α} {drawn : Backoff} {outer : σ}
    {reply : Reply (Stage σ) (Event ε) α}
    (state_eq : reply.state = { s with generators := s.generators.set g drawn, outer })
    (serves : p.Serves (past ++ waits reply.events) drawn)
    (length_le : (waits reply.events).length ≤ 1)
    (permitted : ∀ w ∈ waits reply.events, p.Permits w)
    (quiet : ∀ e ∈ reply.events, e.isRefresh = false ∧ e.isRenewal = false)
    (returns : host.Pauses p.Permits → waits reply.events ≠ [] → reply.result = .ok granted) :
    Waited host p g past false granted s reply := by
  obtain ⟨lt, -⟩ := List.getElem?_eq_some_iff.mp present
  refine ⟨by rw [state_eq], ⟨drawn, ?_, by simpa using serves⟩, fun i hi => ?_,
    fun h => (by cases h), length_le, permitted, quiet, returns⟩
  · rw [state_eq, List.getElem?_set_self lt]
  · rw [state_eq, List.getElem?_set_ne hi.symm]

theorem waitNext_waited (serves : p.Serves past b) :
    let reply := waitNext host p.sleeper g s
    Waited host p g past false true s reply ∧
      (reply.result = .ok true → waits reply.events ≠ []) := by
  have unslept := serves.nextAt (host.millis s.outer)
  by_cases handed : ∃ m, (b.nextAt (host.millis s.outer)).1 = .ok (some m)
  · obtain ⟨m, handed⟩ := handed
    rw [waitNext_of_some host present handed]
    by_cases callable : p.sleeper = .sleeper
    · obtain ⟨allowed, w, hw, serves'⟩ := serves.nextAt_some handed callable
      rw [callable, sleep_of_callable hw]
      refine ⟨.of_drawn host present rfl (by simpa using serves') (by simp) ?_ ?_ ?_, by simp⟩
      · simpa using ⟨m, allowed, hw⟩
      · simp [Event.isRefresh, Event.isRenewal]
      · intro pauses _
        simp [pauses w ⟨m, allowed, hw⟩ _, Except.map]
    · obtain ⟨fault, reply_eq⟩ := sleep_of_not_callable host callable m (drawnFrom host g b s)
      rw [reply_eq]
      refine ⟨.of_drawn host present rfl ?_ (by simp) (by simp) ?_ (by simp), by simp [Except.map]⟩
      · simpa using unslept fun h => absurd h callable
      · simp [Event.isRefresh, Event.isRenewal]
  · have nothing := not_exists.mp handed
    rw [waitNext_of_nothing host present nothing]
    refine ⟨.of_drawn host present rfl ?_ (by simp) (by simp) ?_ (by simp), ?_⟩
    · simpa using unslept fun _ => nothing
    · simp [Event.isRefresh, Event.isRenewal]
    · cases (b.nextAt (host.millis s.outer)).1 <;> simp [Except.map]

theorem waitForStatus_waited (serves : p.Serves past b) (r : Response) :
    Waited host p g past (RetryAfter.isGiven r) () s (waitForStatus host p g r s) := by
  cases delay : RetryAfter.millis (host.today s.outer) r with
  | error fault =>
    rw [waitForStatus_of_error host g s p delay]
    exact .of_still host present serves rfl rfl (by simp)
  | ok delay' =>
    cases delay' with
    | none =>
      rw [(RetryAfter.isGiven_eq_false_iff _).mpr delay]
      obtain ⟨waited, -⟩ := waitNext_waited host present serves
      obtain ⟨notices, quiet, reply_eq⟩ := waitForStatus_of_none host g s p delay
      rw [reply_eq]
      exact waited.append notices rfl rfl quiet fun made => by simp [made, Except.map]
    | some millis =>
      have given : RetryAfter.isGiven r = true := by
        rw [← Bool.not_eq_false, RetryAfter.isGiven_eq_false_iff (host.today s.outer), delay]
        simp
      have allowed := Policy.allows_least (p := p) (RetryAfter.millis_nonneg delay)
      obtain ⟨w, hw⟩ := allowed.millisToSeconds
      rw [given, waitForStatus_of_some host g s p delay]
      by_cases callable : p.sleeper = .sleeper
      · rw [callable, sleep_of_callable hw]
        refine ⟨rfl, ⟨b, present, by simpa using serves⟩, fun _ _ => rfl, fun _ => rfl, by simp, ?_,
          ?_, fun pauses _ => pauses w ⟨_, allowed, hw⟩ _⟩
        · simpa using ⟨_, allowed, hw⟩
        · simp [Event.isRefresh, Event.isRenewal]
      · obtain ⟨fault, sleep_eq⟩ :=
          sleep_of_not_callable host callable (Number.least millis p.ceiling) s
        rw [sleep_eq]
        exact .of_still host present serves rfl rfl (by simp [Event.isRefresh, Event.isRenewal])

/-! ## Answers -/

theorem answerStatus_waited (serves : p.Serves past b) (r : Response) (supportsRetry : Bool) :
    let reply := answerStatus host (some p) g r supportsRetry s
    Waited host p g past (RetryAfter.isGiven r) (.bool true) s reply ∧
      (waits reply.events ≠ [] → supportsRetry = true) := by
  cases supportsRetry with
  | false =>
    exact ⟨.of_still host present serves rfl rfl (by simp [answerStatus]), by simp [answerStatus]⟩
  | true =>
    refine ⟨?_, fun _ => rfl⟩
    obtain ⟨result, reply_eq, -⟩ | reply_eq := answerStatus_apply host g s p r
    · rw [reply_eq]
      exact .of_still host present serves rfl rfl (by simp)
    · rw [reply_eq]
      exact (waitForStatus_waited host present serves r).append [] rfl (by simp) (by simp)
        fun h => by simp [h, Except.map]

theorem answerFailure_waited (serves : p.Serves past b) (supportsRetry : Bool) :
    let reply := answerFailure host g p.sleeper supportsRetry s
    Waited host p g past false (.bool true) s reply ∧
      (waits reply.events ≠ [] → supportsRetry = true) ∧
      ∀ v, reply.result = .ok v → v.isTrue = true → waits reply.events ≠ [] := by
  cases supportsRetry with
  | false =>
    refine ⟨.of_still host present serves rfl rfl (by simp [answerFailure]),
      by simp [answerFailure], fun v hv ht => ?_⟩
    cases hv
    cases ht
  | true =>
    obtain ⟨waited, made⟩ := waitNext_waited host present serves
    obtain ⟨notices, quiet, reply_eq⟩ := answerFailure_apply host g s p.sleeper
    rw [reply_eq]
    refine ⟨waited.append notices rfl rfl quiet fun h => by simp [h, Except.map], fun _ => rfl,
      fun v hv ht => ?_⟩
    obtain ⟨slept, next, rfl⟩ := exists_of_map_ok hv
    obtain rfl : slept = true := ht
    simpa using made next

end

end Handling

end HttpRetry

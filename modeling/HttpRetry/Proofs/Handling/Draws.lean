import HttpRetry.Proofs.Backoff.Allowance
import HttpRetry.Proofs.Handling.Bearer

/-!
# Draws of handlers

A handler that may retry asks its generator for one wait at most. If the generator has
waits left, the handler comes to an answer without a wait only when it is overdue.
-/

namespace HttpRetry.Handling

variable {σ ε α : Type}

def Event.reading? : Event ε → Option Int
  | drawn _ now => now.toOption
  | _ => none

def readings (events : List (Event ε)) : List Int :=
  events.filterMap Event.reading?

section
variable (a b : List (Event ε))

@[simp] theorem readings_nil : readings ([] : List (Event ε)) = [] := rfl

@[simp] theorem readings_append : readings (a ++ b) = readings a ++ readings b :=
  List.filterMap_append ..

@[simp] theorem readings_drawn (g : Nat) (now : Except RangeError Int) :
    readings (.drawn g now :: a) = now.toOption.toList ++ readings a := by
  cases now <;> rfl

@[simp] theorem readings_slept (w : Double) : readings (.slept w :: a) = readings a := rfl

@[simp] theorem readings_noted (notice : Log.Notice) : readings (.noted notice :: a) = readings a :=
  rfl

@[simp] theorem readings_outside (events : List ε) : readings (events.map Event.outside) = [] := by
  simp [readings, List.filterMap_map, Function.comp_def, Event.reading?]

@[simp] theorem readings_notices (notices : List Log.Notice) :
    readings (notices.map (.noted : Log.Notice → Event ε)) = [] := by
  simp [readings, List.filterMap_map, Function.comp_def, Event.reading?]

end

/-! ## Waiting -/

/-- What a handler does to its generator that had waits left after the readings `past`, where
`idle` says that it comes to an answer without a wait. -/
structure Draws (p : Policy) (g n : Nat) (past : List Int) (idle : Prop) (s : Stage σ)
    (reply : Reply (Stage σ) (Event ε) α) : Prop where
  generator : ∃ b, reply.state.generators[g]? = some b ∧
    p.Paces n (past ++ readings reply.events) b
  others : ∀ i, i ≠ g → reply.state.generators[i]? = s.generators[i]?
  overdue : idle → Overdue (past ++ readings reply.events)

theorem Draws.same {p : Policy} {g n : Nat} {past : List Int} {idle idle' : Prop}
    {s s' : Stage σ} {reply : Reply (Stage σ) (Event ε) α} {β : Type}
    {reply' : Reply (Stage σ) (Event ε) β} (h : Draws p g n past idle s reply)
    (start_eq : s.generators = s'.generators) (state_eq : reply'.state = reply.state)
    (readings_eq : readings reply'.events = readings reply.events) (less : idle' → idle) :
    Draws p g n past idle' s' reply' := by
  refine ⟨?_, ?_, fun h' => ?_⟩
  · rw [state_eq, readings_eq]
    exact h.generator
  · rw [state_eq, ← start_eq]
    exact h.others
  · rw [readings_eq]
    exact h.overdue (less h')

theorem sleep_still (host : Host σ ε) (waiter : Value) (m : Number) (s : Stage σ) :
    (sleep host waiter m s).state.generators = s.generators ∧
      readings (sleep host waiter m s).events = [] ∧
      ((sleep host waiter m s).result = .ok () → waits (sleep host waiter m s).events ≠ []) := by
  cases seconds : m.millisToSeconds with
  | error e => simp [sleep, bind, Act.andThen, seconds]
  | ok w =>
    by_cases callable : waiter = .sleeper
    · rw [callable, sleep_of_callable seconds]
      simp
    · obtain ⟨fault, reply_eq⟩ := sleep_of_not_callable host callable m s
      simp [reply_eq]

section
variable (host : Host σ ε) {p : Policy} {g n : Nat} {past : List Int} {s : Stage σ} {b : Backoff}
  (present : s.generators[g]? = some b) (paces : p.Paces (n + 1) past b)
include present paces

theorem Draws.of_still {idle : Prop} {reply : Reply (Stage σ) (Event ε) α}
    (generators_eq : reply.state.generators = s.generators) (undrawn : readings reply.events = [])
    (busy : ¬idle) : Draws p g n past idle s reply := by
  refine ⟨⟨b, ?_, ?_⟩, fun i _ => ?_, fun h => absurd h busy⟩
  · rw [generators_eq, present]
  · rw [undrawn, List.append_nil]
    exact paces.pred
  · rw [generators_eq]

theorem Draws.of_drawn {idle : Prop} {reply : Reply (Stage σ) (Event ε) α}
    (generators_eq : reply.state.generators =
      s.generators.set g (b.nextAt (host.millis s.outer)).2)
    (readings_eq : readings reply.events = (host.millis s.outer).toOption.toList)
    (stopped : idle → (b.nextAt (host.millis s.outer)).1 = .ok none) :
    Draws p g n past idle s reply := by
  obtain ⟨lt, -⟩ := List.getElem?_eq_some_iff.mp present
  obtain ⟨paces', overdue⟩ := paces.nextAt (host.millis s.outer)
  refine ⟨⟨(b.nextAt (host.millis s.outer)).2, ?_, ?_⟩, fun i other => ?_, fun h => ?_⟩
  · rw [generators_eq, List.getElem?_set_self lt]
  · rw [readings_eq]
    exact paces'
  · rw [generators_eq, List.getElem?_set_ne other.symm]
  · rw [readings_eq]
    exact overdue (stopped h)

theorem waitNext_draws (waiter : Value) :
    let reply := waitNext host waiter g s
    Draws p g n past
      (∃ made, reply.result = .ok made ∧ (made = false ∨ waits reply.events = [])) s reply := by
  by_cases handed : ∃ m, (b.nextAt (host.millis s.outer)).1 = .ok (some m)
  · obtain ⟨m, handed⟩ := handed
    obtain ⟨generators_eq, undrawn, slept⟩ := sleep_still host waiter m (drawnFrom host g b s)
    rw [waitNext_of_some host present handed]
    refine .of_drawn host present paces generators_eq (by simp [undrawn]) ?_
    -- a wait that is handed out is made, or its fault is the answer
    rintro ⟨made, result, idle⟩
    obtain ⟨_, sleep_eq, rfl⟩ := exists_of_map_ok result
    simp [slept sleep_eq] at idle
  · have nothing := not_exists.mp handed
    rw [waitNext_of_nothing host present nothing]
    refine .of_drawn host present paces rfl (by simp) ?_
    rintro ⟨made, result, -⟩
    obtain ⟨handed, next, -⟩ := exists_of_map_ok result
    cases handed with
    | none => exact next
    | some m => exact absurd next (nothing m)

theorem answerFailure_draws (waiter : Value) :
    let reply := answerFailure host g waiter true s
    Draws p g n past (∃ v, reply.result = .ok v ∧ v.isTrue = false) s reply := by
  obtain ⟨notices, -, reply_eq⟩ := answerFailure_apply host g s waiter
  rw [reply_eq]
  refine (waitNext_draws host present paces waiter).same rfl rfl (by simp) ?_
  rintro ⟨v, result, refused⟩
  obtain ⟨made, next, rfl⟩ := exists_of_map_ok result
  exact ⟨made, next, .inl refused⟩

theorem waitForStatus_draws (q : Policy) (r : Response) :
    let reply := waitForStatus host q g r s
    Draws p g n past (reply.result = .ok () ∧ waits reply.events = []) s reply := by
  cases delay : RetryAfter.millis (host.today s.outer) r with
  | error fault =>
    rw [waitForStatus_of_error host g s q delay]
    exact .of_still present paces rfl rfl (by simp)
  | ok delay' =>
    cases delay' with
    | some millis =>
      obtain ⟨generators_eq, undrawn, slept⟩ :=
        sleep_still host q.sleeper (Number.least millis q.ceiling) s
      rw [waitForStatus_of_some host g s q delay]
      refine .of_still present paces generators_eq (by simpa using undrawn) ?_
      rintro ⟨result, idle⟩
      exact slept result (by simpa using idle)
    | none =>
      obtain ⟨notices, -, reply_eq⟩ := waitForStatus_of_none host g s q delay
      rw [reply_eq]
      refine (waitNext_draws host present paces q.sleeper).same rfl rfl (by simp) ?_
      rintro ⟨result, idle⟩
      obtain ⟨made, next, -⟩ := exists_of_map_ok result
      exact ⟨made, next, .inr (by simpa using idle)⟩

theorem answerStatus_draws (q : Policy) (r : Response) :
    let reply := answerStatus host (some q) g r true s
    Draws p g n past ((∃ v, reply.result = .ok v ∧ v.isTrue = true) ∧ waits reply.events = []) s
      reply := by
  obtain ⟨result, reply_eq, refused⟩ | reply_eq := answerStatus_apply host g s q r
  · rw [reply_eq]
    refine .of_still present paces rfl rfl ?_
    rintro ⟨⟨v, result_eq, granted⟩, -⟩
    rw [refused v result_eq] at granted
    cases granted
  · rw [reply_eq]
    refine (waitForStatus_draws host present paces q r).same rfl rfl rfl ?_
    rintro ⟨⟨v, result, -⟩, idle⟩
    obtain ⟨_, waited, -⟩ := exists_of_map_ok result
    exact ⟨waited, idle⟩

end

/-! ## Credentials -/

section
variable (host : Host σ ε) (s : Stage σ)

theorem keeps_aside_undrawn (act : Act σ ε α) :
    (aside act).Keeps (fun _ _ => True) fun e => e.reading? = none := by
  intro s
  refine ⟨trivial, fun e he => ?_⟩
  obtain ⟨event, -, rfl⟩ := List.mem_map.mp he
  rfl

theorem renew_undrawn : readings (renew host s).events = [] := by
  have stamps : (stamp host).Keeps (fun _ _ => True) fun e => e.reading? = none := by
    refine .bind (fun _ _ => trivial) (keeps_aside_undrawn _) fun token => ?_
    refine .bind (fun _ _ => trivial) (.ofExcept (fun _ => trivial) _) fun text => ?_
    intro s
    cases stamped : s.request.withToken text <;>
      simp [bind, Act.andThen, stamped, Event.reading?]
  have renews : (renew host).Keeps (fun _ _ => True) fun e => e.reading? = none :=
    .bind (fun _ _ => trivial) (.emit (fun _ => trivial) rfl) fun _ =>
      .bind (fun _ _ => trivial) (keeps_aside_undrawn _) fun _ => stamps
  exact List.filterMap_eq_nil_iff.mpr (renews s).2

/-- The handler of credentials asks no generator, and what it grants is a renewal. -/
theorem answerBearer_undrawn (r : Response) :
    readings (answerBearer host r s).events = [] ∧
      ((∃ v, (answerBearer host r s).result = .ok v ∧ v.isTrue = true) →
        ∃ e ∈ (answerBearer host r s).events, e.isRenewal = true) := by
  by_cases needed : Challenge.needsRefresh r = .ok true
  · obtain ⟨notices, renewal_iff, reply_eq⟩ := answerBearer_of_needed host s needed
    rw [reply_eq]
    refine ⟨by simp [renew_undrawn], ?_⟩
    rintro ⟨v, result, granted⟩
    have renewed : (renew host s).result = .ok () := by
      cases renewal : (renew host s).result with
      | ok => rfl
      | error fault =>
        cases expected : fault.isAboutCredentials <;> simp [renewal, answerTo, expected] at result
        cases result
        cases granted
    obtain ⟨notice, hn, noted⟩ := renewal_iff.mpr renewed
    exact ⟨.noted notice, List.mem_append_right _ (List.mem_map_of_mem hn), noted⟩
  · obtain ⟨result, reply_eq, refused⟩ := answerBearer_of_unneeded host s needed
    rw [reply_eq]
    refine ⟨rfl, ?_⟩
    rintro ⟨v, result_eq, granted⟩
    rw [refused v result_eq] at granted
    cases granted

end

/-! ## Responses -/

/-- Behind the handler of credentials: a retry without a renewal and without a wait is
overdue. -/
theorem askResponse_draws (host : Host σ ε) {p : Policy} {g n : Nat} {past : List Int}
    {s : Stage σ} {b : Backoff} (present : s.generators[g]? = some b)
    (paces : p.Paces (n + 1) past b) (q : Policy) (r : Response) :
    let reply := ask host (.chain .bearer (.status (some q) g)) (.response r true) s
    Draws p g n past ((∃ v, reply.result = .ok v ∧ v.isTrue = true) ∧
      (∀ e ∈ reply.events, e.isRenewal = false) ∧ waits reply.events = []) s reply := by
  have renewed : Renewed s (ask host .bearer (.response r true) s) := answerBearer_renewed host r s
  have bore : readings (ask host .bearer (.response r true) s).events = [] ∧
      ((∃ v, (ask host .bearer (.response r true) s).result = .ok v ∧ v.isTrue = true) →
        ∃ e ∈ (ask host .bearer (.response r true) s).events, e.isRenewal = true) :=
    answerBearer_undrawn host s r
  cases bearer : ask host .bearer (.response r true) s with
  | mk result t before =>
    rw [bearer] at renewed bore
    obtain ⟨undrawn, granted⟩ := bore
    have generators_eq : t.generators = s.generators := renewed.restamped.generators
    cases result with
    | error fault =>
      rw [ask_chain_of_error bearer]
      exact .of_still present paces generators_eq undrawn (by simp)
    | ok answer =>
      cases truth : answer.isTrue with
      | true =>
        obtain ⟨e, he, renewal⟩ := granted ⟨answer, rfl, truth⟩
        rw [ask_chain_of_granted bearer truth]
        refine .of_still present paces generators_eq (by simpa using undrawn) ?_
        rintro ⟨-, unrenewed, -⟩
        rw [unrenewed e (List.mem_append_left _ he)] at renewal
        cases renewal
      | false =>
        have present' : t.generators[g]? = some b := generators_eq ▸ present
        have draws := answerStatus_draws host present' paces q r
        have silent : readings before = [] := undrawn
        have unwaited : waits before = [] := renewed.waits_eq
        obtain ⟨notices, -, reply_eq⟩ := ask_chain_of_declined bearer truth
        rw [reply_eq]
        refine draws.same generators_eq rfl (by simp [silent, ask]) ?_
        rintro ⟨granted, -, idle⟩
        exact ⟨granted, by simpa [unwaited, ask] using idle⟩

end HttpRetry.Handling

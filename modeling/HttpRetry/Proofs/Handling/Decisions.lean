import HttpRetry.Proofs.Backoff.Asking
import HttpRetry.Proofs.Handling.Bearer
import HttpRetry.Proofs.Rehearsal.Obliging
import HttpRetry.Proofs.Request.Life

/-!
# What is answered to a response

The handlers that a policy installs grant a retry for two reasons: the request has been given new
credentials, or its status is worth a retry and there are retries left. Only the second one waits,
for as long as the response asks for or for the next wait of the generator. Where the generator has
no wait left the retry is granted at once.
-/

namespace HttpRetry

namespace Handling

variable {σ ε : Type}

def Renews (host : Host σ ε) (r : Response) (s : Stage σ) : Prop :=
  Challenge.needsRefresh r = .ok true ∧ (renew host s).result = .ok ()

/-- A generator whose time has started at `t` has no wait left: all have been handed out, or the
time that is allowed has passed. -/
def Exhausted (b : Backoff) (now : Except RangeError Int) (t : Int) : Prop :=
  b.isSpent = true ∨
    ∃ time : Int, now = .ok time ∧ b.schedule.allowance.lt (time - t : Int) = true

inductive Paused (p : Policy) (r : Response) (today : Moment) (now : Except RangeError Int)
    (b : Backoff) : List Double → Backoff → Prop
  | asked {delay : Int} {w : Double} (given : RetryAfter.millis today r = .ok (some delay))
      (seconds : (Number.least delay p.ceiling).millisToSeconds = .ok w) :
      Paused p r today now b [w] b
  | handed {t time : Int} {interval : Number} {w : Double}
      (unasked : RetryAfter.millis today r = .ok none) (starts : b.StartsAt now t)
      (read : now = .ok time) (left : ¬Exhausted b now t)
      (grown : Backoff.grow b.schedule b.interval = .ok interval)
      (seconds : b.interval.millisToSeconds = .ok w) :
      Paused p r today now b [w]
        { b with attempts := b.attempts + 1, interval, startedAt := some t }
  | exhausted {t : Int} (unasked : RetryAfter.millis today r = .ok none)
      (starts : b.StartsAt now t) (exhausted : Exhausted b now t) :
      Paused p r today now b [] { b with startedAt := some t }

/-- What is waited for, and what becomes of the generator, is settled by the response, the
reading of the clock and the generator before. -/
theorem Paused.unique {p : Policy} {r : Response} {today : Moment} {now : Except RangeError Int}
    {b after after' : Backoff} {waited waited' : List Double}
    (h : Paused p r today now b waited after) (h' : Paused p r today now b waited' after') :
    waited = waited' ∧ after = after' := by
  cases h with
  | asked given seconds =>
    cases h' with
    | asked given' seconds' =>
      cases given.symm.trans given'
      cases seconds.symm.trans seconds'
      exact ⟨rfl, rfl⟩
    | handed unasked => cases given.symm.trans unasked
    | exhausted unasked => cases given.symm.trans unasked
  | handed unasked starts read left grown seconds =>
    cases h' with
    | asked given => cases unasked.symm.trans given
    | handed _ starts' _ _ grown' seconds' =>
      cases starts.unique starts'
      cases grown.symm.trans grown'
      cases seconds.symm.trans seconds'
      exact ⟨rfl, rfl⟩
    | exhausted _ starts' exhausted =>
      cases starts.unique starts'
      exact absurd exhausted left
  | exhausted unasked starts exhausted =>
    cases h' with
    | asked given => cases unasked.symm.trans given
    | handed _ starts' _ left =>
      cases starts.unique starts'
      exact absurd exhausted left
    | exhausted _ starts' =>
      cases starts.unique starts'
      exact ⟨rfl, rfl⟩

/-! ## Waits -/

section
variable {host : Host σ ε} {s : Stage σ}

theorem sleep_slept {waiter : Value} {m : Number}
    (done : (sleep host waiter m s).result = .ok ()) :
    ∃ w, m.millisToSeconds = .ok w ∧ waits (sleep host waiter m s).events = [w] ∧
      (sleep host waiter m s).state.generators = s.generators := by
  cases seconds : m.millisToSeconds with
  | error e => simp [sleep, bind, Act.andThen, seconds] at done
  | ok w =>
    by_cases callable : waiter = .sleeper
    · subst callable
      rw [sleep_of_callable seconds]
      exact ⟨w, rfl, by simp, rfl⟩
    · obtain ⟨fault, reply_eq⟩ := sleep_of_not_callable host callable m s
      rw [reply_eq] at done
      cases done

variable {p : Policy} {g : Nat} {b : Backoff} {r : Response} {today : Moment}
  (present : s.generators[g]? = some b)
include present

theorem waitNext_paused {waiter : Value} (unasked : RetryAfter.millis today r = .ok none)
    {made : Bool} (done : (waitNext host waiter g s).result = .ok made) :
    ∃ after, (waitNext host waiter g s).state.generators = s.generators.set g after ∧
      Paused p r today (host.millis s.outer) b (waits (waitNext host waiter g s).events) after := by
  have answers {reply : Option Number}
      (answered : (b.nextAt (host.millis s.outer)).1 = .ok reply) :
      ∃ t, b.StartsAt (host.millis s.outer) t ∧ Backoff.Answers b t (host.millis s.outer)
        (reply, (b.nextAt (host.millis s.outer)).2) := by
    rw [← Backoff.ask_self] at answered ⊢
    exact Backoff.ask_answers answered
  by_cases handed : ∃ m, (b.nextAt (host.millis s.outer)).1 = .ok (some m)
  · obtain ⟨m, handed⟩ := handed
    obtain ⟨t, starts, found⟩ := answers handed
    rw [waitNext_of_some host present handed] at done ⊢
    obtain ⟨_, slept, -⟩ := exists_of_map_ok done
    obtain ⟨w, seconds, waits_eq, generators_eq⟩ := sleep_slept slept
    refine ⟨_, generators_eq, ?_⟩
    simp only [waits_drawn, waits_eq]
    generalize (b.nextAt (host.millis s.outer)).2 = after at found ⊢
    cases found with
    | handed unspent read early grown =>
      refine .handed unasked starts read ?_ grown seconds
      rintro (spent | ⟨time, read', late⟩)
      · cases unspent.symm.trans spent
      · cases read.symm.trans read'
        cases early.symm.trans late
  · have nothing := not_exists.mp handed
    rw [waitNext_of_nothing host present nothing] at done ⊢
    obtain ⟨reply, answered, -⟩ := exists_of_map_ok done
    obtain ⟨t, starts, found⟩ := answers answered
    refine ⟨_, rfl, ?_⟩
    rw [waits_drawn, waits_nil]
    cases reply with
    | some m => exact absurd answered (nothing m)
    | none =>
      generalize (b.nextAt (host.millis s.outer)).2 = after at found ⊢
      cases found with
      | spent spent => exact .exhausted unasked starts (.inl spent)
      | late unspent read late => exact .exhausted unasked starts (.inr ⟨_, read, late⟩)

theorem waitForStatus_paused (done : (waitForStatus host p g r s).result = .ok ()) :
    ∃ after, (waitForStatus host p g r s).state.generators = s.generators.set g after ∧
      Paused p r (host.today s.outer) (host.millis s.outer) b
        (waits (waitForStatus host p g r s).events) after := by
  cases delay : RetryAfter.millis (host.today s.outer) r with
  | error fault =>
    rw [waitForStatus_of_error host g s p delay] at done
    cases done
  | ok given =>
    cases given with
    | none =>
      obtain ⟨notices, -, reply_eq⟩ := waitForStatus_of_none host g s p delay
      rw [reply_eq] at done ⊢
      obtain ⟨made, waited, -⟩ := exists_of_map_ok done
      simpa using waitNext_paused present delay waited
    | some millis =>
      rw [waitForStatus_of_some host g s p delay] at done ⊢
      obtain ⟨w, seconds, waits_eq, generators_eq⟩ := sleep_slept done
      refine ⟨b, ?_, ?_⟩
      · obtain ⟨lt, rfl⟩ := List.getElem?_eq_some_iff.mp present
        rw [generators_eq, List.set_getElem_self]
      · rw [waits_noted, waits_eq]
        exact .asked delay seconds

end

/-! ## Answers -/

section
variable (host : Host σ ε) {p : Policy} {g : Nat} {b : Backoff} {r : Response}
  {supportsRetry : Bool} {s : Stage σ} {v : Value}

theorem answerBearer_of_answered (answered : (answerBearer host r s).result = .ok v) :
    v = .bool true ∧ Renews host r s ∨ v = .bool false ∧ ¬Renews host r s := by
  by_cases needed : Challenge.needsRefresh r = .ok true
  · obtain ⟨notices, -, reply_eq⟩ := answerBearer_of_needed host s needed
    rw [reply_eq] at answered
    cases renewal : (renew host s).result with
    | ok =>
      simp only [renewal, answerTo, Except.ok.injEq] at answered
      exact .inl ⟨answered.symm, needed, renewal⟩
    | error fault =>
      refine .inr ⟨?_, fun renews => ?_⟩
      · simp only [renewal, answerTo] at answered
        split at answered
        · exact (Except.ok.inj answered).symm
        · cases answered
      · cases renewal.symm.trans renews.2
  · obtain ⟨result, reply_eq, refused⟩ := answerBearer_of_unneeded host s needed
    rw [reply_eq] at answered
    exact .inr ⟨refused v answered, fun renews => needed renews.1⟩

/-- The handler of statuses waits if it grants a retry, and else does nothing. -/
theorem answerStatus_of_answered (present : s.generators[g]? = some b)
    (answered : (answerStatus host (some p) g r supportsRetry s).result = .ok v) :
    let reply := answerStatus host (some p) g r supportsRetry s
    v = .bool true ∧ IsWorth p r supportsRetry ∧
        (∃ after, reply.state.generators = s.generators.set g after ∧
          Paused p r (host.today s.outer) (host.millis s.outer) b (waits reply.events) after) ∨
      v = .bool false ∧ ¬IsWorth p r supportsRetry ∧ reply.state = s ∧ reply.events = [] := by
  by_cases worth : IsWorth p r supportsRetry
  · rw [answerStatus_of_isWorth host g s p worth] at answered ⊢
    obtain ⟨_, waited, rfl⟩ := exists_of_map_ok answered
    exact .inl ⟨rfl, worth, waitForStatus_paused present waited⟩
  · obtain ⟨result, reply_eq, refused⟩ := answerStatus_of_not_isWorth host g s p worth
    rw [reply_eq] at answered ⊢
    exact .inr ⟨refused v answered, worth, rfl, rfl⟩

/-! ## Handlers of a policy -/

/-- What the handlers of a policy answer to a response and do meanwhile. The stage `t` is that
after the answer of the handler of credentials. -/
structure Decided (host : Host σ ε) (p : Policy) (g : Nat) (b : Backoff) (r : Response)
    (supportsRetry : Bool) (s t : Stage σ) (v : Value)
    (reply : Reply (Stage σ) (Event ε) Value) : Prop where
  isBool : v = .bool true ∨ v = .bool false
  granted_iff : v = .bool true ↔ Renews host r s ∨ IsWorth p r supportsRetry
  still : Renews host r s ∨ v = .bool false →
    waits reply.events = [] ∧ reply.state.generators = s.generators
  paused : ¬Renews host r s → IsWorth p r supportsRetry →
    ∃ after, reply.state.generators = s.generators.set g after ∧
      Paused p r (host.today t.outer) (host.millis t.outer) b (waits reply.events) after

theorem ask_chain_decided (present : s.generators[g]? = some b)
    (answered : (ask host (.chain .bearer (.status (some p) g)) (.response r supportsRetry)
      s).result = .ok v) :
    Decided host p g b r supportsRetry s (answerBearer host r s).state v
      (ask host (.chain .bearer (.status (some p) g)) (.response r supportsRetry) s) := by
  have renewed := answerBearer_renewed host r s
  have settled := fun v => answerBearer_of_answered host (r := r) (s := s) (v := v)
  cases bearer : answerBearer host r s with
  | mk result t before =>
    rw [bearer] at renewed settled
    have first : ask host .bearer (.response r supportsRetry) s = ⟨result, t, before⟩ := bearer
    have quiet : waits before = [] := renewed.waits_eq
    have kept : t.generators = s.generators := renewed.restamped.generators
    cases result with
    | error fault =>
      rw [ask_chain_of_error first] at answered
      cases answered
    | ok answer =>
      obtain ⟨rfl, renews⟩ | ⟨rfl, unrenewed⟩ := settled _ rfl
      · rw [ask_chain_of_granted first rfl] at answered ⊢
        obtain rfl := Except.ok.inj answered
        refine ⟨.inl rfl, ?_, fun _ => ⟨by simpa using quiet, kept⟩, fun unrenewed => ?_⟩
        · exact iff_of_true rfl (.inl renews)
        · exact absurd renews unrenewed
      · obtain ⟨notices, -, reply_eq⟩ := ask_chain_of_declined first rfl
        rw [reply_eq] at answered ⊢
        have present' : t.generators[g]? = some b := kept ▸ present
        obtain ⟨rfl, worth, after, generators_eq, paused⟩ | ⟨rfl, idle, state_eq, events_eq⟩ :=
          answerStatus_of_answered host present' answered
        · refine ⟨.inl rfl, ?_, fun h => ?_, fun _ _ => ⟨after, ?_, ?_⟩⟩
          · exact iff_of_true rfl (.inr worth)
          · obtain renews | refused := h
            · exact absurd renews unrenewed
            · cases refused
          · rw [← kept]
            exact generators_eq
          · simpa [quiet, ask] using paused
        · refine ⟨.inr rfl, ?_, fun _ => ?_, fun _ worth => absurd worth idle⟩
          · exact iff_of_false (by simp) (not_or.mpr ⟨unrenewed, idle⟩)
          · simp only [ask, state_eq, events_eq, kept]
            simpa using quiet

end

/-- A handler of responses that a policy has installed grants a retry if the request is given new
credentials, or if there are retries left for the status, whatever has become of the generator.
New credentials are followed by no wait, and a retry that is not granted is not waited for. Else
the wait is what the response asks for, within the ceiling, or the next one of the generator, if
it has one. -/
theorem decided_of_installed (host : Host σ ε) {p : Policy} {start : Stage σ} {handler : Handler}
    (installed :
      (Client.prepare host (.retries .bearer (some p)) start).state.request.onResponse = handler)
    {s : Stage σ} {b : Backoff} (present : s.generators[start.generators.length]? = some b)
    (r : Response) (supportsRetry : Bool) {v : Value}
    (answered : (ask host handler (.response r supportsRetry) s).result = .ok v) :
    Decided host p start.generators.length b r supportsRetry s (answerBearer host r s).state v
      (ask host handler (.response r supportsRetry) s) := by
  have handler_eq : handler = .chain .bearer (.status (some p) start.generators.length) := by
    rw [← installed, Client.prepare, Request.installRetries_apply]
  subst handler_eq
  exact ask_chain_decided host present answered

/-- A service that is not available is asked again after a wait, without new credentials. -/
theorem decided_of_installed_unavailable :
    let host := Rehearsal.untimedHost
    let p := Policy.clientDefault
    let s := (Client.prepare host (.retries .bearer (some p)) Rehearsal.clientStage).state
    let r := Response.ofStatus 503
    let reply := ask host s.request.onResponse (.response r true) s
    reply.result = .ok (.bool true) ∧ (waits reply.events).length = 1 ∧ ¬Renews host r s ∧
      Decided host p 0 p.newBackoff r true s (answerBearer host r s).state (.bool true) reply := by
  intro host p s r reply
  have installed : (Client.prepare host (.retries .bearer (some p))
      Rehearsal.clientStage).state.request.onResponse = s.request.onResponse := rfl
  have present : s.generators[Rehearsal.clientStage.generators.length]? = some p.newBackoff := rfl
  have unneeded : Challenge.needsRefresh r = .ok false := rfl
  cases result : reply.result with
  | error fault =>
    have answered : reply.result.toOption.isSome = true := by decide +kernel
    rw [result] at answered
    cases answered
  | ok v =>
    have decided := decided_of_installed host installed present r true result
    obtain rfl : v = .bool true := decided.granted_iff.mpr (.inr ⟨rfl, rfl⟩)
    refine ⟨rfl, by decide +kernel, ?_, decided⟩
    intro renews
    cases unneeded.symm.trans renews.1

end Handling

end HttpRetry

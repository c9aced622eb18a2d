import HttpRetry.Proofs.Handling.Bearer

/-!
# The handlers of a client's request

A request that a client has prepared has a handler of failures with one generator,
and a handler of responses with another one behind that of credentials. `Equipped`
says so, and what the two generators have handed out; every question keeps it.
-/

namespace HttpRetry.Handling

variable {σ ε : Type}

/-- The request has the handlers of a policy, with the generators `f` for failures and `g`
for statuses, by which the given waits were made. -/
structure Equipped (p : Policy) (f g : Nat) (failures statuses : List Double) (s : Stage σ) :
    Prop where
  onFailure : s.request.onFailure = .failure f p.sleeper
  onResponse : s.request.onResponse = .chain .bearer (.status (some p) g)
  apart : f ≠ g
  forFailures : ∃ b, s.generators[f]? = some b ∧ p.Serves failures b
  forStatuses : ∃ b, s.generators[g]? = some b ∧ p.Serves statuses b

structure Called (host : Host σ ε) (permits : Double → Prop) (q : Question)
    (reply : Reply (Stage σ) (Event ε) Value) : Prop where
  length_le : (waits reply.events).length ≤ 1
  permitted : ∀ w ∈ waits reply.events, permits w
  refreshes_le : refreshes reply.events ≤ 1
  renewed : (∃ e ∈ reply.events, e.isRenewal = true) → waits reply.events = []
  supported : waits reply.events ≠ [] → q.supportsRetry = true
  returns : host.Pauses permits → waits reply.events ≠ [] → reply.result = .ok (.bool true)

theorem called_of_renewed {host : Host σ ε} {permits : Double → Prop} {q : Question} {s : Stage σ}
    {reply : Reply (Stage σ) (Event ε) Value} (renewed : Renewed s reply) :
    Called host permits q reply where
  length_le := by simp [renewed.waits_eq]
  permitted := by simp [renewed.waits_eq]
  refreshes_le := renewed.refreshes_le
  renewed _ := renewed.waits_eq
  supported := absurd renewed.waits_eq
  returns _ := absurd renewed.waits_eq

section
variable {host : Host σ ε} {p : Policy} {f g : Nat} {failures statuses : List Double}
  {s : Stage σ}

theorem Equipped.of_restamped (h : Equipped p f g failures statuses s) {t : Stage σ}
    (restamped : Restamped s t) : Equipped p f g failures statuses t := by
  obtain ⟨generators_eq, headers, request_eq⟩ := restamped
  refine ⟨?_, ?_, h.apart, ?_, ?_⟩
  · rw [request_eq, ← h.onFailure]
  · rw [request_eq, ← h.onResponse]
  · rw [generators_eq]
    exact h.forFailures
  · rw [generators_eq]
    exact h.forStatuses

/-! ## Failures -/

theorem ask_failure (host : Host σ ε) (h : Equipped p f g failures statuses s)
    (supportsRetry : Bool) :
    let reply := ask host s.request.onFailure (.failure supportsRetry) s
    Called host p.Permits (.failure supportsRetry) reply ∧
      Equipped p f g (failures ++ waits reply.events) statuses reply.state ∧
      reply.state.request = s.request ∧
      ∀ v, reply.result = .ok v → v.isTrue = true → waits reply.events ≠ [] := by
  obtain ⟨b, present, serves⟩ := h.forFailures
  rw [h.onFailure]
  simp only [ask]
  obtain ⟨waited, supported, granted⟩ := answerFailure_waited host present serves supportsRetry
  refine ⟨⟨waited.length_le, waited.permitted, ?_, ?_, supported, waited.returns⟩, ?_,
    waited.request, granted⟩
  · rw [refreshes_eq_zero fun e he => (waited.quiet e he).1]
    exact Nat.zero_le 1
  · rintro ⟨e, he, renewal⟩
    rw [(waited.quiet e he).2] at renewal
    cases renewal
  · obtain ⟨b', present', serves'⟩ := waited.generator
    obtain ⟨c, other, others⟩ := h.forStatuses
    refine ⟨?_, ?_, h.apart, ⟨b', present', by simpa using serves'⟩, c, ?_, others⟩
    · rw [waited.request, h.onFailure]
    · rw [waited.request, h.onResponse]
    · rw [waited.others g h.apart.symm, other]

/-! ## Responses -/

/-- What the question about a response comes to. The generator stays where it is when new
credentials are the reason for a retry, or a delay that the response asks for. -/
structure Responded (host : Host σ ε) (p : Policy) (f g : Nat) (failures statuses : List Double)
    (r : Response) (supportsRetry : Bool) (s : Stage σ)
    (reply : Reply (Stage σ) (Event ε) Value) : Prop where
  called : Called host p.Permits (.response r supportsRetry) reply
  equipped : Equipped p f g failures
    (statuses ++ if RetryAfter.isGiven r then [] else waits reply.events) reply.state
  request : ∃ headers, reply.state.request = { s.request with headers }
  still : (∃ e ∈ reply.events, e.isRenewal = true) ∨ RetryAfter.isGiven r = true →
    reply.state.generators = s.generators

variable {r : Response} {supportsRetry : Bool}

theorem Equipped.responded_of_renewed (h : Equipped p f g failures statuses s)
    {reply : Reply (Stage σ) (Event ε) Value} (renewed : Renewed s reply) :
    Responded host p f g failures statuses r supportsRetry s reply where
  called := called_of_renewed renewed
  equipped := by simpa [renewed.waits_eq] using h.of_restamped renewed.restamped
  request := renewed.restamped.request
  still _ := renewed.restamped.generators

/-- The handler of credentials has declined, and that of statuses is asked. -/
theorem Equipped.responded_of_waited (h : Equipped p f g failures statuses s) {t : Stage σ}
    {before : List (Event ε)} {result : Except Fault Value}
    (renewed : Renewed s ⟨result, t, before⟩) (declined : ∀ e ∈ before, e.isRenewal = false)
    {reply : Reply (Stage σ) (Event ε) Value}
    (waited : Waited host p g statuses (RetryAfter.isGiven r) (.bool true) t reply)
    (supported : waits reply.events ≠ [] → supportsRetry = true) :
    Responded host p f g failures statuses r supportsRetry s
      ⟨reply.result, reply.state, before ++ reply.events⟩ := by
  have waits_eq : waits (before ++ reply.events) = waits reply.events := by
    rw [waits_append, show waits before = [] from renewed.waits_eq, List.nil_append]
  have quiet : ¬∃ e ∈ before ++ reply.events, e.isRenewal = true := by
    rintro ⟨e, he, renewal⟩
    rcases List.mem_append.mp he with he | he
    · simp [declined e he] at renewal
    · simp [(waited.quiet e he).2] at renewal
  obtain ⟨headers, request_eq⟩ := renewed.restamped.request
  have equipped := h.of_restamped renewed.restamped
  refine ⟨⟨?_, ?_, ?_, fun renewal => absurd renewal quiet, ?_, ?_⟩, ?_, ⟨headers, ?_⟩, ?_⟩
  · rw [waits_eq]
    exact waited.length_le
  · rw [waits_eq]
    exact waited.permitted
  · rw [refreshes_append, refreshes_eq_zero fun e he => (waited.quiet e he).1]
    exact renewed.refreshes_le
  · rw [waits_eq]
    exact supported
  · rw [waits_eq]
    exact waited.returns
  · rw [waits_eq]
    obtain ⟨b, other, others⟩ := equipped.forFailures
    refine ⟨?_, ?_, h.apart, ⟨b, ?_, others⟩, waited.generator⟩
    · rw [waited.request, equipped.onFailure]
    · rw [waited.request, equipped.onResponse]
    · rw [waited.others f h.apart, other]
  · exact waited.request.trans request_eq
  · rintro (renewal | given)
    · exact absurd renewal quiet
    · exact (waited.still given).trans renewed.restamped.generators

theorem ask_response (host : Host σ ε) (h : Equipped p f g failures statuses s) (r : Response)
    (supportsRetry : Bool) :
    Responded host p f g failures statuses r supportsRetry s
      (ask host s.request.onResponse (.response r supportsRetry) s) := by
  have renewed : Renewed s (ask host .bearer (.response r supportsRetry) s) :=
    answerBearer_renewed host r s
  rw [h.onResponse]
  cases bearer : ask host .bearer (.response r supportsRetry) s with
  | mk result t before =>
    rw [bearer] at renewed
    cases result with
    | error fault => exact ask_chain_of_error bearer ▸ h.responded_of_renewed renewed
    | ok granted =>
      cases truth : granted.isTrue with
      | true =>
        rw [ask_chain_of_granted bearer truth]
        refine h.responded_of_renewed ⟨renewed.restamped, ?_, ?_, fun _ => rfl⟩
        · simpa using renewed.waits_eq
        · simpa using renewed.refreshes_le
      | false =>
        have declined : ∀ e ∈ before, e.isRenewal = false := by
          intro e he
          by_contra renewal
          have granted_eq := renewed.granted ⟨e, he, by simpa using renewal⟩
          cases granted_eq
          cases truth
        obtain ⟨b, present, serves⟩ := (h.of_restamped renewed.restamped).forStatuses
        obtain ⟨waited, supported⟩ :=
          answerStatus_waited host present serves r supportsRetry
        obtain ⟨notices, quiet, reply_eq⟩ := ask_chain_of_declined bearer truth
        have noted : Waited host p g statuses (RetryAfter.isGiven r) (.bool true) t
            (let reply := answerStatus host (some p) g r supportsRetry t
            ⟨reply.result, reply.state, reply.events ++ notices.map .noted⟩) :=
          waited.append notices rfl rfl quiet id
        rw [reply_eq]
        exact h.responded_of_waited renewed declined noted (by simpa using supported)

end

end HttpRetry.Handling

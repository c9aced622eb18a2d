import HttpRetry.Proofs.Handling.Waiting

/-!
# The handler of credentials

The handler of credentials changes nothing but header fields. It asks for new
credentials once at most, and never waits.
-/

namespace HttpRetry.Handling

variable {σ ε : Type}

structure Restamped (s t : Stage σ) : Prop where
  generators : t.generators = s.generators
  request : ∃ headers, t.request = { s.request with headers }

theorem Restamped.refl (s : Stage σ) : Restamped s s :=
  ⟨rfl, s.request.headers, rfl⟩

theorem Restamped.trans {s t u : Stage σ} (h : Restamped s t) (h' : Restamped t u) :
    Restamped s u := by
  obtain ⟨headers, request_eq⟩ := h.request
  obtain ⟨headers', request_eq'⟩ := h'.request
  exact ⟨h'.generators.trans h.generators, headers', by rw [request_eq', request_eq]⟩

structure Event.IsPlain (e : Event ε) : Prop where
  wait : e.wait? = none
  refresh : e.isRefresh = false
  renewal : e.isRenewal = false

theorem waits_of_isPlain {events : List (Event ε)} (h : ∀ e ∈ events, e.IsPlain) :
    waits events = [] :=
  List.filterMap_eq_nil_iff.mpr fun e he => (h e he).wait

theorem keeps_aside {α : Type} (act : Act σ ε α) :
    (aside act).Keeps Restamped Event.IsPlain := by
  intro s
  refine ⟨⟨rfl, s.request.headers, rfl⟩, fun e he => ?_⟩
  obtain ⟨event, -, rfl⟩ := List.mem_map.mp he
  exact ⟨rfl, rfl, rfl⟩

theorem exists_of_withToken {token : String} {r r' : Request} (h : r.withToken token = .ok r') :
    ∃ headers, r' = { r with headers } := by
  unfold Request.withToken at h
  cases set : Request.setField Request.authorization ("Bearer " ++ token) r.headers with
  | error => simp [set, bind, Except.bind] at h
  | ok headers =>
    simp only [set, bind, Except.bind, pure, Except.pure, Except.ok.injEq] at h
    exact ⟨headers, h.symm⟩

theorem keeps_stamp (host : Host σ ε) : (stamp host).Keeps Restamped Event.IsPlain := by
  refine .bind .trans (keeps_aside _) fun token => ?_
  refine .bind .trans (.ofExcept .refl _) fun text => ?_
  intro s
  cases stamped : s.request.withToken text with
  | error => simp [bind, Act.andThen, stamped, Restamped.refl]
  | ok request =>
    have restamped := exists_of_withToken stamped
    simp only [bind, Act.andThen, Act.read_apply, id_eq, stamped, Act.ofExcept_apply,
      Act.change_apply, Act.emit_apply, List.nil_append, List.mem_singleton,
      forall_eq]
    exact ⟨⟨rfl, restamped⟩, rfl, rfl, rfl⟩

/-- A renewal asks for new credentials and then does only plain things. -/
theorem renew_apply (host : Host σ ε) (s : Stage σ) :
    ∃ rest, (renew host s).events = .refreshing :: rest ∧ (∀ e ∈ rest, e.IsPlain) ∧
      Restamped s (renew host s).state := by
  have keeps : (aside host.credentials.refresh >>= fun _ => stamp host).Keeps Restamped
      Event.IsPlain := .bind .trans (keeps_aside _) fun _ => keeps_stamp host
  have renew_eq : renew host s =
      let reply := (aside host.credentials.refresh >>= fun _ => stamp host) s
      ⟨reply.result, reply.state, .refreshing :: reply.events⟩ := by
    rw [renew, Act.bind_apply_of_ok (Act.emit_apply _ s)]
    rfl
  rw [renew_eq]
  exact ⟨_, rfl, (keeps s).2, (keeps s).1⟩

structure Renewed (s : Stage σ) (reply : Reply (Stage σ) (Event ε) Value) : Prop where
  restamped : Restamped s reply.state
  waits_eq : waits reply.events = []
  refreshes_le : refreshes reply.events ≤ 1
  granted : (∃ e ∈ reply.events, e.isRenewal = true) → reply.result = .ok (.bool true)

def answerTo : Except Fault Unit → Except Fault Value
  | .ok () => .ok (.bool true)
  | .error fault => if fault.isAboutCredentials then .ok (.bool false) else .error fault

section
variable (host : Host σ ε) {r : Response} (s : Stage σ)

theorem answerBearer_of_unneeded (unneeded : Challenge.needsRefresh r ≠ .ok true) :
    ∃ result, answerBearer host r s = ⟨result, s, []⟩ ∧ ∀ v, result = .ok v → v = .bool false := by
  cases needed : Challenge.needsRefresh r with
  | error fault => exact ⟨.error fault, by simp [answerBearer, bind, Act.andThen, needed], by simp⟩
  | ok refused =>
    cases refused with
    | true => exact absurd needed unneeded
    | false =>
      exact ⟨.ok (.bool false), by simp [answerBearer, bind, Act.andThen, needed], by simp⟩

/-- A renewal that succeeds is noted as one. -/
theorem answerBearer_of_needed (needed : Challenge.needsRefresh r = .ok true) :
    ∃ notices : List Log.Notice,
      ((∃ notice ∈ notices, Event.isRenewal (.noted notice : Event ε) = true) ↔
        (renew host s).result = .ok ()) ∧
      answerBearer host r s =
        let reply := renew host s
        ⟨answerTo reply.result, reply.state, reply.events ++ notices.map .noted⟩ := by
  cases renewal : renew host s with
  | mk result t events =>
    cases result with
    | ok =>
      exact ⟨[.tokenRefreshed r.status], by simp [Event.isRenewal],
        by simp [answerBearer, answerTo, note, bind, Act.andThen, needed, renewal]⟩
    | error fault =>
      cases expected : fault.isAboutCredentials with
      | false =>
        exact ⟨[], by simp,
          by simp [answerBearer, answerTo, bind, Act.andThen, needed, renewal, expected]⟩
      | true =>
        exact ⟨[.refreshFailed r.status fault.message], by simp [Event.isRenewal],
          by simp [answerBearer, answerTo, note, bind, Act.andThen, needed, renewal, expected]⟩

end

theorem answerBearer_renewed (host : Host σ ε) (r : Response) (s : Stage σ) :
    Renewed s (answerBearer host r s) := by
  by_cases needed : Challenge.needsRefresh r = .ok true
  · obtain ⟨rest, events_eq, plain, restamped⟩ := renew_apply host s
    obtain ⟨notices, renewal_iff, reply_eq⟩ := answerBearer_of_needed host s needed
    have refreshes_eq : refreshes rest = 0 := refreshes_eq_zero fun e he => (plain e he).refresh
    rw [reply_eq]
    simp only [events_eq]
    refine ⟨restamped, ?_, ?_, ?_⟩
    · simp [waits_of_isPlain plain]
    · simp [refreshes_eq]
    · rintro ⟨e, he, renewal⟩
      rw [List.cons_append, List.mem_cons, List.mem_append, List.mem_map] at he
      rcases he with rfl | he | ⟨notice, hn, rfl⟩
      · cases renewal
      · simp [(plain e he).renewal] at renewal
      · simp [renewal_iff.mp ⟨notice, hn, renewal⟩, answerTo]
  · obtain ⟨result, reply_eq, -⟩ := answerBearer_of_unneeded host s needed
    rw [reply_eq]
    exact ⟨.refl s, rfl, by simp, by simp⟩

/-! ## Handlers behind another -/

section
variable {host : Host σ ε} {first second : Handler} {r : Response} {supportsRetry : Bool}
  {s t : Stage σ} {before : List (Event ε)}

theorem ask_chain_of_error {fault : Fault}
    (fails : ask host first (.response r supportsRetry) s = ⟨.error fault, t, before⟩) :
    ask host (.chain first second) (.response r supportsRetry) s = ⟨.error fault, t, before⟩ := by
  simp [ask, bind, Act.andThen, fails]

theorem ask_chain_of_granted {answer : Value}
    (granted : ask host first (.response r supportsRetry) s = ⟨.ok answer, t, before⟩)
    (truth : answer.isTrue = true) :
    ask host (.chain first second) (.response r supportsRetry) s =
      ⟨.ok (.bool true), t, before ++ [.noted (.retryAfterRefresh r.status)]⟩ := by
  simp [ask, note, bind, Act.andThen, granted, truth]

/-- The second handler answers, and its answer is noted. -/
theorem ask_chain_of_declined {answer : Value}
    (declined : ask host first (.response r supportsRetry) s = ⟨.ok answer, t, before⟩)
    (truth : answer.isTrue = false) : ∃ notices : List Log.Notice,
    (∀ notice ∈ notices, Event.isRenewal (.noted notice : Event ε) = false) ∧
      ask host (.chain first second) (.response r supportsRetry) s =
        let reply := ask host second (.response r supportsRetry) t
        ⟨reply.result, reply.state, before ++ (reply.events ++ notices.map .noted)⟩ := by
  cases second_eq : ask host second (.response r supportsRetry) t with
  | mk result u events =>
    cases result with
    | error fault =>
      exact ⟨[], by simp, by simp [ask, bind, Act.andThen, declined, truth, second_eq]⟩
    | ok v =>
      refine ⟨[if v.isTrue then .retryGranted r.status else .retryDeclined r.status], ?_,
        by simp [ask, note, bind, Act.andThen, declined, truth, second_eq]⟩
      cases v.isTrue <;> simp [Event.isRenewal]

end

end HttpRetry.Handling

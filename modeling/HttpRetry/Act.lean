import HttpRetry.Fault.Basic

/-!
# Actions

An action changes a state, leaves events behind and ends with a result or a
fault. What happened before a fault stays: its changes of the state and its
events are part of the reply.
-/

namespace HttpRetry

/-- What running an action gives. Events are in the order in which they happened. -/
structure Reply (σ ε α : Type) where
  result : Except Fault α
  state : σ
  events : List ε

def Act (σ ε α : Type) : Type :=
  σ → Reply σ ε α

namespace Act

variable {σ τ ε δ α β : Type}

def done (a : α) : Act σ ε α :=
  fun s => ⟨.ok a, s, []⟩

def andThen (act : Act σ ε α) (next : α → Act σ ε β) : Act σ ε β := fun s =>
  match act s with
  | ⟨.error fault, s, events⟩ => ⟨.error fault, s, events⟩
  | ⟨.ok a, s, events⟩ =>
    let reply := next a s
    ⟨reply.result, reply.state, events ++ reply.events⟩

instance : Monad (Act σ ε) where
  pure := done
  bind := andThen

def fail (fault : Fault) : Act σ ε α :=
  fun s => ⟨.error fault, s, []⟩

def ofExcept (result : Except Fault α) : Act σ ε α :=
  fun s => ⟨result, s, []⟩

def read (view : σ → α) : Act σ ε α :=
  fun s => ⟨.ok (view s), s, []⟩

def change (f : σ → σ) : Act σ ε Unit :=
  fun s => ⟨.ok (), f s, []⟩

def emit (event : ε) : Act σ ε Unit :=
  fun s => ⟨.ok (), s, [event]⟩

def attempt (act : Act σ ε α) : Act σ ε (Except Fault α) := fun s =>
  let reply := act s
  ⟨.ok reply.result, reply.state, reply.events⟩

/-- Does `last` after an action, however the action ends. A fault of `last` takes
the place of the result. -/
def finallyDo (act : Act σ ε α) (last : Act σ ε Unit) : Act σ ε α := do
  let result ← act.attempt
  last
  ofExcept result

/-! ## Actions on part of a state -/

def within (part : τ → σ) (put : σ → τ → τ) (tell : ε → δ) (act : Act σ ε α) : Act τ δ α :=
  fun s =>
    let reply := act (part s)
    ⟨reply.result, put reply.state s, reply.events.map tell⟩

def told (tell : ε → δ) (act : Act σ ε α) : Act σ δ α :=
  act.within id (fun s _ => s) tell

/-! ## What an action does -/

@[simp] theorem pure_apply (a : α) (s : σ) : (pure a : Act σ ε α) s = ⟨.ok a, s, []⟩ := rfl

@[simp] theorem fail_apply (fault : Fault) (s : σ) :
    (fail fault : Act σ ε α) s = ⟨.error fault, s, []⟩ := rfl

@[simp] theorem ofExcept_apply (result : Except Fault α) (s : σ) :
    (ofExcept result : Act σ ε α) s = ⟨result, s, []⟩ := rfl

@[simp] theorem read_apply (view : σ → α) (s : σ) :
    (read view : Act σ ε α) s = ⟨.ok (view s), s, []⟩ := rfl

@[simp] theorem change_apply (f : σ → σ) (s : σ) :
    (change f : Act σ ε Unit) s = ⟨.ok (), f s, []⟩ := rfl

@[simp] theorem emit_apply (event : ε) (s : σ) :
    (emit event : Act σ ε Unit) s = ⟨.ok (), s, [event]⟩ := rfl

@[simp] theorem attempt_apply (act : Act σ ε α) (s : σ) :
    act.attempt s = ⟨.ok (act s).result, (act s).state, (act s).events⟩ := rfl

@[simp] theorem within_apply (part : τ → σ) (put : σ → τ → τ) (tell : ε → δ) (act : Act σ ε α)
    (t : τ) :
    act.within part put tell t =
      ⟨(act (part t)).result, put (act (part t)).state t, (act (part t)).events.map tell⟩ := rfl

@[simp] theorem told_apply (tell : ε → δ) (act : Act σ ε α) (s : σ) :
    act.told tell s = ⟨(act s).result, (act s).state, (act s).events.map tell⟩ := rfl

theorem bind_apply_of_ok {act : Act σ ε α} {s t : σ} {a : α} {events : List ε}
    (h : act s = ⟨.ok a, t, events⟩) (next : α → Act σ ε β) :
    (act >>= next) s = ⟨(next a t).result, (next a t).state, events ++ (next a t).events⟩ := by
  simp only [bind, andThen, h]

theorem bind_apply_of_error {act : Act σ ε α} {s t : σ} {fault : Fault} {events : List ε}
    (h : act s = ⟨.error fault, t, events⟩) (next : α → Act σ ε β) :
    (act >>= next) s = ⟨.error fault, t, events⟩ := by
  simp only [bind, andThen, h]

theorem bind_pure_apply (act : Act σ ε α) (f : α → β) (s : σ) :
    (act >>= fun a => pure (f a)) s = ⟨(act s).result.map f, (act s).state, (act s).events⟩ := by
  rcases h : act s with ⟨_ | a, t, events⟩
  · exact bind_apply_of_error h _
  · rw [bind_apply_of_ok h, pure_apply, List.append_nil]
    rfl

theorem finallyDo_apply (act : Act σ ε α) (last : Act σ ε Unit) (s : σ) :
    act.finallyDo last s =
      let reply := act s
      let lastly := last reply.state
      ⟨lastly.result.bind fun _ => reply.result, lastly.state, reply.events ++ lastly.events⟩ := by
  cases h : last (act s).state with
  | mk result t events => cases result <;> simp [finallyDo, bind, andThen, h, Except.bind]

instance : LawfulMonad (Act σ ε) :=
  LawfulMonad.mk' (Act σ ε)
    (fun act => by
      funext s
      rcases h : act s with ⟨_ | a, t, events⟩
      · exact bind_apply_of_error h _
      · exact (bind_apply_of_ok h _).trans (by simp [done]))
    (fun a next => by
      funext s
      rw [bind_apply_of_ok (pure_apply a s)]
      rfl)
    (fun act f g => by
      funext s
      rcases h : act s with ⟨_ | a, t, events⟩
      · rw [bind_apply_of_error (bind_apply_of_error h _), bind_apply_of_error h]
      · rw [bind_apply_of_ok h]
        rcases h' : f a t with ⟨fault | b, u, more⟩
        · have h'' : (act >>= f) s = ⟨.error fault, u, events ++ more⟩ := by
            rw [bind_apply_of_ok h, h']
          rw [bind_apply_of_error h'', bind_apply_of_error h']
        · have h'' : (act >>= f) s = ⟨.ok b, u, events ++ more⟩ := by
            rw [bind_apply_of_ok h, h']
          rw [bind_apply_of_ok h'', bind_apply_of_ok h', List.append_assoc])

end Act

end HttpRetry

import HttpRetry.Act

/-!
# What actions keep

A relation between the states before and after, and a property of all events, that
an action keeps if its parts do.
-/

namespace HttpRetry

theorem eq_ok_of_toOption {ε α : Type} {result : Except ε α} {a : α}
    (h : result.toOption = some a) : result = .ok a := by
  cases result with
  | error => cases h
  | ok b =>
    obtain rfl : b = a := Option.some.inj h
    rfl

theorem exists_of_map_ok {κ α β : Type} {f : α → β} {e : Except κ α} {b : β}
    (h : e.map f = .ok b) : ∃ a, e = .ok a ∧ f a = b := by
  cases e with
  | error => cases h
  | ok a => exact ⟨a, rfl, Except.ok.inj h⟩

theorem exists_of_bind_ok {ε α β : Type} {e : Except ε α} {f : α → Except ε β} {b : β}
    (h : (e >>= f) = .ok b) : ∃ a, e = .ok a ∧ f a = .ok b := by
  cases e with
  | error => cases h
  | ok a => exact ⟨a, rfl, h⟩

theorem exists_of_bind_error {ε α β : Type} {e : Except ε α} {f : α → Except ε β} {failure : ε}
    (h : (e >>= f) = .error failure) :
    e = .error failure ∨ ∃ a, e = .ok a ∧ f a = .error failure := by
  cases e with
  | error other =>
    obtain rfl : other = failure := Except.error.inj h
    exact .inl rfl
  | ok a => exact .inr ⟨a, rfl, h⟩

theorem eq_ok_of_mapError {κ ε α : Type} {e : Except κ α} {image : κ → ε} {a : α}
    (h : e.mapError image = .ok a) : e = .ok a := by
  cases e with
  | error => cases h
  | ok b => rw [Except.ok.inj h]

theorem bind_congr_of_ok {ε α β : Type} {e : Except ε α} {after after' : α → Except ε β}
    (same : ∀ a, e = .ok a → after' a = after a) : e >>= after' = e >>= after := by
  cases e with
  | error => rfl
  | ok a => exact same a rfl

theorem mapM_congr_of_mem {ε α β : Type} {read read' : α → Except ε β} {items : List α}
    (same : ∀ a ∈ items, read' a = read a) : items.mapM read' = items.mapM read := by
  induction items with
  | nil => rfl
  | cons a rest ih =>
    obtain ⟨first, later⟩ := List.forall_mem_cons.mp same
    rw [List.mapM_cons, List.mapM_cons, first, ih later]

namespace Act

variable {σ τ ε δ α β : Type}

def Keeps (R : σ → σ → Prop) (P : ε → Prop) (act : Act σ ε α) : Prop :=
  ∀ s, R s (act s).state ∧ ∀ e ∈ (act s).events, P e

section
variable {R : σ → σ → Prop} {P : ε → Prop}

theorem Keeps.ofExcept (refl : ∀ s, R s s) (result : Except Fault α) :
    Keeps R P (.ofExcept result) :=
  fun s => ⟨refl s, by simp⟩

theorem Keeps.emit (refl : ∀ s, R s s) {event : ε} (h : P event) : Keeps R P (.emit event) :=
  fun s => ⟨refl s, by simpa using h⟩

theorem Keeps.pure (refl : ∀ s, R s s) (a : α) : Keeps R P (Pure.pure a) :=
  fun s => ⟨refl s, by simp⟩

theorem Keeps.fail (refl : ∀ s, R s s) (fault : Fault) : Keeps R P (.fail fault : Act σ ε α) :=
  fun s => ⟨refl s, by simp⟩

theorem Keeps.read (refl : ∀ s, R s s) (view : σ → α) : Keeps R P (.read view) :=
  fun s => ⟨refl s, by simp⟩

theorem Keeps.change {f : σ → σ} (h : ∀ s, R s (f s)) : Keeps R P (.change f) :=
  fun s => ⟨h s, by simp⟩

theorem Keeps.weaken {R' : σ → σ → Prop} {P' : ε → Prop} {act : Act σ ε α} (h : Keeps R P act)
    (hR : ∀ {s t}, R s t → R' s t) (hP : ∀ {e}, P e → P' e) : Keeps R' P' act := by
  intro s
  obtain ⟨moves, events_keep⟩ := h s
  exact ⟨hR moves, fun e he => hP (events_keep e he)⟩

theorem Keeps.bind (trans : ∀ {s t u}, R s t → R t u → R s u) {act : Act σ ε α}
    {next : α → Act σ ε β} (h : Keeps R P act) (h' : ∀ a, Keeps R P (next a)) :
    Keeps R P (act >>= next) := by
  intro s
  obtain ⟨moves, events_keep⟩ := h s
  cases reply : act s with
  | mk result t events =>
    rw [reply] at moves events_keep
    cases result with
    | error fault =>
      rw [bind_apply_of_error reply]
      exact ⟨moves, events_keep⟩
    | ok a =>
      rw [bind_apply_of_ok reply]
      obtain ⟨moves', events_keep'⟩ := h' a t
      refine ⟨trans moves moves', fun e he => ?_⟩
      rcases List.mem_append.mp he with he | he
      · exact events_keep e he
      · exact events_keep' e he

end

end Act

end HttpRetry

import HttpRetry.Secrets.Manager

/-!
# What a secrets file holds

Reading the file again comes down to the pairs that the file holds: they are put into the
cache as far as they go, and what ends them is the fault of the call. A manager is new on a
file if it has read that file and nothing else.
-/

namespace HttpRetry

namespace Value.Pairing

def ofRead : Except Fault Value → Pairing
  | .ok v => v.pairing
  | .error fault => ⟨[], some fault⟩

def result (pairing : Pairing) : Except Fault Unit :=
  match pairing.fault with
  | some fault => .error fault
  | none => .ok ()

theorem result_eq_ok_iff {pairing : Pairing} : pairing.result = .ok () ↔ pairing.fault = none := by
  unfold result
  split <;> simp [*]

end Value.Pairing

namespace Secrets

open Value (Pairing)

variable {s : Surroundings} {path : Option String} {key : Value} {m : Manager}

/-- The pairs that the secrets file holds under a key, up to the first defect. A file that
is not there holds none. -/
def contents (s : Surroundings) (path : Option String) (key : Value) : Pairing :=
  match path with
  | none => ⟨[], none⟩
  | some path =>
    match Path.nodeAt s path with
    | .error fault => ⟨[], some fault⟩
    | .ok none => ⟨[], none⟩
    | .ok (some node) => .ofRead (readNode path key node)

namespace Manager

theorem absorb_eq (path : String) (v : Value) (m : Manager) :
    (absorb path v m).result = v.pairing.result ∧
      (absorb path v m).state = { m with cache := merge m.cache v.pairing.pairs } := by
  cases defect : v.pairing.fault with
  | none => simp [absorb, Pairing.result, bind, Act.andThen, defect]
  | some fault => simp [absorb, Pairing.result, bind, Act.andThen, defect]

theorem reload_eq (s : Surroundings) (m : Manager) :
    (reload s m).result = (contents s m.path m.key).result ∧
      (reload s m).state = { m with cache := merge m.cache (contents s m.path m.key).pairs } := by
  obtain ⟨path, key, cache⟩ := m
  unfold contents
  -- one case for each way in which the file may fail to be read
  cases path with
  | none => exact ⟨rfl, rfl⟩
  | some path =>
    cases found : Path.nodeAt s path with
    | error fault => simp [reload, merge, Pairing.result, bind, Act.andThen, found]
    | ok node =>
      cases node with
      | none => simp [reload, merge, Pairing.result, bind, Act.andThen, found]
      | some node =>
        cases read : readNode path key node with
        | error fault =>
          simp [reload, merge, Pairing.ofRead, Pairing.result, bind, Act.andThen, found, read]
        | ok v =>
          obtain ⟨result_eq, state_eq⟩ := absorb_eq path v ⟨some path, key, cache⟩
          simp [reload, Pairing.ofRead, bind, Act.andThen, found, read, result_eq, state_eq]

/-- A file that is there is reported once it has been read to the end. -/
theorem reload_events {file : String} {node : FileNode} (named : m.path = some file)
    (present : Path.nodeAt s file = .ok (some node)) (returned : (reload s m).result = .ok ()) :
    (reload s m).events = [.secretsLoaded file m.key.isTrue] := by
  cases read : readNode file m.key node with
  | error fault => simp [reload, bind, Act.andThen, named, present, read] at returned
  | ok v =>
    have whole : v.pairing.fault = none := by
      rw [(reload_eq s m).1, Pairing.result_eq_ok_iff] at returned
      simpa only [contents, named, present, read, Pairing.ofRead] using returned
    simp [reload, absorb, bind, Act.andThen, named, present, read, whole]

/-! ## Forgetting a secret -/

def refuses (m : Manager) (name : Value) : Bool :=
  !m.cache.isEmpty && !name.isHashable

theorem invalidate_of_refused {name : Value} (refused : m.refuses name = true) :
    invalidate s name m = ⟨.error (.unhashable name.typeName), m, []⟩ := by
  have given : (!m.cache.isEmpty && !name.isHashable) = true := refused
  simp [invalidate, bind, Act.andThen, given]

theorem invalidate_of_taken {name : Value} (taken : m.refuses name = false) :
    (invalidate s name m).result = (contents s m.path m.key).result ∧
      (invalidate s name m).state =
        { m with cache := merge (m.cache.erase name) (contents s m.path m.key).pairs } := by
  have given : (!m.cache.isEmpty && !name.isHashable) = false := taken
  obtain ⟨result_eq, state_eq⟩ := reload_eq s { m with cache := m.cache.erase name }
  cases reloaded : reload s { m with cache := m.cache.erase name } with
  | mk result after events =>
    rw [reloaded] at result_eq state_eq
    rw [← result_eq, ← state_eq]
    cases result <;> simp [invalidate, bind, Act.andThen, given, reloaded]

theorem refuses_text (m : Manager) (name : String) : m.refuses (.text name) = false := by
  simp [refuses, Value.isHashable]

theorem invalidate_events {name file : String} {node : FileNode} (named : m.path = some file)
    (present : Path.nodeAt s file = .ok (some node))
    (returned : (invalidate s (.text name) m).result = .ok ()) :
    (invalidate s (.text name) m).events =
      [.secretsLoaded file m.key.isTrue, .secretInvalidated (.text name)] := by
  rw [(invalidate_of_taken (m.refuses_text name)).1,
    ← (reload_eq s { m with cache := m.cache.erase (.text name) }).1] at returned
  have told := reload_events (m := { m with cache := m.cache.erase (.text name) }) named present
    returned
  cases reloaded : reload s { m with cache := m.cache.erase (.text name) } with
  | mk result after events =>
    rw [reloaded] at returned told
    subst returned told
    simp [invalidate, Value.isHashable, bind, Act.andThen, reloaded]

/-! ## New managers -/

def IsNew (s : Surroundings) (path : Option String) (key : Value) (m : Manager) : Prop :=
  ∃ notices, reload s ⟨path, key, []⟩ = ⟨.ok (), m, notices⟩

theorem isNew_iff : IsNew s path key m ↔ (contents s path key).fault = none ∧
    m = ⟨path, key, merge [] (contents s path key).pairs⟩ := by
  obtain ⟨result_eq, state_eq⟩ := reload_eq s ⟨path, key, []⟩
  cases reloaded : reload s ⟨path, key, []⟩ with
  | mk result after events =>
    rw [reloaded] at result_eq state_eq
    subst result_eq state_eq
    rw [← Pairing.result_eq_ok_iff, IsNew, reloaded]
    simp [eq_comm]

theorem create_eq_ok_iff {file given : Value}
    (named : unread s file given = .ok ⟨path, key, []⟩) :
    (∃ notices, create s file given = .ok (m, notices)) ↔ IsNew s path key m := by
  cases reloaded : reload s ⟨path, key, []⟩ with
  | mk result after events =>
    cases result <;> simp [IsNew, create, named, reloaded, bind, Except.bind, pure, Except.pure]

end Manager

end Secrets

end HttpRetry

import HttpRetry.Secrets.Manager

/-!
# What a manager answers

A secret is that of the environment, else that of the cache, else the backend's. The cache is
looked at under the name that is asked for and nowhere else.
-/

namespace HttpRetry.Secrets.Vault

variable {σ ε : Type} (vault : Vault σ ε) {name : String} {m m' : Manager} {outer : σ}

/-! ## What is found without the backend -/

def environmentText? (name : String) (outer : σ) : Option String :=
  (vault.surroundings outer).readVariable (Utf8.throughBytes name)

theorem find?_of_variable {text : String} (given : vault.environmentText? name outer = some text) :
    Manager.find? (vault.surroundings outer) name m = some (.text text, .environment) := by
  rw [environmentText?] at given
  simp [Manager.find?, given]

theorem find?_of_missing (missing : vault.environmentText? name outer = none) :
    Manager.find? (vault.surroundings outer) name m =
      (m.cache.getText? name).map fun secret => (secret, .cache) := by
  rw [environmentText?] at missing
  cases held : m.cache.getText? name <;> simp [Manager.find?, missing, held]

theorem find?_congr (same : m.cache.getText? name = m'.cache.getText? name) (outer : σ) :
    Manager.find? (vault.surroundings outer) name m =
      Manager.find? (vault.surroundings outer) name m' := by
  simp only [Manager.find?, same]

/-! ## Lookups -/

def backendReply (ask : String → Act σ ε Value) (name : String) (m : Manager) (outer : σ) :
    Reply (Manager × σ) ε Value :=
  match ask name outer with
  | ⟨.error fault, after, events⟩ =>
    ⟨.ok .null, (m, after), events ++ [vault.tell (.backendFailed name fault.message)]⟩
  | ⟨.ok secret, after, events⟩ =>
    if secret.isTrue then
      ⟨.ok secret, (m.remember name secret, after),
        events ++ [vault.tell (.secretRetrieved name .backend)]⟩
    else ⟨.ok secret, (m, after), events⟩

theorem askBackend_apply (ask : String → Act σ ε Value) (name : String) (m : Manager) (outer : σ) :
    vault.askBackend ask name (m, outer) = vault.backendReply ask name m outer := by
  unfold backendReply
  cases reply : ask name outer with
  | mk result after events =>
    cases result with
    | error fault => simp [askBackend, aside, bind, Act.andThen, reply]
    | ok secret =>
      cases truth : secret.isTrue <;>
        simp [askBackend, aside, bind, Act.andThen, reply, truth]

theorem getNamed_apply (name : String) (m : Manager) (outer : σ) :
    vault.getNamed name (m, outer) =
      match Manager.find? (vault.surroundings outer) name m, vault.backend with
      | some (secret, source), _ =>
        ⟨.ok secret, (m, outer), [vault.tell (.secretRetrieved name source)]⟩
      | none, some ask => vault.backendReply ask name m outer
      | none, none => ⟨.ok .null, (m, outer), []⟩ := by
  cases found : Manager.find? (vault.surroundings outer) name m with
  | some secret => simp [getNamed, bind, Act.andThen, found]
  | none =>
    cases asked : vault.backend with
    | some ask => simp [getNamed, bind, Act.andThen, found, asked, askBackend_apply]
    | none => simp [getNamed, bind, Act.andThen, found, asked]

/-- The secret of a name of which `held` is cached. A backend that fails has nothing. -/
def answer (name : String) (held : Option Value) (outer : σ) : Value :=
  match vault.environmentText? name outer, held, vault.backend with
  | some text, _, _ => .text text
  | none, some secret, _ => secret
  | none, none, some ask => (ask name outer).result.toOption.getD .null
  | none, none, none => .null

theorem backendReply_result (ask : String → Act σ ε Value) (name : String) (m : Manager)
    (outer : σ) : (vault.backendReply ask name m outer).result =
      .ok ((ask name outer).result.toOption.getD .null) := by
  unfold backendReply
  split
  · simp [*, Except.toOption]
  · split <;> simp [*, Except.toOption]

theorem getNamed_result (name : String) (m : Manager) (outer : σ) :
    (vault.getNamed name (m, outer)).result =
      .ok (vault.answer name (m.cache.getText? name) outer) := by
  rw [getNamed_apply]
  unfold answer
  cases given : vault.environmentText? name outer with
  | some text => rw [find?_of_variable vault given]
  | none =>
    rw [find?_of_missing vault given]
    cases m.cache.getText? name with
    | some secret => rfl
    | none =>
      cases vault.backend with
      | some ask => exact vault.backendReply_result ask name m outer
      | none => rfl

theorem get_of_encodable (encodable : checkHalves CodePoint.isByte name = .ok ()) :
    vault.get (.text name) = vault.getNamed name := by
  funext state
  simp [get, variableName, bind, Act.andThen, Except.bind, pure, Except.pure, encodable]

theorem get_of_unnamed {key : Value} {fault : Fault} {state : Manager × σ}
    (unnamed : variableName key = .error fault) :
    vault.get key state = ⟨.error fault, state, []⟩ := by
  simp [get, bind, Act.andThen, unnamed]

theorem unnamed_of_unencodable {fault : Fault}
    (unencodable : checkHalves CodePoint.isByte name = .error fault) :
    variableName (.text name) = .error fault := by
  simp [variableName, bind, Except.bind, unencodable]

/-! ## Lookups seen from outside -/

/-- What can be seen of a lookup outside the manager: its result, its events, and what it makes
of the state around. -/
def seen (name : String) (state : Manager × σ) : Except Fault Value × List ε × σ :=
  let reply := vault.get (.text name) state
  (reply.result, reply.events, reply.state.2)

theorem seen_fst (name : String) (m : Manager) (outer : σ) : (vault.seen name (m, outer)).1 =
    (checkHalves CodePoint.isByte name).map fun _ =>
      vault.answer name (m.cache.getText? name) outer := by
  unfold seen
  cases encodable : checkHalves CodePoint.isByte name with
  | error fault =>
    rw [get_of_unnamed vault (unnamed_of_unencodable encodable)]
    rfl
  | ok =>
    rw [get_of_encodable vault encodable]
    exact vault.getNamed_result name m outer

/-- A name that no variable can have is refused by every manager in the same way. -/
theorem seen_of_unencodable (unencodable : checkHalves CodePoint.isByte name ≠ .ok ()) :
    vault.seen name (m, outer) = vault.seen name (m', outer) := by
  unfold seen
  cases checked : checkHalves CodePoint.isByte name with
  | ok => exact absurd checked unencodable
  | error fault =>
    rw [get_of_unnamed vault (unnamed_of_unencodable checked),
      get_of_unnamed vault (unnamed_of_unencodable checked)]

/-- Managers that find the same without the backend cannot be told apart. -/
theorem seen_congr (same : Manager.find? (vault.surroundings outer) name m =
    Manager.find? (vault.surroundings outer) name m') :
    vault.seen name (m, outer) = vault.seen name (m', outer) := by
  by_cases encodable : checkHalves CodePoint.isByte name = .ok ()
  case neg => exact vault.seen_of_unencodable encodable
  unfold seen
  rw [get_of_encodable vault encodable, getNamed_apply, getNamed_apply, same]
  split
  · rfl
  · unfold backendReply
    split
    · rfl
    · split <;> rfl
  · rfl

end HttpRetry.Secrets.Vault

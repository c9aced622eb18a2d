import HttpRetry.Proofs.Secrets.Answers
import HttpRetry.Proofs.Secrets.Contents
import HttpRetry.Proofs.Value.Lookup
import Mathlib.Data.List.Induction

/-!
# What a manager remembers

The cache of a manager is what its deeds have made of it, one after the other: it remembers
the pairs of every content of the secrets file that it reads and the secrets of the backend,
and it forgets a secret that is invalidated. So a secret that has been invalidated is looked
up as by a new manager. Any other secret outlives its entry in the file.
-/

namespace HttpRetry.Secrets

inductive Deed where
  | remember (name secret : Value)
  | forget (name : Value)

namespace Deed

def name : Deed → Value
  | remember name _ | forget name => name

def secret? : Deed → Option Value
  | remember _ secret => some secret
  | forget _ => none

def on (cache : Entries) : Deed → Entries
  | remember name secret => cache.put name secret
  | forget name => cache.erase name

def ofPairs (pairs : List (Value × Value)) : List Deed :=
  pairs.map fun pair => remember pair.1 pair.2

def memory (name : String) (deeds : List Deed) : Option Value :=
  (deeds.filter (·.name.sameKey (.text name))).getLast?.bind secret?

variable {name : String}

theorem memory_concat (deeds : List Deed) (deed : Deed) : memory name (deeds ++ [deed]) =
    if deed.name.sameKey (.text name) then deed.secret? else memory name deeds := by
  by_cases about : deed.name.sameKey (.text name) = true
  · simp [memory, about]
  · simp [memory, about]

theorem getText?_on (cache : Entries) (deed : Deed) : (deed.on cache).getText? name =
    if deed.name.sameKey (.text name) then deed.secret? else cache.getText? name := by
  by_cases about : deed.name = .text name
  · rw [if_pos (Value.sameKey_text.mpr about)]
    cases deed with
    | remember k secret =>
      obtain rfl : k = .text name := about
      exact Entries.getText?_put_self cache
    | forget k =>
      obtain rfl : k = .text name := about
      exact Entries.getText?_erase_self cache
  · rw [if_neg (mt Value.sameKey_text.mp about)]
    cases deed with
    | remember k secret => exact Entries.getText?_put_of_ne about cache
    | forget k => exact Entries.getText?_erase_of_ne about cache

/-- A cache that deeds have made of nothing has of a name what the last of them says. -/
theorem getText?_foldl (deeds : List Deed) :
    Entries.getText? name (deeds.foldl on []) = memory name deeds := by
  induction deeds using List.reverseRecOn with
  | nil => rfl
  | append_singleton deeds deed ih =>
    rw [List.foldl_append, memory_concat, ← ih]
    exact getText?_on _ deed

theorem foldl_ofPairs (cache : Entries) (pairs : List (Value × Value)) :
    (ofPairs pairs).foldl on cache = Manager.merge cache pairs := by
  rw [ofPairs, List.foldl_map]
  rfl

/-- What pairs say of a name comes before what was cached. -/
theorem getText?_merge (cache : Entries) (pairs : List (Value × Value)) :
    (Manager.merge cache pairs).getText? name =
      (memory name (ofPairs pairs)).or (cache.getText? name) := by
  rw [← foldl_ofPairs]
  -- from the end, where the last pair about the name decides on both sides
  induction pairs using List.reverseRecOn with
  | nil => rfl
  | append_singleton pairs pair ih =>
    have concat_eq : ofPairs (pairs ++ [pair]) = ofPairs pairs ++ [remember pair.1 pair.2] := by
      simp [ofPairs]
    rw [concat_eq, List.foldl_append, List.foldl_cons, List.foldl_nil, getText?_on, memory_concat,
      ih]
    split <;> rfl

theorem memory_append_pairs (deeds : List Deed) (pairs : List (Value × Value)) :
    memory name (deeds ++ ofPairs pairs) =
      (memory name (ofPairs pairs)).or (memory name deeds) := by
  rw [← getText?_foldl, List.foldl_append, foldl_ofPairs, getText?_merge, getText?_foldl]

end Deed

def held (s : Surroundings) (path : Option String) (key : Value) (name : String) : Option Value :=
  Deed.memory name (Deed.ofPairs (contents s path key).pairs)

/-! ## Deeds of calls -/

namespace Vault

variable {σ ε : Type} (vault : Vault σ ε)

def learnt (name : Value) (state : Manager × σ) : List Deed :=
  match variableName name with
  | .error _ => []
  | .ok name =>
    match Manager.find? (vault.surroundings state.2) name state.1, vault.backend with
    | none, some ask =>
      match (ask name state.2).result with
      | .ok secret => if secret.isTrue then [.remember (.text name) secret] else []
      | .error _ => []
    | _, _ => []

def dropped (name : Value) (state : Manager × σ) : List Deed :=
  if state.1.refuses name then []
  else .forget name :: Deed.ofPairs
    (contents (vault.surroundings state.2) state.1.path state.1.key).pairs

theorem get_deeds (name : Value) (state : Manager × σ) : (vault.get name state).state.1 =
    { state.1 with cache := (vault.learnt name state).foldl Deed.on state.1.cache } := by
  obtain ⟨m, outer⟩ := state
  cases named : variableName name with
  | error fault => simp [learnt, get_of_unnamed vault named, named]
  | ok text =>
    have get_eq : vault.get name (m, outer) = vault.getNamed text (m, outer) := by
      simp [get, bind, Act.andThen, named]
    rw [get_eq, getNamed_apply]
    cases found : Manager.find? (vault.surroundings outer) text m with
    | some secret => simp [learnt, named, found]
    | none =>
      cases asked : vault.backend with
      | none => simp [learnt, named, found, asked]
      | some ask =>
        cases reply : ask text outer with
        | mk result after events =>
          cases result with
          | error fault => simp [learnt, backendReply, named, found, asked, reply]
          | ok secret =>
            cases truth : secret.isTrue <;>
              simp [learnt, backendReply, Manager.remember, Deed.on, named, found, asked, reply,
                truth]

theorem invalidate_apply (name : Value) (m : Manager) (outer : σ) :
    vault.invalidate name (m, outer) =
      let reply := Manager.invalidate (vault.surroundings outer) name m
      ⟨reply.result, (reply.state, outer), reply.events.map vault.tell⟩ := by
  simp [invalidate, byManager, bind, Act.andThen]

theorem invalidate_deeds (name : Value) (state : Manager × σ) :
    (vault.invalidate name state).state.1 =
      { state.1 with cache := (vault.dropped name state).foldl Deed.on state.1.cache } := by
  obtain ⟨m, outer⟩ := state
  rw [invalidate_apply]
  unfold dropped
  cases refused : m.refuses name with
  | true => simp [Manager.invalidate_of_refused refused]
  | false => simp [(Manager.invalidate_of_taken refused).2, Deed.on, Deed.foldl_ofPairs]

end Vault

/-! ## Histories -/

/-- What happens to a manager that has been made for a file and a key: it is asked and secrets
are invalidated, whether the calls return or not, and in between what lies outside goes its own
way. The deeds are on record. -/
inductive History {σ ε : Type} (vault : Vault σ ε) (path : Option String) (key : Value) :
    List Deed → Manager × σ → Prop
  | created {file given : Value} {m notices outer}
      (named : Manager.unread (vault.surroundings outer) file given = .ok ⟨path, key, []⟩)
      (made : Manager.create (vault.surroundings outer) file given = .ok (m, notices)) :
      History vault path key (Deed.ofPairs (contents (vault.surroundings outer) path key).pairs)
        (m, outer)
  | got {deeds state} (name : Value) (before : History vault path key deeds state) :
      History vault path key (deeds ++ vault.learnt name state) (vault.get name state).state
  | invalidated {deeds state} (name : Value) (before : History vault path key deeds state) :
      History vault path key (deeds ++ vault.dropped name state) (vault.invalidate name state).state
  | meanwhile {deeds m outer} (later : σ) (before : History vault path key deeds (m, outer)) :
      History vault path key deeds (m, later)

section
variable {σ ε : Type} {vault : Vault σ ε} {path : Option String} {key : Value} {deeds : List Deed}
  {m : Manager} {outer : σ} {name : String}

theorem manager_of_history {state : Manager × σ} (history : History vault path key deeds state) :
    state.1 = ⟨path, key, deeds.foldl Deed.on []⟩ := by
  induction history with
  | created named made =>
    have new := (Manager.create_eq_ok_iff named).mp ⟨_, made⟩
    rw [(Manager.isNew_iff.mp new).2, Deed.foldl_ofPairs]
  | got name _ ih => rw [Vault.get_deeds, ih, List.foldl_append]
  | invalidated name _ ih => rw [Vault.invalidate_deeds, ih, List.foldl_append]
  | meanwhile _ _ ih => exact ih

theorem getText?_of_history (history : History vault path key deeds (m, outer)) (name : String) :
    m.cache.getText? name = Deed.memory name deeds := by
  rw [show m = _ from manager_of_history history, Deed.getText?_foldl]

theorem getText?_of_isNew {s : Surroundings} {fresh : Manager}
    (new : Manager.IsNew s path key fresh) (name : String) :
    fresh.cache.getText? name = held s path key name := by
  rw [(Manager.isNew_iff.mp new).2, ← Deed.foldl_ofPairs, Deed.getText?_foldl]
  rfl

/-- A manager can be made anew whenever a secret could be invalidated. -/
theorem exists_isNew (history : History vault path key deeds (m, outer))
    (returned : (vault.invalidate (.text name) (m, outer)).result = .ok ()) :
    ∃ fresh, Manager.IsNew (vault.surroundings outer) path key fresh := by
  have manager_eq : m = _ := manager_of_history history
  rw [Vault.invalidate_apply] at returned
  have sound : (Manager.invalidate (vault.surroundings outer) (.text name) m).result = .ok () :=
    returned
  rw [(Manager.invalidate_of_taken (m.refuses_text name)).1, Value.Pairing.result_eq_ok_iff,
    manager_eq] at sound
  exact ⟨_, Manager.isNew_iff.mpr ⟨sound, rfl⟩⟩

/-- Of the deeds of an invalidated secret what the file holds comes last. -/
theorem getText?_of_invalidated (history : History vault path key deeds (m, outer))
    (name other : String) :
    (vault.invalidate (.text name) (m, outer)).state.1.cache.getText? other =
      (held (vault.surroundings outer) path key other).or
        (if other = name then none else Deed.memory other deeds) := by
  have manager_eq : m = _ := manager_of_history history
  have after : (vault.invalidate (.text name) (m, outer)).state.1.cache.getText? other =
      Deed.memory other (deeds ++ vault.dropped (.text name) (m, outer)) :=
    getText?_of_history (history.invalidated (.text name)) other
  have dropped_eq : vault.dropped (.text name) (m, outer) = Deed.forget (.text name) ::
      Deed.ofPairs (contents (vault.surroundings outer) path key).pairs := by
    simp [Vault.dropped, Manager.refuses_text, manager_eq]
  have split_eq (pairs : List (Value × Value)) :
      deeds ++ Deed.forget (.text name) :: Deed.ofPairs pairs =
        deeds ++ [.forget (.text name)] ++ Deed.ofPairs pairs := by
    simp
  rw [after, dropped_eq, split_eq, Deed.memory_append_pairs, Deed.memory_concat]
  simp [held, Deed.name, Deed.secret?, Value.sameKey, Value.number?, eq_comm]

end

/-! ## A file that changes -/

def withSecrets (text : String) : Surroundings :=
  ⟨[], [("secrets.json", .regular (Utf8.encode text))]⟩

def filesVault (backend : Option (String → Act Surroundings Log.Notice Value)) :
    Vault Surroundings Log.Notice :=
  { surroundings := id, backend, tell := id }

def pairsIn (text : String) : Value.Pairing :=
  contents (withSecrets text) (some "secrets.json") .null

def rewritten (first second : String) : Manager × Surroundings :=
  (⟨some "secrets.json", .null, Manager.merge [] (pairsIn first).pairs⟩, withSecrets second)

theorem history_rewritten {backend first} (second : String)
    (whole : (pairsIn first).fault.isNone = true) :
    History (filesVault backend) (some "secrets.json") .null (Deed.ofPairs (pairsIn first).pairs)
      (rewritten first second) := by
  have named : Manager.unread (withSecrets first) (.text "secrets.json") .null =
      .ok ⟨some "secrets.json", .null, []⟩ := by rfl
  have new : Manager.IsNew (withSecrets first) (some "secrets.json") .null
      (rewritten first second).1 :=
    Manager.isNew_iff.mpr ⟨Option.isNone_iff_eq_none.mp whole, rfl⟩
  obtain ⟨notices, made⟩ := (Manager.create_eq_ok_iff named).mpr new
  have created : History (filesVault backend) (some "secrets.json") .null
      (Deed.ofPairs (pairsIn first).pairs) ((rewritten first second).1, withSecrets first) :=
    .created named made
  exact created.meanwhile _

/-! ## Looking up after an invalidation -/

variable {σ ε : Type} {vault : Vault σ ε} {path : Option String} {key : Value} {deeds : List Deed}
  {m fresh : Manager} {outer : σ} {name : String}

/-- A manager that has invalidated a secret, and a new one for the same file and key, look a
secret up in the same way unless the former has outlived its entry in the file. -/
theorem seen_eq_of_known (history : History vault path key deeds (m, outer))
    (new : Manager.IsNew (vault.surroundings outer) path key fresh) {other : String} {later : σ}
    (known : other = name ∨ (held (vault.surroundings outer) path key other).isSome ∨
      (vault.environmentText? other later).isSome ∨ Deed.memory other deeds = none ∨
      checkHalves CodePoint.isByte other ≠ .ok ()) :
    vault.seen other ((vault.invalidate (.text name) (m, outer)).state.1, later) =
      vault.seen other (fresh, later) := by
  by_cases encodable : checkHalves CodePoint.isByte other = .ok ()
  case neg => exact vault.seen_of_unencodable encodable
  apply vault.seen_congr
  cases given : vault.environmentText? other later with
  | some text =>
    -- neither cache is looked at
    rw [vault.find?_of_variable given, vault.find?_of_variable given]
  | none =>
    apply vault.find?_congr
    rw [getText?_of_invalidated history, getText?_of_isNew new]
    rcases known with rfl | inFile | inEnvironment | unknown | unencodable
    · simp
    · rw [Option.or_of_isSome inFile]
    · simp [given] at inEnvironment
    · simp [unknown]
    · exact absurd encodable unencodable

theorem seen_of_outlived (alone : vault.backend = none)
    (history : History vault path key deeds (m, outer))
    (new : Manager.IsNew (vault.surroundings outer) path key fresh) {other : String} {later : σ}
    {secret : Value} (different : other ≠ name)
    (missing : held (vault.surroundings outer) path key other = none)
    (given : vault.environmentText? other later = none)
    (remembered : Deed.memory other deeds = some secret)
    (encodable : checkHalves CodePoint.isByte other = .ok ()) :
    (vault.seen other ((vault.invalidate (.text name) (m, outer)).state.1, later)).1 = .ok secret ∧
      (vault.seen other (fresh, later)).1 = .ok .null := by
  have kept : (vault.invalidate (.text name) (m, outer)).state.1.cache.getText? other =
      some secret := by
    rw [getText?_of_invalidated history, missing, if_neg different, remembered]
    rfl
  have nothing := (getText?_of_isNew new other).trans missing
  rw [Vault.seen_fst, Vault.seen_fst, kept, nothing, encodable]
  simp [Vault.answer, given, alone, Except.map]

theorem events_of_invalidated {file : String} {node : FileNode}
    (history : History vault (some file) key deeds (m, outer))
    (present : Path.nodeAt (vault.surroundings outer) file = .ok (some node))
    (returned : (vault.invalidate (.text name) (m, outer)).result = .ok ()) :
    (vault.invalidate (.text name) (m, outer)).events =
      [.secretsLoaded file key.isTrue, .secretInvalidated (.text name)].map vault.tell := by
  have manager_eq : m = _ := manager_of_history history
  have named : m.path = some file := by rw [manager_eq]
  have sealing : m.key = key := by rw [manager_eq]
  rw [Vault.invalidate_apply] at returned ⊢
  have told := Manager.invalidate_events named present returned
  rw [sealing] at told
  exact congrArg _ told

/-- Once a secret has been invalidated, looking it up cannot be told from what a manager does
that is made anew for the same file and key, whatever becomes of the environment and of the
backend until then. The environment comes first, then the file, then the backend. -/
theorem seen_of_invalidated (history : History vault path key deeds (m, outer))
    (returned : (vault.invalidate (.text name) (m, outer)).result = .ok ()) :
    let s := vault.surroundings outer
    let after := (vault.invalidate (.text name) (m, outer)).state.1
    ∃ fresh, Manager.IsNew s path key fresh ∧
      (∀ file given, Manager.unread s file given = .ok ⟨path, key, []⟩ →
        ∃ notices, Manager.create s file given = .ok (fresh, notices)) ∧
      ∀ later, vault.seen name (after, later) = vault.seen name (fresh, later) ∧
        (vault.seen name (after, later)).1 = (checkHalves CodePoint.isByte name).map fun _ =>
          vault.answer name (held s path key name) later := by
  intro s after
  obtain ⟨fresh, new⟩ := exists_isNew history returned
  refine ⟨fresh, new, fun file given named => (Manager.create_eq_ok_iff named).mpr new, ?_⟩
  intro later
  have same : vault.seen name (after, later) = vault.seen name (fresh, later) :=
    seen_eq_of_known history new (.inl rfl)
  refine ⟨same, ?_⟩
  rw [same, Vault.seen_fst, getText?_of_isNew new]

/-- The backend has a secret that has gone from the file since. -/
theorem seen_of_lent :
    let vault := filesVault (some fun _ => pure (.text "lent"))
    let state := rewritten "\x7b\"TOKEN\": \"first\"\x7d" "\x7b\"OTHER\": \"kept\"\x7d"
    let reply := vault.invalidate (.text "TOKEN") state
    (∃ deeds, History vault (some "secrets.json") .null deeds state) ∧ reply.result = .ok () ∧
      (vault.seen "TOKEN" state).1 = .ok (.text "first") ∧
      (vault.seen "TOKEN" reply.state).1 = .ok (.text "lent") := by
  intro vault state reply
  have history : History vault (some "secrets.json") .null _ state :=
    history_rewritten _ (by decide +kernel)
  have returned : reply.result = .ok () := by
    apply eq_ok_of_toOption
    decide +kernel
  obtain ⟨fresh, -, -, given⟩ := seen_of_invalidated history returned
  refine ⟨⟨_, history⟩, returned, ?_, ?_⟩
  · apply eq_ok_of_text
    decide +kernel
  · apply Eq.trans (given state.2).2
    apply eq_ok_of_text
    decide +kernel

/-- Without a backend, once a secret has been invalidated and the file read again, secrets are
looked up as by a new manager, but for those that are neither in the file nor in the
environment and have been remembered and not forgotten before. These are still given, though a
new manager has none. -/
theorem seen_of_reread {file : String} {node : FileNode} (alone : vault.backend = none)
    (history : History vault (some file) key deeds (m, outer))
    (present : Path.nodeAt (vault.surroundings outer) file = .ok (some node))
    (returned : (vault.invalidate (.text name) (m, outer)).result = .ok ()) :
    let s := vault.surroundings outer
    let reply := vault.invalidate (.text name) (m, outer)
    reply.events =
        [.secretsLoaded file key.isTrue, .secretInvalidated (.text name)].map vault.tell ∧
    ∃ fresh, Manager.IsNew s (some file) key fresh ∧ ∀ other later,
      ((other = name ∨ (held s (some file) key other).isSome ∨
          (vault.environmentText? other later).isSome ∨ Deed.memory other deeds = none ∨
          checkHalves CodePoint.isByte other ≠ .ok ()) →
        vault.seen other (reply.state.1, later) = vault.seen other (fresh, later)) ∧
      (∀ secret, other ≠ name → held s (some file) key other = none →
        vault.environmentText? other later = none → Deed.memory other deeds = some secret →
        checkHalves CodePoint.isByte other = .ok () →
        (vault.seen other (reply.state.1, later)).1 = .ok secret ∧
          (vault.seen other (fresh, later)).1 = .ok .null) := by
  intro s reply
  obtain ⟨fresh, new⟩ := exists_isNew history returned
  refine ⟨events_of_invalidated history present returned, fresh, new, fun other later => ?_⟩
  constructor
  · exact seen_eq_of_known history new
  · intro secret
    exact seen_of_outlived alone history new

def replaced : Manager × Surroundings :=
  rewritten "\x7b\"A\": \"1\", \"B\": \"2\"\x7d" "\x7b\"A\": \"3\"\x7d"

theorem history_replaced : History (filesVault none) (some "secrets.json") .null
    (Deed.ofPairs (pairsIn "\x7b\"A\": \"1\", \"B\": \"2\"\x7d").pairs) replaced :=
  history_rewritten _ (by decide +kernel)

theorem nodeAt_replaced : Path.nodeAt replaced.2 "secrets.json" =
    .ok (some (.regular (Utf8.encode "\x7b\"A\": \"3\"\x7d"))) := by
  apply eq_ok_of_toOption
  decide +kernel

theorem invalidate_replaced :
    ((filesVault none).invalidate (.text "A") replaced).result = .ok () := by
  apply eq_ok_of_toOption
  decide +kernel

/-- It is given as by a new manager. -/
theorem seen_of_replaced :
    let reply := (filesVault none).invalidate (.text "A") replaced
    reply.result = .ok () ∧
      ∃ fresh, Manager.IsNew replaced.2 (some "secrets.json") .null fresh ∧
        (filesVault none).seen "A" reply.state = (filesVault none).seen "A" (fresh, replaced.2) ∧
        ((filesVault none).seen "A" reply.state).1 = .ok (.text "3") := by
  intro reply
  obtain ⟨-, fresh, new, agrees⟩ :=
    seen_of_reread rfl history_replaced nodeAt_replaced invalidate_replaced
  refine ⟨invalidate_replaced, fresh, new, (agrees "A" replaced.2).1 (.inl rfl), ?_⟩
  apply eq_ok_of_text
  decide +kernel

/-- The latter is still given, though a new manager has none. -/
theorem seen_outlives_reread :
    let reply := (filesVault none).invalidate (.text "A") replaced
    (∃ deeds, History (filesVault none) (some "secrets.json") .null deeds replaced) ∧
      reply.result = .ok () ∧
      (∃ node, Path.nodeAt replaced.2 "secrets.json" = .ok (some node)) ∧
      ((filesVault none).seen "B" reply.state).1 = .ok (.text "2") ∧
      ∃ fresh, Manager.IsNew replaced.2 (some "secrets.json") .null fresh ∧
        ((filesVault none).seen "B" (fresh, replaced.2)).1 = .ok .null := by
  intro reply
  have given : ((filesVault none).seen "B" reply.state).1 = .ok (.text "2") := by
    apply eq_ok_of_text
    decide +kernel
  have absent : held replaced.2 (some "secrets.json") .null "B" = none := by
    rw [← Option.isNone_iff_eq_none]
    decide +kernel
  obtain ⟨fresh, new⟩ := exists_isNew history_replaced invalidate_replaced
  refine ⟨⟨_, history_replaced⟩, invalidate_replaced, ⟨_, nodeAt_replaced⟩, given, fresh, new, ?_⟩
  have unknown := (getText?_of_isNew new "B").trans absent
  rw [Vault.seen_fst, unknown]
  rfl

end HttpRetry.Secrets

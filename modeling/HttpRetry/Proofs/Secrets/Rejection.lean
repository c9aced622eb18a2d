import HttpRetry.Proofs.Secrets.Memory

/-!
# Files that are rejected

An invalidation that fails leaves every other secret as it was if the secrets file cannot be
read, or holds something that does not begin with a pair. A list that begins with pairs and
goes on with something else is rejected as well, but only after these pairs have been put into
the cache.
-/

namespace HttpRetry

/-! ## Lists that break off -/

namespace Value

def IsPair (item : Value) (pair : Value × Value) : Prop :=
  item.items? = some [pair.1, pair.2] ∧ pair.1.isHashable = true

/-- A list of items that are pairs, up to one that is none. -/
def BreaksOff (v : Value) (pairs : List (Value × Value)) : Prop :=
  ∃ whole bad rest, v = .list (whole ++ bad :: rest) ∧ List.Forall₂ IsPair whole pairs ∧
    ∀ pair, ¬bad.IsPair pair

variable {index : Nat} {item v : Value} {items : List Value} {pair : Value × Value}
  {pairs : List (Value × Value)}

theorem pairAt_eq_ok_iff : pairAt index item = .ok pair ↔ item.IsPair pair := by
  obtain ⟨key, secret⟩ := pair
  unfold pairAt IsPair
  split
  case h_1 none => simp [none]
  case h_2 first second parts =>
    have parts_eq : item.items? = some [key, secret] ↔ first = key ∧ second = secret := by
      simp [parts]
    rw [parts_eq]
    by_cases hashable : first.isHashable = true
    · rw [if_pos hashable, Except.ok.injEq, Prod.mk.injEq]
      exact ⟨fun same => ⟨same, same.1 ▸ hashable⟩, And.left⟩
    · rw [if_neg hashable]
      refine iff_of_false nofun ?_
      rintro ⟨⟨rfl, -⟩, proper⟩
      exact hashable proper
  case h_3 parts other given =>
    refine iff_of_false nofun ?_
    rintro ⟨two, -⟩
    exact other key secret (Option.some.inj (given.symm.trans two))

theorem pairsFrom_of_pair (h : item.IsPair pair) (rest : List Value) :
    pairsFrom index (item :: rest) =
      ⟨pair :: (pairsFrom (index + 1) rest).pairs, (pairsFrom (index + 1) rest).fault⟩ := by
  rw [pairsFrom, pairAt_eq_ok_iff.mpr h]

theorem pairsFrom_of_bad (bad : ∀ pair, ¬item.IsPair pair) (rest : List Value) :
    (pairsFrom index (item :: rest)).pairs = [] := by
  rw [pairsFrom]
  cases read : pairAt index item with
  | error => rfl
  | ok pair => exact absurd (pairAt_eq_ok_iff.mp read) (bad pair)

theorem pairsFrom_of_whole {whole : List Value} {bad : Value}
    (h : List.Forall₂ IsPair whole pairs) (ends : ∀ pair, ¬bad.IsPair pair) (rest : List Value) :
    (pairsFrom index (whole ++ bad :: rest)).pairs = pairs := by
  induction h generalizing index with
  | nil => exact pairsFrom_of_bad ends rest
  | cons first _ ih => rw [List.cons_append, pairsFrom_of_pair first, ih]

/-- Items that are not all pairs are pairs up to one that is none. -/
theorem exists_bad (defect : (pairsFrom index items).fault ≠ none) :
    ∃ whole bad rest, items = whole ++ bad :: rest ∧
      List.Forall₂ IsPair whole (pairsFrom index items).pairs ∧ ∀ pair, ¬bad.IsPair pair := by
  induction items generalizing index with
  | nil => exact absurd rfl defect
  | cons item rest ih =>
    by_cases first : ∃ pair, item.IsPair pair
    · obtain ⟨pair, isPair⟩ := first
      rw [pairsFrom_of_pair isPair] at defect ⊢
      obtain ⟨whole, bad, after, rfl, pairs, ends⟩ := ih defect
      exact ⟨item :: whole, bad, after, rfl, .cons isPair pairs, ends⟩
    · have ends := not_exists.mp first
      refine ⟨[], item, rest, rfl, ?_, ends⟩
      rw [pairsFrom_of_bad ends]
      exact .nil

/-- A text of one character has one part. -/
theorem not_isPair_character (point : Nat) : ¬(text (CodePoint.toText [point])).IsPair pair := by
  rintro ⟨parts, -⟩
  have one : (CodePoint.ofText (CodePoint.toText [point])).length = 1 := by
    unfold CodePoint.ofText CodePoint.toText CodePoint.write
    rw [String.toList_ofList, List.flatMap_singleton]
    split
    · rw [CodePoint.read_mark]
      rfl
    · split <;> rfl
  have two := congrArg List.length (Option.some.inj parts)
  rw [List.length_map, one] at two
  cases two

theorem pairing_of_breaksOff (h : v.BreaksOff pairs) : v.pairing.pairs = pairs := by
  obtain ⟨whole, bad, rest, rfl, first, ends⟩ := h
  exact pairsFrom_of_whole first ends rest

/-- Of what cannot be gone through as pairs only a list gives any. -/
theorem breaksOff_of_pairing (defect : v.pairing.fault ≠ none) (begun : v.pairing.pairs ≠ []) :
    v.BreaksOff v.pairing.pairs := by
  cases v with
  | list items =>
    obtain ⟨whole, bad, rest, items_eq, first, ends⟩ := exists_bad defect
    exact ⟨whole, bad, rest, congrArg list items_eq, first, ends⟩
  | text s =>
    -- the items of a text are its characters
    refine absurd ?_ begun
    change (pairsFrom 0 ((CodePoint.ofText s).map fun point => _)).pairs = []
    cases CodePoint.ofText s with
    | nil => rfl
    | cons point rest => exact pairsFrom_of_bad (fun _ => not_isPair_character point) _
  | map => exact absurd rfl defect
  | _ => exact absurd rfl begun

end Value

namespace Secrets

open Value (Pairing)

/-! ## Files that break off -/

def FileBreaksOff (s : Surroundings) (path : Option String) (key : Value)
    (pairs : List (Value × Value)) : Prop :=
  ∃ file node v, path = some file ∧ Path.nodeAt s file = .ok (some node) ∧
    readNode file key node = .ok v ∧ v.BreaksOff pairs

section
variable {s : Surroundings} {path : Option String} {key : Value} {pairs : List (Value × Value)}

theorem contents_of_read {file : String} {node : FileNode} {v : Value}
    (present : Path.nodeAt s file = .ok (some node)) (read : readNode file key node = .ok v) :
    contents s (some file) key = v.pairing := by
  simp only [contents, present, read, Pairing.ofRead]

theorem contents_of_breaksOff (h : FileBreaksOff s path key pairs) :
    (contents s path key).pairs = pairs := by
  obtain ⟨file, node, v, rfl, present, read, breaks⟩ := h
  rw [contents_of_read present read]
  exact Value.pairing_of_breaksOff breaks

/-- A file with a defect has given pairs before it only if it breaks off after them. -/
theorem fileBreaksOff_of_contents (defect : (contents s path key).fault ≠ none)
    (begun : (contents s path key).pairs ≠ []) :
    FileBreaksOff s path key (contents s path key).pairs := by
  -- one case for each way in which the file may fail to be read, which gives no pairs
  cases path with
  | none => exact absurd rfl begun
  | some file =>
    cases present : Path.nodeAt s file with
    | error => simp [contents, present] at begun
    | ok node =>
      cases node with
      | none => simp [contents, present] at begun
      | some node =>
        cases read : readNode file key node with
        | error => simp [contents, present, read, Pairing.ofRead] at begun
        | ok v =>
          rw [contents_of_read present read] at defect begun ⊢
          exact ⟨file, node, v, rfl, present, read, Value.breaksOff_of_pairing defect begun⟩

end

/-! ## Invalidations that fail -/

variable {σ ε : Type} {vault : Vault σ ε} {m : Manager} {outer : σ} {name : Value} {fault : Fault}

/-- An invalidation that fails leaves the secrets of all other names as they were, unless the
secrets file breaks off after at least one pair. The pairs before the break are remembered:
another name has the secret of the last of them that is about it, and what was cached before
if none is. -/
theorem cache_of_rejected (raised : (vault.invalidate name (m, outer)).result = .error fault) :
    let s := vault.surroundings outer
    let after := (vault.invalidate name (m, outer)).state.1
    ((∀ pairs, FileBreaksOff s m.path m.key pairs → pairs = []) →
      after.cache.erase name = m.cache.erase name) ∧
    ∀ pairs, FileBreaksOff s m.path m.key pairs → m.refuses name = false →
      ∀ other, .text other ≠ name → after.cache.getText? other =
        (Deed.memory other (Deed.ofPairs pairs)).or (m.cache.getText? other) := by
  intro s after
  have after_eq : after = (Manager.invalidate s name m).state := by
    simp only [after, s, Vault.invalidate_apply]
  rw [Vault.invalidate_apply] at raised
  rw [after_eq]
  cases refused : m.refuses name with
  | true => simp [Manager.invalidate_of_refused refused]
  | false =>
    obtain ⟨result_eq, state_eq⟩ := Manager.invalidate_of_taken (s := s) refused
    have defect : (contents s m.path m.key).fault ≠ none := by
      intro sound
      rw [← Pairing.result_eq_ok_iff, ← result_eq] at sound
      cases sound.symm.trans raised
    rw [state_eq]
    refine ⟨fun unbroken => ?_, fun pairs broken _ other different => ?_⟩
    · have nothing : (contents s m.path m.key).pairs = [] := by
        by_contra begun
        exact begun (unbroken _ (fileBreaksOff_of_contents defect begun))
      rw [nothing]
      simp [Manager.merge, Entries.erase, List.filter_filter]
    · rw [contents_of_breaksOff broken, Deed.getText?_merge,
        Entries.getText?_erase_of_ne different.symm]

def rejecting (text : String) : Manager × Surroundings :=
  rewritten "\x7b\"TOKEN\": \"first\", \"OTHER\": \"kept\"\x7d" text

theorem getText?_rejecting (text : String) :
    (rejecting text).1.cache.getText? "OTHER" = some (.text "kept") := by
  have cached : (rejecting "").1.cache.getText? "OTHER" = some (.text "kept") := by
    apply eq_some_of_text
    decide +kernel
  exact cached

theorem raised_rejecting {text : String} (defect : (pairsIn text).fault.isSome = true) :
    ∃ fault, ((filesVault none).invalidate (.text "TOKEN") (rejecting text)).result =
      .error fault := by
  obtain ⟨fault, defect⟩ := Option.isSome_iff_exists.mp defect
  refine ⟨fault, ?_⟩
  rw [Vault.invalidate_apply]
  refine (Manager.invalidate_of_taken (Manager.refuses_text _ _)).1.trans ?_
  change (pairsIn text).result = .error fault
  rw [Pairing.result, defect]

theorem breaksOff_pairsIn {text : String} (defect : (pairsIn text).fault.isSome = true)
    (begun : (pairsIn text).pairs.isEmpty = false) :
    FileBreaksOff (withSecrets text) (some "secrets.json") .null (pairsIn text).pairs := by
  refine fileBreaksOff_of_contents (fun sound => ?_) (fun empty => ?_)
  · rw [pairsIn, sound] at defect
    cases defect
  · rw [pairsIn, empty] at begun
    cases begun

/-- A list whose first item is no pair is rejected before the pair after it is read. Of one
that breaks off later the last pair about a name counts. -/
theorem cache_of_rejected_lists :
    let early := "[5, [\"OTHER\", \"changed\"]]"
    let late := "[[\"OTHER\", \"changed\"], [\"OTHER\", \"again\"], 5]"
    let reply (text : String) := (filesVault none).invalidate (.text "TOKEN") (rejecting text)
    ((∃ fault, (reply early).result = .error fault) ∧
        (reply early).state.1.cache.getText? "OTHER" = some (.text "kept")) ∧
      (∃ fault, (reply late).result = .error fault) ∧
        (reply late).state.1.cache.getText? "OTHER" = some (.text "again") := by
  intro early late reply
  have different : Value.text "TOKEN" ≠ .text "OTHER" := by simp
  constructor
  · obtain ⟨fault, raised⟩ : ∃ fault, (reply early).result = .error fault :=
      raised_rejecting (by decide +kernel)
    have same : (reply early).state.1.cache.erase (.text "TOKEN") =
        (rejecting early).1.cache.erase (.text "TOKEN") := by
      refine (cache_of_rejected raised).1 fun pairs broken => ?_
      rw [← contents_of_breaksOff broken, ← List.isEmpty_iff]
      decide +kernel
    refine ⟨⟨fault, raised⟩, ?_⟩
    rw [← Entries.getText?_erase_of_ne different, same, Entries.getText?_erase_of_ne different]
    exact getText?_rejecting early
  · obtain ⟨fault, raised⟩ : ∃ fault, (reply late).result = .error fault :=
      raised_rejecting (by decide +kernel)
    have broken : FileBreaksOff _ _ _ (pairsIn late).pairs :=
      breaksOff_pairsIn (by decide +kernel) (by decide +kernel)
    have remembered := (cache_of_rejected raised).2 _ broken (Manager.refuses_text _ _) "OTHER"
      different.symm
    refine ⟨⟨fault, raised⟩, remembered.trans ?_⟩
    apply eq_some_of_text
    decide +kernel

/-- A list that breaks off after its first pair is rejected too, and has changed a secret. -/
theorem cache_changes_rejected :
    let state := rejecting "[[\"OTHER\", \"changed\"], 5]"
    let reply := (filesVault none).invalidate (.text "TOKEN") state
    (∃ deeds, History (filesVault none) (some "secrets.json") .null deeds state) ∧
      (∃ fault, reply.result = .error fault) ∧
      reply.state.1.cache.getText? "OTHER" = some (.text "changed") ∧
      ¬∀ other, other ≠ "TOKEN" →
        reply.state.1.cache.getText? other = state.1.cache.getText? other := by
  intro state reply
  have changed : reply.state.1.cache.getText? "OTHER" = some (.text "changed") := by
    apply eq_some_of_text
    decide +kernel
  refine ⟨⟨_, history_rewritten _ (by decide +kernel)⟩, raised_rejecting (by decide +kernel),
    changed, fun same => ?_⟩
  have kept := (same "OTHER" (by decide)).symm.trans changed
  rw [getText?_rejecting] at kept
  simp at kept

end Secrets

end HttpRetry

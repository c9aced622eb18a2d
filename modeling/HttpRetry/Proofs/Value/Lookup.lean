import HttpRetry.Proofs.Act
import HttpRetry.Value.Pairs

/-!
# Texts and entries by name

When a value is a text, and what a mapping has under a text after entries have been put into
it and erased from it. Keys that are no texts are never the same as one.
-/

namespace HttpRetry

theorem Value.sameKey_text {k : Value} {name : String} :
    k.sameKey (.text name) = true ↔ k = .text name := by
  cases k <;> simp [Value.sameKey, Value.number?]

theorem Value.text_sameKey {k : Value} {name : String} :
    (Value.text name).sameKey k = true ↔ k = .text name := by
  cases k <;> simp [Value.sameKey, Value.number?, eq_comm]

theorem Value.text?_eq_some_iff {v : Value} {text : String} :
    v.text? = some text ↔ v = .text text := by
  cases v <;> simp [Value.text?]

theorem eq_some_of_text {found : Option Value} {text : String}
    (h : found.bind Value.text? = some text) : found = some (.text text) := by
  obtain ⟨v, given, text_eq⟩ := Option.bind_eq_some_iff.mp h
  rw [given, Value.text?_eq_some_iff.mp text_eq]

theorem eq_ok_of_text {result : Except Fault Value} {text : String}
    (h : result.toOption.bind Value.text? = some text) : result = .ok (.text text) :=
  eq_ok_of_toOption (eq_some_of_text h)

namespace Entries

def named (name : String) (entries : Entries) : Entries :=
  entries.filter (·.1.sameKey (.text name))

variable {name : String} {v : Value}

theorem erase_put_self (entries : Entries) :
    (entries.put (.text name) v).erase (.text name) = entries.erase (.text name) := by
  induction entries with
  | nil => simp [put, erase, Value.sameKey_text]
  | cons entry rest ih =>
    unfold erase at *
    by_cases h : entry.1.sameKey (.text name) = true
    · simp [put, h]
    · simp [put, h, ih]

theorem named_put_self {entries : Entries} (h : (named name entries).length ≤ 1) :
    named name (entries.put (.text name) v) = [(.text name, v)] := by
  induction entries with
  | nil => simp [put, named, Value.sameKey_text]
  | cons entry rest ih =>
    unfold named at *
    by_cases same : entry.1.sameKey (.text name) = true
    · have none : rest.filter (·.1.sameKey (.text name)) = [] := by
        simpa [List.filter_cons, same] using h
      have key_eq : entry.1 = .text name := Value.sameKey_text.mp same
      simp [put, none, key_eq, Value.sameKey_text]
    · have fewer : (rest.filter (·.1.sameKey (.text name))).length ≤ 1 := by
        simpa [List.filter_cons, same] using h
      simp [put, same, ih fewer]

theorem named_put_of_ne {k : Value} (other : k ≠ .text name) (entries : Entries) :
    named name (entries.put k v) = named name entries := by
  have unnamed : ¬k.sameKey (.text name) = true := fun same => other (Value.sameKey_text.mp same)
  induction entries with
  | nil => simp [put, named, unnamed]
  | cons entry rest ih =>
    unfold named at *
    by_cases same : entry.1.sameKey k = true
    · have entry_other : ¬entry.1.sameKey (.text name) = true := by
        intro entry_named
        rw [Value.sameKey_text.mp entry_named, Value.text_sameKey] at same
        exact other same
      simp [put, same, entry_other]
    · simp only [put, same, Bool.false_eq_true, if_false, List.filter_cons, ih]

theorem getText?_eq_head? (entries : Entries) :
    getText? name entries = (named name entries).head?.map (·.2) := by
  rw [named, List.head?_filter]
  rfl

theorem getText?_put_self (entries : Entries) :
    getText? name (entries.put (.text name) v) = some v := by
  induction entries with
  | nil => simp [put, getText?_eq_head?, named, Value.sameKey_text]
  | cons entry rest ih =>
    rw [getText?_eq_head?] at *
    by_cases same : entry.1.sameKey (.text name) = true
    · simp [put, named, same]
    · simpa [put, named, same] using ih

theorem getText?_put_of_ne {k : Value} (other : k ≠ .text name) (entries : Entries) :
    getText? name (entries.put k v) = getText? name entries := by
  rw [getText?_eq_head?, getText?_eq_head?, named_put_of_ne other]

theorem getText?_erase_self (entries : Entries) :
    getText? name (entries.erase (.text name)) = none := by
  have erased : named name (entries.erase (.text name)) = [] := by
    simp [named, erase, List.filter_filter]
  rw [getText?_eq_head?, erased]
  rfl

theorem getText?_erase_of_ne {k : Value} (other : k ≠ .text name) (entries : Entries) :
    getText? name (entries.erase k) = getText? name entries := by
  have kept : named name (entries.erase k) = named name entries := by
    rw [named, erase, List.filter_filter]
    apply List.filter_congr
    intro entry _
    by_cases same : entry.1 = .text name
    · have unlike : ¬(Value.text name).sameKey k = true := fun like =>
        other (Value.text_sameKey.mp like)
      simp [same, unlike]
    · have unnamed : ¬entry.1.sameKey (.text name) = true := fun like =>
        same (Value.sameKey_text.mp like)
      simp [unnamed]
  rw [getText?_eq_head?, kept, ← getText?_eq_head?]

end Entries

/-- A mapping has one entry of a name at most. -/
theorem Value.named_toEntries {v : Value} {entries : Entries} (h : v.toEntries = .ok entries)
    (name : String) : (entries.named name).length ≤ 1 := by
  have grows (pairs : List (Value × Value)) (start : Entries)
      (hs : (start.named name).length ≤ 1) :
      ((pairs.foldl (fun entries pair => entries.put pair.1 pair.2) start).named name).length
        ≤ 1 := by
    induction pairs generalizing start with
    | nil => exact hs
    | cons pair rest ih =>
      apply ih
      by_cases same : pair.1 = .text name
      · simp [same, Entries.named_put_self hs]
      · simpa [Entries.named_put_of_ne same] using hs
  unfold Value.toEntries at h
  split at h
  · split at h
    · cases h
      exact grows _ [] (Nat.zero_le 1)
    · cases h
  · cases h
    exact Nat.zero_le 1

end HttpRetry

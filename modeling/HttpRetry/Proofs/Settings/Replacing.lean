import HttpRetry.Proofs.Settings.Names
import Mathlib.Data.List.Basic

/-!
# Another value of a field in a source

Where a text for a field is replaced by another, what the source gives for the other fields and the
names that are no setting stay the same.
-/

namespace HttpRetry.Settings

variable {r : Rules} {f g : Field} {source : SettingsSource}
  {entries entries' : List EnvFile.Binding} {texts texts' : Texts} {name old new n : String}

/-! ## Another value of one name -/

/-- The second entries have another value in one place under the name and are the same otherwise. -/
def Replaces {α : Type} (name : String) (old new : α) (entries entries' : List (String × α)) :
    Prop :=
  ∃ before after, entries = before ++ (name, old) :: after ∧
    entries' = before ++ (name, new) :: after

namespace Replaces

section
variable {α : Type} {old new : α} {entries entries' : List (String × α)}
  (h : Replaces name old new entries entries')
include h

theorem map {β : Type} (image : α → β) :
    Replaces name (image old) (image new) (entries.map fun (name, value) => (name, image value))
      (entries'.map fun (name, value) => (name, image value)) := by
  obtain ⟨before, after, rfl, rfl⟩ := h
  exact ⟨_, _, List.map_append, List.map_append⟩

theorem lookup_of_ne (n : String) (other : n ≠ name) : entries'.lookup n = entries.lookup n := by
  obtain ⟨before, after, rfl, rfl⟩ := h
  have unlike : (n == name) = false := by simpa using other
  rw [List.lookup_append, List.lookup_append, List.lookup_cons, List.lookup_cons, unlike]

end

theorem single {α : Type} (name : String) (old new : α) :
    Replaces name old new [(name, old)] [(name, new)] :=
  ⟨[], [], rfl, rfl⟩

end Replaces

/-! ## Texts of another name -/

theorem filter_bind (n name : String) (value : Option String) (known : Texts) :
    (EnvFile.bind name value known).filter (·.1 ≠ n) =
      if name = n then known.filter (·.1 ≠ n)
      else EnvFile.bind name value (known.filter (·.1 ≠ n)) := by
  induction known with
  | nil => by_cases here : name = n <;> simp [EnvFile.bind, here]
  | cons entry rest ih =>
    by_cases bound : entry.1 = name
    · by_cases here : name = n <;> simp [EnvFile.bind, bound, here]
    · by_cases here : name = n <;> by_cases entry_here : entry.1 = n <;>
        simp_all [EnvFile.bind]

theorem filter_foldl_bind (fold : String → String) (n : String) (entries : List EnvFile.Binding)
    (known : Texts) :
    (entries.foldl (fun texts (name, value) => EnvFile.bind (fold name) value texts) known).filter
        (·.1 ≠ n) =
      (entries.filter (fold ·.1 ≠ n)).foldl
        (fun texts (name, value) => EnvFile.bind (fold name) value texts)
        (known.filter (·.1 ≠ n)) := by
  induction entries generalizing known with
  | nil => rfl
  | cons entry rest ih =>
    rw [List.foldl_cons, ih, filter_bind]
    by_cases here : fold entry.1 = n <;> simp [here]

def SameBut (n : String) (texts texts' : Texts) : Prop :=
  texts'.filter (·.1 ≠ n) = texts.filter (·.1 ≠ n)

theorem Replaces.sameBut {old new : Option String} (h : Replaces name old new entries entries') :
    SameBut (r.fold name) (r.texts entries) (r.texts entries') := by
  obtain ⟨before, after, rfl, rfl⟩ := h
  unfold SameBut Rules.texts
  dsimp only
  rw [filter_foldl_bind, filter_foldl_bind, List.filter_comm, List.filter_comm]
  simp

theorem Replaces.lookup_texts (h : Replaces name (some old) (some new) entries entries')
    (old_some : old ≠ "") (new_some : new ≠ "") :
    (r.texts entries').lookup (r.fold name) = (r.texts entries).lookup (r.fold name) ∨
      (r.texts entries).lookup (r.fold name) = some (some old) ∧
        (r.texts entries').lookup (r.fold name) = some (some new) := by
  obtain ⟨before, after, rfl, rfl⟩ := h
  rw [r.lookup_texts, r.lookup_texts, List.filter_append, List.filter_append,
    List.filter_cons_of_pos (by simp [new_some]), List.filter_cons_of_pos (by simp [old_some])]
  generalize after.filter _ = later
  -- a later value of the name counts in the place of either
  cases last : later.getLast? with
  | none => right; simp [List.getLast?_cons, last]
  | some entry => left; simp [List.getLast?_cons, last]

/-! ## Fields that are found -/

inductive Agree {α : Type} (R : α → α → Prop) : Except Fault α → Except Fault α → Prop
  | failed (fault : Fault) : Agree R (.error fault) (.error fault)
  | gave {a a' : α} (related : R a a') : Agree R (.ok a) (.ok a')

def GiveSameBut (f : Field) (given given' : Field → Option Value) : Prop :=
  ∀ g, g ≠ f → given' g = given g

theorem Agree.bind {α β : Type} {R : α → α → Prop} {T : β → β → Prop} {e e' : Except Fault α}
    {after after' : α → Except Fault β} (h : Agree R e e')
    (step : ∀ a a', R a a' → Agree T (after a) (after' a')) :
    Agree T (e >>= after) (e' >>= after') := by
  cases h with
  | failed fault => exact .failed fault
  | gave related => exact step _ _ related

theorem Agree.bind_eq {α β : Type} {R : α → α → Prop} {e e' : Except Fault α}
    {after after' : α → Except Fault β} (h : Agree R e e')
    (step : ∀ a a', R a a' → after' a' = after a) : e' >>= after' = e >>= after := by
  cases h with
  | failed fault => rfl
  | gave related => exact step _ _ related

theorem Agree.mono {α : Type} {R T : α → α → Prop} {e e' : Except Fault α} (h : Agree R e e')
    (weaker : ∀ a a', R a a' → T a a') : Agree T e e' := by
  cases h with
  | failed fault => exact .failed fault
  | gave related => exact .gave (weaker _ _ related)

theorem Agree.of_eq {α : Type} {R : α → α → Prop} (refl : ∀ a, R a a) {e e' : Except Fault α}
    (same : e' = e) : Agree R e e' := by
  subst same
  cases e' with
  | error fault => exact .failed fault
  | ok a => exact .gave (refl a)

theorem findAll_agree {find find' : Field → Except Fault (Option Value)}
    (same : ∀ g, g ≠ f → find' g = find g) (agree : Agree (fun _ _ => True) (find f) (find' f)) :
    Agree (GiveSameBut f) (findAll find) (findAll find') := by
  have fields (fields : List Field) :
      Agree (fun values values' => ∀ g, g ≠ f → values'.lookup g = values.lookup g)
        (fields.mapM fun g => do return (g, ← find g))
        (fields.mapM fun g => do return (g, ← find' g)) := by
    induction fields with
    | nil => exact .gave fun g _ => rfl
    | cons g rest ih =>
      have first : Agree (fun value value' => g ≠ f → value' = value) (find g) (find' g) := by
        by_cases here : g = f
        · subst here
          exact agree.mono fun _ _ _ other => absurd rfl other
        · exact .of_eq (fun _ _ => rfl) (same g here)
      simp only [List.mapM_cons, bind_assoc, pure_bind]
      refine first.bind fun v v' alike => ih.bind fun values values' rest_same => ?_
      refine .gave fun k other => ?_
      rw [List.lookup_cons, List.lookup_cons, rest_same k other]
      by_cases here : k = g
      · subst here
        rw [alike other]
      · rw [beq_false_of_ne here]
  exact (fields Field.all).bind fun values values' same => .gave fun g other => by
    rw [same g other]

def Decodes (f : Field) (text : String) : Prop :=
  f = .retryStatusCodes → ∃ v, Json.read text = .ok v

theorem ne_empty_of_decodes {text : String} (decodes : Decodes .retryStatusCodes text) :
    text ≠ "" := by
  rintro rfl
  obtain ⟨v, read⟩ := decodes rfl
  cases read

theorem Rules.find_of_sameBut (named : r.sourceName? f = some n) (same : SameBut n texts texts')
    (other : g ≠ f) : r.find source texts' g = r.find source texts g := by
  have parts_eq : r.partsOf texts' g = r.partsOf texts g := by
    unfold partsOf
    split
    · have unlike : r.isPart n = false := isPart_of_ne named (Ne.symm other)
      have parts (texts : Texts) : texts.filter (fun entry => r.isPart entry.1) =
          (texts.filter (·.1 ≠ n)).filter fun entry => r.isPart entry.1 := by
        rw [List.filter_filter]
        congr 1
        funext entry
        by_cases here : entry.1 = n <;> simp [here, unlike]
      rw [parts texts', same, ← parts texts]
    · rfl
  unfold find
  cases given : r.sourceName? g with
  | none => rfl
  | some m =>
    have unlike : m ≠ n := by
      rintro rfl
      exact sourceName?_ne named other given
    have lookup_eq : texts'.lookup m = texts.lookup m := by
      rw [← Surroundings.lookup_filter_ne unlike, same, Surroundings.lookup_filter_ne unlike]
    rw [parts_eq]
    dsimp only
    rw [lookup_eq]

theorem Rules.exists_find_codes {text : String} (named : r.sourceName? .retryStatusCodes = some n)
    (given : texts.lookup n = some (some text)) (decodes : Decodes .retryStatusCodes text) :
    ∃ found, r.find source texts .retryStatusCodes = .ok found := by
  unfold find
  rw [named]
  dsimp only
  rw [given, Option.join_some]
  dsimp only
  split
  · exact ⟨_, rfl⟩
  · obtain ⟨v, read⟩ := decodes rfl
    rw [valueOf_codes, read]
    exact ⟨_, rfl⟩

theorem Rules.find_agree (named : r.sourceName? f = some n)
    (same : texts'.lookup n = texts.lookup n) :
    Agree (fun _ _ => True) (r.find source texts f) (r.find source texts' f) := by
  unfold find
  rw [named]
  dsimp only
  rw [same]
  split
  · exact .of_eq (fun _ => trivial) rfl
  · exact .gave trivial

theorem Replaces.find_agree (named : r.sourceName? f = some (r.fold name))
    (h : Replaces name (some old) (some new) entries entries') (decodes : Decodes f old)
    (decodes' : Decodes f new) (source : SettingsSource) :
    Agree (fun _ _ => True) (r.find source (r.texts entries) f)
      (r.find source (r.texts entries') f) := by
  by_cases codes : f = .retryStatusCodes
  · subst codes
    rcases h.lookup_texts (r := r) (ne_empty_of_decodes decodes) (ne_empty_of_decodes decodes') with
      same | ⟨given, given'⟩
    · exact Rules.find_agree named same
    · obtain ⟨found, found_eq⟩ := Rules.exists_find_codes named given decodes
      obtain ⟨found', found_eq'⟩ := Rules.exists_find_codes named given' decodes'
      rw [found_eq, found_eq']
      exact .gave trivial
  · obtain ⟨start, start_eq⟩ := Rules.exists_start_of_name named
    obtain ⟨found, found_eq⟩ := Rules.find_of_ne start_eq codes source (r.texts entries)
    obtain ⟨found', found_eq'⟩ := Rules.find_of_ne start_eq codes source (r.texts entries')
    rw [found_eq, found_eq']
    exact .gave trivial

theorem Replaces.findAll_agree (named : r.sourceName? f = some (r.fold name))
    (h : Replaces name (some old) (some new) entries entries') (decodes : Decodes f old)
    (decodes' : Decodes f new) (source : SettingsSource) :
    Agree (GiveSameBut f) (findAll (r.find source (r.texts entries)))
      (findAll (r.find source (r.texts entries'))) :=
  Settings.findAll_agree (fun _ other => Rules.find_of_sameBut named h.sameBut other)
    (h.find_agree named decodes decodes' source)

theorem Rules.find_of_findAll {start : String} (start_eq : r.start = .text start)
    {found : Field → Option Value} (finds : findAll (r.find source texts) = .ok found)
    (f : Field) : r.find source texts f = .ok (found f) := by
  by_cases garbled : ∃ fault, r.Garbles source texts fault
  · obtain ⟨fault, garbled⟩ := garbled
    cases finds.symm.trans (findAll_of_garbles start_eq garbled)
  · obtain ⟨given, gives⟩ := exists_found start_eq (not_exists.mp garbled)
    cases finds.symm.trans (findAll_of_ok gives)
    exact gives f

/-! ## Names that are no setting -/

theorem unknownTexts_of_sameBut (known : r.isKnown n = true) (same : SameBut n texts texts') :
    unknownTexts r texts' = unknownTexts r texts := by
  have others (texts : Texts) :
      unknownTexts r texts = unknownTexts r (texts.filter (·.1 ≠ n)) := by
    unfold unknownTexts
    rw [List.filterMap_filter]
    congr 1
    funext entry
    by_cases here : entry.1 = n
    · cases given : entry.2 <;> simp [here, known, given]
    · simp [here]
  rw [others texts', same, ← others texts]

end HttpRetry.Settings

import HttpRetry.Proofs.Settings.Sources
import HttpRetry.Proofs.Text.Case

/-!
# Variables of settings

Without rules the names of variables and of the lines of a file are compared without case. Of
several that are equal the last one counts.
-/

namespace HttpRetry.Settings

variable {s : Surroundings} {f : Field} {fault : Fault} {source : SettingsSource} {texts : Texts}

/-! ## The last of equal names -/

theorem lookup_cons (entry : EnvFile.Binding) (rest : Texts) (n : String) :
    List.lookup n (entry :: rest) = if n = entry.1 then some entry.2 else rest.lookup n := by
  by_cases same : n = entry.1
  · rw [List.lookup_cons, if_pos same, beq_iff_eq.mpr same]
  · rw [List.lookup_cons, if_neg same, beq_eq_false_iff_ne.mpr same]

theorem lookup_bind (name : String) (value : Option String) (known : Texts) (n : String) :
    (EnvFile.bind name value known).lookup n = if n = name then some value else known.lookup n := by
  induction known with
  | nil => exact lookup_cons (name, value) [] n
  | cons entry rest ih =>
    unfold EnvFile.bind
    by_cases bound : entry.1 = name
    · rw [if_pos bound, lookup_cons, lookup_cons, bound]
      split <;> rfl
    · rw [if_neg bound, lookup_cons, lookup_cons, ih]
      by_cases here : n = entry.1
      · rw [if_pos here, if_pos here, if_neg (here ▸ bound)]
      · rw [if_neg here, if_neg here]

theorem lookup_foldl_bind (fold : String → String) (entries : List EnvFile.Binding) (known : Texts)
    (n : String) :
    (entries.foldl (fun texts (name, value) => EnvFile.bind (fold name) value texts) known).lookup
        n =
      (((entries.filter fun entry => fold entry.1 = n).getLast?).map (·.2)).or
        (known.lookup n) := by
  induction entries generalizing known with
  | nil => simp
  | cons entry rest ih =>
    rw [List.foldl_cons, ih, lookup_bind, List.filter_cons]
    by_cases same : fold entry.1 = n
    · cases last : (rest.filter fun entry => fold entry.1 = n).getLast? <;>
        simp [same, List.getLast?_cons, last]
    · simp [same, Ne.symm same]

theorem Rules.lookup_texts (r : Rules) (entries : List EnvFile.Binding) (n : String) :
    (r.texts entries).lookup n =
      ((entries.filter fun entry => decide (r.fold entry.1 = n) &&
        !(r.ignoreEmpty && entry.2 == some "")).getLast?).map (·.2) := by
  unfold texts
  dsimp only
  rw [lookup_foldl_bind, List.lookup_nil, Option.or_none, List.filter_filter]

theorem texts_plain (entries : List EnvFile.Binding) : (Rules.ofOverrides []).texts entries =
    entries.foldl (fun texts (name, value) => EnvFile.bind (lowerCase name) value texts) [] := by
  have kept : (entries.filter fun entry => !((Rules.ofOverrides []).ignoreEmpty &&
      entry.2 == some "")) = entries :=
    List.filter_eq_self.mpr fun entry _ => rfl
  rw [Rules.texts, kept]
  rfl

theorem lookup_texts_plain (entries : List EnvFile.Binding) (n : String) :
    ((Rules.ofOverrides []).texts entries).lookup n =
      ((entries.filter fun entry => lowerCase entry.1 = n).getLast?).map (·.2) := by
  have kept : (Rules.ofOverrides []).ignoreEmpty = false := rfl
  have fold_eq (name : String) : (Rules.ofOverrides []).fold name = lowerCase name := rfl
  simp only [Rules.lookup_texts, kept, fold_eq, Bool.false_and, Bool.not_false, Bool.and_true]

/-! ## Names of fields -/

theorem Field.ofName?_name (f : Field) : Field.ofName? f.name = some f := by
  cases f <;> rfl

theorem Field.name_injective {f g : Field} (same : f.name = g.name) : f = g := by
  rw [← Option.some_inj, ← ofName?_name, same, ofName?_name]

theorem Field.isName (f : Field) : Case.isName f.name.toList = true := by
  cases f <;> decide +kernel

/-- The names of rules begin with an underscore. -/
theorem Field.notMem_names (f : Field) : f.name ∉ Rules.names := by
  have rules : ∀ name ∈ Rules.names, name.toList.head? = some '_' := by
    decide
  have setting : f.name.toList.head? ≠ some '_' := by
    cases f <;> decide
  exact fun mem => setting (rules _ mem)

theorem Field.lowerCase_name (f : Field) : lowerCase f.name = f.name :=
  lowerCase_of_isName f.isName

/-! ## Variables -/

def variableName (f : Field) : String :=
  "http_sdk_" ++ f.name

theorem variableName_injective {f g : Field} (same : variableName f = variableName g) : f = g := by
  apply Field.name_injective
  simpa [variableName] using same

theorem sourceName?_plain (f : Field) :
    (Rules.ofOverrides []).sourceName? f = some (variableName f) := by
  have start : lowerCase "HTTP_SDK_" = "http_sdk_" := by decide
  have folded : lowerCase ("HTTP_SDK_" ++ f.name) = "http_sdk_" ++ f.name := by
    rw [lowerCase_append (by decide) (Case.sigma_notMem f.isName), start, f.lowerCase_name]
  exact congrArg some folded

def environmentText? (s : Surroundings) (f : Field) : Option String :=
  ((s.environment.filter fun entry => lowerCase entry.1 = variableName f).getLast?).map (·.2)

theorem lookup_environmentTexts (s : Surroundings) (f : Field) :
    (((Rules.ofOverrides []).environmentTexts s).lookup (variableName f)).join =
      environmentText? s f := by
  rw [Rules.environmentTexts, lookup_texts_plain, List.filter_map, List.getLast?_map,
    environmentText?]
  cases h : (s.environment.filter fun entry => lowerCase entry.1 = variableName f).getLast? with
  | none => simp [Function.comp_def, h]
  | some entry => simp [Function.comp_def, h]

theorem find_plain (source : SettingsSource) (texts : Texts) (f : Field) :
    (Rules.ofOverrides []).find source texts f =
      match (texts.lookup (variableName f)).join with
      | some text => valueOf source f text
      | none => .ok none := by
  have parts : (Rules.ofOverrides []).partsOf texts f = none := by
    have none_of : texts.filter (fun entry => (Rules.ofOverrides []).isPart entry.1) = [] :=
      List.filter_eq_nil_iff.mpr fun entry _ => by
        have delimiter : (Rules.ofOverrides []).delimiter = none := rfl
        simp [Rules.isPart, sourceName?_plain, delimiter]
    unfold Rules.partsOf
    split
    · rw [none_of]
      rfl
    · rfl
  have null : (Rules.ofOverrides []).nullText = none := rfl
  simp only [Rules.find, sourceName?_plain, parts, null]
  rfl

theorem find_nil (source : SettingsSource) (f : Field) :
    (Rules.ofOverrides []).find source ((Rules.ofOverrides []).texts []) f = .ok none := by
  rw [find_plain, lookup_texts_plain]
  rfl

theorem garbles_plain_iff : (Rules.ofOverrides []).Garbles source texts fault ↔
    ∃ text problem, (texts.lookup (variableName .retryStatusCodes)).join = some text ∧
      Json.read text = .error problem ∧ fault = faultOf source problem := by
  have null (text : String) : (Rules.ofOverrides []).nullText ≠ some text := by
    change none ≠ some text
    simp
  simp only [Rules.Garbles, sourceName?_plain, Option.some.injEq, ne_eq, null, not_false_eq_true,
    true_and, exists_and_left, exists_eq_left']

theorem find_environment (s : Surroundings) (f : Field) :
    (Rules.ofOverrides []).find .environment ((Rules.ofOverrides []).environmentTexts s) f =
      match environmentText? s f with
      | some text => valueOf .environment f text
      | none => .ok none := by
  rw [find_plain, lookup_environmentTexts]

/-! ## An override of a field -/

theorem plain_single (f : Field) (v : Value) : ∀ entry ∈ [(f.name, v)], entry.1 ∉ Rules.names := by
  simpa using f.notMem_names

theorem fromOverrides_single (f : Field) (v : Value) (g : Field) :
    fromOverrides [(f.name, v)] g = if g = f then some v else none := by
  by_cases here : g = f
  · subst here
    simp [fromOverrides, Field.lowerCase_name]
  · have unlike : f.name ≠ g.name := fun same => here (Field.name_injective same).symm
    simp [fromOverrides, Field.lowerCase_name, here, unlike]

theorem unknownOverrides_single (f : Field) (v : Value) : unknownOverrides [(f.name, v)] = [] := by
  simp [unknownOverrides, Field.lowerCase_name, Field.ofName?_name]

end HttpRetry.Settings

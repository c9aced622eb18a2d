import HttpRetry.Proofs.Settings.Sources
import Mathlib.Data.List.Infix
import Mathlib.Data.List.TakeDrop

/-!
# References in environment files

A value may refer to a variable. Where no value refers to one, the files are read in the same way
whatever that variable holds.
-/

namespace HttpRetry

namespace EnvFile

variable {cs : List Char} {name : String}

def RefersTo (name : String) (cs : List Char) : Prop :=
  '$' :: '\x7b' :: name.toList <:+: cs

theorem parts_of_reference {n fallback : String} {after : List Char}
    (h : readReference? cs = some (n, fallback, after)) : n.toList <+: cs ∧ after <:+ cs := by
  unfold readReference? at h
  simp only [List.span_eq_takeWhile_dropWhile] at h
  generalize named : cs.takeWhile (fun c => decide (c ≠ '\x7d') && decide (c ≠ ':')) = start at h
  have begins : start <+: cs := named ▸ List.takeWhile_prefix _
  generalize left : cs.dropWhile (fun c => decide (c ≠ '\x7d') && decide (c ≠ ':')) = rest at h
  have rest_suffix : rest <:+ cs := left ▸ List.dropWhile_suffix _
  split at h
  · cases h
    rw [String.toList_ofList]
    exact ⟨begins, (List.suffix_cons _ _).trans rest_suffix⟩
  · next inner =>
    split at h
    · next given closed =>
      cases h
      rw [String.toList_ofList]
      have after_suffix : after <:+ inner :=
        (List.suffix_cons _ _).trans ((Prod.mk.inj closed).2 ▸ List.dropWhile_suffix _)
      have inner_suffix : inner <:+ cs :=
        ((List.suffix_cons _ _).trans (List.suffix_cons _ _)).trans rest_suffix
      exact ⟨begins, after_suffix.trans inner_suffix⟩
    · cases h
  · cases h

/-- A value that does not refer to a name does not depend on what the name means. -/
theorem expand_congr {meaning meaning' : String → Option (Option String)}
    (same : ∀ n, n ≠ name → meaning' n = meaning n) (fuel : Nat) (free : ¬RefersTo name cs) :
    expand meaning' fuel cs = expand meaning fuel cs := by
  induction fuel generalizing cs with
  | zero => rfl
  | succ fuel ih =>
    cases cs with
    | nil => rfl
    | cons c rest =>
      unfold expand
      dsimp only
      split
      · next n fallback after reference =>
        split at reference
        · next inner =>
          obtain ⟨start, suffix⟩ := parts_of_reference reference
          have other : n ≠ name := by
            rintro rfl
            have begins : '$' :: '\x7b' :: n.toList <+: '$' :: '\x7b' :: inner := by
              simpa using start
            exact free begins.isInfix
          have later : ¬RefersTo name after := by
            intro refers
            apply free
            have inner_suffix : after <:+ '$' :: '\x7b' :: inner :=
              (suffix.trans (List.suffix_cons _ _)).trans (List.suffix_cons _ _)
            exact refers.trans inner_suffix.isInfix
          rw [same n other, ih later]
        · cases reference
      · have later : ¬RefersTo name rest := fun refers =>
          free (refers.trans (List.suffix_cons c rest).isInfix)
        rw [ih later]

theorem resolve_congr {environment environment' : List (String × String)}
    (same : ∀ n, n ≠ name → environment'.lookup n = environment.lookup n)
    {bindings : List Binding}
    (free : ∀ binding ∈ bindings, ∀ v, binding.2 = some v → ¬RefersTo name v.toList) :
    resolve environment' bindings = resolve environment bindings := by
  unfold resolve
  apply List.foldl_ext
  intro known binding mem
  cases given : binding.2 with
  | none => simp [given]
  | some v =>
    dsimp only
    rw [given, Option.map_some, Option.map_some]
    refine congrArg (fun image => bind binding.1 (some (String.ofList image)) known) ?_
    apply expand_congr _ _ (free binding mem v given)
    intro n other
    rw [same n other]

end EnvFile

namespace Path

variable {s s' : Surroundings} (files : s'.files = s.files)
include files

theorem Place.node_congr (place : Place) : place.node s' = place.node s := by
  unfold node Surroundings.readFile
  rw [files]

theorem follow_congr (path : String) (place : Place) (steps : List String) :
    follow s' path place steps = follow s path place steps := by
  induction steps generalizing place with
  | nil => rw [follow, follow, Place.node_congr files]
  | cons step rest ih =>
    rw [follow, follow, Place.node_congr files, ih]
    split
    · rfl
    · split
      · rfl
      · split
        · rfl
        · cases place.down (Utf8.throughBytes step) with
          | none => rfl
          | some next => exact ih next

theorem placeAt_congr (path : String) : placeAt s' path = placeAt s path := by
  unfold placeAt
  dsimp only
  rw [follow_congr files]

theorem nodeAt_congr (path : String) : nodeAt s' path = nodeAt s path := by
  unfold nodeAt
  rw [placeAt_congr files]
  simp only [Place.node_congr files]

end Path

namespace Settings

variable {s s' : Surroundings} {r : Rules} {f : Field} {name : String}

theorem pathOf_congr
    (home : s'.environment.lookup Path.homeVariable = s.environment.lookup Path.homeVariable)
    (path : Value) : pathOf s' path = pathOf s path := by
  unfold pathOf Path.expandHome Surroundings.readVariable
  rw [home]

inductive Rules.HasLine (r : Rules) (s : Surroundings) (line : EnvFile.Binding) : Prop
  | read {paths : List Value} {path : Value} {file : String} {content : Bytes}
      {encoding : Encoding} {text : String}
      (listed : pathsOf r.envFiles = .ok paths) (mem : path ∈ paths)
      (expanded : pathOf s path = .ok file)
      (found : Path.nodeAt s file = .ok (some (.regular content)))
      (known : r.fileEncoding = .ok encoding) (decoded : encoding.decode content = .ok text)
      (written : line ∈ EnvFile.bindings (dropByteOrderMark text.toList))

/-- Without rules the lines are those of one file. -/
theorem Rules.HasLine.of_plain {line : EnvFile.Binding}
    (h : (Rules.ofOverrides []).HasLine s line) : ∃ content text,
      s.readFile ".env" = some (.regular content) ∧ Utf8.decodeText content = .ok text ∧
        line ∈ EnvFile.bindings (dropByteOrderMark text.toList) := by
  obtain ⟨listed, mem, expanded, found, known, decoded, written⟩ := h
  have paths : pathsOf (Rules.ofOverrides []).envFiles = .ok [.text ".env"] := rfl
  obtain rfl := Except.ok.inj (paths.symm.trans listed)
  obtain rfl := List.mem_singleton.mp mem
  obtain rfl := Except.ok.inj ((pathOf_envFile s).symm.trans expanded)
  have node := Except.ok.inj ((nodeAt_envFile s).symm.trans found)
  have encoding : (Rules.ofOverrides []).fileEncoding = .ok .utf8 := rfl
  obtain rfl := Except.ok.inj (encoding.symm.trans known)
  exact ⟨_, _, regular_of_node node, eq_ok_of_mapError decoded, written⟩

def Rules.Unreferenced (r : Rules) (name : String) (s : Surroundings) : Prop :=
  ∀ line, r.HasLine s line → ∀ v, line.2 = some v → ¬EnvFile.RefersTo name v.toList

section
variable (files : s'.files = s.files)
  (same : ∀ n, n ≠ name → s'.environment.lookup n = s.environment.lookup n)
  (home : Path.homeVariable ≠ name)
include files same home

theorem Rules.readEnvFiles_of_unreferenced (free : r.Unreferenced name s) :
    r.readEnvFiles s' = r.readEnvFiles s := by
  unfold readEnvFiles
  refine bind_congr_of_ok fun paths listed => ?_
  refine congrArg (· >>= _) (mapM_congr_of_mem fun path mem => ?_)
  unfold readEnvFileAt
  rw [pathOf_congr (same _ home)]
  refine bind_congr_of_ok fun file expanded => ?_
  rw [Path.nodeAt_congr files]
  refine bind_congr_of_ok fun node found => ?_
  split
  · next content =>
    unfold readEnvFile
    refine bind_congr_of_ok fun encoding known => ?_
    refine bind_congr_of_ok fun text decoded => ?_
    refine congrArg pure (EnvFile.resolve_congr same fun line written => ?_)
    exact free line (.read listed mem expanded found known (eq_ok_of_mapError decoded) written)
  · rfl

theorem Rules.findSecrets_congr : r.findSecrets s' = r.findSecrets s := by
  have paths_eq : pathOf s' = pathOf s := funext (pathOf_congr (same _ home))
  have places_eq : Path.placeAt s' = Path.placeAt s := funext (Path.placeAt_congr files)
  have directories_eq : secretsPlaces s' = secretsPlaces s := by
    unfold secretsPlaces
    simp only [paths_eq, places_eq, Path.Place.node_congr files]
  have find_eq : r.findSecret s' = r.findSecret s := by
    unfold findSecret secretIn Path.Place.entries
    rw [files]
  unfold findSecrets
  rw [directories_eq, find_eq]

end

end Settings

end HttpRetry

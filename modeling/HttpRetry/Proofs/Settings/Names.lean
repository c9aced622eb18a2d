import HttpRetry.Proofs.Settings.Variables

/-!
# Names of the settings in the sources

Whatever the names start with, and with case or without, the names of the settings are one stem with
the names of the fields. They differ from each other, from the names of parts and from that of the
home directory.
-/

namespace HttpRetry.Settings

variable {r : Rules} {f g : Field}

theorem Field.leadsCased (f : Field) : Case.leadsCased f.name.toList = true := by
  have all : (Field.all.all fun f => Case.leadsCased f.name.toList) = true := by
    decide +kernel
  exact List.all_eq_true.mp all f f.mem_all

theorem Rules.exists_stem {start : String} (named : r.start = .text start) :
    ∃ stem, ∀ f : Field, r.sourceName? f = some (stem ++ f.name) := by
  unfold sourceName? fold
  rw [named]
  by_cases sensitive : r.caseSensitive = true
  · exact ⟨start, fun f => by simp [sensitive, Value.text?]⟩
  · obtain ⟨stem, lowers⟩ := Case.exists_lowerAfter_append [] start.toList
    refine ⟨String.ofList stem, fun f => ?_⟩
    have lower := lowers f.name.toList f.isName f.leadsCased
    simp [sensitive, Value.text?, lowerCase, Case.lower, lower, String.ofList_append]

section
variable {n : String} (named : r.sourceName? f = some n)
include named

theorem Rules.exists_start_of_name : ∃ start, r.start = .text start := by
  obtain ⟨start, start_eq, -⟩ := Option.map_eq_some_iff.mp named
  refine ⟨start, ?_⟩
  cases given : r.start with
  | text t =>
    rw [given] at start_eq
    rw [← Option.some.inj start_eq]
  | _ =>
    rw [given] at start_eq
    cases start_eq

theorem Rules.exists_stem_of_name : ∃ stem, n = stem ++ f.name ∧
    ∀ g : Field, r.sourceName? g = some (stem ++ g.name) := by
  obtain ⟨start, start_eq⟩ := exists_start_of_name named
  obtain ⟨stem, names⟩ := exists_stem start_eq
  exact ⟨stem, Option.some.inj (named.symm.trans (names f)), names⟩

theorem Rules.sourceName?_ne (other : g ≠ f) : r.sourceName? g ≠ some n := by
  obtain ⟨stem, rfl, names⟩ := exists_stem_of_name named
  rw [names, ne_eq, Option.some.injEq]
  intro same
  exact other (Field.name_injective (by simpa using same))

theorem Rules.isPart_of_ne (other : f ≠ .retryStatusCodes) : r.isPart n = false := by
  obtain ⟨stem, rfl, names⟩ := exists_stem_of_name named
  have apart : ¬Field.retryStatusCodes.name.toList <+: f.name.toList := by
    cases f <;> first | exact absurd rfl other | decide
  unfold isPart
  rw [names]
  split
  · next codes delimiter codes_eq delimiter_eq =>
    cases codes_eq
    rw [Bool.eq_false_iff, ne_eq, List.isPrefixOf_iff_prefix, String.toList_append,
      String.toList_append, String.toList_append, List.append_assoc,
      List.prefix_append_right_inj]
    exact fun part => apart ((List.prefix_append _ _).trans part)
  · rfl

theorem Rules.isKnown_of_name : r.isKnown n = true := by
  have listed : (Field.all.any fun g => r.sourceName? g == some n) = true :=
    List.any_eq_true.mpr ⟨f, f.mem_all, by simp [named]⟩
  simp [isKnown, listed]

end

theorem Rules.homeVariable_ne {name : String} (named : r.sourceName? f = some (r.fold name)) :
    Path.homeVariable ≠ name := by
  rintro rfl
  obtain ⟨stem, name_eq, -⟩ := exists_stem_of_name named
  have short : (r.fold Path.homeVariable).length = 4 := by
    unfold fold
    split <;> decide
  have long : 4 < f.name.length := by
    cases f <;> decide
  rw [name_eq, String.length_append] at short
  omega

end HttpRetry.Settings


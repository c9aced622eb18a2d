import HttpRetry.Text.Case

/-!
# Lower case of names

Only a capital sigma has a lower case that depends on what stands around it. All other texts are
mapped character by character, and the letters of the names of settings are mapped to themselves.
-/

namespace HttpRetry

namespace Case

variable {cs before name : List Char}

theorem lowerAfter_eq (h : 'Σ' ∉ cs) :
    lowerAfter before cs = cs.flatMap (mapChar lowerSequences lowerRuns) := by
  induction cs generalizing before with
  | nil => rfl
  | cons c cs ih =>
    have other : c ≠ 'Σ' := by
      rintro rfl
      exact h List.mem_cons_self
    rw [lowerAfter, if_neg other, ih fun mem => h (List.mem_cons_of_mem c mem), List.flatMap_cons]

def nameLetters : List Char := "abcdefghijklmnopqrstuvwxyz_".toList

def isName (cs : List Char) : Bool :=
  cs.all nameLetters.contains

theorem mapChar_nameLetters {c : Char} (h : nameLetters.contains c = true) :
    mapChar lowerSequences lowerRuns c = [c] := by
  have all : nameLetters.all (fun c => mapChar lowerSequences lowerRuns c == [c]) = true := by
    decide +kernel
  exact beq_iff_eq.mp (List.all_eq_true.mp all c (List.contains_iff_mem.mp h))

theorem flatMap_of_isName (h : isName cs = true) :
    cs.flatMap (mapChar lowerSequences lowerRuns) = cs := by
  induction cs with
  | nil => rfl
  | cons c cs ih =>
    obtain ⟨letter, name⟩ := Bool.and_eq_true_iff.mp h
    rw [List.flatMap_cons, mapChar_nameLetters letter, ih name]
    rfl

theorem sigma_notMem (h : isName cs = true) : 'Σ' ∉ cs := by
  intro mem
  cases List.all_eq_true.mp h 'Σ' mem

def leadsCased : List Char → Bool
  | c :: _ => casedRanges.has c && !ignorableRanges.has c
  | [] => false

theorem nextToCased_append (leads : leadsCased name = true) (cs : List Char) :
    nextToCased (cs ++ name) = (nextToCased cs || cs.all ignorableRanges.has) := by
  induction cs with
  | nil =>
    cases name with
    | nil => cases leads
    | cons c rest =>
      obtain ⟨cased, visible⟩ := Bool.and_eq_true_iff.mp leads
      rw [Bool.not_eq_true'] at visible
      simp [nextToCased, visible, cased]
  | cons c cs ih =>
    unfold nextToCased at *
    cases passed : ignorableRanges.has c with
    | true => simpa [passed] using ih
    | false => simp [passed]

/-- What stands before a name has one lower case before all names that begin with a letter. -/
theorem exists_lowerAfter_append (before cs : List Char) : ∃ stem, ∀ name,
    isName name = true → leadsCased name = true →
      lowerAfter before (cs ++ name) = stem ++ name := by
  induction cs generalizing before with
  | nil =>
    refine ⟨[], fun name named _ => ?_⟩
    rw [List.nil_append, lowerAfter_eq (sigma_notMem named), flatMap_of_isName named]
  | cons c cs ih =>
    obtain ⟨stem, rest⟩ := ih (c :: before)
    refine ⟨(if c = 'Σ' then
      if nextToCased before && !(nextToCased cs || cs.all ignorableRanges.has) then ['ς'] else ['σ']
      else mapChar lowerSequences lowerRuns c) ++ stem, fun name named leads => ?_⟩
    rw [List.cons_append, lowerAfter, rest name named leads, nextToCased_append leads,
      List.append_assoc]

end Case

variable {s t : String}

theorem lowerCase_eq (h : 'Σ' ∉ s.toList) : lowerCase s =
    String.ofList (s.toList.flatMap (Case.mapChar Case.lowerSequences Case.lowerRuns)) := by
  rw [lowerCase, Case.lower, Case.lowerAfter_eq h]

theorem lowerCase_append (hs : 'Σ' ∉ s.toList) (ht : 'Σ' ∉ t.toList) :
    lowerCase (s ++ t) = lowerCase s ++ lowerCase t := by
  have hst : 'Σ' ∉ (s ++ t).toList := by
    rw [String.toList_append, List.mem_append, not_or]
    exact ⟨hs, ht⟩
  rw [lowerCase_eq hst, lowerCase_eq hs, lowerCase_eq ht, String.toList_append,
    List.flatMap_append, String.ofList_append]

theorem lowerCase_of_isName (h : Case.isName s.toList = true) : lowerCase s = s := by
  rw [lowerCase_eq (Case.sigma_notMem h), Case.flatMap_of_isName h, String.ofList_toList]

end HttpRetry

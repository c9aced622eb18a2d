import HttpRetry.Text.Blank
import Mathlib.Data.List.DropRight
import Mathlib.Data.List.SplitBy

/-!
# The words of a text that is put together

Any blank separates words, so the words of two texts with a blank between them are those of the
one and those of the other. What has no blank is a word of its own.
-/

namespace HttpRetry

variable {l m w : List Char} {c : Char}

/-- Texts that do not share a run where they meet. -/
theorem words_append (edge : ∀ x ∈ l.getLast?, ∀ y ∈ m.head?, (isBlank x == isBlank y) = false) :
    words (l ++ m) = words l ++ words m := by
  unfold words
  rw [List.splitBy_append edge, List.filter_append]

theorem words_of_blanks (blanks : ∀ c ∈ l, isBlank c = true) : words l = [] := by
  unfold words
  rw [List.filter_eq_nil_iff]
  intro run mem
  have nonempty := List.ne_nil_of_mem_splitBy mem
  obtain ⟨c, rest, rfl⟩ := List.exists_cons_of_ne_nil nonempty
  have c_mem : c ∈ l := by
    rw [← List.flatten_splitBy (fun a b => isBlank a == isBlank b) l]
    exact List.mem_flatten_of_mem mem List.mem_cons_self
  simp [blanks c c_mem]

theorem words_dropWhile (l : List Char) : words (l.dropWhile isBlank) = words l := by
  have blanks : ∀ c ∈ l.takeWhile isBlank, isBlank c = true := fun c mem =>
    List.mem_takeWhile_imp mem
  have edge : ∀ x ∈ (l.takeWhile isBlank).getLast?, ∀ y ∈ (l.dropWhile isBlank).head?,
      (isBlank x == isBlank y) = false := by
    intro x x_mem y y_mem
    have inked := List.head?_dropWhile_not isBlank l
    rw [Option.mem_def.mp y_mem] at inked
    rw [blanks x (List.mem_of_getLast? x_mem), (by simpa using inked : isBlank y = false)]
    rfl
  have parted := words_append edge
  rw [List.takeWhile_append_dropWhile, words_of_blanks blanks] at parted
  exact parted.symm

theorem words_blanks_append (blanks : ∀ c ∈ l, isBlank c = true) (m : List Char) :
    words (l ++ m) = words m := by
  rw [← words_dropWhile (l ++ m), List.dropWhile_append_of_pos blanks, words_dropWhile]

/-- A blank parts the words. -/
theorem words_append_cons (blank : isBlank c = true) (l m : List Char) :
    words (l ++ c :: m) = words l ++ words m := by
  generalize front_eq : l.rdropWhile isBlank = front
  generalize back_eq : l.rtakeWhile isBlank = back
  have l_eq : l = front ++ back := by
    rw [← front_eq, ← back_eq, List.rdropWhile_append_rtakeWhile]
  have blanks : ∀ c ∈ back, isBlank c = true := by
    intro c mem
    rw [← back_eq] at mem
    exact List.mem_rtakeWhile_imp mem
  -- before a text that starts with a blank, the front keeps its words
  have edge (text : List Char) (start : ∀ y ∈ text.head?, isBlank y = true) :
      words (front ++ text) = words front ++ words text := by
    apply words_append
    intro x x_mem y y_mem
    obtain ⟨nonempty, rfl⟩ := List.mem_getLast?_eq_getLast x_mem
    subst front_eq
    have inked := Bool.eq_false_iff.mpr (List.rdropWhile_last_not isBlank l nonempty)
    rw [inked, start y y_mem]
    rfl
  have gap : ∀ d ∈ back ++ [c], isBlank d = true := by
    intro d mem
    rcases List.mem_append.mp mem with before | last
    · exact blanks d before
    · rwa [List.mem_singleton.mp last]
  have words_l : words l = words front := by
    rw [l_eq, edge back fun y mem => blanks y (List.mem_of_mem_head? mem), words_of_blanks blanks,
      List.append_nil]
  have regrouped : l ++ c :: m = front ++ (back ++ [c] ++ m) := by
    rw [l_eq]
    simp
  rw [words_l, regrouped, edge, words_blanks_append gap]
  intro y mem
  rw [List.head?_append_of_ne_nil _ (by simp)] at mem
  exact gap y (List.mem_of_mem_head? mem)

/-- The words of texts with blanks between them. -/
theorem words_intercalate (blank : isBlank c = true) (texts : List (List Char)) :
    words ([c].intercalate texts) = texts.flatMap words := by
  induction texts with
  | nil => rfl
  | cons text rest ih =>
    cases rest with
    | nil => simp
    | cons next rest =>
      rw [List.intercalate_cons_cons, List.append_assoc, List.singleton_append,
        words_append_cons blank, ih]
      exact List.flatMap_cons.symm

structure Inked (w : List Char) : Prop where
  nonempty : w ≠ []
  inked : ∀ c ∈ w, isBlank c = false

theorem inked_of_all (nonempty : w ≠ []) (all : w.all (fun c => !isBlank c) = true) : Inked w := by
  refine ⟨nonempty, fun c mem => ?_⟩
  simpa using List.all_eq_true.mp all c mem

theorem Inked.words_eq (h : Inked w) : words w = [w] := by
  have chain : w.IsChain fun a b => (isBlank a == isBlank b) = true := by
    refine (List.pairwise_of_forall_mem_list ?_).isChain
    intro a a_mem b b_mem
    rw [h.inked a a_mem, h.inked b b_mem]
    rfl
  have kept : (!w.any isBlank) = true := by
    simpa using h.inked
  unfold words
  rw [List.splitBy_of_isChain h.nonempty chain, List.filter_singleton, kept]
  rfl

theorem Inked.getLast? (h : Inked w) : ∀ c ∈ w.getLast?, isBlank c = false :=
  fun c mem => h.inked c (List.mem_of_getLast? mem)

theorem Inked.append (h : Inked w) (more : Inked m) : Inked (w ++ m) :=
  ⟨by simp [h.nonempty], List.forall_mem_append.mpr ⟨h.inked, more.inked⟩⟩

/-! ## Ends -/

theorem head?_intercalate (nonempty : w ≠ []) (texts : List (List Char)) :
    ([c].intercalate (w :: texts)).head? = w.head? := by
  cases texts with
  | nil => simp
  | cons next rest =>
    rw [List.intercalate_cons_cons, List.append_assoc, List.head?_append_of_ne_nil _ nonempty]

theorem getLast?_intercalate (nonempty : w ≠ []) (texts : List (List Char)) :
    ([c].intercalate (texts ++ [w])).getLast? = w.getLast? := by
  induction texts with
  | nil => simp
  | cons text rest ih =>
    obtain ⟨next, more, more_eq⟩ := List.exists_cons_of_ne_nil (by simp : rest ++ [w] ≠ [])
    rw [more_eq] at ih
    have inner : [c].intercalate (next :: more) ≠ [] := by
      intro empty
      rw [empty, eq_comm, List.getLast?_nil, List.getLast?_eq_none_iff] at ih
      exact nonempty ih
    rw [List.cons_append, more_eq, List.intercalate_cons_cons,
      List.getLast?_append_of_ne_nil _ inner, ih]

/-- Nothing is dropped from a text whose ends are to be kept. -/
theorem trimBy_of_ends {drops : Char → Bool} (first : ∀ c ∈ l.head?, drops c = false)
    (last : ∀ c ∈ l.getLast?, drops c = false) : trimBy drops l = l := by
  have keeps (l : List Char) (first : ∀ c ∈ l.head?, drops c = false) : l.dropWhile drops = l := by
    cases l with
    | nil => rfl
    | cons c rest => rw [List.dropWhile_cons_of_neg (by simp [first c rfl])]
  unfold trimBy
  rw [keeps l first, keeps l.reverse (by rwa [List.head?_reverse]), List.reverse_reverse]

end HttpRetry

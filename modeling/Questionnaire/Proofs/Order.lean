/-
This file says what order the sections and questions of a form are put in. The sections are sorted
by their numbers, and sections of one number stay as they stood; so the questions are the same list
whether the sections are sorted first or the questions themselves. The numbers are those from one to
the last exactly if they are so in some order.
-/
import Mathlib.Data.List.Sort
import Questionnaire.Catalog.Build
import Questionnaire.Lint

namespace Questionnaire

/-! ### Lists sorted by a number -/

section Sorted

variable {Item : Type} {key : Item → UInt32}

theorem mem_iff_of_filter_eq {first second : List Item}
    (same : ∀ number, first.filter (fun item => key item == number) =
      second.filter (fun item => key item == number)) (item : Item) :
    item ∈ first ↔ item ∈ second := by
  have listed := congrArg (item ∈ ·) (same (key item))
  simpa using listed

/-- A list sorted by a number is known by its items of each number, in their order. -/
theorem eq_of_filter_eq {first second : List Item}
    (firstSorted : first.Pairwise fun left right => key left ≤ key right)
    (secondSorted : second.Pairwise fun left right => key left ≤ key right)
    (same : ∀ number, first.filter (fun item => key item == number) =
      second.filter (fun item => key item == number)) : first = second := by
  have sameItems := mem_iff_of_filter_eq same
  induction first generalizing second with
  | nil =>
    refine (List.eq_nil_iff_forall_not_mem.mpr fun item member => ?_).symm
    exact absurd ((sameItems item).mpr member) List.not_mem_nil
  | cons head rest inductionHypothesis =>
    cases second with
    | nil => exact absurd ((sameItems head).mp List.mem_cons_self) List.not_mem_nil
    | cons other others =>
      obtain ⟨headLeast, restSorted⟩ := List.pairwise_cons.mp firstSorted
      obtain ⟨otherLeast, othersSorted⟩ := List.pairwise_cons.mp secondSorted
      -- Both lists start with an item of the least number, and so with the first of that number.
      have sameKey : key head = key other := by
        refine UInt32.le_antisymm ?_ ?_
        · rcases List.mem_cons.mp ((sameItems other).mpr List.mem_cons_self) with equal | inRest
          · exact equal ▸ UInt32.le_refl _
          · exact headLeast other inRest
        · rcases List.mem_cons.mp ((sameItems head).mp List.mem_cons_self) with equal | inOthers
          · exact equal ▸ UInt32.le_refl _
          · exact otherLeast head inOthers
      have ofLeast := same (key head)
      rw [List.filter_cons_of_pos (by simp), List.filter_cons_of_pos (by simp [sameKey])] at ofLeast
      obtain ⟨rfl, tails⟩ := List.cons.inj ofLeast
      have sameRest : ∀ number, rest.filter (fun item => key item == number) =
          others.filter (fun item => key item == number) := by
        intro number
        by_cases isLeast : key head = number
        · exact isLeast ▸ tails
        · have ofNumber := same number
          rwa [List.filter_cons_of_neg (by simpa using isLeast),
            List.filter_cons_of_neg (by simpa using isLeast)] at ofNumber
      rw [inductionHypothesis restSorted othersSorted sameRest (mem_iff_of_filter_eq sameRest)]

/-- Sorting that keeps every sorted part of a list keeps the items of each number. -/
theorem filter_eq_of_stable {items sorted : List Item} (perm : sorted.Perm items)
    (stable : ∀ part : List Item, (part.Pairwise fun left right => key left ≤ key right) →
      part.Sublist items → part.Sublist sorted) (number : UInt32) :
    sorted.filter (fun item => key item == number) =
      items.filter (fun item => key item == number) := by
  have pairwise : (items.filter fun item => key item == number).Pairwise
      fun left right => key left ≤ key right := by
    refine List.pairwise_of_forall_mem_list fun left leftIn right rightIn => ?_
    have leftKey := (List.mem_filter.mp leftIn).2
    have rightKey := (List.mem_filter.mp rightIn).2
    rw [beq_iff_eq] at leftKey rightKey
    rw [leftKey, rightKey]
    exact UInt32.le_refl number
  have part := (stable _ pairwise List.filter_sublist).filter fun item => key item == number
  rw [List.filter_filter] at part
  simp only [Bool.and_self] at part
  exact (part.eq_of_length (perm.filter _).length_eq.symm).symm

end Sorted

namespace Catalog

/-! ### Sections -/

/-- Whether a section comes before another one, or they have one number. -/
def Precedes (first second : FormSection) : Prop := first.id ≤ second.id

instance : DecidableRel Precedes := fun first second =>
  inferInstanceAs (Decidable (first.id ≤ second.id))

instance : Std.Total Precedes := ⟨fun first second => UInt32.le_total first.id second.id⟩

instance : IsTrans FormSection Precedes := ⟨fun _ _ _ => UInt32.le_trans⟩

theorem placeSection_eq (part : FormSection) (sections : List FormSection) :
    placeSection part sections = sections.orderedInsert Precedes part := by
  induction sections with
  | nil => rfl
  | cons head rest inductionHypothesis =>
    rw [placeSection, List.orderedInsert_cons, inductionHypothesis]
    rfl

theorem sections_inOrder (form : Form) :
    (inOrder form).sections = form.sections.insertionSort Precedes := by
  have same : placeSection = List.orderedInsert Precedes :=
    funext fun part => funext fun sections => placeSection_eq part sections
  show form.sections.foldr placeSection [] = _
  rw [same]
  rfl

theorem perm_inOrder (form : Form) : (inOrder form).sections.Perm form.sections :=
  sections_inOrder form ▸ List.perm_insertionSort Precedes form.sections

theorem pairwise_inOrder (form : Form) : (inOrder form).sections.Pairwise Precedes :=
  sections_inOrder form ▸ List.pairwise_insertionSort Precedes form.sections

theorem sortedLE_inOrder (form : Form) :
    ((inOrder form).sections.map fun part => part.id.toNat).SortedLE := by
  rw [List.sortedLE_iff_pairwise, List.pairwise_map]
  exact (pairwise_inOrder form).imp UInt32.le_iff_toNat_le.mp

/-! ### Questions -/

theorem perm_questions (form : Form) : (inOrder form).questions.Perm form.questions :=
  (perm_inOrder form).flatMap_right _

theorem filter_questions (form : Form) (number : UInt32) :
    form.questions.filter (fun entry => entry.1 == number) =
      (form.sections.filter fun part => part.id == number).flatMap fun part =>
        part.questions.map fun question => (part.id, question) := by
  unfold Form.questions
  rw [List.filter_flatMap]
  induction form.sections with
  | nil => rfl
  | cons head rest inductionHypothesis =>
    rw [List.flatMap_cons, inductionHypothesis, List.filter_map]
    by_cases isHead : head.id = number
    · rw [List.filter_cons_of_pos (by simpa using isHead), List.flatMap_cons]
      simp [isHead, Function.comp_def]
    · rw [List.filter_cons_of_neg (by simpa using isHead)]
      simp [isHead, Function.comp_def]

theorem pairwise_questions (form : Form) :
    (inOrder form).questions.Pairwise fun first second => first.1 ≤ second.1 := by
  unfold Form.questions
  rw [List.pairwise_flatMap]
  refine ⟨fun part _ => ?_, (pairwise_inOrder form).imp
    fun {first second} precedes left leftIn right rightIn => ?_⟩
  · rw [List.pairwise_map]
    exact List.pairwise_of_forall fun _ _ => UInt32.le_refl part.id
  · obtain ⟨-, -, rfl⟩ := List.mem_map.mp leftIn
    obtain ⟨-, -, rfl⟩ := List.mem_map.mp rightIn
    exact precedes

/-- The questions are in the order of the sorted sections when they are sorted themselves. -/
theorem ordered_eq (form : Form) : Lint.ordered form = (inOrder form).questions := by
  have trans : ∀ first second third : UInt32 × Question, decide (first.1 ≤ second.1) = true →
      decide (second.1 ≤ third.1) = true → decide (first.1 ≤ third.1) = true := by
    simp only [decide_eq_true_eq]
    exact fun _ _ _ => UInt32.le_trans
  have total : ∀ first second : UInt32 × Question,
      (decide (first.1 ≤ second.1) || decide (second.1 ≤ first.1)) = true := by
    simp only [Bool.or_eq_true, decide_eq_true_eq]
    exact fun first second => UInt32.le_total first.1 second.1
  refine @eq_of_filter_eq _ Prod.fst _ _ ?_ (pairwise_questions form) fun number => ?_
  · have sorted := List.pairwise_mergeSort trans total form.questions
    exact sorted.imp fun leads => by simpa using leads
  · have sections : (inOrder form).sections.filter (fun part => part.id == number) =
        form.sections.filter fun part => part.id == number := by
      refine filter_eq_of_stable (perm_inOrder form) (fun part pairwise sublist => ?_) number
      rw [sections_inOrder]
      exact List.sublist_insertionSort pairwise sublist
    rw [filter_questions, sections, ← filter_questions]
    refine filter_eq_of_stable (List.mergeSort_perm _ _) (fun part pairwise sublist => ?_) number
    have isSorted := pairwise.imp fun {_ _} leads => decide_eq_true leads
    exact List.sublist_mergeSort trans total isSorted sublist

/-! ### Numbers of sections -/

/-- Whether the sections of a form have the numbers from one to the last, in whatever order. -/
def Numbered (form : Form) : Prop :=
  form.sections ≠ [] ∧
    (form.sections.map fun part => part.id.toNat).Perm (List.range' 1 form.sections.length)

theorem countSections_isOk_iff (form : Form) :
    (∃ count, countSections form = .ok count) ↔ Numbered form := by
  have perm := (perm_inOrder form).map fun part => part.id.toNat
  have inSequence : (inOrder form).sections.map (fun part => part.id.toNat) =
      List.range' 1 form.sections.length ↔
        (form.sections.map fun part => part.id.toNat).Perm
          (List.range' 1 form.sections.length) := by
    constructor
    · exact fun equal => equal ▸ perm.symm
    · exact fun isPerm =>
        List.Perm.eq_of_sortedLE (sortedLE_inOrder form) (List.sortedLE_range' _ _ _)
          (perm.trans isPerm)
  unfold countSections Numbered
  rw [← inSequence, ← List.length_pos_iff_ne_nil]
  simp only
  split
  next empty => simp [empty]
  next some =>
    split
    next holds => simp [holds, Nat.pos_of_ne_zero some]
    next fails => simp [fails]

end Catalog

namespace Lint

/-- No problem of the numbers is found exactly if they are those from one to the last. -/
theorem checkSections_eq_nil_iff (form : Form) :
    checkSections form = [] ↔ Catalog.Numbered form := by
  have covered : (∀ id ∈ form.sections.map (fun part => part.id.toNat),
        id ∈ List.range' 1 form.sections.length) ∧
      (∀ number ∈ List.range' 1 form.sections.length,
        number ∈ form.sections.map fun part => part.id.toNat) ↔
      (form.sections.map fun part => part.id.toNat).Perm
        (List.range' 1 form.sections.length) := by
    constructor
    · rintro ⟨-, all⟩
      refine ((List.subperm_of_subset List.nodup_range' all).perm_of_length_le ?_).symm
      simp
    · exact fun perm => ⟨fun _ => perm.mem_iff.mp, fun _ => perm.mem_iff.mpr⟩
  unfold checkSections Catalog.Numbered
  rw [← covered, ← List.length_pos_iff_ne_nil]
  simp only
  split
  next empty => simp [empty]
  next some =>
    simp only [Bool.and_eq_true, List.all_eq_true, List.contains_iff_mem]
    split
    next holds => simp only [true_iff]; exact ⟨Nat.pos_of_ne_zero some, holds⟩
    next fails => simp only [reduceCtorEq, false_iff]; exact fun both => fails both.2

end Lint

end Questionnaire

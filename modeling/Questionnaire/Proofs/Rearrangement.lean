/-
This file says that the order in which a form lists its sections makes no difference. Sorting brings
the same numbers into the same sequence, so forms that differ in that order alone pass the check of
their numbers together or fail it together. Those that pass it have no two sections of one number,
and then sorting brings the sections themselves into one order, before anything is made of them.
-/
import Questionnaire.Proofs.Order
import Questionnaire.Proofs.Run

namespace Questionnaire

/-- Whether a form has the sections of another one, in whatever order, and all else as it has it. -/
structure Form.Rearranges (first second : Form) : Prop where
  sections : first.sections.Perm second.sections
  others : first = { second with sections := first.sections }

/-- Whether two faults are the same, but for the order in which they list the numbers of sections
that were found. -/
inductive Fault.Alike : Fault → Fault → Prop where
  | same (fault : Fault) : Alike fault fault
  | numbering (count : Nat) {found other : List UInt32} (perm : found.Perm other) :
    Alike (.sectionNumbering count found) (.sectionNumbering count other)

namespace Catalog

/-! ### Sorted sections -/

/-- The numbers of rearranged sections are the same ones in sequence. -/
theorem ids_inOrder_of_perm {first second : Form} (perm : first.sections.Perm second.sections) :
    (inOrder first).sections.map (fun part => part.id.toNat) =
      (inOrder second).sections.map fun part => part.id.toNat := by
  refine List.Perm.eq_of_sortedLE (sortedLE_inOrder first) (sortedLE_inOrder second) (.map _ ?_)
  exact (perm_inOrder first).trans (perm.trans (perm_inOrder second).symm)

/-- Rearranged sections of different numbers are the same ones in order. -/
theorem sections_inOrder_of_perm {first second : Form}
    (perm : first.sections.Perm second.sections)
    (different : (first.sections.map fun part => part.id).Nodup) :
    (inOrder first).sections = (inOrder second).sections := by
  have permSorted : (inOrder first).sections.Perm (inOrder second).sections :=
    (perm_inOrder first).trans (perm.trans (perm_inOrder second).symm)
  refine permSorted.eq_of_pairwise (fun left right leftIn rightIn before after => ?_)
    (pairwise_inOrder first) (pairwise_inOrder second)
  refine List.inj_on_of_nodup_map different ?_ ?_ (UInt32.le_antisymm before after)
  · exact (perm_inOrder first).mem_iff.mp leftIn
  · exact perm.mem_iff.mpr ((perm_inOrder second).mem_iff.mp rightIn)

/-- The sections of a form whose numbers are in sequence have different numbers. -/
theorem nodup_ids_of_countSections {form : Form} {count : UInt32}
    (counted : countSections form = .ok count) :
    (form.sections.map fun part => part.id).Nodup := by
  have numbered := ((countSections_isOk_iff form).mp ⟨count, counted⟩).2
  have different := numbered.nodup_iff.mpr List.nodup_range'
  exact List.Nodup.of_map UInt32.toNat (by rwa [List.map_map])

/-! ### Catalogs -/

theorem inOrder_of_rearranges {first second : Form} (rearranges : first.Rearranges second)
    {count : UInt32} (counted : countSections first = .ok count) :
    inOrder first = inOrder second := by
  have same := sections_inOrder_of_perm rearranges.sections (nodup_ids_of_countSections counted)
  have others : inOrder first = { inOrder second with sections := (inOrder first).sections } :=
    congrArg (fun form : Form => { form with sections := (inOrder first).sections })
      rearranges.others
  rw [others, same]

/-- The sections of a rearranged form are counted alike, or refused alike. -/
theorem countSections_of_rearranges {first second : Form} (rearranges : first.Rearranges second) :
    (∃ count, countSections first = .ok count ∧ countSections second = .ok count) ∨
      ∃ fault other, countSections first = .error fault ∧ countSections second = .error other ∧
        fault.Alike other := by
  have lengths := rearranges.sections.length_eq
  have id : first.id = second.id := by rw [rearranges.others]
  unfold countSections
  simp only [ids_inOrder_of_perm rearranges.sections, lengths]
  split
  next => exact .inr ⟨_, _, rfl, rfl, id ▸ .same _⟩
  next =>
    split
    next => exact .inl ⟨_, rfl, rfl⟩
    next => exact .inr ⟨_, _, rfl, rfl, .numbering _ (rearranges.sections.map _)⟩

theorem build_of_countSections_error {form : Form} {fault : Fault}
    (refused : countSections form = .error fault) : build form = .error fault := by
  unfold build
  rw [refused]
  rfl

/-- A form whose sections are rearranged has the same catalog, or it has none for the same reason:
the slugs, the questions and controls in their order, the rules with their readers, the jumps, the
calculations and the links are all those of the sorted sections. -/
theorem build_of_rearranges {first second : Form} (rearranges : first.Rearranges second) :
    (∃ catalog, build first = .ok catalog ∧ build second = .ok catalog) ∨
      ∃ fault other, build first = .error fault ∧ build second = .error other ∧
        fault.Alike other := by
  obtain ⟨count, counted, alsoCounted⟩ | ⟨fault, other, refused, alsoRefused, alike⟩ :=
    countSections_of_rearranges rearranges
  · have same : build first = build second := by
      unfold build
      rw [counted, alsoCounted, inOrder_of_rearranges rearranges counted]
    cases built : build first with
    | ok catalog => exact .inl ⟨catalog, rfl, same ▸ built⟩
    | error fault => exact .inr ⟨fault, fault, rfl, same ▸ built, .same fault⟩
  · exact .inr ⟨fault, other, build_of_countSections_error refused,
      build_of_countSections_error alsoRefused, alike⟩

/-- A form that lists its sections backwards, with two questions that ask for one slug. -/
def backwards : Form :=
  { id := "backwards", title := "Backwards", description := none
    sections :=
      [⟨3, "Three", [Session.plain "partner" .money "Income" []]⟩,
       ⟨2, "Two", [Session.plain "remarks" .paragraph "Remarks" []]⟩,
       ⟨1, "One", [Session.plain "own" .money "Income" []]⟩]
    hiddenFields := []
    links := [] }

theorem backwards_isSome : (build backwards).toOption.isSome = true := by decide +kernel

/-- The catalog of that form. -/
def backwardsCatalog : Catalog := (build backwards).toOption.get backwards_isSome

theorem build_backwards : build backwards = .ok backwardsCatalog := eq_ok_get backwards_isSome

/-- The question of the first section keeps the slug, though it is not the one listed first. -/
theorem build_of_rearranges_backwards :
    let sorted := { backwards with sections := backwards.sections.reverse }
    backwards.Rearranges sorted ∧ (sorted.sections.map fun part => part.id) = [1, 2, 3] ∧
      build sorted = .ok backwardsCatalog ∧
      backwardsCatalog.slugs.get? "own" = some "income" ∧
      backwardsCatalog.slugs.get? "partner" = some "income_2" := by
  intro sorted
  have rearranges : backwards.Rearranges sorted := ⟨(List.reverse_perm _).symm, rfl⟩
  refine ⟨rearranges, by decide +kernel, ?_, by decide +kernel, by decide +kernel⟩
  obtain ⟨catalog, built, alsoBuilt⟩ | ⟨fault, other, refused, -, -⟩ :=
    build_of_rearranges rearranges
  · cases build_backwards.symm.trans built
    exact alsoBuilt
  · cases build_backwards.symm.trans refused

end Catalog

end Questionnaire

/-
This file proves that adding to a form renames nothing. Slugs are given and controls are named one
question after the other, and a name that is given stays given. So where questions are added at the
end of the last section, or sections after it, the questions that were there before keep their slugs
and their controls, whatever the new ones are called.
-/
import Questionnaire.Proofs.Registry
import Questionnaire.Proofs.Validity

namespace Questionnaire

/-! ### Slugs -/

namespace Slug.Registry

/-- The registry after questions have been given slugs one after the other. -/
def assignAll (registry : Registry) (questions : List (UInt32 × Question)) : Registry :=
  questions.foldl (fun registry entry => (registry.assign entry.2.id entry.2.text).1) registry

theorem assignAll_eq (registry : Registry) (questions : List (UInt32 × Question)) :
    registry.assignAll questions =
      registry.assignEach (questions.map fun entry => (entry.2.id, entry.2.text)) := by
  rw [assignEach, List.foldl_map]
  rfl

theorem keeps_assignAll (registry : Registry) (questions : List (UInt32 × Question)) :
    registry.Keeps (registry.assignAll questions) :=
  assignAll_eq registry questions ▸ keeps_assignEach registry _

/-- Every question has a slug when all have been given one. -/
theorem exists_slug_assignAll (registry : Registry) {questions : List (UInt32 × Question)}
    {entry : UInt32 × Question} (member : entry ∈ questions) :
    ∃ slug, (registry.assignAll questions).get? entry.2.id = some slug := by
  rw [assignAll_eq, ← Option.isSome_iff_exists, isSome_get?_assignEach, List.map_map]
  exact .inr (List.mem_map.mpr ⟨entry, member, rfl⟩)

end Slug.Registry

/-! ### Controls -/

namespace Layout

variable {first second : Slug.Registry} {question : Question}

theorem controlName_congr {id : String} (same : first.slugOf id = second.slugOf id)
    (hint label : String) : first.controlName id hint label = second.controlName id hint label := by
  unfold Slug.Registry.controlName
  rw [same]

theorem dateParts_congr (same : first.slugOf question.id = second.slugOf question.id)
    (parts : List String) (taken : List String) :
    dateParts first question taken parts = dateParts second question taken parts := by
  induction parts generalizing taken with
  | nil => rfl
  | cons part rest inductionHypothesis =>
    rw [dateParts, dateParts, controlName_congr same, inductionHypothesis]

theorem textboxes_congr (same : first.slugOf question.id = second.slugOf question.id)
    (choices : List Choice) (taken : List String) :
    textboxes first question taken choices = textboxes second question taken choices := by
  induction choices generalizing taken with
  | nil => rfl
  | cons choice rest inductionHypothesis =>
    rw [textboxes, textboxes, controlName_congr same, inductionHypothesis]

theorem checkboxes_congr (same : first.slugOf question.id = second.slugOf question.id)
    (choices : List Choice) (taken : List String) :
    checkboxes first question taken choices = checkboxes second question taken choices := by
  induction choices generalizing taken with
  | nil => rfl
  | cons choice rest inductionHypothesis =>
    have sameChoice : checkbox first question taken choice =
        checkbox second question taken choice := by
      unfold checkbox
      rw [controlName_congr same]
    rw [checkboxes, checkboxes, sameChoice, inductionHypothesis]

/-- Of a registry the layout of a question reads its own slug only. -/
theorem ofQuestion_congr (same : first.slugOf question.id = second.slugOf question.id)
    (taken : List String) : ofQuestion first taken question = ofQuestion second taken question := by
  unfold ofQuestion
  cases question.kind with
  | shortText | paragraph | money | date | email | phone => simp only [same]
  | dateRange => exact dateParts_congr same _ taken
  | singleChoice | dropdown | numberedDropdown => simp only [same]
  | checkboxGroup => exact checkboxes_congr same _ taken
  | textboxSet => exact textboxes_congr same _ taken

end Layout

namespace Catalog

theorem layQuestions_congr {first second : Slug.Registry} {questions : List (UInt32 × Question)}
    (same : ∀ entry ∈ questions, first.slugOf entry.2.id = second.slugOf entry.2.id)
    (taken : List String) :
    layQuestions first taken questions = layQuestions second taken questions := by
  induction questions generalizing taken with
  | nil => rfl
  | cons head rest inductionHypothesis =>
    obtain ⟨sameHead, sameRest⟩ := List.forall_mem_cons.mp same
    rw [layQuestions, layQuestions, Layout.ofQuestion_congr sameHead, inductionHypothesis sameRest]
    unfold entryOf
    rw [sameHead]

/-- What is laid out of the first questions does not depend on those after them. -/
theorem layQuestions_append (registry : Slug.Registry) (first second : List (UInt32 × Question))
    (taken : List String) : ∃ others, layQuestions registry taken (first ++ second) =
      layQuestions registry taken first ++ layQuestions registry others second := by
  induction first generalizing taken with
  | nil => exact ⟨taken, rfl⟩
  | cons head rest inductionHypothesis =>
    obtain ⟨others, equal⟩ := inductionHypothesis
      ((Layout.ofQuestion registry taken head.2).map Control.name ++ taken)
    refine ⟨others, ?_⟩
    rw [List.cons_append, layQuestions, layQuestions, equal, List.cons_append]

/-! ### Forms with more at their end -/

/-- Adds questions at the end of the section of a number. -/
def addTo (number : UInt32) (more : List Question) (part : FormSection) : FormSection :=
  if part.id = number then { part with questions := part.questions ++ more } else part

theorem id_addTo (number : UInt32) (more : List Question) (part : FormSection) :
    (addTo number more part).id = part.id := by
  unfold addTo
  split <;> rfl

/-- Whether the sections of a form are those of another one, in any order, with questions added at
the end of the last one and with sections after it. Whatever else the forms hold may differ. -/
def Extends (form longer : Form) : Prop :=
  ∃ last more added, (∃ part ∈ form.sections, part.id = last) ∧
    (∀ part ∈ form.sections, part.id ≤ last) ∧ (∀ part ∈ added, last < part.id) ∧
    longer.sections.Perm (form.sections.map (addTo last more) ++ added)

/-- The questions of sections, with the numbers of the sections. -/
def questionsOf (sections : List FormSection) : List (UInt32 × Question) :=
  sections.flatMap fun part => part.questions.map fun question => (part.id, question)

theorem questionsOf_append (first second : List FormSection) :
    questionsOf (first ++ second) = questionsOf first ++ questionsOf second :=
  List.flatMap_append

/-- What is added to the last section comes after all questions. -/
theorem questionsOf_addTo {last : UInt32} (more : List Question) {sections : List FormSection}
    (ascending : sections.Pairwise fun first second => first.id < second.id)
    (isLast : ∃ part ∈ sections, part.id = last)
    (greatest : ∀ part ∈ sections, part.id ≤ last) :
    questionsOf (sections.map (addTo last more)) =
      questionsOf sections ++ more.map fun question => (last, question) := by
  induction sections with
  | nil => obtain ⟨part, member, -⟩ := isLast; cases member
  | cons head rest inductionHypothesis =>
    obtain ⟨before, ascendingRest⟩ := List.pairwise_cons.mp ascending
    obtain ⟨headLe, restLe⟩ := List.forall_mem_cons.mp greatest
    have cons : ∀ (part : FormSection) (others : List FormSection), questionsOf (part :: others) =
        part.questions.map (fun question => (part.id, question)) ++ questionsOf others :=
      fun _ _ => List.flatMap_cons
    rw [List.map_cons, cons, cons, id_addTo]
    by_cases same : head.id = last
    · -- Nothing comes after the section of the greatest number.
      have alone : rest = [] := List.eq_nil_iff_forall_not_mem.mpr fun part member =>
        UInt32.lt_irrefl _ (UInt32.lt_of_lt_of_le (same ▸ before part member) (restLe part member))
      subst alone
      simp [addTo, same, questionsOf]
    · obtain ⟨part, member, isPart⟩ := isLast
      have inRest : part ∈ rest := (List.mem_cons.mp member).resolve_left fun isHead =>
        same (isHead ▸ isPart)
      rw [inductionHypothesis ascendingRest ⟨part, inRest, isPart⟩ restLe, ← List.append_assoc]
      unfold addTo
      rw [if_neg same]

/-- The sections of a form with numbers from one to the last are sorted strictly. -/
theorem ascending_sections {form : Form} (numbered : Numbered form) :
    (inOrder form).sections.Pairwise fun first second => first.id < second.id := by
  have sorted := pairwise_inOrder form
  have numbers : ((inOrder form).sections.map fun part => part.id.toNat).Nodup :=
    (((perm_inOrder form).map _).trans numbered.2).nodup_iff.mpr List.nodup_range'
  have different := List.pairwise_map.mp numbers
  refine (sorted.and different).imp fun {first second} both => ?_
  exact UInt32.lt_of_le_of_ne both.1 fun same => both.2 (congrArg UInt32.toNat same)

/-- The sections of a form with more at its end are those of the form, and some after them. -/
theorem sections_of_extends {form longer : Form} {last : UInt32} {more : List Question}
    {added : List FormSection} (numbered : Numbered form) (numberedLonger : Numbered longer)
    (greatest : ∀ part ∈ form.sections, part.id ≤ last) (after : ∀ part ∈ added, last < part.id)
    (perm : longer.sections.Perm (form.sections.map (addTo last more) ++ added)) :
    ∃ later, (inOrder longer).sections =
      (inOrder form).sections.map (addTo last more) ++ later := by
  have early : ∀ part ∈ (inOrder form).sections.map (addTo last more), part.id ≤ last := by
    intro part member
    obtain ⟨old, isOld, rfl⟩ := List.mem_map.mp member
    exact id_addTo last more old ▸ greatest old ((perm_inOrder form).mem_iff.mp isOld)
  have all : (inOrder longer).sections.Perm
      ((inOrder form).sections.map (addTo last more) ++ added) :=
    ((perm_inOrder longer).trans perm).trans
      (((perm_inOrder form).symm.map (addTo last more)).append_right added)
  have later : ((inOrder longer).sections.filter fun part => last < part.id).Perm added := by
    have ofEarly : ((inOrder form).sections.map (addTo last more)).filter
        (fun part => last < part.id) = [] :=
      List.filter_eq_nil_iff.mpr fun part member => by simpa using early part member
    have ofAdded : added.filter (fun part => last < part.id) = added :=
      List.filter_eq_self.mpr fun part member => decide_eq_true (after part member)
    have filtered := all.filter fun part => last < part.id
    rwa [List.filter_append, ofEarly, ofAdded, List.nil_append] at filtered
  refine ⟨_, List.Perm.eq_of_pairwise ?_ (ascending_sections numberedLonger) ?_
    (all.trans (later.symm.append_left _))⟩
  · exact fun _ _ _ _ less greater => absurd less (UInt32.lt_asymm greater)
  · refine List.pairwise_append.mpr ⟨?_, (ascending_sections numberedLonger).filter _, ?_⟩
    · rw [List.pairwise_map]
      exact (ascending_sections numbered).imp fun less => by rwa [id_addTo, id_addTo]
    · intro part isEarly other isLater
      have isAfter := (List.mem_filter.mp isLater).2
      exact UInt32.lt_of_le_of_lt (early part isEarly) (of_decide_eq_true isAfter)

/-- The questions of a form come first in one with more at its end. -/
theorem questions_of_extends {form longer : Form} (numbered : Numbered form)
    (numberedLonger : Numbered longer) (extended : Extends form longer) :
    ∃ rest, (inOrder longer).questions = (inOrder form).questions ++ rest := by
  obtain ⟨last, more, added, ⟨part, member, isLast⟩, greatest, after, perm⟩ := extended
  obtain ⟨later, sections⟩ := sections_of_extends numbered numberedLonger greatest after perm
  have mem := fun part => (perm_inOrder form).mem_iff (a := part)
  have questions := questionsOf_addTo more (ascending_sections numbered)
    ⟨part, (mem part).mpr member, isLast⟩
    fun other isOther => greatest other ((mem other).mp isOther)
  refine ⟨(more.map fun question => (last, question)) ++ questionsOf later, ?_⟩
  show questionsOf (inOrder longer).sections = questionsOf (inOrder form).sections ++ _
  rw [sections, questionsOf_append, questions, List.append_assoc]

/-! ### What a longer form keeps -/

/-- Whether all questions of a catalog are the first ones of another catalog, each with the slug and
the controls that it has. -/
structure Keeps (catalog longer : Catalog) : Prop where
  questions : catalog.questions <+: longer.questions
  found : ∀ entry ∈ catalog.questions,
    catalog.question? entry.id = some entry ∧ longer.question? entry.id = some entry
  slugs : ∀ entry ∈ catalog.questions,
    catalog.slugs.get? entry.id = some entry.slug ∧ longer.slugs.get? entry.id = some entry.slug
  controls : ∀ entry ∈ catalog.questions, ∀ name ∈ entry.controls, ∃ control,
    catalog.control? name = some control ∧ longer.control? name = some control

theorem slugs_eq_assignAll {form : Form} {catalog : Catalog} (built : build form = .ok catalog) :
    catalog.slugs = Slug.Registry.empty.assignAll (inOrder form).questions := by
  rw [slugs_of_build built, ordered_eq]
  rfl

/-- Every question of a catalog has its slug in the registry. -/
theorem get?_slugs_of_build {form : Form} {catalog : Catalog} (built : build form = .ok catalog)
    {entry : QuestionEntry} (member : entry ∈ catalog.questions) :
    catalog.slugs.get? entry.id = some entry.slug := by
  obtain ⟨registry, laid, hidden, laidOut⟩ := exists_laidOut_of_build built
  rw [laidOut.questions, laidOut.byQuestion] at member
  obtain ⟨each, eachIn, rfl⟩ := List.mem_map.mp member
  obtain ⟨asked, isAsked, -, -, isEntry⟩ := exists_of_mem_layQuestions eachIn
  obtain ⟨slug, known⟩ := Slug.Registry.empty.exists_slug_assignAll isAsked
  rw [← slugs_eq_assignAll built, laidOut.slugs] at known
  rw [isEntry, laidOut.slugs]
  show registry.get? asked.2.id = some (registry.slugOf asked.2.id)
  unfold Slug.Registry.slugOf
  rw [known, Option.getD_some]

/-- The first questions of a longer form are laid out as they are without the others. -/
theorem laid_of_append {form longer : Form} {catalog other : Catalog}
    {registry registryLonger : Slug.Registry} {laid laidLonger : List Laid}
    {hidden hiddenLonger : List Control}
    (laidOut : LaidOut form catalog registry laid hidden)
    (laidOutLonger : LaidOut longer other registryLonger laidLonger hiddenLonger)
    (built : build form = .ok catalog) (builtLonger : build longer = .ok other)
    {rest : List (UInt32 × Question)}
    (questions : (inOrder longer).questions = (inOrder form).questions ++ rest) :
    catalog.slugs.Keeps other.slugs ∧ laid <+: laidLonger := by
  have keeps : catalog.slugs.Keeps other.slugs := by
    rw [slugs_eq_assignAll built, slugs_eq_assignAll builtLonger, questions]
    unfold Slug.Registry.assignAll
    rw [List.foldl_append]
    exact Slug.Registry.keeps_assignAll _ rest
  have same : ∀ entry ∈ (inOrder form).questions,
      registry.slugOf entry.2.id = registryLonger.slugOf entry.2.id := by
    intro entry member
    obtain ⟨slug, known⟩ := Slug.Registry.empty.exists_slug_assignAll member
    rw [← slugs_eq_assignAll built] at known
    rw [← laidOut.slugs, ← laidOutLonger.slugs, keeps.slugOf_eq known]
  obtain ⟨others, equal⟩ := layQuestions_append registryLonger (inOrder form).questions rest []
  refine ⟨keeps, ?_⟩
  rw [laidOutLonger.byQuestion, questions, equal, laidOut.byQuestion, layQuestions_congr same]
  exact List.prefix_append _ _

/-- Adding questions to the last section of a form and sections after it renames nothing: all
questions keep their slugs, their controls and the names of these. -/
theorem keeps_of_extends {form longer : Form} {catalog other : Catalog}
    (built : build form = .ok catalog) (builtLonger : build longer = .ok other)
    (extended : Extends form longer) : catalog.Keeps other := by
  have numbered := ((build_isOk_iff form).mp ⟨catalog, built⟩).1
  have numberedLonger := ((build_isOk_iff longer).mp ⟨other, builtLonger⟩).1
  have wellFormed := wellFormed_of_build built
  have wellFormedLonger := wellFormed_of_build builtLonger
  obtain ⟨rest, asked⟩ := questions_of_extends numbered numberedLonger extended
  obtain ⟨registry, laid, hidden, laidOut⟩ := exists_laidOut_of_build built
  obtain ⟨registryLonger, laidLonger, hiddenLonger, laidOutLonger⟩ :=
    exists_laidOut_of_build builtLonger
  obtain ⟨keeps, laidFirst⟩ := laid_of_append laidOut laidOutLonger built builtLonger asked
  have questions : catalog.questions <+: other.questions := by
    rw [laidOut.questions, laidOutLonger.questions]
    exact laidFirst.map _
  constructor
  case questions => exact questions
  case found =>
    exact fun entry member => ⟨find?_of_mem wellFormed.ids member,
      find?_of_mem wellFormedLonger.ids (questions.subset member)⟩
  case slugs =>
    intro entry member
    have known := get?_slugs_of_build built member
    exact ⟨known, keeps _ _ known⟩
  case controls =>
    intro entry member name isOwn
    rw [laidOut.questions] at member
    obtain ⟨each, eachIn, rfl⟩ := List.mem_map.mp member
    rw [(laidOut.fits each eachIn).controls] at isOwn
    obtain ⟨control, isControl, rfl⟩ := List.mem_map.mp isOwn
    refine ⟨control, ?_, ?_⟩
    · exact wellFormed.control?_of_mem (laidOut.mem_controls eachIn isControl)
    · exact wellFormedLonger.control?_of_mem
        (laidOutLonger.mem_controls (laidFirst.subset eachIn) isControl)

/-! ### A longer crowd -/

/-- The crowded form with more that asks for names given in it: a question whose slug is the name of
a control, and in a section of its own a group of the text and with the options of another one. -/
def largerCrowd : Form :=
  { crowd with
    sections :=
      ⟨2, "Two",
        [Session.plain "more" .checkboxGroup "Tags"
          [⟨"A", none, false, true⟩, ⟨"B", some "tags_a_amount", false, false⟩]]⟩ ::
      crowd.sections.map (addTo 1 [Session.plain "again" .shortText "Pet selected" []]) }

theorem largerCrowd_isSome : (build largerCrowd).toOption.isSome = true := by decide +kernel

/-- The catalog of that form. -/
def largerCrowdCatalog : Catalog := (build largerCrowd).toOption.get largerCrowd_isSome

theorem build_largerCrowd : build largerCrowd = .ok largerCrowdCatalog :=
  eq_ok_get largerCrowd_isSome

theorem extends_largerCrowd : Extends crowd largerCrowd := by
  refine ⟨1, _, _, ⟨_, List.mem_singleton_self _, rfl⟩, ?_, ?_,
    (List.perm_append_singleton _ _).symm⟩
  · exact fun part member => List.mem_singleton.mp member ▸ UInt32.le_refl 1
  · exact fun part member => List.mem_singleton.mp member ▸ by decide

/-- The new questions get numbers, and the old ones keep the names that they have. -/
theorem keeps_of_largerCrowd :
    largerCrowdCatalog.questions.map (fun entry => (entry.slug, entry.controls)) =
        crowdCatalog.questions.map (fun entry => (entry.slug, entry.controls)) ++
          [("pet_selected_2", ["pet_selected_2_2"]),
            ("tags_2", ["tags_2_a", "tags_2_a_amount", "tags_2_tags_a_amount"])] ∧
      crowdCatalog.Keeps largerCrowdCatalog :=
  ⟨by decide +kernel, keeps_of_extends build_crowd build_largerCrowd extends_largerCrowd⟩

end Catalog

end Questionnaire

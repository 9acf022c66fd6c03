/-
This file compares the check of a form with the catalog that is made of it. The check looks at the
form alone, with a registry and a search of its own. It finds one of three problems exactly if there
is no catalog; and in the catalog of a form in which it finds no error, whatever refers to something
else finds it: the conditions their questions, the jumps their sections and the links their selects.
-/
import Questionnaire.Proofs.Issue
import Questionnaire.Proofs.Order
import Questionnaire.Proofs.Partition
import Questionnaire.Proofs.Position

namespace Questionnaire

namespace Catalog

/-! ### Forms that have a catalog -/

/-- Slugs are given one after the other where no id comes twice. -/
theorem assignSlugs_eq {questions : List Question} (seen : List String) (registry : Slug.Registry)
    (different : (questions.map Question.id).Nodup)
    (unseen : ∀ question ∈ questions, question.id ∉ seen) :
    assignSlugs seen registry questions =
      .ok (questions.foldl (fun registry question =>
        (registry.assign question.id question.text).1) registry) := by
  induction questions generalizing seen registry with
  | nil => rfl
  | cons question rest inductionHypothesis =>
    obtain ⟨absent, differentRest⟩ := List.nodup_cons.mp different
    obtain ⟨unseenHead, unseenRest⟩ := List.forall_mem_cons.mp unseen
    rw [assignSlugs, if_neg (by simpa using unseenHead), List.foldl_cons]
    refine inductionHypothesis _ _ differentRest fun other member isSeen => ?_
    rcases List.mem_cons.mp isSeen with same | before
    · exact absent (same ▸ List.mem_map_of_mem member)
    · exact unseenRest other member before

theorem build_isOk_iff (form : Form) :
    (∃ catalog, build form = .ok catalog) ↔
      Numbered form ∧ ((inOrder form).questions.map fun entry => entry.2.id).Nodup := by
  have ids : ((inOrder form).questions.map (·.2)).map Question.id =
      (inOrder form).questions.map fun entry => entry.2.id := by rw [List.map_map]; rfl
  constructor
  · rintro ⟨catalog, built⟩
    obtain ⟨count, registry, counted, assigned, -⟩ := build_ok built
    exact ⟨(countSections_isOk_iff form).mp ⟨count, counted⟩, ids ▸ (assignSlugs_ok assigned).1⟩
  · rintro ⟨numbered, different⟩
    obtain ⟨count, counted⟩ := (countSections_isOk_iff form).mpr numbered
    unfold build
    rw [counted]
    simp only [bind, Except.bind]
    rw [assignSlugs_eq [] .empty (ids ▸ different) fun _ _ => List.not_mem_nil]
    exact ⟨_, rfl⟩

/-- The registry of a catalog is the one of the check. -/
theorem slugs_of_build {form : Form} {catalog : Catalog} (built : build form = .ok catalog) :
    catalog.slugs = Lint.slugsOf (Lint.ordered form) := by
  obtain ⟨count, registry, -, assigned, rfl⟩ := build_ok built
  rw [assignSlugs_eq [] .empty (assignSlugs_ok assigned).1 fun _ _ => List.not_mem_nil] at assigned
  rw [ordered_eq]
  show registry = (inOrder form).questions.foldl _ _
  rw [← Except.ok.inj assigned, List.foldl_map]

end Catalog

/-! ### Looking questions and selects up -/

namespace Layout

/-- A question that is answered by one select has it first among its controls. -/
theorem exists_head_of_isSelect (registry : Slug.Registry) (taken : List String)
    {question : Question} (answered : question.kind.isSelect = true) :
    ∃ control rest, ofQuestion registry taken question = control :: rest ∧
      control.isSelect = true ∧ control.isAnswer = true := by
  unfold ofQuestion
  cases kind : question.kind with
  | singleChoice | dropdown | numberedDropdown => exact ⟨_, _, rfl, rfl, rfl⟩
  | shortText | paragraph | money | date | dateRange | email | phone | checkboxGroup
  | textboxSet => rw [kind] at answered; cases answered

end Layout

namespace Catalog

theorem exists_mem_layQuestions (registry : Slug.Registry) {questions : List (UInt32 × Question)}
    (taken : List String) {entry : UInt32 × Question} (member : entry ∈ questions) :
    ∃ laid ∈ layQuestions registry taken questions, laid.1.id = entry.2.id ∧
      ∃ others, laid.2 = Layout.ofQuestion registry others entry.2 := by
  induction questions generalizing taken with
  | nil => cases member
  | cons head rest inductionHypothesis =>
    rcases List.mem_cons.mp member with rfl | inRest
    · exact ⟨_, List.mem_cons_self, rfl, taken, rfl⟩
    · obtain ⟨laid, laidIn, facts⟩ := inductionHypothesis _ inRest
      exact ⟨laid, List.mem_cons_of_mem _ laidIn, facts⟩

namespace LaidOut

variable {form : Form} {catalog : Catalog} {registry : Slug.Registry} {laid : List Laid}
  {hidden : List Control} {reference : String} {question : Question}

/-- The question of an id is laid out, and the catalog finds it by that id. -/
theorem question?_of_question? (laidOut : LaidOut form catalog registry laid hidden)
    (wellFormed : catalog.WellFormed) (found : form.question? reference = some question) :
    ∃ each ∈ laid, catalog.question? reference = some each.1 ∧
      ∃ others, each.2 = Layout.ofQuestion registry others question := by
  obtain ⟨entry, isEntry, rfl⟩ := Option.map_eq_some_iff.mp found
  have inOrder := (perm_questions form).mem_iff.mpr (List.mem_of_find?_eq_some isEntry)
  obtain ⟨each, member, same, isOf⟩ := exists_mem_layQuestions registry [] inOrder
  rw [← laidOut.byQuestion] at member
  have isId : each.1.id = reference := same.trans (by simpa using List.find?_some isEntry)
  refine ⟨each, member, isId ▸ find?_of_mem wellFormed.ids ?_, isOf⟩
  rw [laidOut.questions]
  exact List.mem_map_of_mem member

theorem question?_eq_none (laidOut : LaidOut form catalog registry laid hidden)
    (absent : form.question? reference = none) : catalog.question? reference = none := by
  refine List.find?_eq_none.mpr fun entry member same => ?_
  have isId := List.mem_map_of_mem (f := QuestionEntry.id) member
  rw [laidOut.ids] at isId
  obtain ⟨other, otherIn, equal⟩ := List.mem_map.mp isId
  rw [beq_iff_eq, ← equal] at same
  have unknown := List.find?_eq_none.mp (Option.map_eq_none_iff.mp absent) other
    ((perm_questions form).mem_iff.mp otherIn)
  exact unknown (by simpa using same)

/-- What the check finds for a reference, the catalog resolves it to. -/
theorem resolve?_of_find (laidOut : LaidOut form catalog registry laid hidden)
    (wellFormed : catalog.WellFormed)
    (found : Lint.findQuestion form catalog.slugs reference = some question) :
    ∃ each ∈ laid, catalog.resolve? reference = some each.1 ∧
      ∃ others, each.2 = Layout.ofQuestion registry others question := by
  unfold Lint.findQuestion at found
  unfold resolve?
  cases direct : form.question? reference with
  | some other =>
    rw [direct] at found
    cases found
    obtain ⟨each, member, isFound, isOf⟩ := laidOut.question?_of_question? wellFormed direct
    exact ⟨each, member, by rw [isFound], isOf⟩
  | none =>
    rw [direct] at found
    obtain ⟨id, bySlug, byId⟩ := Option.bind_eq_some_iff.mp found
    obtain ⟨each, member, isFound, isOf⟩ := laidOut.question?_of_question? wellFormed byId
    refine ⟨each, member, ?_, isOf⟩
    rw [laidOut.question?_eq_none direct, bySlug]
    exact isFound

/-- A side of a link for which the check finds a question of one select names a select. -/
theorem select?_of_find (laidOut : LaidOut form catalog registry laid hidden)
    (wellFormed : catalog.WellFormed)
    (found : Lint.findQuestion form catalog.slugs reference = some question)
    (answered : question.kind.isSelect = true) :
    ∃ control ∈ catalog.controls, control.isSelect = true ∧
      catalog.select? reference = some control.name := by
  unfold select?
  simp only
  split
  next itself =>
    obtain ⟨control, isControl, isSelect⟩ := (Option.any_eq_true _ _).mp itself
    obtain ⟨member, named⟩ := mem_of_control?_eq_some isControl
    exact ⟨control, member, isSelect, congrArg some named.symm⟩
  next =>
    obtain ⟨each, eachIn, resolved, others, isOf⟩ := laidOut.resolve?_of_find wellFormed found
    obtain ⟨control, rest, laysOut, isSelect, isAnswer⟩ :=
      Layout.exists_head_of_isSelect registry others answered
    have member : control ∈ catalog.controls :=
      laidOut.mem_controls eachIn (isOf ▸ laysOut ▸ List.mem_cons_self)
    refine ⟨control, member, isSelect, ?_⟩
    have answers : each.1.answers.head? = some control.name := by
      rw [(laidOut.fits each eachIn).answers, isOf, laysOut, List.filter_cons_of_pos isAnswer]
      rfl
    rw [resolved, Option.bind_some, answers, Option.filter_some,
      wellFormed.control?_of_mem member, Option.any_some, isSelect, if_pos rfl]

end LaidOut

/-- A link between two selects is a channel. -/
theorem between_mem_links {form : Form} {catalog : Catalog} (built : build form = .ok catalog)
    {link : Link} (member : link ∈ form.links) {first second : String}
    (firstNamed : catalog.select? link.first = some first)
    (secondNamed : catalog.select? link.second = some second) (different : first ≠ second) :
    Channel.between first second ∈ catalog.links := by
  have channel : catalog.channel? link = some (.between first second) := by
    unfold channel?
    rw [firstNamed, secondNamed]
    exact if_neg (by simpa using different)
  obtain ⟨count, registry, -, -, rfl⟩ := build_ok built
  exact mem_channels.mpr ⟨link, member, channel⟩

/-- Whether whatever refers to something else finds it. A link is a channel unless both its sides
are one select. -/
structure Resolves (form : Form) (catalog : Catalog) : Prop where
  sources : ∀ entry ∈ form.questions, ∀ logic, entry.2.logic = some logic →
    ∀ condition ∈ logic.conditions,
      ∃ source ∈ catalog.questions, catalog.resolve? condition.question = some source
  jumps : ∀ entry ∈ form.questions, ∀ jump ∈ entry.2.jumps,
    jump.target.destination = some .finish ∨
      ∃ id, jump.target.destination = some (.section id) ∧
        1 ≤ id.toNat ∧ id.toNat ≤ form.sections.length ∧
        Navigation.clamp catalog.sectionCount id = id
  links : ∀ link ∈ form.links, ∃ first ∈ catalog.controls, ∃ second ∈ catalog.controls,
    first.isSelect = true ∧ second.isSelect = true ∧
      catalog.select? link.first = some first.name ∧
      catalog.select? link.second = some second.name ∧
      (first ≠ second → Channel.between first.name second.name ∈ catalog.links)

end Catalog

namespace Lint

/-! ### What the check says of the catalog -/

/-- The problems of the numbers and ids are found exactly in forms that have no catalog. -/
theorem build_isOk_iff_of_check (form : Form) :
    (∃ catalog, Catalog.build form = .ok catalog) ↔
      ¬∃ issue ∈ check form, issue.problem.prevents = true := by
  rw [exists_prevents_iff, not_not, List.append_eq_nil_iff, checkSections_eq_nil_iff,
    checkIds_eq_nil_iff, Catalog.ordered_eq, Catalog.build_isOk_iff]
  simp

/-- In the catalog of a form without errors, whatever refers to something else finds it. -/
theorem resolves_of_sound {form : Form} {catalog : Catalog}
    (built : Catalog.build form = .ok catalog) (sound : Sound form) : catalog.Resolves form := by
  have wellFormed := Catalog.wellFormed_of_build built
  obtain ⟨registry, laid, hidden, laidOut⟩ := Catalog.exists_laidOut_of_build built
  obtain ⟨sources, jumps, sides⟩ := sound
  rw [← Catalog.slugs_of_build built] at sources sides
  constructor
  case sources =>
    intro entry member logic has condition isCondition
    obtain ⟨source, found⟩ := sources entry member logic has condition isCondition
    obtain ⟨each, eachIn, resolved, -⟩ := laidOut.resolve?_of_find wellFormed found
    exact ⟨each.1, laidOut.questions ▸ List.mem_map_of_mem eachIn, resolved⟩
  case jumps =>
    intro entry member jump isJump
    refine (jumps entry member jump isJump).imp_right ?_
    rintro ⟨id, leads, least, greatest⟩
    obtain ⟨-, counted⟩ := Catalog.sectionCount_of_build built
    exact ⟨id, leads, least, greatest, Navigation.clamp_eq_self ⟨least, by omega⟩⟩
  case links =>
    intro link member
    have named : ∀ side ∈ [link.first, link.second], ∃ control ∈ catalog.controls,
        control.isSelect = true ∧ catalog.select? side = some control.name := by
      intro side isSide
      obtain ⟨question, found, answered⟩ := sides link member side isSide
      exact laidOut.select?_of_find wellFormed found answered
    obtain ⟨first, firstIn, firstSelect, firstNamed⟩ := named link.first (by simp)
    obtain ⟨second, secondIn, secondSelect, secondNamed⟩ := named link.second (by simp)
    refine ⟨first, firstIn, second, secondIn, firstSelect, secondSelect, firstNamed, secondNamed,
      fun different => ?_⟩
    refine Catalog.between_mem_links built member firstNamed secondNamed fun same => different ?_
    exact wellFormed.eq_of_name_eq firstIn secondIn same

/-- A form has no catalog exactly if the check finds that it has no sections, that their numbers do
not run from one to the last, or that an id comes twice. A form in which it finds no error has a
catalog in which nothing refers to what is not there. -/
theorem check_agrees (form : Form) :
    ((∃ fault, Catalog.build form = .error fault) ↔
      ∃ issue ∈ check form,
        issue.problem.code ∈ ["no_sections", "section_numbering", "duplicate_question"]) ∧
    (isValid (check form) = true →
      ∃ catalog, Catalog.build form = .ok catalog ∧ catalog.Resolves form) := by
  have fails : (∃ fault, Catalog.build form = .error fault) ↔
      ¬∃ catalog, Catalog.build form = .ok catalog := by
    cases Catalog.build form <;> simp
  constructor
  · rw [fails, build_isOk_iff_of_check, not_not]
    simp only [Problem.prevents_iff]
  · intro valid
    have harmless := (isValid_iff (check form)).mp valid
    have isOk : ∃ catalog, Catalog.build form = .ok catalog := by
      rw [build_isOk_iff_of_check]
      rintro ⟨issue, found, prevents⟩
      exact harmless issue.problem (List.mem_map_of_mem found)
        (issue.problem.severity_of_prevents prevents)
    obtain ⟨catalog, built⟩ := isOk
    exact ⟨catalog, built, resolves_of_sound built (sound_of_isValid valid)⟩

/-! ### A form whose references cross -/

/-- A form with its last section first, in which a question has the slug of another one as its id.
One link joins two selects, and the other one names one select twice. -/
def crossed : Form :=
  { id := "crossed", title := "Crossed", description := none
    sections :=
      [⟨2, "Two",
        [{ Session.plain "color" .singleChoice "Color" [⟨"Red", none, false, false⟩] with
            logic := some ⟨[⟨"color_2", "Red"⟩, ⟨"first", "Blue"⟩]⟩ }]⟩,
       ⟨1, "One",
        [{ Session.plain "first" .dropdown "Color"
              [⟨"Red", none, false, false⟩, ⟨"Blue", none, false, false⟩] with
            jumps := [⟨"red", .marker " END "⟩, ⟨"Blue", .marker "2"⟩] }]⟩]
    hiddenFields := []
    links := [⟨"color", "color_2"⟩, ⟨"first", "color"⟩] }

theorem isValid_crossed : isValid (check crossed) = true := by
  unfold check
  rw [Catalog.ordered_eq]
  decide +kernel

/-- The id of the later question is the name of the earlier one's select, and the second link has
one select on both sides. -/
theorem check_agrees_crossed :
    isValid (check crossed) = true ∧
      (Catalog.build crossed).toOption.map Catalog.links = some [⟨"color", "color_2"⟩] ∧
      ∃ catalog, Catalog.build crossed = .ok catalog ∧ catalog.Resolves crossed :=
  ⟨isValid_crossed, by decide +kernel, (check_agrees crossed).2 isValid_crossed⟩

end Lint

end Questionnaire

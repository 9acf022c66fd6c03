/-
This file compares the check of triggers with the jumps themselves. The check warns of a trigger
that is none of the choices, up to the case of ASCII letters; a jump applies if the answer and the
trigger have one lower case, both without the blanks around them. So a warning can be wrong: of a
letter beyond ASCII in another case, and of a box whose label has blanks around it. And it can be
missing: a blank trigger passes for an empty label of a select, which is never an answer.
-/
import Questionnaire.Proofs.Case
import Questionnaire.Proofs.Jump
import Questionnaire.Proofs.Pick
import Questionnaire.Proofs.Validity

namespace Questionnaire

/-! ### What the check reports -/

namespace Lint

/-- Whether the check warns of the trigger of the jump of a question at a place. -/
def ReportsTrigger (form : Form) (question : Question) (slot : Nat) : Prop :=
  ∃ issue ∈ check form, issue.problem.code = "unknown_jump_trigger" ∧
    issue.question = some question.id ∧ issue.path = some (placeIn question "jump" slot)

/-- What is found of the jumps of a question is found of one of them. -/
theorem mem_checkJumps_iff {count : Nat} {sectionId : UInt32} {question : Question}
    {issue : Issue} :
    issue ∈ checkJumps count sectionId question ↔
      ∃ jump slot, question.jumps[slot]? = some jump ∧ issue.question = some question.id ∧
        issue.path = some (placeIn question "jump" slot) ∧
        (checkTarget count sectionId jump.target = some issue.problem ∨
          checkTrigger question jump.trigger = some issue.problem) := by
  unfold checkJumps
  simp only [List.mem_flatMap, List.mem_map, List.mem_append, Option.mem_toList, Prod.exists,
    List.mk_mem_zipIdx_iff_getElem?]
  constructor
  · rintro ⟨jump, slot, isJump, problem, found, rfl⟩
    exact ⟨jump, slot, isJump, rfl, rfl, found⟩
  · rintro ⟨jump, slot, isJump, isQuestion, isPlace, found⟩
    refine ⟨jump, slot, isJump, issue.problem, found, ?_⟩
    rw [← isQuestion, ← isPlace]

/-- Whether a problem is one of a trigger. -/
def Problem.isTrigger : Problem → Bool
  | .unknownTrigger _ => true
  | _ => false

theorem Problem.isTrigger_iff (problem : Problem) :
    problem.isTrigger = true ↔ problem.code = "unknown_jump_trigger" := by
  cases problem <;> simp [isTrigger, code]

theorem not_isTrigger_of_prevents {problem : Problem} (prevents : problem.prevents = true) :
    problem.isTrigger = false := by
  cases problem <;> first | rfl | cases prevents

theorem not_isTrigger_of_mem_checkLogic {find : String → Option Question}
    {positionOf : String → Option Nat} {order : Nat} {question : Question} {issue : Issue}
    (found : issue ∈ checkLogic find positionOf order question) :
    issue.problem.isTrigger = false := by
  unfold checkLogic at found
  split at found
  next => cases found
  next =>
    obtain ⟨⟨condition, slot⟩, -, made⟩ := List.mem_filterMap.mp found
    obtain ⟨problem, ofCondition, rfl⟩ := Option.map_eq_some_iff.mp made
    exact of_checkCondition (·.isTrigger = false) ofCondition (fun _ => rfl) fun _ => rfl

theorem not_isTrigger_of_mem_checkLink {find : String → Option Question} {link : Link} {slot : Nat}
    {issue : Issue} (found : issue ∈ checkLink find link slot) :
    issue.problem.isTrigger = false := by
  obtain ⟨side, -, made⟩ := List.mem_filterMap.mp found
  split at made
  next => cases made
  next => exact Option.some.inj made ▸ rfl

theorem not_isTrigger_of_checkTarget {count : Nat} {sectionId : UInt32} {target : JumpTarget}
    {problem : Problem} (found : checkTarget count sectionId target = some problem) :
    problem.isTrigger = false := by
  unfold checkTarget at found
  grind [Problem.isTrigger]

/-- A problem of a trigger is found of the jumps of a question. -/
theorem exists_of_isTrigger {form : Form} {issue : Issue} (found : issue ∈ check form)
    (isTrigger : issue.problem.isTrigger = true) :
    ∃ entry ∈ ordered form, issue ∈ checkJumps form.sections.length entry.1 entry.2 := by
  have noOther : issue.problem.isTrigger ≠ false := by simp [isTrigger]
  unfold check at found
  simp only [List.mem_append, List.mem_flatMap] at found
  rcases found with (((ofSections | ofIds) | ⟨⟨entry, order⟩, isEntry, ofQuestion⟩) |
    ⟨field, -, ofField⟩) | ⟨link, -, ofLink⟩
  · exact absurd (not_isTrigger_of_prevents (prevents_of_mem_checkSections ofSections)) noOther
  · exact absurd (not_isTrigger_of_prevents (prevents_of_mem_checkIds ofIds)) noOther
  · rcases ofQuestion with ((ofOptions | ofLogic) | ofJumps) | ofCalculations
    · exact absurd (of_mem_checkOptions (·.isTrigger = false) ofOptions (fun _ => rfl) rfl rfl rfl
        fun _ => rfl) noOther
    · exact absurd (not_isTrigger_of_mem_checkLogic ofLogic) noOther
    · exact ⟨entry, (List.mem_zipIdx' isEntry).2 ▸ List.getElem_mem _, ofJumps⟩
    · exact absurd (of_mem_checkCalculations (·.isTrigger = false) ofCalculations rfl rfl) noOther
  · exact absurd (of_mem_checkHiddenField (·.isTrigger = false) ofField rfl rfl) noOther
  · exact absurd (not_isTrigger_of_mem_checkLink ofLink) noOther

theorem placeIn_injective {question : Question} {list : String} {first second : Nat}
    (same : placeIn question list first = placeIn question list second) : first = second := by
  unfold placeIn at same
  have lists := congrArg String.toList same
  simp only [String.toList_append] at lists
  exact FreshName.numeral_injective (String.toList_inj.mp (List.append_cancel_left lists))

theorem checkTrigger_eq_some_iff {question : Question} {trigger : String} {problem : Problem} :
    checkTrigger question trigger = some problem ↔
      problem = .unknownTrigger trigger ∧ question.choices ≠ [] ∧
        ∀ choice ∈ question.choices, Text.sameAscii choice (Text.trim trigger) = false := by
  have unfit : (question.choices.isEmpty ||
      question.choices.any fun choice => Text.sameAscii choice (Text.trim trigger)) = false ↔
        question.choices ≠ [] ∧
          ∀ choice ∈ question.choices, Text.sameAscii choice (Text.trim trigger) = false := by
    simp
  unfold checkTrigger
  simp only
  split
  next fits =>
    constructor
    · rintro ⟨⟩
    · rintro ⟨-, unfits⟩
      rw [unfit.mpr unfits] at fits
      cases fits
  next noFit =>
    constructor
    · rintro ⟨⟩
      exact ⟨rfl, unfit.mp (Bool.not_eq_true _ ▸ noFit)⟩
    · rintro ⟨rfl, -⟩
      rfl

theorem mem_check_of_checkJumps {form : Form} {entry : UInt32 × Question} {issue : Issue}
    (isEntry : entry ∈ ordered form)
    (found : issue ∈ checkJumps form.sections.length entry.1 entry.2) : issue ∈ check form := by
  obtain ⟨order, isAt⟩ := List.mem_iff_getElem?.mp isEntry
  unfold check
  simp only [List.mem_append, List.mem_flatMap]
  refine .inl (.inl (.inr ⟨(entry, order), List.mk_mem_zipIdx_iff_getElem?.mpr isAt, ?_⟩))
  exact .inl (.inr found)

/-- In a form that has a catalog, the check warns of a trigger exactly if there are choices and the
trigger without the blanks around it is none of them, up to the case of ASCII letters. -/
theorem reportsTrigger_iff {form : Form} {catalog : Catalog}
    (built : Catalog.build form = .ok catalog) {sectionId : UInt32} {question : Question}
    (member : (sectionId, question) ∈ form.questions) {slot : Nat} {jump : Jump}
    (isJump : question.jumps[slot]? = some jump) :
    ReportsTrigger form question slot ↔ question.choices ≠ [] ∧
      ∀ choice ∈ question.choices, Text.sameAscii choice (Text.trim jump.trigger) = false := by
  have isOrdered : (sectionId, question) ∈ ordered form :=
    Catalog.ordered_eq form ▸ (Catalog.perm_questions form).mem_iff.mpr member
  constructor
  · rintro ⟨issue, found, isTrigger, isQuestion, isPlace⟩
    rw [← Problem.isTrigger_iff] at isTrigger
    obtain ⟨other, otherIn, ofJumps⟩ := exists_of_isTrigger found isTrigger
    obtain ⟨otherJump, otherSlot, isOther, ofOther, atOther, problem⟩ :=
      mem_checkJumps_iff.mp ofJumps
    -- The id tells the question, since no two have one, and the place tells the jump.
    have different : ((ordered form).map fun entry => entry.2.id).Nodup :=
      Catalog.ordered_eq form ▸ ((Catalog.build_isOk_iff form).mp ⟨catalog, built⟩).2
    obtain rfl : other = (sectionId, question) :=
      List.inj_on_of_nodup_map different otherIn isOrdered
        (Option.some.inj (ofOther.symm.trans isQuestion))
    obtain rfl : otherSlot = slot :=
      placeIn_injective (Option.some.inj (atOther.symm.trans isPlace))
    obtain rfl : otherJump = jump := Option.some.inj (isOther.symm.trans isJump)
    rcases problem with ofTarget | ofTrigger
    · rw [not_isTrigger_of_checkTarget ofTarget] at isTrigger
      cases isTrigger
    · exact (checkTrigger_eq_some_iff.mp ofTrigger).2
  · intro unknown
    refine ⟨⟨.unknownTrigger jump.trigger, some question.id, some (placeIn question "jump" slot)⟩,
      mem_check_of_checkJumps isOrdered (mem_checkJumps_iff.mpr ?_), rfl, rfl, rfl⟩
    exact ⟨jump, slot, isJump, rfl, rfl, .inr (checkTrigger_eq_some_iff.mpr ⟨rfl, unknown⟩)⟩

end Lint

/-! ### What the controls of a question can be set to -/

namespace Layout

/-- A question that is answered by one select has it for its answer. -/
theorem filter_isAnswer_of_isSelect (registry : Slug.Registry) (taken : List String)
    {question : Question} (answered : question.kind.isSelect = true) :
    ∃ control echo, (ofQuestion registry taken question).filter Control.isAnswer = [control] ∧
      control.kind = .select question.choices echo := by
  unfold ofQuestion
  cases kind : question.kind with
  | singleChoice | dropdown | numberedDropdown =>
    simp only [select, kind]
    exact ⟨_, _, rfl, rfl⟩
  | shortText | paragraph | money | date | dateRange | email | phone | checkboxGroup
  | textboxSet => rw [kind] at answered; cases answered

theorem ofQuestion_of_group (registry : Slug.Registry) (taken : List String) {question : Question}
    (group : question.kind = .checkboxGroup) :
    ofQuestion registry taken question = checkboxes registry question taken question.options := by
  unfold ofQuestion
  rw [group]

/-- The answer of an option is its box alone. -/
theorem filter_isAnswer_checkbox (registry : Slug.Registry) (question : Question)
    (taken : List String) (choice : Choice) :
    ∃ box amount, (checkbox registry question taken choice).filter Control.isAnswer = [box] ∧
      box.kind = .checkbox choice.label amount choice.exclusive := by
  unfold checkbox
  cases choice.amount <;> exact ⟨_, _, rfl, rfl⟩

/-- The answer of a checkbox group is a box for every option, and nothing else. -/
theorem boxes_checkboxes (registry : Slug.Registry) (question : Question) (choices : List Choice)
    (taken : List String) :
    (∀ control ∈ (checkboxes registry question taken choices).filter Control.isAnswer,
      ∃ choice ∈ choices, ∃ amount,
        control.kind = .checkbox choice.label amount choice.exclusive) ∧
    ∀ choice ∈ choices, ∃ control ∈
      (checkboxes registry question taken choices).filter Control.isAnswer, ∃ amount,
        control.kind = .checkbox choice.label amount choice.exclusive := by
  induction choices generalizing taken with
  | nil => exact ⟨fun _ member => (List.not_mem_nil member).elim, fun _ member => nomatch member⟩
  | cons choice rest inductionHypothesis =>
    obtain ⟨box, amount, ofChoice, kind⟩ := filter_isAnswer_checkbox registry question taken choice
    obtain ⟨boxes, options⟩ := inductionHypothesis
      ((checkbox registry question taken choice).map Control.name ++ taken)
    rw [checkboxes, List.filter_append, ofChoice]
    refine ⟨fun control member => ?_, fun option member => ?_⟩
    · rcases List.mem_cons.mp member with rfl | inRest
      · exact ⟨choice, List.mem_cons_self, amount, kind⟩
      · obtain ⟨option, optionIn, isBox⟩ := boxes control inRest
        exact ⟨option, List.mem_cons_of_mem _ optionIn, isBox⟩
    · rcases List.mem_cons.mp member with rfl | inRest
      · exact ⟨box, List.mem_cons_self, amount, kind⟩
      · obtain ⟨control, controlIn, isBox⟩ := options option inRest
        exact ⟨control, List.mem_cons_of_mem _ controlIn, isBox⟩

end Layout

namespace Catalog

variable {form : Form} {catalog : Catalog} {sectionId : UInt32} {question : Question}

/-- The entry of a question and its controls. -/
theorem exists_entry (built : build form = .ok catalog)
    (member : (sectionId, question) ∈ form.questions) :
    ∃ entry registry taken, catalog.question? question.id = some entry ∧
      entry.controls = (Layout.ofQuestion registry taken question).map Control.name ∧
      entry.answers =
        ((Layout.ofQuestion registry taken question).filter Control.isAnswer).map Control.name ∧
      ∀ control ∈ Layout.ofQuestion registry taken question, control ∈ catalog.controls := by
  obtain ⟨registry, laid, hidden, laidOut⟩ := exists_laidOut_of_build built
  have inOrder := (perm_questions form).mem_iff.mpr member
  obtain ⟨each, eachIn, isId, taken, isOf⟩ := exists_mem_layQuestions registry [] inOrder
  rw [← laidOut.byQuestion] at eachIn
  have fits := laidOut.fits each eachIn
  have isEntry : each.1 ∈ catalog.questions := laidOut.questions ▸ List.mem_map_of_mem eachIn
  exact ⟨each.1, registry, taken, isId ▸ find?_of_mem (wellFormed_of_build built).ids isEntry,
    isOf ▸ fits.controls, isOf ▸ fits.answers, fun control isOwn =>
      laidOut.mem_controls eachIn (isOf.symm ▸ isOwn)⟩

end Catalog

/-- A sheet in which the controls of a question are set in any way that they take, and all others
hold what they held in the beginning. -/
inductive Setting (catalog : Catalog) (entry : QuestionEntry) : Sheet → Prop where
  | start : Setting catalog entry (Sheet.ofCatalog catalog)
  | text {sheet : Sheet} {name text : String} {written : Sheet × Bool}
    (before : Setting catalog entry sheet) (isOwn : name ∈ entry.controls)
    (takes : sheet.setText name text = .ok written) : Setting catalog entry written.1
  | check {sheet : Sheet} {name : String} {checked : Bool} {written : Sheet × Bool}
    (before : Setting catalog entry sheet) (isOwn : name ∈ entry.controls)
    (takes : sheet.setChecked name checked = .ok written) : Setting catalog entry written.1

theorem Setting.owned {catalog : Catalog} {entry : QuestionEntry} {sheet : Sheet}
    (wellFormed : catalog.WellFormed) (setting : Setting catalog entry sheet) :
    Owned catalog NameMap.empty sheet := by
  induction setting with
  | start => exact owned_ofCatalog wellFormed
  | text _ _ takes inductionHypothesis =>
    exact inductionHypothesis.refilled (Sheet.write_of_setText takes).refilled
  | check _ _ takes inductionHypothesis =>
    exact inductionHypothesis.refilled (Sheet.write_of_setChecked takes).refilled

/-- Whether a choice of a question can be its answer: a select gives it only if it is not empty and
has no blanks around it, and a box always does. -/
def Question.Gives (question : Question) (choice : String) : Prop :=
  choice ∈ question.choices ∧
    (question.kind.isSelect = true → Text.trim choice = choice ∧ choice ≠ "")

/-- The answer of one control is its text. -/
theorem Sheet.answerText_of_single {sheet : Sheet} {entry : QuestionEntry} {name text : String}
    (answers : entry.answers = [name]) (holds : sheet.text? name = some text) :
    sheet.answerText entry = text := by
  unfold answerText
  rw [answers, List.filterMap_cons, holds]
  cases isEmpty : text.isEmpty with
  | true => simp [String.isEmpty_iff.mp isEmpty]
  | false =>
    rw [List.filter_cons_of_pos (by simp [isEmpty])]
    rfl

/-- A box can be checked. -/
theorem Sheet.exists_setChecked {sheet : Sheet} {name value : String} {checked : Bool}
    (holds : sheet.content? name = some (.checkbox checked value)) :
    ∃ written, sheet.setChecked name true = .ok written ∧
      written.1.content? name = some (.checkbox true value) := by
  obtain ⟨entry, present, content⟩ := Option.map_eq_some_iff.mp holds
  have takes : entry.content.withCheck? true = some (.checkbox true value) := by
    rw [content]
    rfl
  refine ⟨_, setChecked_of_withCheck? present takes, ?_⟩
  rw [content?_eq, get?_put present, if_pos rfl]
  rfl

theorem QuestionKind.ne_group {kind : QuestionKind} (answered : kind.isSelect = true) :
    kind ≠ .checkboxGroup := by
  rintro rfl
  cases answered

/-- The choices of a checkbox group are the labels of its options. -/
theorem Question.choices_of_group {question : Question} (group : question.kind = .checkboxGroup) :
    question.choices = question.options.map Choice.label := by
  unfold choices
  rw [group]

namespace Navigation

variable {form : Form} {catalog : Catalog} {sectionId : UInt32} {question : Question}
  {sheet : Sheet} {derived : NameMap String} {jump : Jump}

/-- Whether a jump applies in some setting of the controls of its question. -/
def CanApply (catalog : Catalog) (sectionId : UInt32) (authored : Question × Jump) : Prop :=
  ∃ entry sheet, catalog.question? authored.1.id = some entry ∧ Setting catalog entry sheet ∧
    jumpApplies catalog sheet (ruleOf sectionId authored) = true

/-- A jump can only apply by a choice that can be the answer, in whatever sheet of the catalog. -/
theorem exists_gives_of_jumpApplies (built : Catalog.build form = .ok catalog)
    (member : (sectionId, question) ∈ form.questions)
    (kind : question.kind.isSelect = true ∨ question.kind = .checkboxGroup)
    (owned : Owned catalog derived sheet)
    (applies : jumpApplies catalog sheet (ruleOf sectionId (question, jump)) = true) :
    ∃ choice, question.Gives choice ∧ Answer.same choice jump.trigger = true := by
  obtain ⟨entry, registry, taken, found, -, answers, isControl⟩ := Catalog.exists_entry built member
  rw [jumpApplies_iff_of_question? found] at applies
  rcases kind with answered | group
  · rw [if_neg (QuestionKind.ne_group answered)] at applies
    obtain ⟨control, echo, alone, kind⟩ :=
      Layout.filter_isAnswer_of_isSelect registry taken answered
    have isOwn : control ∈ Layout.ofQuestion registry taken question :=
      List.mem_of_mem_filter (alone ▸ List.mem_singleton_self control)
    obtain ⟨choice, holds, chosen⟩ := owned.select (isControl control isOwn) kind
    have text : sheet.text? control.name = some choice := by
      rw [Sheet.text?, holds]
      rfl
    rw [alone] at answers
    rw [Sheet.answerText_of_single answers text] at applies
    have isOption := chosen.resolve_left applies.1
    obtain ⟨trimmed, -⟩ := Answer.trim_option isOption
    exact ⟨choice, ⟨Answer.option?_mem isOption, fun _ => ⟨trimmed, applies.1⟩⟩, applies.2⟩
  · rw [if_pos group] at applies
    obtain ⟨name, isAnswer, value, holds, same⟩ := applies
    rw [answers] at isAnswer
    obtain ⟨box, boxIn, rfl⟩ := List.mem_map.mp isAnswer
    have isOwn := List.mem_of_mem_filter boxIn
    have ofOptions := (Layout.boxes_checkboxes registry question question.options taken).1
    rw [Layout.ofQuestion_of_group registry taken group] at boxIn
    obtain ⟨choice, choiceIn, amount, kind⟩ := ofOptions box boxIn
    obtain ⟨checked, held⟩ := owned.checkbox (isControl box isOwn) kind
    rw [held] at holds
    cases holds
    refine ⟨choice.label, ⟨?_, fun answered => ?_⟩, same⟩
    · rw [Question.choices_of_group group]
      exact List.mem_map_of_mem choiceIn
    · exact absurd group (QuestionKind.ne_group answered)

/-- Every choice that can be the answer is the answer in some setting of the question's controls. -/
theorem exists_setting_of_gives (built : Catalog.build form = .ok catalog)
    (member : (sectionId, question) ∈ form.questions)
    (kind : question.kind.isSelect = true ∨ question.kind = .checkboxGroup) {choice : String}
    (gives : question.Gives choice) (same : Answer.same choice jump.trigger = true) :
    CanApply catalog sectionId (question, jump) := by
  obtain ⟨entry, registry, taken, found, controls, answers, isControl⟩ :=
    Catalog.exists_entry built member
  have owned := owned_ofCatalog (Catalog.wellFormed_of_build built)
  rcases kind with answered | group
  · obtain ⟨trimmed, notEmpty⟩ := gives.2 answered
    obtain ⟨control, echo, alone, kind⟩ :=
      Layout.filter_isAnswer_of_isSelect registry taken answered
    have isOwn : control ∈ Layout.ofQuestion registry taken question :=
      List.mem_of_mem_filter (alone ▸ List.mem_singleton_self control)
    obtain ⟨old, holds, -⟩ := owned.select (isControl control isOwn) kind
    obtain ⟨written, takes, text⟩ :=
      Sheet.exists_setText holds ((Wizard.takes?_self_iff gives.1).mpr trimmed)
    refine ⟨entry, written.1, found, .text .start (controls ▸ List.mem_map_of_mem isOwn) takes, ?_⟩
    rw [alone] at answers
    rw [jumpApplies_iff_of_question? found, if_neg (QuestionKind.ne_group answered),
      Sheet.answerText_of_single answers text]
    exact ⟨notEmpty, same⟩
  · have isChoice := gives.1
    rw [Question.choices_of_group group] at isChoice
    obtain ⟨option, optionIn, rfl⟩ := List.mem_map.mp isChoice
    have toBoxes := (Layout.boxes_checkboxes registry question question.options taken).2
    obtain ⟨box, boxIn, amount, kind⟩ := toBoxes option optionIn
    rw [← Layout.ofQuestion_of_group registry taken group] at boxIn
    have isOwn := List.mem_of_mem_filter boxIn
    obtain ⟨checked, holds⟩ := owned.checkbox (isControl box isOwn) kind
    obtain ⟨written, takes, held⟩ := Sheet.exists_setChecked holds
    refine ⟨entry, written.1, found, .check .start (controls ▸ List.mem_map_of_mem isOwn) takes, ?_⟩
    rw [jumpApplies_iff_of_question? found, if_pos group]
    exact ⟨box.name, answers ▸ List.mem_map_of_mem boxIn, option.label, held, same⟩

/-- A jump can apply exactly if some choice that can be the answer is its trigger. -/
theorem canApply_iff (built : Catalog.build form = .ok catalog)
    (member : (sectionId, question) ∈ form.questions)
    (kind : question.kind.isSelect = true ∨ question.kind = .checkboxGroup) :
    CanApply catalog sectionId (question, jump) ↔
      ∃ choice, question.Gives choice ∧ Answer.same choice jump.trigger = true := by
  constructor
  · rintro ⟨entry, sheet, -, setting, applies⟩
    exact exists_gives_of_jumpApplies built member kind
      (setting.owned (Catalog.wellFormed_of_build built)) applies
  · rintro ⟨choice, gives, same⟩
    exact exists_setting_of_gives built member kind gives same

theorem ruleOf_mem_jumps (built : Catalog.build form = .ok catalog)
    (member : (sectionId, question) ∈ form.questions) (isJump : jump ∈ question.jumps) :
    ruleOf sectionId (question, jump) ∈ catalog.jumps := by
  obtain ⟨count, registry, -, -, rfl⟩ := Catalog.build_ok built
  have inOrder := (Catalog.perm_questions form).mem_iff.mpr member
  exact List.mem_flatMap.mpr ⟨_, inOrder, List.mem_map.mpr ⟨jump, isJump, rfl⟩⟩

end Navigation

/-! ### Warnings that are missing or wrong -/

namespace Lint

variable {question : Question} {trigger : String}

/-- Whether a blank trigger passes for an empty label of a select. -/
def Overlooks (question : Question) (trigger : String) : Prop :=
  question.kind.isSelect = true ∧ Text.trim trigger = "" ∧ "" ∈ question.choices

/-- Whether a choice that can be the answer is the trigger, but only by its full lower case or
without the blanks around it. -/
def Misjudges (question : Question) (trigger : String) : Prop :=
  (∃ choice, question.Gives choice ∧ Answer.same choice trigger = true) ∧
    ∀ choice ∈ question.choices, Text.sameAscii choice (Text.trim trigger) = false

/-- A choice that is the trigger for the check is so for the jump. -/
theorem same_of_sameAscii {choice : String}
    (same : Text.sameAscii choice (Text.trim trigger) = true) :
    Text.trim choice = choice ∧ Answer.same choice trigger = true := by
  have trimmed := Text.trim_of_sameAscii same (Text.trim_trim trigger)
  refine ⟨trimmed, beq_iff_eq.mpr ?_⟩
  rw [trimmed]
  exact Text.lower_eq_of_sameAscii same

/-- It can be the answer, unless it is the empty label of a select. -/
theorem gives_or_overlooks {choice : String} (isChoice : choice ∈ question.choices)
    (same : Text.sameAscii choice (Text.trim trigger) = true) :
    question.Gives choice ∨ Overlooks question trigger := by
  obtain ⟨trimmed, -⟩ := same_of_sameAscii same
  by_cases isEmpty : question.kind.isSelect = true ∧ choice = ""
  · obtain ⟨answered, rfl⟩ := isEmpty
    have none : [] = (Text.trim trigger).toList.map Char.toLower := Text.sameAscii_iff.mp same
    have blank := String.toList_eq_nil_iff.mp (List.map_eq_nil_iff.mp none.symm)
    exact .inr ⟨answered, blank, isChoice⟩
  · exact .inl ⟨isChoice, fun answered => ⟨trimmed, fun empty => isEmpty ⟨answered, empty⟩⟩⟩

/-- No choice of a select is a blank trigger. -/
theorem Overlooks.not_same (overlooks : Overlooks question trigger) {choice : String}
    (gives : question.Gives choice) : ¬Answer.same choice trigger = true := by
  obtain ⟨answered, blank, -⟩ := overlooks
  obtain ⟨trimmed, notEmpty⟩ := gives.2 answered
  intro same
  have lowered : Text.lower (Text.trim choice) = Text.lower (Text.trim trigger) := eq_of_beq same
  rw [trimmed, blank] at lowered
  exact notEmpty (Text.eq_empty_of_lower_eq lowered)

/-- Where all labels are ASCII texts without blanks around them, and none is empty, nothing goes
wrong with an ASCII trigger. -/
theorem not_overlooks_misjudges
    (labels : ∀ choice ∈ question.choices,
      Text.trim choice = choice ∧ choice ≠ "" ∧ Text.isAscii choice = true)
    (ascii : Text.isAscii (Text.trim trigger) = true) :
    ¬Overlooks question trigger ∧ ¬Misjudges question trigger := by
  constructor
  · rintro ⟨-, -, isChoice⟩
    exact (labels "" isChoice).2.1 rfl
  · rintro ⟨⟨choice, ⟨isChoice, -⟩, same⟩, unlike⟩
    obtain ⟨trimmed, -, isAscii⟩ := labels choice isChoice
    have lowered : Text.lower (Text.trim choice) = Text.lower (Text.trim trigger) := eq_of_beq same
    rw [trimmed] at lowered
    have alike := Text.sameAscii_of_lower_eq isAscii ascii lowered
    rw [unlike choice isChoice] at alike
    cases alike

/-- For a select or a checkbox group with choices, the check warns of the trigger of a jump exactly
if no setting of the question's controls makes the jump apply, unless it overlooks an empty label
or misjudges a choice. That does not happen where the trigger and the labels are ASCII texts and the
labels have no blanks around them and are not empty. -/
theorem warns_of_build {form : Form} {catalog : Catalog} (built : Catalog.build form = .ok catalog)
    {sectionId : UInt32} (member : (sectionId, question) ∈ form.questions)
    (kind : question.kind.isSelect = true ∨ question.kind = .checkboxGroup)
    (offers : question.choices ≠ []) {slot : Nat} {jump : Jump}
    (isJump : question.jumps[slot]? = some jump) :
    Navigation.ruleOf sectionId (question, jump) ∈ catalog.jumps ∧
      ((ReportsTrigger form question slot ↔
          ¬Navigation.CanApply catalog sectionId (question, jump)) ↔
        ¬Overlooks question jump.trigger ∧ ¬Misjudges question jump.trigger) ∧
      ((∀ choice ∈ question.choices,
          Text.trim choice = choice ∧ choice ≠ "" ∧ Text.isAscii choice = true) →
        Text.isAscii (Text.trim jump.trigger) = true →
          (ReportsTrigger form question slot ↔
            ¬Navigation.CanApply catalog sectionId (question, jump))) := by
  have precise : (ReportsTrigger form question slot ↔
      ¬Navigation.CanApply catalog sectionId (question, jump)) ↔
        ¬Overlooks question jump.trigger ∧ ¬Misjudges question jump.trigger := by
    rw [reportsTrigger_iff built member isJump, Navigation.canApply_iff built member kind]
    constructor
    · intro accurate
      refine ⟨fun overlooks => ?_, fun misjudges => ?_⟩
      · have unlike := (accurate.mpr fun ⟨choice, gives, same⟩ => overlooks.not_same gives same).2
          "" overlooks.2.2
        rw [overlooks.2.1, Text.sameAscii_self] at unlike
        cases unlike
      · exact accurate.mp ⟨offers, misjudges.2⟩ misjudges.1
    · rintro ⟨notOverlooks, notMisjudges⟩
      refine ⟨fun warned applies => notMisjudges ⟨applies, warned.2⟩, fun never => ?_⟩
      refine ⟨offers, fun choice isChoice => Bool.eq_false_iff.mpr fun alike => ?_⟩
      rcases gives_or_overlooks isChoice alike with gives | overlooks
      · exact never ⟨choice, gives, (same_of_sameAscii alike).2⟩
      · exact notOverlooks overlooks
  refine ⟨Navigation.ruleOf_mem_jumps built member (List.mem_of_getElem? isJump), precise, ?_⟩
  exact fun labels ascii => precise.mpr (not_overlooks_misjudges labels ascii)

/-- A question with jumps to the second section. -/
def forked (id : String) (kind : QuestionKind) (labels triggers : List String) : Question :=
  { Session.plain id kind id (labels.map fun label => ⟨label, none, false, false⟩) with
    jumps := triggers.map fun trigger => ⟨trigger, .section 2⟩ }

/-- A form whose first question is judged rightly and the others are not. -/
def crossing : Form :=
  { id := "crossing", title := "Crossing", description := none
    sections :=
      [⟨1, "One",
        [forked "color" .singleChoice ["Red", "Blue"] [" red ", "Green"],
         forked "place" .dropdown ["École", "Home"] ["école"],
         forked "tags" .checkboxGroup [" Urgent ", "None"] ["Urgent"],
         forked "reply" .singleChoice ["", "No"] [" "]]⟩,
       ⟨2, "Two", []⟩]
    hiddenFields := []
    links := [] }

theorem crossing_isSome : (Catalog.build crossing).toOption.isSome = true := by decide +kernel

/-- The catalog of that form. -/
def crossingCatalog : Catalog := (Catalog.build crossing).toOption.get crossing_isSome

theorem build_crossing : Catalog.build crossing = .ok crossingCatalog :=
  Catalog.eq_ok_get crossing_isSome

/-- A trigger in another case and with blanks around it is not warned of, and its jump can apply;
one that is no label is warned of, and its jump never applies. -/
theorem warns_of_crossing :
    let question := forked "color" .singleChoice ["Red", "Blue"] [" red ", "Green"]
    (¬ReportsTrigger crossing question 0 ∧
      Navigation.CanApply crossingCatalog 1 (question, ⟨" red ", .section 2⟩)) ∧
    ReportsTrigger crossing question 1 ∧
      ¬Navigation.CanApply crossingCatalog 1 (question, ⟨"Green", .section 2⟩) := by
  intro question
  have member : (1, question) ∈ crossing.questions := List.mem_cons_self
  have labels : ∀ choice ∈ question.choices,
      Text.trim choice = choice ∧ choice ≠ "" ∧ Text.isAscii choice = true := by decide +kernel
  have understood : ¬ReportsTrigger crossing question 0 := by
    rw [reportsTrigger_iff build_crossing member rfl]
    exact fun warned => absurd (warned.2 "Red" List.mem_cons_self) (by decide +kernel)
  have unknown : ReportsTrigger crossing question 1 :=
    (reportsTrigger_iff build_crossing member rfl).mpr ⟨by decide, by decide +kernel⟩
  obtain ⟨-, -, red⟩ := warns_of_build build_crossing member (.inl rfl) (by decide)
    (show question.jumps[0]? = some ⟨" red ", .section 2⟩ from rfl)
  obtain ⟨-, -, green⟩ := warns_of_build build_crossing member (.inl rfl) (by decide)
    (show question.jumps[1]? = some ⟨"Green", .section 2⟩ from rfl)
  have redRight := red labels (by decide +kernel)
  have greenRight := green labels (by decide +kernel)
  exact ⟨⟨understood, not_not.mp fun never => understood (redRight.mpr never)⟩,
    unknown, greenRight.mp unknown⟩

/-- The jump on the letter in the other case and the one on the label with blanks around it can
apply, though they are warned of; the one on a blank trigger cannot, and is not warned of. -/
theorem warns_wrongly :
    let place := forked "place" .dropdown ["École", "Home"] ["école"]
    let tags := forked "tags" .checkboxGroup [" Urgent ", "None"] ["Urgent"]
    let reply := forked "reply" .singleChoice ["", "No"] [" "]
    (ReportsTrigger crossing place 0 ∧
      Navigation.CanApply crossingCatalog 1 (place, ⟨"école", .section 2⟩)) ∧
    (ReportsTrigger crossing tags 0 ∧
      Navigation.CanApply crossingCatalog 1 (tags, ⟨"Urgent", .section 2⟩)) ∧
    ¬ReportsTrigger crossing reply 0 ∧
      ¬Navigation.CanApply crossingCatalog 1 (reply, ⟨" ", .section 2⟩) := by
  intro place tags reply
  have isPlace : (1, place) ∈ crossing.questions := List.mem_cons_of_mem _ List.mem_cons_self
  have isTags : (1, tags) ∈ crossing.questions :=
    List.mem_cons_of_mem _ (List.mem_cons_of_mem _ List.mem_cons_self)
  have isReply : (1, reply) ∈ crossing.questions :=
    List.mem_cons_of_mem _ (List.mem_cons_of_mem _ (List.mem_cons_of_mem _ List.mem_cons_self))
  refine ⟨⟨?_, ?_⟩, ⟨?_, ?_⟩, ?_, ?_⟩
  · exact (reportsTrigger_iff build_crossing isPlace rfl).mpr ⟨by decide, by decide +kernel⟩
  · exact (Navigation.canApply_iff build_crossing isPlace (.inl rfl)).mpr
      ⟨"École", ⟨by decide, fun _ => by decide +kernel⟩, by decide +kernel⟩
  · exact (reportsTrigger_iff build_crossing isTags rfl).mpr ⟨by decide, by decide +kernel⟩
  · exact (Navigation.canApply_iff build_crossing isTags (.inr rfl)).mpr
      ⟨" Urgent ", ⟨by decide, fun answered => by cases answered⟩, by decide +kernel⟩
  · rw [reportsTrigger_iff build_crossing isReply rfl]
    exact fun warned => absurd (warned.2 "" List.mem_cons_self) (by decide +kernel)
  · rw [Navigation.canApply_iff build_crossing isReply (.inl rfl)]
    rintro ⟨choice, gives, same⟩
    have overlooks : Overlooks reply " " := ⟨rfl, by decide +kernel, List.mem_cons_self⟩
    exact overlooks.not_same gives same

end Lint

end Questionnaire

/-
This file says what the check of a form finds. Its problems are those of the numbers and ids, which
keep the form from having a catalog, and after them those of each question, hidden field and link,
which do not. Where none of them is an error, a condition finds its question, a jump leads to a
section or the end, and both sides of a link are questions that one select answers.
-/
import Mathlib.Data.List.Nodup
import Questionnaire.Lint

namespace Questionnaire.Lint

/-! ### Problems that keep a form from having a catalog -/

/-- Whether a problem keeps a form from having a catalog. -/
def Problem.prevents : Problem → Bool
  | .noSections | .sectionNumbering _ | .duplicateQuestion _ => true
  | _ => false

theorem Problem.prevents_iff (problem : Problem) :
    problem.prevents = true ↔
      problem.code ∈ ["no_sections", "section_numbering", "duplicate_question"] := by
  cases problem <;> simp [prevents, code]

theorem Problem.severity_of_prevents (problem : Problem) (prevents : problem.prevents = true) :
    problem.severity = .error := by
  cases problem <;> first | rfl | cases prevents

theorem prevents_of_mem_checkSections {form : Form} {issue : Issue}
    (found : issue ∈ checkSections form) : issue.problem.prevents = true := by
  unfold checkSections at found
  simp only at found
  split at found
  next => rw [List.mem_singleton.mp found]; rfl
  next =>
    split at found
    next => cases found
    next => rw [List.mem_singleton.mp found]; rfl

theorem prevents_of_mem_checkIds {seen : List String} {questions : List (UInt32 × Question)}
    {issue : Issue} (found : issue ∈ checkIds seen questions) : issue.problem.prevents = true := by
  induction questions generalizing seen with
  | nil => cases found
  | cons head rest inductionHypothesis =>
    unfold checkIds at found
    split at found
    next =>
      rcases List.mem_cons.mp found with rfl | inRest
      · rfl
      · exact inductionHypothesis inRest
    next => exact inductionHypothesis found

/-- No repetition is found exactly if no id comes twice or again. -/
theorem checkIds_eq_nil_iff (seen : List String) (questions : List (UInt32 × Question)) :
    checkIds seen questions = [] ↔
      (questions.map fun entry => entry.2.id).Nodup ∧
        ∀ entry ∈ questions, entry.2.id ∉ seen := by
  induction questions generalizing seen with
  | nil => simp [checkIds]
  | cons head rest inductionHypothesis =>
    unfold checkIds
    rw [List.map_cons, List.nodup_cons, List.forall_mem_cons]
    by_cases isSeen : head.2.id ∈ seen
    · simp [isSeen]
    · rw [if_neg (by simpa using isSeen), inductionHypothesis]
      simp only [List.mem_cons, not_or, List.mem_map, not_exists, not_and]
      constructor
      · rintro ⟨different, unseen⟩
        exact ⟨⟨fun entry member => (unseen entry member).1, different⟩, isSeen,
          fun entry member => (unseen entry member).2⟩
      · rintro ⟨⟨absent, different⟩, -, unseen⟩
        exact ⟨different, fun entry member => ⟨absent entry member, unseen entry member⟩⟩

/-! ### Problems of questions and hidden fields -/

theorem of_mem_if (holds : Problem → Prop) {bad : Bool} {issue reported : Issue}
    (harmless : holds reported.problem) (found : issue ∈ if bad then [reported] else []) :
    holds issue.problem := by
  split at found
  next => exact List.mem_singleton.mp found ▸ harmless
  next => cases found

/-- What holds of the problems that options and ranges can have holds of those found of them. -/
theorem of_mem_checkOptions (holds : Problem → Prop) {question : Question} {issue : Issue}
    (found : issue ∈ checkOptions question) (missing : ∀ kind, holds (.missingOptions kind))
    (exclusive : holds .exclusiveOutsideGroup) (amount : holds .amountOutsideGroup)
    (noRange : holds .missingRange) (noNumber : ∀ range, holds (.emptyRange range)) :
    holds issue.problem := by
  unfold checkOptions at found
  simp only [List.mem_append] at found
  rcases found with ((isMissing | isExclusive) | hasAmount) | ofRange
  · exact of_mem_if holds (missing _) isMissing
  · exact of_mem_if holds exclusive isExclusive
  · exact of_mem_if holds amount hasAmount
  · split at ofRange
    next =>
      split at ofRange
      next => exact List.mem_singleton.mp ofRange ▸ noRange
      next => exact of_mem_if holds (noNumber _) ofRange
    next => cases ofRange

/-- The same of calculations. -/
theorem of_mem_checkCalculations (holds : Problem → Prop) {question : Question} {issue : Issue}
    (found : issue ∈ checkCalculations question) (untargeted : holds .calculationWithoutTarget)
    (empty : holds .emptyCalculation) : holds issue.problem := by
  obtain ⟨⟨rule, slot⟩, -, made⟩ := List.mem_flatMap.mp found
  rcases List.mem_append.mp made with isUntargeted | isEmpty
  · exact of_mem_if holds untargeted isUntargeted
  · exact of_mem_if holds empty isEmpty

/-- The same of hidden fields. -/
theorem of_mem_checkHiddenField (holds : Problem → Prop) {field : HiddenField} {issue : Issue}
    (found : issue ∈ checkHiddenField field) (unnamed : holds .unnamedHiddenField)
    (empty : holds .emptyCalculation) : holds issue.problem := by
  rcases List.mem_append.mp found with isUnnamed | isEmpty
  · exact of_mem_if holds unnamed isUnnamed
  · obtain ⟨⟨rule, slot⟩, -, made⟩ := List.mem_filterMap.mp isEmpty
    simp only at made
    split at made
    next => exact Option.some.inj made ▸ empty
    next => cases made

/-- The same of a condition. -/
theorem of_checkCondition (holds : Problem → Prop) {find : String → Option Question}
    {positionOf : String → Option Nat} {order : Nat} {condition : Condition} {problem : Problem}
    (found : checkCondition find positionOf order condition = some problem)
    (unknown : ∀ reference, holds (.unknownSource reference))
    (forward : ∀ source, holds (.forwardReference source)) : holds problem := by
  unfold checkCondition at found
  split at found
  next => exact Option.some.inj found ▸ unknown _
  next =>
    split at found
    next => exact Option.some.inj found ▸ forward _
    next => cases found

/-! ### Problems of references -/

/-- The problems of items in a list are those of each item where they do not tell its place. -/
theorem problems_zipIdx {Item : Type} (items : List Item) {found : Item × Nat → List Issue}
    {made : Item → List Problem}
    (same : ∀ item slot, (found (item, slot)).map Issue.problem = made item) :
    (items.zipIdx.flatMap found).map Issue.problem = items.flatMap made := by
  conv_rhs => rw [← List.zipIdx_map_fst 0 items, List.flatMap_map]
  rw [List.map_flatMap]
  exact List.flatMap_congr fun (item, slot) _ => same item slot

theorem problems_checkLogic (find : String → Option Question) (positionOf : String → Option Nat)
    (order : Nat) (question : Question) :
    (checkLogic find positionOf order question).map Issue.problem =
      (question.logic.elim [] VisibilityLogic.conditions).flatMap fun condition =>
        (checkCondition find positionOf order condition).toList := by
  unfold checkLogic
  split
  next without => rw [without]; rfl
  next logic has =>
    rw [has, List.filterMap_eq_flatMap_toList]
    refine problems_zipIdx logic.conditions fun condition slot => ?_
    simp only
    cases checkCondition find positionOf order condition <;> rfl

theorem problems_checkJumps (count : Nat) (sectionId : UInt32) (question : Question) :
    (checkJumps count sectionId question).map Issue.problem =
      question.jumps.flatMap fun jump =>
        (checkTarget count sectionId jump.target).toList ++
          (checkTrigger question jump.trigger).toList := by
  refine problems_zipIdx question.jumps fun jump slot => ?_
  rw [List.map_map]
  exact List.map_id _

/-- The problem of a side of a link. -/
def checkSide (find : String → Option Question) (side : String) : Option Problem :=
  if (find side).any fun question => question.kind.isSelect then none
  else some (.invalidLink side)

theorem problems_checkLink (find : String → Option Question) (link : Link) (slot : Nat) :
    (checkLink find link slot).map Issue.problem =
      [link.first, link.second].filterMap (checkSide find) := by
  unfold checkLink
  rw [List.map_filterMap]
  refine List.filterMap_congr fun side _ => ?_
  unfold checkSide
  split <;> rfl

/-- All problems that are found of one question, which stands at a place among all of them. -/
def problemsOf (form : Form) (entry : UInt32 × Question) (order : Nat) : List Problem :=
  let questions := ordered form
  let positionOf (id : String) : Option Nat := questions.findIdx? fun entry => entry.2.id == id
  (checkOptions entry.2).map Issue.problem ++
    ((entry.2.logic.elim [] VisibilityLogic.conditions).flatMap fun condition =>
      (checkCondition (findQuestion form (slugsOf questions)) positionOf order condition).toList) ++
    (entry.2.jumps.flatMap fun jump =>
      (checkTarget form.sections.length entry.1 jump.target).toList ++
        (checkTrigger entry.2 jump.trigger).toList) ++
    (checkCalculations entry.2).map Issue.problem

/-- The problems that are found of a form. -/
theorem problems_check (form : Form) :
    (check form).map Issue.problem =
      (checkSections form ++ checkIds [] (ordered form)).map Issue.problem ++
        ((ordered form).zipIdx.flatMap fun entry => problemsOf form entry.1 entry.2) ++
        (form.hiddenFields.flatMap checkHiddenField).map Issue.problem ++
        form.links.flatMap fun link =>
          [link.first, link.second].filterMap
            (checkSide (findQuestion form (slugsOf (ordered form)))) := by
  unfold check problemsOf
  simp only [List.map_append, List.map_flatMap, problems_checkLogic, problems_checkJumps]
  congr 1
  rw [← List.map_flatMap]
  exact problems_zipIdx form.links fun link slot => problems_checkLink _ link slot

/-! ### Problems of a whole form -/

theorem not_prevents_of_mem_problemsOf {form : Form} {entry : UInt32 × Question} {order : Nat}
    {problem : Problem} (found : problem ∈ problemsOf form entry order) :
    problem.prevents = false := by
  unfold problemsOf at found
  simp only [List.mem_append, List.mem_flatMap, Option.mem_toList] at found
  rcases found with ((options | ⟨condition, -, ofCondition⟩) | ⟨jump, -, ofJump⟩) | calculations
  · obtain ⟨issue, isFound, rfl⟩ := List.mem_map.mp options
    exact of_mem_checkOptions (·.prevents = false) isFound (fun _ => rfl) rfl rfl rfl fun _ => rfl
  · exact of_checkCondition (·.prevents = false) ofCondition (fun _ => rfl) fun _ => rfl
  · rcases ofJump with ofTarget | ofTrigger
    · unfold checkTarget at ofTarget
      grind [Problem.prevents]
    · unfold checkTrigger at ofTrigger
      grind [Problem.prevents]
  · obtain ⟨issue, isFound, rfl⟩ := List.mem_map.mp calculations
    exact of_mem_checkCalculations (·.prevents = false) isFound rfl rfl

/-- A problem that keeps a form from having a catalog is one of the numbers or the ids. -/
theorem exists_prevents_iff (form : Form) :
    (∃ issue ∈ check form, issue.problem.prevents = true) ↔
      checkSections form ++ checkIds [] (ordered form) ≠ [] := by
  have listed : (∃ issue ∈ check form, issue.problem.prevents = true) ↔
      ∃ problem ∈ (check form).map Issue.problem, problem.prevents = true := by simp
  rw [listed, problems_check]
  constructor
  · rintro ⟨problem, found, prevents⟩ none
    simp only [none, List.map_nil, List.nil_append, List.mem_append] at found
    refine Bool.false_ne_true (Eq.trans (Eq.symm ?_) prevents)
    rcases found with (ofQuestion | ofField) | ofLink
    · obtain ⟨entry, -, ofEntry⟩ := List.mem_flatMap.mp ofQuestion
      exact not_prevents_of_mem_problemsOf ofEntry
    · obtain ⟨issue, isFound, rfl⟩ := List.mem_map.mp ofField
      obtain ⟨field, -, ofOne⟩ := List.mem_flatMap.mp isFound
      exact of_mem_checkHiddenField (·.prevents = false) ofOne rfl rfl
    · obtain ⟨link, -, ofOne⟩ := List.mem_flatMap.mp ofLink
      obtain ⟨side, -, ofSide⟩ := List.mem_filterMap.mp ofOne
      unfold checkSide at ofSide
      split at ofSide
      next => cases ofSide
      next => exact Option.some.inj ofSide ▸ rfl
  · intro some
    obtain ⟨issue, found⟩ := List.exists_mem_of_ne_nil _ some
    refine ⟨issue.problem, ?_, ?_⟩
    · simp only [List.mem_append, List.append_assoc]
      exact .inl (List.mem_map_of_mem found)
    · rcases List.mem_append.mp found with ofSections | ofIds
      · exact prevents_of_mem_checkSections ofSections
      · exact prevents_of_mem_checkIds ofIds

/-! ### Checks that find no error -/

theorem isValid_iff (issues : List Issue) :
    isValid issues = true ↔ ∀ problem ∈ issues.map Issue.problem, problem.severity ≠ .error := by
  simp [isValid]

theorem find_of_checkCondition {find : String → Option Question}
    {positionOf : String → Option Nat} {order : Nat} {condition : Condition}
    (harmless : ∀ problem, checkCondition find positionOf order condition = some problem →
      problem.severity ≠ .error) : ∃ source, find condition.question = some source := by
  cases known : find condition.question with
  | some source => exact ⟨source, rfl⟩
  | none =>
    refine absurd rfl (harmless (.unknownSource condition.question) ?_)
    unfold checkCondition
    rw [known]

theorem destination_of_checkTarget {count : Nat} {sectionId : UInt32} {target : JumpTarget}
    (harmless : ∀ problem, checkTarget count sectionId target = some problem →
      problem.severity ≠ .error) :
    target.destination = some .finish ∨
      ∃ id, target.destination = some (.section id) ∧ 1 ≤ id.toNat ∧ id.toNat ≤ count := by
  unfold checkTarget at harmless
  cases leads : target.destination with
  | none => exact absurd rfl (harmless (.unknownTarget target) (by rw [leads]))
  | some destination =>
    cases destination with
    | finish => exact .inl rfl
    | «section» id =>
      by_cases outside : id.toNat = 0 ∨ count < id.toNat
      · refine absurd rfl (harmless (.targetOutOfRange id count) ?_)
        simp only [leads, if_pos outside]
      · exact .inr ⟨id, rfl, by omega, by omega⟩

theorem find_of_checkSide {find : String → Option Question} {side : String}
    (harmless : ∀ problem, checkSide find side = some problem → problem.severity ≠ .error) :
    ∃ question, find side = some question ∧ question.kind.isSelect = true := by
  by_cases answered : (find side).any fun question => question.kind.isSelect
  · exact (Option.any_eq_true _ _).mp answered
  · exact absurd rfl (harmless (.invalidLink side) (if_neg answered))

/-- Whatever is found of a question is found of the form. -/
theorem exists_mem_problems {form : Form} {entry : UInt32 × Question}
    (member : entry ∈ form.questions) :
    ∃ order, ∀ problem ∈ problemsOf form entry order,
      problem ∈ (check form).map Issue.problem := by
  have isOrdered : entry ∈ ordered form := (List.mergeSort_perm _ _).mem_iff.mpr member
  obtain ⟨order, place⟩ := List.mem_iff_getElem?.mp isOrdered
  refine ⟨order, fun problem found => ?_⟩
  rw [problems_check]
  refine List.mem_append_left _ (List.mem_append_left _ (List.mem_append_right _ ?_))
  exact List.mem_flatMap.mpr ⟨(entry, order), List.mk_mem_zipIdx_iff_getElem?.mpr place, found⟩

/-- Whether whatever refers to something else in a form refers to what is there. -/
structure Sound (form : Form) : Prop where
  sources : ∀ entry ∈ form.questions, ∀ logic, entry.2.logic = some logic →
    ∀ condition ∈ logic.conditions,
      ∃ source, findQuestion form (slugsOf (ordered form)) condition.question = some source
  jumps : ∀ entry ∈ form.questions, ∀ jump ∈ entry.2.jumps,
    jump.target.destination = some .finish ∨
      ∃ id, jump.target.destination = some (.section id) ∧
        1 ≤ id.toNat ∧ id.toNat ≤ form.sections.length
  sides : ∀ link ∈ form.links, ∀ side ∈ [link.first, link.second],
    ∃ question, findQuestion form (slugsOf (ordered form)) side = some question ∧
      question.kind.isSelect = true

theorem sound_of_isValid {form : Form} (valid : isValid (check form) = true) : Sound form := by
  rw [isValid_iff] at valid
  have asked : ∀ entry ∈ form.questions, ∃ order, ∀ problem ∈ problemsOf form entry order,
      problem.severity ≠ .error := by
    intro entry member
    obtain ⟨order, found⟩ := exists_mem_problems member
    exact ⟨order, fun problem isFound => valid problem (found problem isFound)⟩
  unfold problemsOf at asked
  simp only [List.mem_append, List.mem_flatMap, Option.mem_toList] at asked
  constructor
  case sources =>
    intro entry member logic has condition isCondition
    obtain ⟨order, harmless⟩ := asked entry member
    exact find_of_checkCondition fun problem made =>
      harmless problem (.inl (.inl (.inr ⟨condition, has ▸ isCondition, made⟩)))
  case jumps =>
    intro entry member jump isJump
    obtain ⟨order, harmless⟩ := asked entry member
    exact destination_of_checkTarget fun problem made =>
      harmless problem (.inl (.inr ⟨jump, isJump, .inl made⟩))
  case sides =>
    intro link member side isSide
    refine find_of_checkSide fun problem made => valid problem ?_
    rw [problems_check]
    exact List.mem_append_right _ (List.mem_flatMap.mpr
      ⟨link, member, List.mem_filterMap.mpr ⟨side, isSide, made⟩⟩)

end Questionnaire.Lint

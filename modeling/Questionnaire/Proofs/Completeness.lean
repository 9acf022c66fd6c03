/-
This file proves that the check of a form tells of what its catalog leaves out. In a form in which
the check finds nothing, every condition is noted where its question is answered, every calculation
stands under its target, every link between two selects is a channel, and every hidden field whose
name is not given yet has a control of its own.
-/
import Questionnaire.Proofs.Validity

namespace Questionnaire

/-! ### Hidden fields -/

namespace Layout

/-- The control that a hidden field asks for. -/
def controlOf (field : HiddenField) : Control :=
  { name := field.name, question := none, label := field.name
    kind := match field.kind with
      | .text => .text
      | .checkbox => .checkbox field.name none false
    hidden := true, preset := field.preset }

theorem ofHiddenField_eq (taken : List String) (field : HiddenField) :
    ofHiddenField taken field =
      if isFree taken field.name then some (controlOf field) else none := by
  unfold ofHiddenField isFree controlOf
  cases (Text.trim field.name).isEmpty <;> cases taken.contains field.name <;> rfl

/-- The first hidden field of a name that is not taken gets the control that it asks for. -/
theorem controlOf_mem_ofHiddenFields {before after : List HiddenField} {field : HiddenField}
    {taken : List String} (named : (Text.trim field.name).isEmpty = false)
    (free : field.name ∉ taken) (first : field.name ∉ before.map HiddenField.name) :
    controlOf field ∈ ofHiddenFields taken (before ++ field :: after) := by
  induction before generalizing taken with
  | nil =>
    have isFree : isFree taken field.name = true := by simp [isFree, named, free]
    rw [List.nil_append, ofHiddenFields, ofHiddenField_eq, if_pos isFree]
    exact List.mem_cons_self
  | cons head rest inductionHypothesis =>
    obtain ⟨other, firstRest⟩ := not_or.mp (fun either => first (List.mem_cons.mpr either))
    rw [List.cons_append, ofHiddenFields, ofHiddenField_eq]
    split
    next => exact inductionHypothesis free firstRest
    next control made =>
      have isHead : control.name = head.name := by
        split at made
        · cases made; rfl
        · cases made
      refine List.mem_cons_of_mem _ (inductionHypothesis ?_ firstRest)
      rw [isHead]
      exact fun isTaken => (List.mem_cons.mp isTaken).elim other free

end Layout

/-! ### Calculations -/

/-- A calculation that names its target. -/
def Calculation.aimedAt (rule : Calculation) (target : String) : Calculation :=
  { rule with target := some target }

theorem Calculation.aimedAt_eq_self {rule : Calculation} {target : String}
    (aims : rule.target = some target) : rule.aimedAt target = rule := by
  unfold aimedAt
  rw [← aims]

namespace Catalog

/-- The calculations that a table lists under a target. -/
def rulesOf (table : List CalculationTarget) (target : String) : List Calculation :=
  ((table.find? fun entry => entry.target == target).map CalculationTarget.rules).getD []

theorem rulesOf_addCalculation (target other : String) (rule : Calculation)
    (table : List CalculationTarget) :
    rulesOf (addCalculation target rule table) other =
      if target == other then rulesOf table other ++ [rule] else rulesOf table other := by
  unfold rulesOf
  induction table with
  | nil =>
    rw [addCalculation, List.find?_cons]
    cases target == other <;> rfl
  | cons head rest inductionHypothesis =>
    unfold addCalculation
    by_cases isHead : head.target = target
    · rw [if_pos (by simpa using isHead), List.find?_cons, List.find?_cons, isHead]
      cases target == other <;> rfl
    · rw [if_neg (by simpa using isHead), List.find?_cons, List.find?_cons]
      cases isOther : head.target == other with
      | false => exact inductionHypothesis
      | true =>
        rw [beq_iff_eq] at isOther
        rw [if_neg (by simpa [← isOther] using Ne.symm isHead)]

/-- A table lists under a target the calculations with terms that are declared for it, in the order
of declaration. -/
theorem rulesOf_tabulate (declared : List (String × Calculation)) (target : String) :
    rulesOf (tabulate declared) target =
      ((declared.filter fun entry => !entry.2.terms.isEmpty).filter
        fun entry => entry.1 == target).map fun entry => entry.2.aimedAt target := by
  unfold tabulate
  have all : ∀ (entries : List (String × Calculation)) (table : List CalculationTarget),
      rulesOf (entries.foldl (fun table entry =>
        addCalculation entry.1 { entry.2 with target := some entry.1 } table) table) target =
      rulesOf table target ++ (entries.filter fun entry => entry.1 == target).map
        fun entry => entry.2.aimedAt target := by
    intro entries
    induction entries with
    | nil => exact fun table => (List.append_nil _).symm
    | cons entry rest inductionHypothesis =>
      intro table
      rw [List.foldl_cons, inductionHypothesis, rulesOf_addCalculation, List.filter_cons]
      by_cases isTarget : entry.1 = target
      · subst isTarget
        simp [Calculation.aimedAt]
      · simp [isTarget]
  exact all _ []

/-! ### What a catalog holds of a form -/

/-- Whether a catalog holds what a form declares. A hidden field has its control if it is the first
of its name and no question's control has that name, and a link has its channel if its sides are two
selects. -/
structure Registers (form : Form) (catalog : Catalog) : Prop where
  conditions : ∀ entry ∈ form.questions, ∀ logic, entry.2.logic = some logic →
    ∀ condition ∈ logic.conditions, ∃ source position,
      catalog.resolve? condition.question = some source ∧
      catalog.rules[position]? = some ⟨entry.2.id, logic.conditions⟩ ∧
      ∀ control ∈ source.answers, position ∈ catalog.dependentsOf control
  fields : ∀ before field after, form.hiddenFields = before ++ field :: after →
    field.name ∉ before.map HiddenField.name →
    field.name ∉ catalog.questions.flatMap QuestionEntry.controls →
    catalog.control? field.name = some (Layout.controlOf field)
  ofFields : ∀ field ∈ form.hiddenFields, ∀ rule ∈ field.calculations,
    rule.aimedAt (rule.target.getD field.name) ∈
      rulesOf catalog.calculations (rule.target.getD field.name)
  ofQuestions : ∀ entry ∈ form.questions, ∀ rule ∈ entry.2.calculations,
    ∃ target, rule.target = some target ∧ rule ∈ rulesOf catalog.calculations target
  order : ∀ target, rulesOf catalog.calculations target =
    ((declaredCalculations (inOrder form)).filter fun entry => entry.1 == target).map
      fun entry => entry.2.aimedAt target
  links : ∀ link ∈ form.links, ∃ first second,
    catalog.select? link.first = some first ∧ catalog.select? link.second = some second ∧
      (first ≠ second → Channel.between first second ∈ catalog.links)

end Catalog

namespace Lint

variable {form : Form}

/-! ### Checks that find nothing -/

/-- What a form has in which the check finds nothing. -/
structure Clean (form : Form) : Prop where
  sound : Sound form
  named : ∀ field ∈ form.hiddenFields, (Text.trim field.name).isEmpty = false
  ofFields : ∀ field ∈ form.hiddenFields, ∀ rule ∈ field.calculations, rule.terms.isEmpty = false
  ofQuestions : ∀ entry ∈ form.questions, ∀ rule ∈ entry.2.calculations,
    rule.target.isSome = true ∧ rule.terms.isEmpty = false

theorem of_checkHiddenField_eq_nil {field : HiddenField} (none : checkHiddenField field = []) :
    (Text.trim field.name).isEmpty = false ∧
      ∀ rule ∈ field.calculations, rule.terms.isEmpty = false := by
  obtain ⟨named, filled⟩ := List.append_eq_nil_iff.mp none
  refine ⟨by simpa using named, fun rule member => ?_⟩
  obtain ⟨slot, place⟩ := List.mem_iff_getElem?.mp member
  have harmless := List.filterMap_eq_nil_iff.mp filled (rule, slot)
    (List.mk_mem_zipIdx_iff_getElem?.mpr place)
  simpa using harmless

theorem of_checkCalculations_eq_nil {question : Question} (none : checkCalculations question = []) :
    ∀ rule ∈ question.calculations, rule.target.isSome = true ∧ rule.terms.isEmpty = false := by
  intro rule member
  obtain ⟨slot, place⟩ := List.mem_iff_getElem?.mp member
  have harmless := List.flatMap_eq_nil_iff.mp none (rule, slot)
    (List.mk_mem_zipIdx_iff_getElem?.mpr place)
  obtain ⟨aimed, filled⟩ := List.append_eq_nil_iff.mp harmless
  exact ⟨by simpa [Option.isSome_iff_ne_none] using aimed, by simpa using filled⟩

theorem clean_of_check (none : check form = []) : Clean form := by
  have problems := problems_check form
  rw [none, List.map_nil] at problems
  obtain ⟨⟨⟨-, -⟩, fields⟩, -⟩ : (((_ ∧ _) ∧ _) ∧ _) := by
    simpa only [List.append_eq_nil_iff] using problems.symm
  have ofField := List.flatMap_eq_nil_iff.mp (List.map_eq_nil_iff.mp fields)
  constructor
  case sound => exact sound_of_isValid (by rw [none]; rfl)
  case named => exact fun field member => (of_checkHiddenField_eq_nil (ofField field member)).1
  case ofFields => exact fun field member => (of_checkHiddenField_eq_nil (ofField field member)).2
  case ofQuestions =>
    intro entry member
    obtain ⟨order, found⟩ := exists_mem_problems member
    rw [none, List.map_nil] at found
    have harmless : (checkCalculations entry.2).map Issue.problem = [] :=
      List.eq_nil_iff_forall_not_mem.mpr fun problem isFound =>
        List.not_mem_nil (found problem (List.mem_append_right _ isFound))
    exact of_checkCalculations_eq_nil (List.map_eq_nil_iff.mp harmless)

end Lint

namespace Catalog

variable {form : Form} {catalog : Catalog}

/-! ### What is left out -/

theorem ruleOf_eq {question : Question} {logic : VisibilityLogic}
    (has : question.logic = some logic) {condition : Condition}
    (member : condition ∈ logic.conditions) :
    ruleOf question = some ⟨question.id, logic.conditions⟩ := by
  obtain ⟨conditions⟩ := logic
  unfold ruleOf
  rw [has]
  cases conditions with
  | nil => cases member
  | cons first rest => rfl

/-- A condition whose question is found is noted at the controls of its answer. -/
theorem exists_reader_of_condition (built : build form = .ok catalog) {entry : UInt32 × Question}
    (member : entry ∈ form.questions) {logic : VisibilityLogic}
    (has : entry.2.logic = some logic) {condition : Condition}
    (isCondition : condition ∈ logic.conditions) {source : QuestionEntry}
    (found : catalog.resolve? condition.question = some source) :
    ∃ position, catalog.rules[position]? = some ⟨entry.2.id, logic.conditions⟩ ∧
      ∀ control ∈ source.answers, position ∈ catalog.dependentsOf control := by
  have wellFormed := wellFormed_of_build built
  have isRule : (⟨entry.2.id, logic.conditions⟩ : VisibilityRule) ∈ catalog.rules := by
    obtain ⟨count, registry, -, -, rfl⟩ := build_ok built
    exact List.mem_filterMap.mpr
      ⟨entry, (perm_questions form).mem_iff.mpr member, ruleOf_eq has isCondition⟩
  obtain ⟨position, place⟩ := List.mem_iff_getElem?.mp isRule
  refine ⟨position, place, fun control isAnswer => ?_⟩
  refine (wellFormed.readers position control).mpr ⟨_, place, condition, isCondition, ?_⟩
  unfold sourcesOf
  rw [found]
  exact isAnswer

/-- The first hidden field of a name that no question's control has is found by its name. -/
theorem control?_eq_controlOf (built : build form = .ok catalog)
    {before after : List HiddenField} {field : HiddenField}
    (listed : form.hiddenFields = before ++ field :: after)
    (named : (Text.trim field.name).isEmpty = false)
    (first : field.name ∉ before.map HiddenField.name)
    (free : field.name ∉ catalog.questions.flatMap QuestionEntry.controls) :
    catalog.control? field.name = some (Layout.controlOf field) := by
  obtain ⟨registry, laid, hidden, laidOut⟩ := exists_laidOut_of_build built
  rw [laidOut.flatMap_controls] at free
  have registered : Layout.controlOf field ∈ catalog.controls := by
    rw [laidOut.controls, laidOut.byField, listed]
    exact List.mem_append_right _ (Layout.controlOf_mem_ofHiddenFields named free first)
  exact (wellFormed_of_build built).control?_of_mem registered

/-- Where every calculation has terms and those of questions name their targets, each of them is
listed under its target. -/
theorem rulesOf_of_build (built : build form = .ok catalog) (clean : Lint.Clean form)
    (target : String) : rulesOf catalog.calculations target =
      ((declaredCalculations (inOrder form)).filter fun entry => entry.1 == target).map
        fun entry => entry.2.aimedAt target := by
  have filled : ∀ entry ∈ declaredCalculations (inOrder form), (!entry.2.terms.isEmpty) = true := by
    intro entry member
    rw [Bool.not_eq_true']
    rcases List.mem_append.mp member with ofFields | ofQuestions
    · obtain ⟨field, isField, ofField⟩ := List.mem_flatMap.mp ofFields
      obtain ⟨rule, isRule, rfl⟩ := List.mem_map.mp ofField
      exact clean.ofFields field isField rule isRule
    · obtain ⟨owner, isOwner, ofQuestion⟩ := List.mem_flatMap.mp ofQuestions
      obtain ⟨rule, isRule, aims⟩ := List.mem_filterMap.mp ofQuestion
      obtain ⟨target, -, rfl⟩ := Option.map_eq_some_iff.mp aims
      exact (clean.ofQuestions owner ((perm_questions form).mem_iff.mp isOwner) rule isRule).2
  obtain ⟨count, registry, -, -, rfl⟩ := build_ok built
  exact (rulesOf_tabulate _ target).trans (by rw [List.filter_eq_self.mpr filled])

/-- The catalog of a form in which the check finds nothing leaves nothing out but hidden fields
whose name is given already and links that join a select to itself. -/
theorem registers_of_check (none : Lint.check form = []) :
    ∃ catalog, build form = .ok catalog ∧ catalog.Registers form := by
  have clean := Lint.clean_of_check none
  have isOk : ∃ catalog, build form = .ok catalog := by
    rw [Lint.build_isOk_iff_of_check, none]
    rintro ⟨issue, member, -⟩
    cases member
  obtain ⟨catalog, built⟩ := isOk
  have resolves := Lint.resolves_of_sound built clean.sound
  have order := rulesOf_of_build built clean
  refine ⟨catalog, built, ?_⟩
  constructor
  case conditions =>
    intro entry member logic has condition isCondition
    obtain ⟨source, -, found⟩ := resolves.sources entry member logic has condition isCondition
    obtain ⟨position, reads⟩ := exists_reader_of_condition built member has isCondition found
    exact ⟨source, position, found, reads⟩
  case fields =>
    intro before field after listed
    have isField : field ∈ form.hiddenFields := listed ▸ List.mem_append_right _ List.mem_cons_self
    exact control?_eq_controlOf built listed (clean.named field isField)
  case ofFields =>
    intro field isField rule isRule
    have declares : (rule.target.getD field.name, rule) ∈ declaredCalculations (inOrder form) :=
      List.mem_append_left _ (List.mem_flatMap.mpr ⟨field, isField, List.mem_map_of_mem isRule⟩)
    rw [order]
    exact List.mem_map.mpr ⟨_, List.mem_filter.mpr ⟨declares, beq_self_eq_true _⟩, rfl⟩
  case ofQuestions =>
    intro entry member rule isRule
    obtain ⟨aimed, -⟩ := clean.ofQuestions entry member rule isRule
    obtain ⟨target, aims⟩ := Option.isSome_iff_exists.mp aimed
    have declares : (target, rule) ∈ declaredCalculations (inOrder form) := by
      refine List.mem_append_right _ (List.mem_flatMap.mpr ⟨entry, ?_, ?_⟩)
      · exact (perm_questions form).mem_iff.mpr member
      · exact List.mem_filterMap.mpr ⟨rule, isRule, by rw [aims]; rfl⟩
    refine ⟨target, aims, ?_⟩
    rw [order]
    refine List.mem_map.mpr ⟨_, List.mem_filter.mpr ⟨declares, beq_self_eq_true _⟩, ?_⟩
    exact Calculation.aimedAt_eq_self aims
  case order => exact order
  case links =>
    intro link member
    obtain ⟨first, firstIn, second, secondIn, -, -, firstNamed, secondNamed, joined⟩ :=
      resolves.links link member
    refine ⟨first.name, second.name, firstNamed, secondNamed, fun different => joined ?_⟩
    exact fun same => different (congrArg Control.name same)

/-! ### A form that is not all registered -/

/-- A form with a link that joins a select to itself and with two hidden fields whose names are
given already: that of a select, and that of the hidden field before it. -/
def doubled : Form :=
  { id := "doubled", title := "Doubled", description := none
    sections :=
      [⟨2, "Two",
        [{ Session.plain "shade" .singleChoice "Shade" [⟨"Red", none, false, false⟩] with
            logic := some ⟨[⟨"color", "Red"⟩]⟩
            calculations :=
              [⟨some "sum", .text, [⟨none, "shade"⟩], .greater, 0.0, .text "shaded"⟩] }]⟩,
       ⟨1, "One", [Session.plain "color" .singleChoice "Color" [⟨"Red", none, false, false⟩]]⟩]
    hiddenFields :=
      [⟨"sum", .text, none, [⟨none, .text, [⟨none, "color"⟩], .greater, 0.0, .text "colored"⟩]⟩,
       ⟨"sum", .checkbox, none, []⟩, ⟨"color", .text, none, []⟩]
    links := [⟨"color", "shade"⟩, ⟨"shade", "shade"⟩] }

theorem check_doubled : Lint.check doubled = [] := by
  unfold Lint.check
  rw [ordered_eq]
  decide +kernel

theorem doubled_isSome : (build doubled).toOption.isSome = true := by decide +kernel

/-- The catalog of that form. -/
def doubledCatalog : Catalog := (build doubled).toOption.get doubled_isSome

theorem build_doubled : build doubled = .ok doubledCatalog := eq_ok_get doubled_isSome

/-- Both calculations stand under the target that the one leaves to its field and the other one
names, and the link between two selects is a channel. -/
theorem registers_of_doubled :
    (rulesOf doubledCatalog.calculations "sum").map Calculation.outcome =
        [.text "colored", .text "shaded"] ∧
      doubledCatalog.links = [⟨"color", "shade"⟩] ∧
      ∃ catalog, build doubled = .ok catalog ∧ catalog.Registers doubled :=
  ⟨by decide +kernel, by decide +kernel, registers_of_check check_doubled⟩

/-- The check finds nothing, yet the link of a select with itself has no channel, and of the three
hidden fields only the first one has its control. -/
theorem left_out_of_doubled :
    Lint.check doubled = [] ∧ build doubled = .ok doubledCatalog ∧
      (⟨"shade", "shade"⟩ ∈ doubled.links ∧ doubledCatalog.select? "shade" = some "shade" ∧
        Channel.between "shade" "shade" ∉ doubledCatalog.links) ∧
      doubled.hiddenFields.map
        (fun field => decide (Layout.controlOf field ∈ doubledCatalog.controls)) =
          [true, false, false] :=
  ⟨check_doubled, build_doubled, by decide +kernel, by decide +kernel⟩

end Catalog

end Questionnaire

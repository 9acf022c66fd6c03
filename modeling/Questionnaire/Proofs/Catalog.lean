/-
This file proves what holds of the catalog of every form that has one. The names of the controls,
the ids of the questions, the owners of the rules and the targets of calculations are all different;
the halves of a pair name each other; a channel lies between two different selects; and the readers
of a control are exactly the visibility rules with a condition on a question that it answers.
-/
import Questionnaire.Proofs.Layout

namespace Questionnaire.Catalog

open Layout (Paired Untaken)

/-! ### Looking controls up -/

theorem mem_of_control?_eq_some {catalog : Catalog} {name : String} {control : Control}
    (found : catalog.control? name = some control) :
    control ∈ catalog.controls ∧ control.name = name :=
  ⟨List.mem_of_find?_eq_some found, by simpa using List.find?_some found⟩

theorem control?_eq_none {catalog : Catalog} {name : String} :
    catalog.control? name = none ↔ name ∉ catalog.controls.map Control.name := by
  simp [control?, List.find?_eq_none]

/-- What a catalog keeps to, as far as sessions rely on it. -/
structure WellFormed (catalog : Catalog) : Prop where
  nodup : (catalog.controls.map Control.name).Nodup
  paired : Paired catalog.controls
  ids : (catalog.questions.map QuestionEntry.id).Nodup
  answers : ∀ entry ∈ catalog.questions,
    entry.answers.Sublist (catalog.controls.map Control.name)
  links : catalog.links.Nodup
  sides : ∀ channel ∈ catalog.links, channel.low < channel.high ∧
    ∀ name, channel.touches name = true → ∃ control, catalog.control? name = some control ∧
      control.isSelect = true
  owners : (catalog.rules.map VisibilityRule.question).Nodup
  targets : (catalog.calculations.map CalculationTarget.target).Nodup
  readers : ∀ position control, position ∈ catalog.dependentsOf control ↔
    ∃ rule, catalog.rules[position]? = some rule ∧
      ∃ condition ∈ rule.conditions, control ∈ catalog.sourcesOf condition

/-- An item of a list in which no two have one name is found by its name. -/
theorem find?_of_mem {Item : Type} {name : Item → String} {items : List Item} {item : Item}
    (different : (items.map name).Nodup) (member : item ∈ items) :
    items.find? (fun other => name other == name item) = some item := by
  induction items with
  | nil => cases member
  | cons head rest inductionHypothesis =>
    obtain ⟨absent, differentRest⟩ := List.nodup_cons.mp different
    rcases List.mem_cons.mp member with rfl | inRest
    · exact List.find?_cons_of_pos (by simp)
    · have other : name head ≠ name item := fun equal =>
        absent (equal ▸ List.mem_map_of_mem inRest)
      rw [List.find?_cons_of_neg (by simpa using other)]
      exact inductionHypothesis differentRest inRest

theorem WellFormed.control?_of_mem {catalog : Catalog} (wellFormed : catalog.WellFormed)
    {control : Control} (member : control ∈ catalog.controls) :
    catalog.control? control.name = some control :=
  find?_of_mem wellFormed.nodup member

/-- Controls of one name are one control. -/
theorem WellFormed.eq_of_name_eq {catalog : Catalog} (wellFormed : catalog.WellFormed)
    {first second : Control} (firstIn : first ∈ catalog.controls)
    (secondIn : second ∈ catalog.controls) (equal : first.name = second.name) :
    first = second := by
  have found := wellFormed.control?_of_mem firstIn
  rw [equal, wellFormed.control?_of_mem secondIn] at found
  exact (Option.some.inj found).symm

/-! ### Questions -/

theorem assignSlugs_ok {seen : List String} {registry result : Slug.Registry}
    {questions : List Question} (assigned : assignSlugs seen registry questions = .ok result) :
    (questions.map Question.id).Nodup ∧ ∀ question ∈ questions, question.id ∉ seen := by
  induction questions generalizing seen registry with
  | nil => exact ⟨List.nodup_nil, fun _ member => nomatch member⟩
  | cons question rest inductionHypothesis =>
    rw [assignSlugs] at assigned
    split at assigned
    next => cases assigned
    next unseen =>
      obtain ⟨different, fresh⟩ := inductionHypothesis assigned
      refine ⟨List.nodup_cons.mpr ⟨fun repeated => ?_, different⟩, fun other member => ?_⟩
      · obtain ⟨other, otherIn, equal⟩ := List.mem_map.mp repeated
        exact fresh other otherIn (equal ▸ List.mem_cons_self)
      · rcases List.mem_cons.mp member with rfl | inRest
        · exact fun isSeen => unseen (List.contains_iff_mem.mpr isSeen)
        · exact fun isSeen => fresh other inRest (List.mem_cons_of_mem _ isSeen)

theorem ids_layQuestions (registry : Slug.Registry) (questions : List (UInt32 × Question))
    (taken : List String) :
    (layQuestions registry taken questions).map (fun laid => laid.1.id) =
      questions.map fun entry => entry.2.id := by
  induction questions generalizing taken with
  | nil => rfl
  | cons head rest inductionHypothesis =>
    rw [layQuestions, List.map_cons, List.map_cons, inductionHypothesis]
    rfl

/-- The answer controls of a question are some of its controls, in their order. -/
theorem answers_layQuestions (registry : Slug.Registry) (questions : List (UInt32 × Question))
    (taken : List String) :
    ∀ laid ∈ layQuestions registry taken questions,
      laid.1.answers = (laid.2.filter Control.isAnswer).map Control.name := by
  induction questions generalizing taken with
  | nil => exact fun _ member => nomatch member
  | cons head rest inductionHypothesis =>
    intro laid member
    rcases List.mem_cons.mp member with rfl | inRest
    · rfl
    · exact inductionHypothesis _ laid inRest

theorem sublist_flatMap_of_mem {laid : QuestionEntry × List Control}
    {all : List (QuestionEntry × List Control)} (member : laid ∈ all) :
    laid.2.Sublist (all.flatMap (·.2)) := by
  induction all with
  | nil => cases member
  | cons head rest inductionHypothesis =>
    rw [List.flatMap_cons]
    rcases List.mem_cons.mp member with rfl | inRest
    · exact List.sublist_append_left _ _
    · exact (inductionHypothesis inRest).trans (List.sublist_append_right _ _)

theorem question_of_ruleOf {question : Question} {rule : VisibilityRule}
    (made : ruleOf question = some rule) : rule.question = question.id := by
  unfold ruleOf at made
  split at made
  · cases made; rfl
  · cases made

theorem owners_sublist (questions : List (UInt32 × Question)) :
    ((questions.filterMap fun entry => ruleOf entry.2).map VisibilityRule.question).Sublist
      (questions.map fun entry => entry.2.id) := by
  induction questions with
  | nil => exact List.Sublist.slnil
  | cons head rest inductionHypothesis =>
    rw [List.filterMap_cons]
    split
    next => exact inductionHypothesis.cons _
    next rule made =>
      rw [List.map_cons, List.map_cons, question_of_ruleOf made]
      exact inductionHypothesis.cons_cons _

/-! ### Readers -/

/-- The readers noted for a control. -/
def noted (dependents : NameMap (List Nat)) (control : String) : List Nat :=
  (dependents.get? control).getD []

theorem mem_noted_noteReader (position other : Nat) (dependents : NameMap (List Nat))
    (control source : String) :
    other ∈ noted (noteReader position dependents source) control ↔
      other ∈ noted dependents control ∨ (other = position ∧ control = source) := by
  unfold noteReader
  by_cases present : ((dependents.get? source).getD []).contains position
  · rw [if_pos present]
    constructor
    · exact .inl
    · rintro (already | ⟨rfl, rfl⟩)
      · exact already
      · exact List.contains_iff_mem.mp present
  · rw [if_neg present]
    unfold noted
    rw [NameMap.get?_insert]
    by_cases equal : source = control
    · subst equal
      simp
    · rw [if_neg equal]
      constructor
      · exact .inl
      · rintro (already | ⟨-, same⟩)
        · exact already
        · exact absurd same.symm equal

theorem mem_noted_foldl_noteReader (position other : Nat) (sources : List String)
    (dependents : NameMap (List Nat)) (control : String) :
    other ∈ noted (sources.foldl (noteReader position) dependents) control ↔
      other ∈ noted dependents control ∨ (other = position ∧ control ∈ sources) := by
  induction sources generalizing dependents with
  | nil => simp
  | cons source rest inductionHypothesis =>
    rw [List.foldl_cons, inductionHypothesis, mem_noted_noteReader, List.mem_cons]
    tauto

/-- The readers of a control are the positions of the rules with a condition that it is a source
of. -/
theorem mem_noted_readersOf (catalog : Catalog) (rules : List VisibilityRule) (position : Nat)
    (control : String) :
    position ∈ noted (catalog.readersOf rules) control ↔
      ∃ rule, rules[position]? = some rule ∧
        ∃ condition ∈ rule.conditions, control ∈ catalog.sourcesOf condition := by
  have collected : ∀ (entries : List (VisibilityRule × Nat)) (dependents : NameMap (List Nat)),
      position ∈ noted (entries.foldl (fun dependents entry =>
        (entry.1.conditions.flatMap catalog.sourcesOf).foldl (noteReader entry.2) dependents)
          dependents) control ↔
      position ∈ noted dependents control ∨
        ∃ rule, (rule, position) ∈ entries ∧
          control ∈ rule.conditions.flatMap catalog.sourcesOf := by
    intro entries
    induction entries with
    | nil => simp
    | cons head rest inductionHypothesis =>
      intro dependents
      rw [List.foldl_cons, inductionHypothesis, mem_noted_foldl_noteReader, or_assoc]
      refine or_congr_right ?_
      constructor
      · rintro (⟨rfl, source⟩ | ⟨rule, member, source⟩)
        · exact ⟨head.1, List.mem_cons_self, source⟩
        · exact ⟨rule, List.mem_cons_of_mem _ member, source⟩
      · rintro ⟨rule, member, source⟩
        rcases List.mem_cons.mp member with rfl | inRest
        · exact .inl ⟨rfl, source⟩
        · exact .inr ⟨rule, inRest, source⟩
  have all := collected rules.zipIdx NameMap.empty
  simp only [noted, NameMap.get?_empty, Option.getD_none, List.not_mem_nil, false_or,
    List.mem_zipIdx_iff_getElem?, List.mem_flatMap] at all
  exact all

/-! ### Calculations -/

/-- A calculation is added to its target, which is new at most at the end. -/
theorem targets_addCalculation (target : String) (rule : Calculation)
    (table : List CalculationTarget) :
    (addCalculation target rule table).map CalculationTarget.target =
      if target ∈ table.map CalculationTarget.target then
        table.map CalculationTarget.target
      else table.map CalculationTarget.target ++ [target] := by
  induction table with
  | nil => rfl
  | cons head rest inductionHypothesis =>
    unfold addCalculation
    by_cases same : head.target = target
    · rw [if_pos (by simpa using same), if_pos (by simp [same])]
      rfl
    · rw [if_neg (by simpa using same), List.map_cons, List.map_cons, inductionHypothesis]
      by_cases listed : target ∈ rest.map CalculationTarget.target
      · rw [if_pos listed, if_pos (List.mem_cons_of_mem _ listed)]
      · rw [if_neg listed, if_neg]
        · rfl
        · intro member
          exact (List.mem_cons.mp member).elim (fun equal => same equal.symm) listed

/-- No target is listed twice. -/
theorem nodup_tabulate (declared : List (String × Calculation)) :
    ((tabulate declared).map CalculationTarget.target).Nodup := by
  unfold tabulate
  have all : ∀ (entries : List (String × Calculation)) (table : List CalculationTarget),
      (table.map CalculationTarget.target).Nodup →
      ((entries.foldl (fun table entry =>
        addCalculation entry.1 { entry.2 with target := some entry.1 } table) table).map
          CalculationTarget.target).Nodup := by
    intro entries
    induction entries with
    | nil => exact fun _ different => different
    | cons entry rest inductionHypothesis =>
      intro table different
      refine inductionHypothesis _ ?_
      rw [targets_addCalculation]
      split
      next => exact different
      next absent =>
        rw [List.nodup_append]
        refine ⟨different, List.nodup_singleton _, fun left leftIn right rightIn equal => ?_⟩
        rw [List.mem_singleton.mp rightIn] at equal
        exact absent (equal ▸ leftIn)
  exact all _ [] List.nodup_nil

/-! ### Channels -/

theorem isSelect_of_select? {catalog : Catalog} {reference name : String}
    (found : catalog.select? reference = some name) :
    ∃ control, catalog.control? name = some control ∧ control.isSelect = true := by
  have isSelect : (catalog.control? name).any Control.isSelect = true := by
    unfold select? at found
    simp only at found
    split at found
    next itself => cases found; exact itself
    next => exact (Option.filter_eq_some_iff.mp found).2
  exact (Option.any_eq_true _ _).mp isSelect

theorem between_low_lt_high {first second : String} (different : first ≠ second) :
    (Channel.between first second).low < (Channel.between first second).high := by
  unfold Channel.between
  split
  next less => exact less
  next notLess => exact NameMap.lt_of_not_lt_of_ne notLess different

theorem eq_or_eq_of_touches_between {first second name : String}
    (touches : (Channel.between first second).touches name = true) :
    name = first ∨ name = second := by
  unfold Channel.between Channel.touches at touches
  split at touches
  · simp only [Bool.or_eq_true, beq_iff_eq] at touches
    exact touches.symm.imp Eq.symm Eq.symm
  · simp only [Bool.or_eq_true, beq_iff_eq] at touches
    exact touches.imp Eq.symm Eq.symm

theorem sides_of_channel? {catalog : Catalog} {link : Link} {channel : Channel}
    (found : catalog.channel? link = some channel) :
    channel.low < channel.high ∧ ∀ name, channel.touches name = true →
      ∃ control, catalog.control? name = some control ∧ control.isSelect = true := by
  unfold channel? at found
  split at found
  next first second firstFound secondFound =>
    split at found
    next => cases found
    next different =>
      cases found
      refine ⟨between_low_lt_high (by simpa using different), fun name touches => ?_⟩
      rcases eq_or_eq_of_touches_between touches with rfl | rfl
      · exact isSelect_of_select? firstFound
      · exact isSelect_of_select? secondFound
  next => cases found

/-- Every channel is kept, and kept once. -/
theorem channels_nodup_mem (found rest : List Channel) (different : found.Nodup) :
    (rest.foldl (fun found channel =>
      if found.contains channel then found else found ++ [channel]) found).Nodup ∧
    ∀ channel, channel ∈ rest.foldl (fun found channel =>
      if found.contains channel then found else found ++ [channel]) found ↔
        channel ∈ found ∨ channel ∈ rest := by
  induction rest generalizing found with
  | nil => exact ⟨different, fun _ => by simp⟩
  | cons channel rest inductionHypothesis =>
    rw [List.foldl_cons]
    split
    next already =>
      obtain ⟨nodup, members⟩ := inductionHypothesis found different
      refine ⟨nodup, fun other => ?_⟩
      rw [members, List.mem_cons]
      constructor
      · exact Or.imp_right .inr
      · rintro (before | rfl | after)
        · exact .inl before
        · exact .inl (List.contains_iff_mem.mp already)
        · exact .inr after
    next absent =>
      have longer : (found ++ [channel]).Nodup := by
        rw [List.nodup_append]
        refine ⟨different, List.nodup_singleton _, fun left leftIn right rightIn equal => ?_⟩
        rw [List.mem_singleton.mp rightIn] at equal
        exact absent (List.contains_iff_mem.mpr (equal ▸ leftIn))
      obtain ⟨nodup, members⟩ := inductionHypothesis (found ++ [channel]) longer
      refine ⟨nodup, fun other => ?_⟩
      rw [members, List.mem_append, List.mem_singleton, List.mem_cons, or_assoc]

/-- The channels of a catalog are those of the links. -/
theorem mem_channels {catalog : Catalog} {links : List Link} {channel : Channel} :
    channel ∈ catalog.channels links ↔ ∃ link ∈ links, catalog.channel? link = some channel := by
  unfold channels
  rw [(channels_nodup_mem [] _ List.nodup_nil).2, List.mem_filterMap]
  simp

/-! ### The catalog of a form -/

/-- What a successful build is made of. -/
theorem build_ok {form : Form} {catalog : Catalog} (built : build form = .ok catalog) :
    ∃ count registry, countSections form = .ok count ∧
      assignSlugs [] .empty ((inOrder form).questions.map (·.2)) = .ok registry ∧
      catalog = { layout (inOrder form) count registry with
        dependents := (layout (inOrder form) count registry).readersOf
          (layout (inOrder form) count registry).rules
        links := (layout (inOrder form) count registry).channels (inOrder form).links } := by
  unfold build at built
  cases counted : countSections form with
  | error fault => rw [counted] at built; cases built
  | ok count =>
    rw [counted] at built
    cases assigned : assignSlugs [] .empty ((inOrder form).questions.map (·.2)) with
    | error fault =>
      simp only [bind, Except.bind] at built
      rw [assigned] at built
      cases built
    | ok registry =>
      simp only [bind, Except.bind] at built
      rw [assigned] at built
      cases built
      exact ⟨count, registry, rfl, rfl, rfl⟩

theorem eq_ok_get {Fault Value : Type} {result : Except Fault Value}
    (isOk : result.toOption.isSome = true) : result = .ok (result.toOption.get isOk) := by
  cases result with
  | error fault => cases isOk
  | ok value => rfl

/-- The catalog of every form is well-formed. -/
theorem wellFormed_of_build {form : Form} {catalog : Catalog} (built : build form = .ok catalog) :
    catalog.WellFormed := by
  obtain ⟨count, registry, -, assigned, rfl⟩ := build_ok built
  have laid := Layout.untaken_layQuestions registry (inOrder form).questions []
  have ids : ((inOrder form).questions.map fun entry => entry.2.id).Nodup := by
    have different := (assignSlugs_ok assigned).1
    rwa [List.map_map] at different
  constructor
  case nodup =>
    refine (laid.append ?_).nodup
    rw [List.append_nil]
    exact Layout.untaken_ofHiddenFields _ _
  case paired =>
    exact (Layout.paired_layQuestions registry _ []).append (Layout.paired_ofHiddenFields _ _)
  case ids =>
    show (((layQuestions registry [] (inOrder form).questions).map (·.1)).map _).Nodup
    rw [List.map_map]
    exact ids_layQuestions registry _ [] ▸ ids
  case answers =>
    intro entry member
    obtain ⟨laid, laidIn, rfl⟩ := List.mem_map.mp member
    rw [answers_layQuestions registry _ [] laid laidIn]
    exact ((List.filter_sublist.trans (sublist_flatMap_of_mem laidIn)).trans
      (List.sublist_append_left _ _)).map _
  case links => exact (channels_nodup_mem [] _ List.nodup_nil).1
  case sides =>
    intro channel member
    obtain ⟨link, -, made⟩ := mem_channels.mp member
    exact sides_of_channel? made
  case owners => exact (owners_sublist (inOrder form).questions).nodup ids
  case targets => exact nodup_tabulate _
  case readers => exact mem_noted_readersOf _ _

end Questionnaire.Catalog

/-
This file says what table the calculations of a form are put in. A calculation is for the target
that it names, or else for the hidden field that it is declared in. The table has a row for every
target of a calculation with terms, in the order in which the targets come up first, and a row lists
the calculations for its target as they are declared: those of hidden fields before those of
questions, and those of questions in the order of their sections.
-/
import Questionnaire.Proofs.Completeness

namespace Questionnaire

/-! ### First appearances -/

/-- Whether a list has the names of another one, each of them once, in the order in which they come
up there first. -/
structure FirstAppearances (names firsts : List String) : Prop where
  once : firsts.Nodup
  members : ∀ name, name ∈ firsts ↔ name ∈ names
  order : firsts.Pairwise fun earlier later => names.idxOf earlier < names.idxOf later

/-- One more name is a first appearance exactly if it has not come up before. -/
theorem FirstAppearances.snoc {names firsts : List String} (appear : FirstAppearances names firsts)
    (name : String) :
    FirstAppearances (names ++ [name]) (if name ∈ firsts then firsts else firsts ++ [name]) := by
  have before : ∀ other ∈ firsts, (names ++ [name]).idxOf other = names.idxOf other :=
    fun other isFirst => List.idxOf_append_of_mem ((appear.members other).mp isFirst)
  have order : firsts.Pairwise fun earlier later =>
      (names ++ [name]).idxOf earlier < (names ++ [name]).idxOf later := by
    refine appear.order.imp_of_mem fun {earlier later} earlierIn laterIn less => ?_
    rwa [before earlier earlierIn, before later laterIn]
  split
  next known =>
    refine ⟨appear.once, fun other => ?_, order⟩
    rw [List.mem_append, List.mem_singleton, appear.members]
    exact ⟨.inl, fun either => either.elim id fun same => same ▸ (appear.members name).mp known⟩
  next new =>
    have unseen : name ∉ names := fun isIn => new ((appear.members name).mpr isIn)
    constructor
    case once =>
      refine List.nodup_append.mpr ⟨appear.once, List.nodup_singleton _, ?_⟩
      rintro other isFirst _ isName rfl
      exact new (List.mem_singleton.mp isName ▸ isFirst)
    case members =>
      intro other
      rw [List.mem_append, List.mem_append, appear.members]
    case order =>
      refine List.pairwise_append.mpr ⟨order, List.pairwise_singleton _ _, ?_⟩
      intro earlier earlierIn later isName
      rw [List.mem_singleton.mp isName, before earlier earlierIn,
        List.idxOf_append_of_notMem unseen]
      exact Nat.lt_add_right _ (List.idxOf_lt_length_of_mem ((appear.members _).mp earlierIn))

namespace Catalog

/-! ### Declared calculations -/

/-- The calculations of a form, each with the hidden field that it is declared in, if it is: those
of the hidden fields first, and then those of the questions in the order of their sections. -/
def declarations (form : Form) : List (Option String × Calculation) :=
  (form.hiddenFields.flatMap fun field =>
    field.calculations.map fun rule => (some field.name, rule)) ++
  (Lint.ordered form).flatMap fun entry =>
    entry.2.calculations.map fun rule => (none, rule)

/-- The target of a declared calculation: the one it names, or else the hidden field. -/
def targetOf (declared : Option String × Calculation) : Option String :=
  declared.2.target.or declared.1

/-- The declared calculations that have at least one term. -/
def effective (form : Form) : List (Option String × Calculation) :=
  (declarations form).filter fun declared => !declared.2.terms.isEmpty

/-- The calculations for a target, as they are declared. -/
def declaredFor (form : Form) (target : String) : List Calculation :=
  ((effective form).filter fun declared => targetOf declared == some target).map (·.2)

/-- The declared calculations that have a target are those that the catalog is made with. -/
theorem declaredCalculations_eq (form : Form) :
    declaredCalculations (inOrder form) = (declarations form).filterMap fun declared =>
      (targetOf declared).map fun target => (target, declared.2) := by
  unfold declaredCalculations declarations
  rw [ordered_eq, List.filterMap_append, List.filterMap_flatMap, List.filterMap_flatMap]
  congr 1
  · refine congrArg (List.flatMap · _) (funext fun field => ?_)
    unfold ofHiddenField targetOf
    rw [List.filterMap_map, ← List.filterMap_eq_map]
    refine congrArg (List.filterMap · _) (funext fun rule => ?_)
    simp only [Function.comp_apply]
    cases rule.target <;> rfl
  · refine congrArg (List.flatMap · _) (funext fun entry => ?_)
    unfold ofQuestion targetOf
    rw [List.filterMap_map]
    refine congrArg (List.filterMap · _) (funext fun rule => ?_)
    simp only [Function.comp_apply]
    cases rule.target <;> rfl

/-! ### The table -/

/-- A row lists what the table has under its target. -/
theorem rules_of_mem_tabulate {declared : List (String × Calculation)} {row : CalculationTarget}
    (member : row ∈ tabulate declared) : row.rules = rulesOf (tabulate declared) row.target := by
  unfold rulesOf
  rw [find?_of_mem (nodup_tabulate declared) member]
  rfl

/-- Calculations that are added to a table bring their targets, as they come up first. -/
theorem firstAppearances_foldl (entries : List (String × Calculation)) {names : List String}
    {table : List CalculationTarget}
    (appear : FirstAppearances names (table.map CalculationTarget.target)) :
    FirstAppearances (names ++ entries.map (·.1)) ((entries.foldl (fun table entry =>
      addCalculation entry.1 { entry.2 with target := some entry.1 } table) table).map
        CalculationTarget.target) := by
  induction entries generalizing names table with
  | nil => rwa [List.map_nil, List.append_nil]
  | cons entry rest inductionHypothesis =>
    rw [List.map_cons, List.append_cons]
    refine inductionHypothesis ?_
    rw [targets_addCalculation]
    exact appear.snoc entry.1

/-- The targets of a table are those of its calculations, as they come up first. -/
theorem firstAppearances_tabulate (declared : List (String × Calculation)) :
    FirstAppearances ((declared.filter fun entry => !entry.2.terms.isEmpty).map (·.1))
      ((tabulate declared).map CalculationTarget.target) := by
  have noRow : FirstAppearances [] (([] : List CalculationTarget).map CalculationTarget.target) :=
    ⟨List.nodup_nil, fun _ => Iff.rfl, List.Pairwise.nil⟩
  exact firstAppearances_foldl (declared.filter fun entry => !entry.2.terms.isEmpty) noRow

variable {form : Form} {catalog : Catalog}

theorem calculations_of_build (built : build form = .ok catalog) :
    catalog.calculations = tabulate (declaredCalculations (inOrder form)) := by
  obtain ⟨count, registry, -, -, rfl⟩ := build_ok built
  rfl

/-- The calculations with terms that the catalog is made with are the effective ones. -/
theorem filter_declaredCalculations (form : Form) :
    (declaredCalculations (inOrder form)).filter (fun entry => !entry.2.terms.isEmpty) =
      (effective form).filterMap fun declared =>
        (targetOf declared).map fun target => (target, declared.2) := by
  rw [declaredCalculations_eq]
  unfold effective
  induction declarations form with
  | nil => rfl
  | cons declared rest inductionHypothesis =>
    rw [List.filterMap_cons, List.filter_cons]
    cases aims : targetOf declared <;> cases filled : declared.2.terms.isEmpty <;>
      simp [aims, filled, inductionHypothesis]

theorem map_filterMap_targetOf (entries : List (Option String × Calculation)) :
    (entries.filterMap fun declared =>
      (targetOf declared).map fun target => (target, declared.2)).map (·.1) =
        entries.filterMap targetOf := by
  rw [List.map_filterMap]
  refine congrArg (List.filterMap · entries) (funext fun declared => ?_)
  cases targetOf declared <;> rfl

theorem filter_filterMap_targetOf (entries : List (Option String × Calculation))
    (target : String) :
    ((entries.filterMap fun declared =>
      (targetOf declared).map fun target => (target, declared.2)).filter
        fun entry => entry.1 == target).map (·.2) =
      (entries.filter fun declared => targetOf declared == some target).map (·.2) := by
  induction entries with
  | nil => rfl
  | cons declared rest inductionHypothesis =>
    rw [List.filterMap_cons, List.filter_cons]
    cases aims : targetOf declared with
    | none => simpa using inductionHypothesis
    | some other => by_cases same : other = target <;> simpa [same] using inductionHypothesis

/-- A row lists the calculations for its target, as they are declared. -/
theorem rules_of_build (built : build form = .ok catalog) {row : CalculationTarget}
    (member : row ∈ catalog.calculations) :
    row.rules = (declaredFor form row.target).map fun rule => rule.aimedAt row.target := by
  rw [calculations_of_build built] at member
  rw [rules_of_mem_tabulate member, rulesOf_tabulate, filter_declaredCalculations, declaredFor,
    ← filter_filterMap_targetOf, List.map_map]
  rfl

/-- A calculation without terms is in no row. -/
theorem terms_of_build (built : build form = .ok catalog) {row : CalculationTarget}
    (member : row ∈ catalog.calculations) {rule : Calculation} (listed : rule ∈ row.rules) :
    rule.terms.isEmpty = false := by
  rw [rules_of_build built member] at listed
  obtain ⟨other, isDeclared, rfl⟩ := List.mem_map.mp listed
  obtain ⟨declared, ofTarget, rfl⟩ := List.mem_map.mp isDeclared
  have filled := (List.mem_filter.mp (List.mem_filter.mp ofTarget).1).2
  rwa [Bool.not_eq_true'] at filled

/-- The table has a row for every target of a calculation with terms, each target has one row, and
the rows are in the order in which their targets come up first. A row lists the calculations with
terms for its target, and them alone, as they are declared: those of the hidden fields first, and
then those of the questions in the order of their sections. -/
theorem tabulated_of_build (built : build form = .ok catalog) :
    FirstAppearances ((effective form).filterMap targetOf)
      (catalog.calculations.map CalculationTarget.target) ∧
    ∀ row ∈ catalog.calculations,
      row.rules = (declaredFor form row.target).map fun rule => rule.aimedAt row.target := by
  refine ⟨?_, fun row member => rules_of_build built member⟩
  have appear := firstAppearances_tabulate (declaredCalculations (inOrder form))
  rwa [filter_declaredCalculations, map_filterMap_targetOf, ← calculations_of_build built]
    at appear

/-! ### A form with a table of three rows -/

/-- A form whose sections are out of order. Calculations of hidden fields and of questions are for
one target, one names another target than its field, one has no terms, and one no target. -/
def ledger : Form :=
  let rule (target : Option String) (field outcome : String) : Calculation :=
    ⟨target, .text, [⟨none, field⟩], .greater, 0.0, .text outcome⟩
  { id := "ledger", title := "Ledger", description := none
    sections :=
      [⟨2, "Two",
        [{ Session.plain "costs" .money "Costs" [] with
            calculations := [rule (some "sum") "costs" "third", rule none "costs" "lost"] }]⟩,
       ⟨1, "One",
        [{ Session.plain "income" .money "Income" [] with
            calculations :=
              [rule (some "net") "income" "only", rule (some "sum") "net" "second"] }]⟩]
    hiddenFields :=
      [⟨"sum", .text, none,
        [{ rule none "income" "empty" with terms := [] }, rule (some "band") "income" "first"]⟩,
       ⟨"band", .text, none, [rule none "costs" "last", rule (some "sum") "costs" "first"]⟩]
    links := [] }

theorem ledger_isSome : (build ledger).toOption.isSome = true := by decide +kernel

/-- The catalog of that form. -/
def ledgerCatalog : Catalog := (build ledger).toOption.get ledger_isSome

theorem build_ledger : build ledger = .ok ledgerCatalog := eq_ok_get ledger_isSome

/-- The target that a calculation of another field names comes first, and the calculations of the
first section stand before those of the second. -/
theorem tabulated_of_ledger :
    (ledgerCatalog.calculations.map fun row =>
        (row.target, row.rules.map fun rule => (rule.target, rule.outcome))) =
      [("band", [(some "band", .text "first"), (some "band", .text "last")]),
       ("sum", [(some "sum", .text "first"), (some "sum", .text "second"),
         (some "sum", .text "third")]),
       ("net", [(some "net", .text "only")])] ∧
    FirstAppearances ((effective ledger).filterMap targetOf)
      (ledgerCatalog.calculations.map CalculationTarget.target) ∧
    ∀ row ∈ ledgerCatalog.calculations,
      row.rules = (declaredFor ledger row.target).map fun rule => rule.aimedAt row.target :=
  ⟨by decide +kernel, tabulated_of_build build_ledger⟩

end Catalog

end Questionnaire

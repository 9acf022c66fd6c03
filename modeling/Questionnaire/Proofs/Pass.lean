/-
This file says what one pass of the calculations makes of a sheet. The targets come one after the
other, and when one is computed the targets before it are what they will be and all others what they
were. The last of its rules whose comparison holds on that sheet decides; its outcome is written if
the target takes it. Nothing but what the targets hold is changed, and those that hold something
else in the end are reported, in the order of the table.
-/
import Questionnaire.Proofs.Calculation
import Questionnaire.Proofs.Tabulation

namespace Questionnaire

/-! ### Decisions -/

namespace Derivation

/-- Whether the comparison of a rule holds of the total of its terms. -/
def Applies (tiers : Tiers) (catalog : Catalog) (sheet : Sheet) (rule : Calculation) : Prop :=
  rule.comparison.holds (total tiers catalog sheet rule.terms) rule.threshold = true

/-- Whether a rule is the last one of a list that applies. -/
def IsLast (tiers : Tiers) (catalog : Catalog) (sheet : Sheet) (rules : List Calculation)
    (rule : Calculation) : Prop :=
  Applies tiers catalog sheet rule ∧ ∃ overruled rest, rules = overruled ++ rule :: rest ∧
    ∀ other ∈ rest, ¬Applies tiers catalog sheet other

/-- A rule with terms holds if it applies, with the total of its terms. -/
theorem holds?_eq (tiers : Tiers) (catalog : Catalog) (sheet : Sheet) {rule : Calculation}
    (filled : rule.terms.isEmpty = false) :
    Applies tiers catalog sheet rule ∧
        holds? tiers catalog sheet rule = some (total tiers catalog sheet rule.terms) ∨
      ¬Applies tiers catalog sheet rule ∧ holds? tiers catalog sheet rule = none := by
  unfold holds? Applies
  rw [if_neg (by simp [filled])]
  simp only
  split
  next applies => exact .inl ⟨applies, rfl⟩
  next fails => exact .inr ⟨fails, rfl⟩

/-- Either no rule of a target applies and nothing is decided, or the last one that applies
decides. -/
theorem decide?_cases (tiers : Tiers) (catalog : Catalog) (sheet : Sheet)
    {target : CalculationTarget} (filled : ∀ rule ∈ target.rules, rule.terms.isEmpty = false) :
    ((∀ rule ∈ target.rules, ¬Applies tiers catalog sheet rule) ∧
        decide? tiers catalog sheet target = none) ∨
      ∃ rule, IsLast tiers catalog sheet target.rules rule ∧
        decide? tiers catalog sheet target =
          some (rule.outcome, total tiers catalog sheet rule.terms) := by
  unfold decide?
  -- The rules are taken off at the end: the last one decides if it applies, else those before it.
  generalize target.rules = rules at filled
  induction rules using List.reverseRecOn with
  | nil => exact .inl ⟨List.forall_mem_nil _, rfl⟩
  | append_singleton rules last inductionHypothesis =>
    rw [List.forall_mem_append] at filled
    rw [List.filterMap_append, List.filterMap_cons, List.filterMap_nil]
    rcases holds?_eq tiers catalog sheet (filled.2 last List.mem_cons_self) with
      ⟨applies, holds⟩ | ⟨fails, holds⟩
    · refine .inr ⟨last, ⟨applies, rules, [], rfl, fun _ member => nomatch member⟩, ?_⟩
      rw [holds, Option.map_some, List.getLast?_concat]
    · rw [holds, Option.map_none, List.append_nil]
      rcases inductionHypothesis filled.1 with ⟨none, nothing⟩ | ⟨rule, isLast, decides⟩
      · have alsoLast := List.forall_mem_append.mpr ⟨none, List.forall_mem_singleton.mpr fails⟩
        exact .inl ⟨alsoLast, nothing⟩
      · obtain ⟨applies, overruled, rest, rfl, fail⟩ := isLast
        have alsoLast := List.forall_mem_append.mpr ⟨fail, List.forall_mem_singleton.mpr fails⟩
        exact .inr ⟨rule, ⟨applies, overruled, rest ++ [last], by simp, alsoLast⟩, decides⟩

end Derivation

/-! ### A pass, target by target -/

namespace Sheet

variable {before after : Sheet}

/-- An entry that holds what it held is the entry that it was. -/
theorem Refilled.get?_eq (refilled : Refilled before after) {name : String}
    (same : after.content? name = before.content? name) : after.get? name = before.get? name := by
  cases present : before.get? name with
  | none => exact refilled.absent name present
  | some entry =>
    obtain ⟨content, found, -⟩ := refilled.entry name entry present
    rw [content?_eq, content?_eq, found, present] at same
    rw [found]
    exact congrArg (fun content => some { entry with content }) (Option.some.inj same)

/-- Calculations write to nothing but their targets. -/
theorem agreeOff_foldl_step (tiers : Tiers) (catalog : Catalog) (rows : List CalculationTarget)
    (state : Sheet × List String) :
    AgreeOff (rows.map CalculationTarget.target) state.1
      (rows.foldl (Derivation.step tiers catalog) state).1 := by
  induction rows generalizing state with
  | nil => exact .refl _ _
  | cons row rest inductionHypothesis =>
    rw [List.foldl_cons, derivation_step]
    have write : AgreeOff [row.target] state.1 (attempt tiers catalog state.1 row).1 :=
      (write_attempt tiers catalog state.1 row).agreeOff.mono fun name isReported =>
        List.mem_singleton.mpr (eq_of_mem_reported isReported)
    exact write.trans (inductionHypothesis (_, _))

/-- Computing one target writes what the last of its rules that applies leaves there. -/
theorem content?_attempt (tiers : Tiers) (catalog : Catalog) (sheet : Sheet)
    {row : CalculationTarget} (filled : ∀ rule ∈ row.rules, rule.terms.isEmpty = false) :
    ((∀ rule ∈ row.rules, ¬Derivation.Applies tiers catalog sheet rule) ∧
        (attempt tiers catalog sheet row).1.content? row.target = sheet.content? row.target) ∨
      ∃ rule, Derivation.IsLast tiers catalog sheet row.rules rule ∧
        (attempt tiers catalog sheet row).1.content? row.target =
          (sheet.content? row.target).map (Content.taking rule.outcome
            (Derivation.total tiers catalog sheet rule.terms)) := by
  unfold attempt
  rcases Derivation.decide?_cases tiers catalog sheet filled with
    ⟨none, nothing⟩ | ⟨rule, isLast, decides⟩
  · refine .inl ⟨none, ?_⟩
    rw [nothing]
    split <;> rfl
  · refine .inr ⟨rule, isLast, ?_⟩
    rw [decides]
    split
    next absent =>
      rw [Bool.not_eq_true', contains_eq_isSome_content?, Option.isSome_eq_false_iff,
        Option.isNone_iff_eq_none] at absent
      simp only [absent, Option.map_none]
    next => exact content?_write sheet row.target _ _

/-- A target of a table, the sheet on which it is computed, and the sheet in the end: the targets
before it are already what they will be, it and all others still what they were, and nothing but it
and the targets after it will be written. -/
theorem stage_foldl_step (tiers : Tiers) (catalog : Catalog) (sheet : Sheet)
    {earlier later : List CalculationTarget} {row : CalculationTarget}
    (different : ((earlier ++ row :: later).map CalculationTarget.target).Nodup) :
    let stage := (earlier.foldl (Derivation.step tiers catalog) (sheet, [])).1
    let after := ((earlier ++ row :: later).foldl (Derivation.step tiers catalog) (sheet, [])).1
    (∀ name, stage.get? name =
      if name ∈ earlier.map CalculationTarget.target then after.get? name
      else sheet.get? name) ∧
    stage.content? row.target = sheet.content? row.target ∧
    Refilled stage after ∧ AgreeOff ((row :: later).map CalculationTarget.target) stage after ∧
    after.content? row.target = (attempt tiers catalog stage row).1.content? row.target := by
  intro stage after
  rw [List.map_append, List.nodup_append] at different
  obtain ⟨-, ofLater, apart⟩ := different
  have afterIs : after = ((row :: later).foldl (Derivation.step tiers catalog)
      (earlier.foldl (Derivation.step tiers catalog) (sheet, []))).1 := by
    rw [← List.foldl_append]
  have refilledBefore : Refilled sheet stage :=
    (derivation_foldl tiers catalog earlier (sheet, [])).1
  have refilled : Refilled stage after := by
    rw [afterIs]
    exact (derivation_foldl tiers catalog (row :: later) _).1
  have agree : AgreeOff ((row :: later).map CalculationTarget.target) stage after := by
    rw [afterIs]
    exact agreeOff_foldl_step tiers catalog (row :: later) _
  have untouched := agreeOff_foldl_step tiers catalog earlier (sheet, [])
  refine ⟨fun name => ?_, ?_, refilled, agree, ?_⟩
  · split
    next isEarlier =>
      have unwritten : name ∉ (row :: later).map CalculationTarget.target :=
        fun isLater => apart name isEarlier name isLater rfl
      exact (refilled.get?_eq (agree name unwritten).symm).symm
    next notEarlier => exact refilledBefore.get?_eq (untouched name notEarlier).symm
  · exact (untouched row.target fun isEarlier =>
      apart row.target isEarlier row.target List.mem_cons_self rfl).symm
  · have notLater := (List.nodup_cons.mp ofLater).1
    have unwritten := agreeOff_foldl_step tiers catalog later
      (Derivation.step tiers catalog
        (earlier.foldl (Derivation.step tiers catalog) (sheet, [])) row) row.target notLater
    rw [afterIs, List.foldl_cons, ← unwritten, derivation_step]

/-! ### What a pass reports -/

/-- The part of a list without repetitions that has all items with a property, and them alone. -/
theorem eq_filter_of_sublist {part all : List String} (sublist : part.Sublist all)
    (different : all.Nodup) {keeps : String → Bool}
    (kept : ∀ name ∈ all, name ∈ part ↔ keeps name = true) : part = all.filter keeps := by
  have partKept : part.filter keeps = part :=
    List.filter_eq_self.mpr fun name isIn => (kept name (sublist.subset isIn)).mp isIn
  have inFilter : part.Sublist (all.filter keeps) := partKept ▸ sublist.filter keeps
  refine inFilter.eq_of_length_le (List.Subperm.length_le ?_)
  refine List.subperm_of_subset (different.filter keeps) fun name isIn => ?_
  obtain ⟨inAll, holds⟩ := List.mem_filter.mp isIn
  exact (kept name inAll).mpr holds

/-- A pass reports the targets that hold something else afterwards, in the order of the table. -/
theorem reported_run_eq {catalog : Catalog} (wellFormed : catalog.WellFormed) (tiers : Tiers)
    (sheet : Sheet) :
    (Derivation.run tiers catalog sheet).2 =
      (catalog.calculations.map CalculationTarget.target).filter fun name =>
        decide ((Derivation.run tiers catalog sheet).1.content? name ≠ sheet.content? name) := by
  obtain ⟨more, listed, sublist, changed⟩ :=
    reported_foldl_step tiers catalog wellFormed.targets (sheet, [])
  have isReport : (Derivation.run tiers catalog sheet).2 = more := listed
  rw [isReport]
  refine eq_filter_of_sublist sublist wellFormed.targets fun name _ => ?_
  rw [decide_eq_true_iff]
  refine ⟨changed name, fun differs => ?_⟩
  by_contra unreported
  rw [← isReport] at unreported
  exact differs (agreeOff_derivation_run tiers catalog sheet name unreported).symm

end Sheet

/-! ### The pass -/

/-- What one pass of the calculations makes of a sheet, and the targets that it reports. -/
structure Recalculated (tiers : Tiers) (catalog : Catalog) (before after : Sheet)
    (listed : List String) : Prop where
  computed : ∀ earlier row later, catalog.calculations = earlier ++ row :: later →
    ∃ stage : Sheet,
      (∀ name, stage.get? name =
        if name ∈ earlier.map CalculationTarget.target then after.get? name
        else before.get? name) ∧
      ∀ content, before.content? row.target = some content →
        (∀ rule ∈ row.rules, ¬Derivation.Applies tiers catalog stage rule) ∧
            after.content? row.target = some content ∨
          ∃ rule, Derivation.IsLast tiers catalog stage row.rules rule ∧
            after.content? row.target = some (content.taking rule.outcome
              (Derivation.total tiers catalog stage rule.terms))
  others : ∀ name, name ∉ catalog.calculations.map CalculationTarget.target →
    after.get? name = before.get? name
  contains : ∀ name, after.contains name = before.contains name
  isHidden : ∀ name, after.isHidden name = before.isHidden name
  changed : listed = (catalog.calculations.map CalculationTarget.target).filter fun name =>
    decide (after.content? name ≠ before.content? name)
  once : listed.Nodup

/-- A pass computes every target that is there on the sheet on which the targets before it are
already computed and no others: it writes the outcome of the last rule that applies there, if the
target takes it. All else is left as it is, and the targets that hold something else afterwards are
reported in the order of the table. -/
theorem recalculated_of_build {form : Form} {catalog : Catalog}
    (built : Catalog.build form = .ok catalog) (tiers : Tiers) (sheet : Sheet) :
    Recalculated tiers catalog sheet (Derivation.run tiers catalog sheet).1
      (Derivation.run tiers catalog sheet).2 := by
  have wellFormed := Catalog.wellFormed_of_build built
  have refilled := Sheet.refilled_derivation_run tiers catalog sheet
  have report := Sheet.reported_run_eq wellFormed tiers sheet
  constructor
  case computed =>
    intro earlier row later listed
    have filled : ∀ rule ∈ row.rules, rule.terms.isEmpty = false := fun rule =>
      Catalog.terms_of_build built (listed ▸ List.mem_append_right _ List.mem_cons_self)
    let stage := (earlier.foldl (Derivation.step tiers catalog) (sheet, [])).1
    unfold Derivation.run
    rw [listed]
    obtain ⟨onStage, unwritten, -, -, written⟩ :=
      Sheet.stage_foldl_step tiers catalog sheet (listed ▸ wellFormed.targets)
    refine ⟨stage, onStage, fun content holds => ?_⟩
    have stageHolds : stage.content? row.target = some content := unwritten.trans holds
    rcases Sheet.content?_attempt tiers catalog stage filled with
      ⟨none, kept⟩ | ⟨rule, isLast, taken⟩
    · exact .inl ⟨none, written.trans (kept.trans stageHolds)⟩
    · rw [stageHolds] at taken
      exact .inr ⟨rule, isLast, written.trans taken⟩
  case others =>
    intro name untargeted
    exact refilled.get?_eq (Sheet.content?_run wellFormed tiers sheet untargeted)
  case contains => exact refilled.contains
  case isHidden => exact refilled.isHidden
  case changed => exact report
  case once =>
    rw [report]
    exact wellFormed.targets.filter _

/-! ### A form with three kinds of targets -/

/-- A form with a price, and a wrapping that may be asked for with its own price. Their sum is
computed first; from the sum, whether it is due; and from both of them a size, for which one of the
calculations asks for an option that there is not. -/
def rating : Form :=
  let rule (target : Option String) (fields : List String) (comparison : Comparison)
      (outcome : Outcome) : Calculation :=
    ⟨target, .text, fields.map fun field => ⟨none, field⟩, comparison, 0.0, outcome⟩
  { id := "rating", title := "Rating", description := none
    sections :=
      [⟨1, "One",
        [Session.plain "price" .money "Price" [],
         Session.plain "extras" .checkboxGroup "Extras" [⟨"Wrapping", none, false, true⟩],
         { Session.plain "size" .singleChoice "Size"
             [⟨"Small", none, false, false⟩, ⟨"Large", none, false, false⟩] with
            calculations :=
              [rule (some "size") ["Sum"] .less (.text "small"),
               rule (some "size") ["sum", "due"] .greater (.text "LARGE"),
               rule (some "size") ["sum"] .equal (.text "Huge")] }]⟩]
    hiddenFields :=
      [⟨"sum", .text, none, [rule none ["price", "extras_wrapping"] .greater (.text "##total##")]⟩,
       ⟨"due", .checkbox, none, [rule none ["sum"] .greater .checked]⟩]
    links := [] }

theorem rating_isSome : (Catalog.build rating).toOption.isSome = true := by decide +kernel

/-- The catalog of that form. -/
def ratingCatalog : Catalog := (Catalog.build rating).toOption.get rating_isSome

theorem build_rating : Catalog.build rating = .ok ratingCatalog := Catalog.eq_ok_get rating_isSome

/-- A sheet of that form with a price, a wrapping with its own price, and a size. -/
def ratingSheet : Sheet :=
  (Session.applyAll (Sheet.ofCatalog ratingCatalog) (NameMap.ofList
    [("price", "2.5"), ("extras_wrapping", "true"), ("extras_wrapping_amount", "4"),
     ("size", "small")])).1

/-- The sum of both prices is written first, then it is due, and the size that is asked for as
"LARGE" is its option. All three are reported. A size keeps its choice where there is no such
option. -/
theorem recalculated_of_rating :
    let sizes := ["Small", "Large"]
    let after := (Derivation.run Tiers.usual ratingCatalog ratingSheet).1
    let listed := (Derivation.run Tiers.usual ratingCatalog ratingSheet).2
    (ratingCatalog.calculations.map fun row => (row.target, ratingSheet.content? row.target)) =
      [("sum", some (.text "")), ("due", some (.checkbox false "due")),
       ("size", some (.select "Small" sizes))] ∧
    (ratingCatalog.calculations.map fun row => (row.target, after.content? row.target)) =
      [("sum", some (.text "6.50")), ("due", some (.checkbox true "due")),
       ("size", some (.select "Large" sizes))] ∧
    listed = ["sum", "due", "size"] ∧
    Content.taking (.text "Huge") 0.0 (.select "Small" sizes) = .select "Small" sizes ∧
    Recalculated Tiers.usual ratingCatalog ratingSheet after listed :=
  ⟨by decide +kernel, by decide +kernel, by decide +kernel, by decide +kernel,
    recalculated_of_build build_rating Tiers.usual ratingSheet⟩

end Questionnaire

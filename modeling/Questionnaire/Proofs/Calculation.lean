/-
This file says when running the calculations changes nothing. A run reports no target exactly if no
target, computed on the sheet as it is, changes it; and a target that is reported does hold
something else afterwards, because it is computed only once. An outcome that is written once more
changes nothing. What a calculation reads of a sheet is the content of controls, which names are
there and which boxes are checked; so sheets that agree in this are both left alone or both changed.
The names are all that the usual ways look at to find a control.
-/
import Questionnaire.Proofs.Ownership

namespace Questionnaire

namespace Sheet

variable {tiers : Tiers} {catalog : Catalog} {sheet : Sheet}

/-! ### Runs that change nothing -/

theorem foldl_step_of_still {targets : List CalculationTarget}
    (still : ∀ target ∈ targets, (attempt tiers catalog sheet target).2 = false)
    (changed : List String) :
    targets.foldl (Derivation.step tiers catalog) (sheet, changed) = (sheet, changed) := by
  induction targets with
  | nil => rfl
  | cons target rest inductionHypothesis =>
    obtain ⟨head, tail⟩ := List.forall_mem_cons.mp still
    rw [List.foldl_cons, derivation_step, head,
      (write_attempt tiers catalog sheet target).eq_of_not_snd head]
    simpa [reported] using inductionHypothesis tail

theorem still_of_foldl_step {targets : List CalculationTarget} {changed : List String}
    (nothing : (targets.foldl (Derivation.step tiers catalog) (sheet, changed)).2 = changed) :
    ∀ target ∈ targets, (attempt tiers catalog sheet target).2 = false := by
  induction targets with
  | nil => exact fun _ member => nomatch member
  | cons target rest inductionHypothesis =>
    rw [List.foldl_cons, derivation_step] at nothing
    obtain ⟨-, more, listed, -⟩ := derivation_foldl tiers catalog rest
      ((attempt tiers catalog sheet target).1,
        changed ++ reported target.target (attempt tiers catalog sheet target).2)
    have head : (attempt tiers catalog sheet target).2 = false := by
      rw [nothing, List.append_assoc] at listed
      have empty := List.append_eq_nil_iff.mp (List.self_eq_append_right.mp listed)
      cases unchanged : (attempt tiers catalog sheet target).2 with
      | false => rfl
      | true => rw [unchanged] at empty; cases empty.1
    refine List.forall_mem_cons.mpr ⟨head, inductionHypothesis ?_⟩
    rw [head, (write_attempt tiers catalog sheet target).eq_of_not_snd head] at nothing
    simpa [reported] using nothing

/-- Calculations report nothing exactly if no target changes the sheet, and then they leave it. -/
theorem run_still (tiers : Tiers) (catalog : Catalog) (sheet : Sheet) :
    (Derivation.run tiers catalog sheet).2 = [] ↔
      ∀ target ∈ catalog.calculations, (attempt tiers catalog sheet target).2 = false := by
  constructor
  · exact still_of_foldl_step
  · intro still
    unfold Derivation.run
    rw [foldl_step_of_still still]

theorem run_eq_self (nothing : (Derivation.run tiers catalog sheet).2 = []) :
    (Derivation.run tiers catalog sheet).1 = sheet := by
  have still := (run_still tiers catalog sheet).mp nothing
  unfold Derivation.run
  rw [foldl_step_of_still still]

/-! ### Reported targets -/

theorem Write.content?_ne {name : String} {result : Sheet × Bool}
    (write : Write sheet name result) (changed : result.2 = true) :
    result.1.content? name ≠ sheet.content? name := by
  cases write with
  | @put entry content present refills =>
    rw [put_snd, Bool.not_eq_true', decide_eq_false_iff_not] at changed
    rw [content?_eq, content?_eq, get?_put present, if_pos rfl, present]
    exact fun same => changed (Option.some.inj same).symm
  | nothing => cases changed

/-- Targets are reported in the order of the table, and each of them holds something else then. -/
theorem reported_foldl_step (tiers : Tiers) (catalog : Catalog)
    {targets : List CalculationTarget}
    (different : (targets.map CalculationTarget.target).Nodup) (state : Sheet × List String) :
    ∃ more, (targets.foldl (Derivation.step tiers catalog) state).2 = state.2 ++ more ∧
      more.Sublist (targets.map CalculationTarget.target) ∧ ∀ name ∈ more,
        (targets.foldl (Derivation.step tiers catalog) state).1.content? name ≠
          state.1.content? name := by
  induction targets generalizing state with
  | nil => exact ⟨[], (List.append_nil _).symm, .slnil, fun _ member => nomatch member⟩
  | cons target rest inductionHypothesis =>
    obtain ⟨absent, differentRest⟩ := List.nodup_cons.mp different
    have write := write_attempt tiers catalog state.1 target
    rw [List.foldl_cons, derivation_step]
    obtain ⟨-, others, othersListed, agree⟩ := derivation_foldl tiers catalog rest
      ((attempt tiers catalog state.1 target).1,
        state.2 ++ reported target.target (attempt tiers catalog state.1 target).2)
    obtain ⟨more, listed, sublist, changed⟩ := inductionHypothesis differentRest
      ((attempt tiers catalog state.1 target).1,
        state.2 ++ reported target.target (attempt tiers catalog state.1 target).2)
    have same : others = more := List.append_cancel_left (othersListed.symm.trans listed)
    subst same
    refine ⟨reported _ _ ++ others, by rw [listed, List.append_assoc], ?_, fun name isIn => ?_⟩
    · cases (attempt tiers catalog state.1 target).2 with
      | false => exact sublist.cons _
      | true => exact sublist.cons_cons _
    · rcases List.mem_append.mp isIn with isTarget | isOther
      · have isTrue : (attempt tiers catalog state.1 target).2 = true := by
          cases unchanged : (attempt tiers catalog state.1 target).2 with
          | true => rfl
          | false => rw [unchanged] at isTarget; cases isTarget
        have named := eq_of_mem_reported isTarget
        subst named
        rw [← agree target.target fun isOther => absent (sublist.subset isOther)]
        exact write.content?_ne isTrue
      · have apart : name ∉ reported target.target (attempt tiers catalog state.1 target).2 :=
          fun isTarget => absent (eq_of_mem_reported isTarget ▸ sublist.subset isOther)
        rw [write.agreeOff name apart]
        exact changed name isOther

/-- What a run reports are targets, and each of them holds something else afterwards. -/
theorem reported_run (wellFormed : catalog.WellFormed) (tiers : Tiers) (sheet : Sheet) :
    ∀ name ∈ (Derivation.run tiers catalog sheet).2,
      name ∈ catalog.calculations.map CalculationTarget.target ∧
        (Derivation.run tiers catalog sheet).1.content? name ≠ sheet.content? name := by
  obtain ⟨more, listed, sublist, changed⟩ :=
    reported_foldl_step tiers catalog wellFormed.targets (sheet, [])
  intro name isIn
  unfold Derivation.run at isIn ⊢
  rw [listed, List.nil_append] at isIn
  exact ⟨sublist.subset isIn, changed name isIn⟩

theorem content?_run (wellFormed : catalog.WellFormed) (tiers : Tiers) (sheet : Sheet)
    {name : String} (untargeted : name ∉ catalog.calculations.map CalculationTarget.target) :
    (Derivation.run tiers catalog sheet).1.content? name = sheet.content? name :=
  (agreeOff_derivation_run tiers catalog sheet name fun isIn =>
    untargeted (reported_run wellFormed tiers sheet name isIn).1).symm

end Sheet

/-! ### Outcomes -/

/-- The content that an outcome leaves in place of other content. A text becomes that of the
outcome; a select takes the option that this text chooses, or none if it is empty, and keeps its
choice if there is no such option; a box is checked or not as the outcome asks. -/
def Content.taking (outcome : Outcome) (total : Float) : Content → Content
  | .text _ => .text (outcome.render total)
  | .select choice options =>
    if (outcome.render total).isEmpty then .select "" options
    else .select ((Answer.option? options (outcome.render total)).getD choice) options
  | .checkbox _ value => .checkbox (Derivation.flag outcome total) value

/-- An outcome that is taken once more leaves what it left before. -/
theorem Content.taking_taking (outcome : Outcome) (total : Float) (content : Content) :
    (content.taking outcome total).taking outcome total = content.taking outcome total := by
  cases content with
  | text _ | checkbox _ _ => rfl
  | select choice options =>
    by_cases empty : (outcome.render total).isEmpty = true
    · have once : ∀ choice, taking outcome total (.select choice options) = .select "" options :=
        fun _ => if_pos empty
      rw [once, once]
    · have once : ∀ choice, taking outcome total (.select choice options) =
          .select ((Answer.option? options (outcome.render total)).getD choice) options :=
        fun _ => if_neg empty
      rw [once, once]
      cases Answer.option? options (outcome.render total) <;> rfl

/-- An outcome leaves a box as it is exactly if that is the state it asks for. -/
theorem Content.eq_taking_iff {content : Content} {checked : Bool}
    (isBox : content.checked? = some checked) {outcome : Outcome} {total : Float} :
    content = content.taking outcome total ↔ checked = Derivation.flag outcome total := by
  cases content with
  | text _ | select _ _ => cases isBox
  | checkbox _ value => cases isBox; simp [taking]

namespace Sheet

theorem checked?_of_get? {sheet : Sheet} {name : String} {entry : Entry}
    (present : sheet.get? name = some entry) :
    sheet.checked? name = entry.content.checked? := by
  rw [checked?, content?_eq, present]
  rfl

/-- Writing an outcome puts into an entry what the outcome leaves there. -/
theorem write_eq_put {sheet : Sheet} {target : String} {entry : Entry}
    (present : sheet.get? target = some entry) (outcome : Outcome) (total : Float) :
    Derivation.write sheet target outcome total =
      sheet.put target entry (entry.content.taking outcome total) := by
  unfold Derivation.write
  simp only [checked?_of_get? present]
  cases holds : entry.content with
  | text words =>
    have takes : entry.content.withText? (outcome.render total) =
        some (.text (outcome.render total)) := by rw [holds]; rfl
    rw [setText_of_withText? present takes]
    rfl
  | checkbox checked value =>
    have takes : entry.content.withCheck? (Derivation.flag outcome total) =
        some (.checkbox (Derivation.flag outcome total) value) := by rw [holds]; rfl
    rw [setChecked_of_withCheck? present takes]
    rfl
  | select choice options =>
    unfold setText Content.taking
    simp only [present, holds, Content.checked?]
    by_cases empty : (outcome.render total).isEmpty = true
    · simp only [if_pos empty]
    · simp only [if_neg empty]
      cases Answer.option? options (outcome.render total) with
      | some option => rfl
      | none => exact (put_eq_self holds).symm

/-- What a target holds after an outcome was written to it. -/
theorem content?_write (sheet : Sheet) (target : String) (outcome : Outcome) (total : Float) :
    (Derivation.write sheet target outcome total).1.content? target =
      (sheet.content? target).map (Content.taking outcome total) := by
  cases present : sheet.get? target with
  | none =>
    have absent : (Derivation.write sheet target outcome total).1.get? target = none :=
      (write_derivation sheet target outcome total).refilled.absent target present
    rw [content?_eq, content?_eq, absent, present]
    rfl
  | some entry =>
    rw [write_eq_put present, content?_eq, content?_eq, get?_put present, if_pos rfl, present]
    rfl

end Sheet

/-! ### Ways that look at names -/

/-- Maps with the same names list them alike. -/
theorem NameMap.names_congr {Value : Type} {first second : NameMap Value}
    (same : ∀ name, first.contains name = second.contains name) : first.names = second.names := by
  have sameKeys : first.mapValues (fun _ _ => ()) = second.mapValues (fun _ _ => ()) := by
    refine NameMap.ext_get? fun name => ?_
    have contains := same name
    unfold NameMap.contains at contains
    rw [NameMap.get?_mapValues, NameMap.get?_mapValues]
    cases firstFound : first.get? name <;> cases secondFound : second.get? name <;>
      rw [firstFound, secondFound] at contains <;> first | rfl | cases contains
  have names : ∀ map : NameMap Value, (map.mapValues fun _ _ => ()).names = map.names := by
    intro map
    unfold NameMap.names NameMap.mapValues
    simp
  rw [← names first, sameKeys, names second]

/-- Whether a way to find controls looks at nothing of a sheet but the names. -/
def Tier.LooksAtNames (tier : Tier) : Prop :=
  ∀ catalog (first second : Sheet), (∀ name, first.contains name = second.contains name) →
    tier.find catalog first = tier.find catalog second

theorem looksAtNames_usual : ∀ tier ∈ Tiers.usual, tier.LooksAtNames := by
  refine List.forall_mem_cons.mpr ⟨?direct, List.forall_mem_cons.mpr
    ⟨?name, List.forall_mem_singleton.mpr ?shorthand⟩⟩
  case direct =>
    intro catalog first second same
    refine funext fun reference => ?_
    simp only [Tier.direct, Reference.byDirectName, same]
  case name =>
    intro catalog first second same
    refine funext fun reference => ?_
    simp only [Tier.name, Reference.byName, Reference.byQuestion, same, NameMap.names_congr same]
  case shorthand =>
    intro catalog first second same
    refine funext fun reference => ?_
    simp only [Tier.shorthand, Reference.byShorthand, same]

/-- Ways that look at names find the same on sheets with the same names. -/
theorem Reference.locate_congr {tiers : Tiers} {catalog : Catalog} {first second : Sheet}
    (look : ∀ tier ∈ tiers, tier.LooksAtNames)
    (same : ∀ name, first.contains name = second.contains name) :
    locate tiers catalog first = locate tiers catalog second := by
  funext reference
  unfold locate
  simp only
  split
  · rfl
  · induction tiers with
    | nil => rfl
    | cons tier rest inductionHypothesis =>
      obtain ⟨head, tail⟩ := List.forall_mem_cons.mp look
      rw [List.findSome?_cons, List.findSome?_cons, inductionHypothesis tail, byTier, byTier,
        head catalog first second same]

namespace Sheet

variable {tiers : Tiers} {catalog : Catalog} {sheet : Sheet}

/-! ### Sheets that calculations cannot tell apart -/

/-- Sheets with the same content in every control, the same names and the same checked boxes. -/
structure Alike (catalog : Catalog) (first second : Sheet) : Prop where
  control : ∀ control ∈ catalog.controls,
    first.content? control.name = second.content? control.name
  contains : ∀ name, first.contains name = second.contains name
  checked : ∀ name, first.checked? name = second.checked? name

/-- What is there and is no box is a control. -/
theorem control_of_not_box {derived : NameMap String} (owned : Owned catalog derived sheet)
    {name : String} (present : sheet.contains name = true) (noBox : sheet.checked? name = none) :
    ∃ control ∈ catalog.controls, control.name = name := by
  obtain ⟨entry, found⟩ := NameMap.contains_iff.mp present
  cases isDerived : entry.derived with
  | false => exact owned.entry name entry found isDerived
  | true =>
    obtain ⟨-, ⟨checked, value, held⟩, -⟩ := owned.option name entry found isDerived
    unfold Sheet.checked? Sheet.content? at noBox
    rw [found, Option.map_some, Option.bind_some, held] at noBox
    cases noBox

variable {derived : NameMap String} {first second : Sheet}

theorem Alike.locate_eq (alike : Alike catalog first second) (reference : String) :
    Reference.locate Tiers.usual catalog first reference =
      Reference.locate Tiers.usual catalog second reference :=
  congrFun (Reference.locate_congr looksAtNames_usual alike.contains) reference

theorem Alike.text?_eq (alike : Alike catalog first second) (owned : Owned catalog derived first)
    {name : String} (noBox : first.checked? name = none) :
    first.text? name = second.text? name := by
  unfold Sheet.text?
  cases present : first.contains name with
  | true =>
    obtain ⟨control, member, rfl⟩ := control_of_not_box owned present noBox
    rw [alike.control control member]
  | false =>
    have absent := alike.contains name
    rw [present, contains_eq_isSome_content?, eq_comm, Option.isSome_eq_false_iff,
      Option.isNone_iff_eq_none] at absent
    rw [contains_eq_isSome_content?, Option.isSome_eq_false_iff, Option.isNone_iff_eq_none]
      at present
    rw [present, absent]

theorem Alike.number_eq (alike : Alike catalog first second) (owned : Owned catalog derived first)
    (wellFormed : catalog.WellFormed) (name : String) :
    Reference.number catalog first name = Reference.number catalog second name := by
  unfold Reference.number
  rw [← alike.checked name]
  cases checked : first.checked? name with
  | none =>
    simp only
    unfold Reference.numberOf
    rw [alike.text?_eq owned checked]
  | some isChecked =>
    cases isChecked with
    | false => rfl
    | true =>
      simp only
      cases has : (catalog.control? name).bind Control.amount? with
      | none => rfl
      | some amount =>
        obtain ⟨box, found, amountOf⟩ := Option.bind_eq_some_iff.mp has
        obtain ⟨part, partIn, rfl, -⟩ := wellFormed.paired.amount box
          (Catalog.mem_of_control?_eq_some found).1 amount amountOf
        unfold Reference.numberOf Sheet.text?
        simp only
        rw [alike.control part partIn]

theorem Alike.value_eq (alike : Alike catalog first second) (owned : Owned catalog derived first)
    (wellFormed : catalog.WellFormed) (reference : String) :
    Reference.value Tiers.usual catalog first reference =
      Reference.value Tiers.usual catalog second reference := by
  unfold Reference.value
  rw [alike.locate_eq]
  split
  next name _ => exact alike.number_eq owned wellFormed name
  next => rfl

theorem Alike.decide?_eq (alike : Alike catalog first second) (owned : Owned catalog derived first)
    (wellFormed : catalog.WellFormed) (target : CalculationTarget) :
    Derivation.decide? Tiers.usual catalog first target =
      Derivation.decide? Tiers.usual catalog second target := by
  have values : Reference.value Tiers.usual catalog first =
      Reference.value Tiers.usual catalog second :=
    funext fun reference => alike.value_eq owned wellFormed reference
  have total : Derivation.total Tiers.usual catalog first =
      Derivation.total Tiers.usual catalog second := by
    funext terms
    cases terms with
    | nil => rfl
    | cons term rest =>
      unfold Derivation.total
      rw [values]
  unfold Derivation.decide? Derivation.holds?
  rw [total]

/-- A target changes both of two sheets that calculations cannot tell apart, or neither. -/
theorem Alike.attempt_snd_eq (alike : Alike catalog first second)
    (owned : Owned catalog derived first) (wellFormed : catalog.WellFormed)
    (target : CalculationTarget) :
    (attempt Tiers.usual catalog first target).2 =
      (attempt Tiers.usual catalog second target).2 := by
  unfold attempt
  rw [← alike.contains, ← alike.decide?_eq owned wellFormed]
  cases present : first.contains target.target with
  | false => rfl
  | true =>
    cases Derivation.decide? Tiers.usual catalog first target with
    | none => rfl
    | some decision =>
      obtain ⟨outcome, total⟩ := decision
      obtain ⟨entry, found⟩ := NameMap.contains_iff.mp present
      obtain ⟨other, otherFound⟩ := NameMap.contains_iff.mp (alike.contains _ ▸ present)
      show (Derivation.write first _ _ _).2 = (Derivation.write second _ _ _).2
      rw [write_eq_put found, write_eq_put otherFound, put_snd, put_snd]
      refine congrArg (!·) (decide_eq_decide.mpr ?_)
      cases checked : first.checked? target.target with
      | some isChecked =>
        have otherChecked := (alike.checked target.target).symm.trans checked
        rw [checked?_of_get? found] at checked
        rw [checked?_of_get? otherFound] at otherChecked
        rw [Content.eq_taking_iff checked, Content.eq_taking_iff otherChecked]
      | none =>
        obtain ⟨control, member, named⟩ := control_of_not_box owned present checked
        have same := alike.control control member
        rw [named, content?_eq, content?_eq, found, otherFound] at same
        have same : entry.content = other.content := Option.some.inj same
        rw [same]

/-- Calculations leave both of two sheets that they cannot tell apart alone, or neither. -/
theorem Alike.run_still_iff (alike : Alike catalog first second)
    (owned : Owned catalog derived first) (wellFormed : catalog.WellFormed) :
    (Derivation.run Tiers.usual catalog first).2 = [] ↔
      (Derivation.run Tiers.usual catalog second).2 = [] := by
  rw [run_still, run_still]
  refine forall₂_congr fun target _ => ?_
  rw [alike.attempt_snd_eq owned wellFormed]

end Sheet

end Questionnaire

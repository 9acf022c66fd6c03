/-
This file says what deciding rules again reports. The readers of a control tell exactly which rules
have to be decided again when it changes. While they are, every question has the decision of the old
sheet or that of the new one, and the questions reported are those that have a different one in the
new sheet and have it already. So each of them is reported once, however often its rule is decided.
-/
import Questionnaire.Proofs.Decision

namespace Questionnaire

namespace Visibility

variable {catalog : Catalog} {before after : Sheet} {state : Decisions × List Change}

/-! ### Toggled questions -/

/-- Whether a question comes into view or goes out of it, as a change says, from one sheet to
another. -/
def Toggles (catalog : Catalog) (before after : Sheet) (change : Change) : Prop :=
  (decideAll catalog before).get? change.question = some !change.shown ∧
    (decideAll catalog after).get? change.question = some change.shown

/-- A question is toggled if its decisions differ. -/
theorem toggles_of_ne (wellFormed : catalog.WellFormed) {change : Change}
    (different : (decideAll catalog before).get? change.question ≠ some change.shown)
    (shown : (decideAll catalog after).get? change.question = some change.shown) :
    Toggles catalog before after change := by
  refine ⟨?_, shown⟩
  rw [get?_decideAll wellFormed] at different shown ⊢
  obtain ⟨rule, found, -⟩ := Option.map_eq_some_iff.mp shown
  rw [found, Option.map_some] at different ⊢
  exact congrArg some (Bool.eq_not.mpr fun equal => different (congrArg some equal))

/-! ### Reports on the way -/

/-- Decisions on the way from one sheet to another, and the changes reported so far. -/
structure Noticed (catalog : Catalog) (before after : Sheet) (state : Decisions × List Change) :
    Prop where
  between : ∀ question, state.1.get? question = (decideAll catalog before).get? question ∨
    state.1.get? question = (decideAll catalog after).get? question
  reported : ∀ change, change ∈ state.2 ↔
    Toggles catalog before after change ∧ state.1.get? change.question = some change.shown
  once : (state.2.map Change.question).Nodup

theorem noticed_start (catalog : Catalog) (before after : Sheet) :
    Noticed catalog before after (decideAll catalog before, []) where
  between _ := .inl rfl
  reported change := by
    refine ⟨fun listed => absurd listed List.not_mem_nil, fun ⟨toggles, holds⟩ => ?_⟩
    have equal := Option.some.inj (toggles.1.symm.trans holds)
    exact absurd equal (by simp)
  once := List.nodup_nil

/-- A rule that is decided again is reported if it has the old decision and that differs. -/
theorem Noticed.renew (wellFormed : catalog.WellFormed)
    (noticed : Noticed catalog before after state) {rule : VisibilityRule}
    (member : rule ∈ catalog.rules) :
    Noticed catalog before after (Visibility.renew catalog after state rule) := by
  have decided : (decideAll catalog after).get? rule.question =
      some (ruleHolds catalog after rule) := by
    rw [get?_decideAll wellFormed, rule?_of_mem wellFormed member, Option.map_some]
  unfold Visibility.renew
  simp only
  split
  next already =>
    rw [NameMap.insert_eq_self already]
    exact noticed
  next pending =>
    have old := (noticed.between rule.question).resolve_right fun new => pending (new.trans decided)
    have toggles : Toggles catalog before after ⟨rule.question, ruleHolds catalog after rule⟩ :=
      toggles_of_ne wellFormed (fun same => pending (old.trans same)) decided
    have unreported : ∀ change ∈ state.2, change.question ≠ rule.question := by
      intro change listed same
      obtain ⟨⟨-, shown⟩, holds⟩ := (noticed.reported change).mp listed
      rw [same] at shown holds
      exact pending (holds.trans (shown.symm.trans decided))
    constructor
    case between =>
      intro question
      rw [NameMap.get?_insert]
      split
      next same => exact .inr (same ▸ decided.symm)
      next => exact noticed.between question
    case reported =>
      intro change
      rw [List.mem_append, List.mem_singleton, NameMap.get?_insert]
      constructor
      · rintro (listed | rfl)
        · rw [if_neg (unreported change listed).symm]
          exact (noticed.reported change).mp listed
        · exact ⟨toggles, if_pos rfl⟩
      · rintro ⟨isToggled, holds⟩
        split at holds
        next same =>
          obtain ⟨question, shown⟩ := change
          subst same
          exact .inr (congrArg _ (Option.some.inj holds).symm)
        next => exact .inl ((noticed.reported change).mpr ⟨isToggled, holds⟩)
    case once =>
      rw [List.map_append, List.nodup_append]
      refine ⟨noticed.once, List.nodup_singleton _, fun question listed other isRule equal => ?_⟩
      obtain ⟨change, changeIn, rfl⟩ := List.mem_map.mp listed
      exact unreported change changeIn (equal.trans (List.mem_singleton.mp isRule))

theorem Noticed.foldl_renew (wellFormed : catalog.WellFormed)
    (noticed : Noticed catalog before after state) {rules : List VisibilityRule}
    (subset : rules ⊆ catalog.rules) :
    Noticed catalog before after (rules.foldl (Visibility.renew catalog after) state) := by
  induction rules generalizing state with
  | nil => exact noticed
  | cons rule rest inductionHypothesis =>
    obtain ⟨member, restSubset⟩ := List.cons_subset.mp subset
    exact inductionHypothesis (noticed.renew wellFormed member) restSubset

/-! ### Reports of all controls -/

/-- The rules that read a control, by their positions. -/
def readersOf (catalog : Catalog) (control : String) : List VisibilityRule :=
  (catalog.dependentsOf control).filterMap fun position => catalog.rules[position]?

theorem readersOf_subset (catalog : Catalog) (control : String) :
    readersOf catalog control ⊆ catalog.rules := by
  intro rule listed
  obtain ⟨position, -, found⟩ := List.mem_filterMap.mp listed
  exact List.mem_of_getElem? found

/-- Changes reported before stay in front. -/
theorem foldl_renew_eq (rules : List VisibilityRule) (state : Decisions × List Change) :
    rules.foldl (renew catalog after) state =
      ((rules.foldl (renew catalog after) (state.1, [])).1,
        state.2 ++ (rules.foldl (renew catalog after) (state.1, [])).2) := by
  induction rules generalizing state with
  | nil => exact Prod.ext rfl (List.append_nil _).symm
  | cons rule rest inductionHypothesis =>
    rw [List.foldl_cons, List.foldl_cons, inductionHypothesis,
      inductionHypothesis (renew catalog after (state.1, []) rule)]
    unfold renew
    simp only
    split
    next => rfl
    next => rw [List.nil_append, ← List.append_assoc]

/-- Notifying of one control after others decides its readers again, one by one. -/
theorem notifyNext_eq (state : Decisions × List Change) (control : String) :
    notifyNext catalog after state control =
      (readersOf catalog control).foldl (renew catalog after) state :=
  (foldl_renew_eq _ state).symm

theorem Noticed.foldl_notifyNext (wellFormed : catalog.WellFormed)
    (noticed : Noticed catalog before after state) (controls : List String) :
    Noticed catalog before after (controls.foldl (notifyNext catalog after) state) := by
  induction controls generalizing state with
  | nil => exact noticed
  | cons control rest inductionHypothesis =>
    refine inductionHypothesis ?_
    rw [notifyNext_eq]
    exact noticed.foldl_renew wellFormed (readersOf_subset catalog control)

theorem noticed_notifyAll (wellFormed : catalog.WellFormed) (before after : Sheet)
    (controls : List String) :
    Noticed catalog before after (notifyAll catalog after (decideAll catalog before) controls) :=
  (noticed_start catalog before after).foldl_notifyNext wellFormed controls

/-- A rule is decided alike on two sheets that say the same of all controls that have it among their
readers. And when the readers of some controls are decided again on a sheet, in whatever order and
however often a control is named, and the sheet says the same as another one of all controls that
are not named, then the decisions of the other sheet become those of this one, and the questions
that come into view or go out of it are reported, each once, and no others. -/
theorem notices_of_build {form : Form} (built : Catalog.build form = .ok catalog)
    (before after : Sheet) :
    (∀ position rule, catalog.rules[position]? = some rule →
      (∀ control, position ∈ catalog.dependentsOf control → SaysSame before after control) →
        ruleHolds catalog before rule = ruleHolds catalog after rule) ∧
    ∀ controls : List String, (∀ control, control ∉ controls → SaysSame before after control) →
      let noticed := notifyAll catalog after (decideAll catalog before) controls
      noticed.1 = decideAll catalog after ∧
        (∀ change, change ∈ noticed.2 ↔ Toggles catalog before after change) ∧
        (noticed.2.map Change.question).Nodup := by
  have wellFormed := Catalog.wellFormed_of_build built
  refine ⟨fun position rule found same => ?_, fun controls same => ?_⟩
  · refine ruleHolds_congr fun control reads => same control ?_
    exact (wellFormed.readers position control).mpr ⟨rule, found, reads⟩
  · obtain ⟨-, reported, once⟩ := noticed_notifyAll wellFormed before after controls
    have decided := notifyAll_decideAll wellFormed same
    refine ⟨decided, fun change => (reported change).trans ?_, once⟩
    rw [decided]
    exact ⟨And.left, fun toggles => ⟨toggles, toggles.2⟩⟩

/-- The box on which the walks depend is unchecked, and named twice; the walks are reported once. An
answer that no rule reads leaves the rule as it is decided. -/
theorem notices_of_survey :
    let before := (Session.run Session.surveyCatalog [.setChecked "pets_dog" true]).sheet
    let after := before.insert "pets_dog" ⟨.checkbox false "Dog", false, false⟩
    let remarked := before.insert "remarks" ⟨.text "3", false, false⟩
    let noticed := notifyAll Session.surveyCatalog after (decideAll Session.surveyCatalog before)
      ["pets_dog", "remarks", "pets_dog"]
    noticed.2 = [⟨"walks", false⟩] ∧ noticed.1 = decideAll Session.surveyCatalog after ∧
      ∃ rule, Session.surveyCatalog.rules[0]? = some rule ∧
        ruleHolds Session.surveyCatalog before rule =
          ruleHolds Session.surveyCatalog remarked rule := by
  intro before after remarked noticed
  have spared : ∀ {name control : String} {entry : Entry}, control ≠ name →
      SaysSame before (before.insert name entry) control := by
    intro name control entry different
    refine saysSame_of_content? ?_
    rw [Sheet.content?_eq, Sheet.content?_eq, NameMap.get?_insert, if_neg different.symm]
  have isRule : Session.surveyCatalog.rules[0]? =
      some ⟨"walks", [⟨"pets", "Dog"⟩]⟩ := by decide +kernel
  obtain ⟨-, notified⟩ := notices_of_build Session.build_survey before after
  obtain ⟨decided, -, -⟩ := notified ["pets_dog", "remarks", "pets_dog"] fun control unlisted =>
    spared fun equal => unlisted (equal ▸ List.mem_cons_self)
  refine ⟨by decide +kernel, decided, _, isRule, ?_⟩
  refine (notices_of_build Session.build_survey before remarked).1 0 _ isRule ?_
  intro control reads
  refine spared ?_
  rintro rfl
  exact absurd reads (by decide +kernel)

end Visibility

end Questionnaire

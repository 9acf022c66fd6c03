/-
This file proves that the decisions kept by a session are those that deciding anew would give. A
rule reads nothing but the answers to the questions of its conditions, and the catalog lists for
every control the rules that read it. So when the rules that read one of several controls are
decided again, and the sheet has changed at most at these controls, all decisions are those of the
new sheet. The changes that are reported on the way lead from the old decisions to the new ones.
-/
import Questionnaire.Proofs.Run

namespace Questionnaire

namespace Visibility

variable {catalog : Catalog} {sheet before after : Sheet} {decisions : Decisions}

/-! ### What a rule reads -/

/-- Whether a rule reads a control. -/
def Reads (catalog : Catalog) (rule : VisibilityRule) (control : String) : Prop :=
  ∃ condition ∈ rule.conditions, control ∈ catalog.sourcesOf condition

/-- Whether two sheets say the same of a control: its text and whether it is checked, or that it is
not there. -/
def SaysSame (before after : Sheet) (control : String) : Prop :=
  before.text? control = after.text? control ∧ before.checked? control = after.checked? control

theorem saysSame_of_content? {control : String}
    (same : before.content? control = after.content? control) : SaysSame before after control :=
  ⟨Sheet.text?_congr same, Sheet.checked?_congr same⟩

theorem SaysSame.contains {control : String} (same : SaysSame before after control) :
    before.contains control = after.contains control := by
  have live : ∀ sheet : Sheet, sheet.contains control = (sheet.text? control).isSome := by
    intro sheet
    unfold Sheet.text?
    rw [Option.isSome_map, Sheet.contains_eq_isSome_content?]
  rw [live, live, same.1]

theorem conditionHolds?_congr {condition : Condition}
    (same : ∀ name ∈ catalog.sourcesOf condition, SaysSame before after name) :
    conditionHolds? catalog before condition = conditionHolds? catalog after condition := by
  unfold Catalog.sourcesOf at same
  unfold conditionHolds?
  cases found : catalog.resolve? condition.question with
  | none => rfl
  | some source =>
    rw [found] at same
    have live : (source.answers.any fun name => before.contains name) =
        source.answers.any fun name => after.contains name := by
      rw [Bool.eq_iff_iff, List.any_eq_true, List.any_eq_true]
      refine exists_congr fun name => and_congr_right fun member => ?_
      rw [(same name member).contains]
    have texts : ∀ names ⊆ source.answers,
        names.filterMap before.text? = names.filterMap after.text? :=
      fun names subset => List.filterMap_congr fun name member => (same name (subset member)).1
    have values : before.checkedValues source = after.checkedValues source := by
      unfold Sheet.checkedValues
      have checked : (source.answers.filter fun name => before.checked? name == some true) =
          source.answers.filter fun name => after.checked? name == some true := by
        refine List.filter_congr fun name member => ?_
        rw [(same name member).2]
      rw [checked]
      exact texts _ (List.filter_subset_self _)
    have answer : before.answerText source = after.answerText source := by
      unfold Sheet.answerText
      rw [texts _ (List.Subset.refl _)]
    simp only [Option.bind_some, live, values, answer]

/-- A rule is decided from the controls that it reads. -/
theorem ruleHolds_congr {rule : VisibilityRule}
    (same : ∀ name, Reads catalog rule name → SaysSame before after name) :
    ruleHolds catalog before rule = ruleHolds catalog after rule := by
  have conditions : rule.conditions.filterMap (conditionHolds? catalog before) =
      rule.conditions.filterMap (conditionHolds? catalog after) :=
    List.filterMap_congr fun condition member =>
      conditionHolds?_congr fun name source => same name ⟨condition, member, source⟩
  unfold ruleHolds
  rw [conditions]

/-! ### Deciding anew -/

/-- Deciding anew gives the question of every rule its decision, and no other question one. -/
theorem get?_decideAll (wellFormed : catalog.WellFormed) (sheet : Sheet) (question : String) :
    (decideAll catalog sheet).get? question =
      (catalog.rule? question).map (ruleHolds catalog sheet) := by
  unfold decideAll
  rw [NameMap.get?_ofList]
  · unfold Catalog.rule?
    induction catalog.rules with
    | nil => rfl
    | cons rule rest inductionHypothesis =>
      rw [List.map_cons, NameMap.find]
      by_cases equal : rule.question = question
      · rw [if_pos equal, List.find?_cons_of_pos (by simpa using equal)]
        rfl
      · rw [if_neg equal, List.find?_cons_of_neg (by simpa using equal)]
        exact inductionHypothesis
  · rw [List.map_map]
    exact wellFormed.owners

/-- Only the controls of a catalog are read. -/
theorem decideAll_congr (wellFormed : catalog.WellFormed)
    (same : ∀ control ∈ catalog.controls,
      before.content? control.name = after.content? control.name) :
    decideAll catalog before = decideAll catalog after := by
  refine NameMap.ext_get? fun question => ?_
  rw [get?_decideAll wellFormed, get?_decideAll wellFormed]
  refine congrArg (catalog.rule? question).map ?_
  funext rule
  refine ruleHolds_congr fun name reads => ?_
  obtain ⟨condition, -, source⟩ := reads
  unfold Catalog.sourcesOf at source
  split at source
  next entry found =>
    have isQuestion : entry ∈ catalog.questions := by
      unfold Catalog.resolve? Catalog.question? at found
      split at found
      next direct => cases found; exact List.mem_of_find?_eq_some direct
      next =>
        obtain ⟨id, -, bySlug⟩ := Option.bind_eq_some_iff.mp found
        exact List.mem_of_find?_eq_some bySlug
    obtain ⟨control, member, rfl⟩ :=
      List.mem_map.mp ((wellFormed.answers entry isQuestion).subset source)
    exact saysSame_of_content? (same control member)
  next => cases source

theorem rule?_of_mem (wellFormed : catalog.WellFormed) {rule : VisibilityRule}
    (member : rule ∈ catalog.rules) : catalog.rule? rule.question = some rule :=
  Catalog.find?_of_mem wellFormed.owners member

/-! ### Deciding again -/

/-- Decisions on the questions that have a rule, some of which are those of a sheet. -/
structure Renewed (catalog : Catalog) (sheet : Sheet) (done : VisibilityRule → Prop)
    (decisions : Decisions) : Prop where
  absent : ∀ question, catalog.rule? question = none → decisions.get? question = none
  current : ∀ rule ∈ catalog.rules, done rule →
    decisions.get? rule.question = some (ruleHolds catalog sheet rule)

/-- Decisions that are all those of a sheet are what deciding anew gives. -/
theorem Renewed.eq_decideAll (wellFormed : catalog.WellFormed) {done : VisibilityRule → Prop}
    (renewed : Renewed catalog sheet done decisions) (all : ∀ rule ∈ catalog.rules, done rule) :
    decisions = decideAll catalog sheet := by
  refine NameMap.ext_get? fun question => ?_
  rw [get?_decideAll wellFormed]
  cases found : catalog.rule? question with
  | none => exact renewed.absent question found
  | some rule =>
    have member := List.mem_of_find?_eq_some found
    have named : rule.question = question := by simpa using List.find?_some found
    rw [← named]
    exact renewed.current rule member (all rule member)

/-- The decisions of one sheet are those of another as far as rules read the same in both. -/
theorem renewed_decideAll (wellFormed : catalog.WellFormed) {names : List String}
    (agree : ∀ name, name ∉ names → SaysSame before after name) :
    Renewed catalog after (fun rule => ∀ name ∈ names, ¬Reads catalog rule name)
      (decideAll catalog before) where
  absent question none := by rw [get?_decideAll wellFormed, none]; rfl
  current rule member unread := by
    rw [get?_decideAll wellFormed, rule?_of_mem wellFormed member, Option.map_some]
    exact congrArg some (ruleHolds_congr fun name reads =>
      agree name fun listed => unread name listed reads)

theorem renew_fst (state : Decisions × List Change) (rule : VisibilityRule) :
    (renew catalog sheet state rule).1 =
      state.1.insert rule.question (ruleHolds catalog sheet rule) := by
  unfold renew
  simp only
  split <;> rfl

theorem Renewed.renew (wellFormed : catalog.WellFormed) {done : VisibilityRule → Prop}
    {state : Decisions × List Change} (renewed : Renewed catalog sheet done state.1)
    {rule : VisibilityRule} (member : rule ∈ catalog.rules) :
    Renewed catalog sheet (fun other => done other ∨ other = rule)
      (Visibility.renew catalog sheet state rule).1 := by
  rw [renew_fst]
  constructor
  case absent =>
    intro question none
    rw [NameMap.get?_insert, if_neg]
    · exact renewed.absent question none
    · rintro rfl
      rw [rule?_of_mem wellFormed member] at none
      cases none
  case current =>
    intro other otherIn isDone
    rw [NameMap.get?_insert]
    split
    next same =>
      have found := rule?_of_mem wellFormed member
      rw [same, rule?_of_mem wellFormed otherIn] at found
      rw [Option.some.inj found]
    next different =>
      refine renewed.current other otherIn (isDone.resolve_right ?_)
      rintro rfl
      exact different rfl

theorem Renewed.foldl_renew (wellFormed : catalog.WellFormed) {done : VisibilityRule → Prop}
    {state : Decisions × List Change} (renewed : Renewed catalog sheet done state.1)
    {rules : List VisibilityRule} (subset : rules ⊆ catalog.rules) :
    Renewed catalog sheet (fun other => done other ∨ other ∈ rules)
      (rules.foldl (Visibility.renew catalog sheet) state).1 := by
  induction rules generalizing state done with
  | nil =>
    refine ⟨renewed.absent, fun rule member isDone => renewed.current rule member ?_⟩
    simpa using isDone
  | cons rule rest inductionHypothesis =>
    obtain ⟨member, restSubset⟩ := List.cons_subset.mp subset
    obtain ⟨absent, current⟩ := inductionHypothesis (renewed.renew wellFormed member) restSubset
    refine ⟨absent, fun other otherIn isDone => current other otherIn ?_⟩
    rwa [List.mem_cons, ← or_assoc] at isDone

/-- Notifying decides the rules that read the control again. -/
theorem Renewed.notify (wellFormed : catalog.WellFormed) {done : VisibilityRule → Prop}
    (renewed : Renewed catalog sheet done decisions) (control : String) :
    Renewed catalog sheet (fun rule => done rule ∨ Reads catalog rule control)
      (Visibility.notify catalog sheet decisions control).1 := by
  have reads : ∀ rule, rule ∈ (catalog.dependentsOf control).filterMap
      (fun position => catalog.rules[position]?) ↔
        rule ∈ catalog.rules ∧ Reads catalog rule control := by
    intro rule
    rw [List.mem_filterMap]
    constructor
    · rintro ⟨position, listed, found⟩
      obtain ⟨other, otherFound, condition, conditionIn, source⟩ :=
        (wellFormed.readers position control).mp listed
      rw [found] at otherFound
      cases otherFound
      exact ⟨List.mem_of_getElem? found, condition, conditionIn, source⟩
    · rintro ⟨member, reads⟩
      obtain ⟨position, found⟩ := List.mem_iff_getElem?.mp member
      exact ⟨position, (wellFormed.readers position control).mpr ⟨rule, found, reads⟩, found⟩
  have start : Renewed catalog sheet done (decisions, ([] : List Change)).1 := renewed
  obtain ⟨absent, current⟩ :=
    start.foldl_renew wellFormed fun rule listed => ((reads rule).mp listed).1
  refine ⟨absent, fun rule member isDone => current rule member ?_⟩
  exact isDone.imp_right fun isRead => (reads rule).mpr ⟨member, isRead⟩

/-- Decides the rules that read one control again, and adds the changes to earlier ones. -/
def notifyNext (catalog : Catalog) (sheet : Sheet) (state : Decisions × List Change)
    (control : String) : Decisions × List Change :=
  ((notify catalog sheet state.1 control).1, state.2 ++ (notify catalog sheet state.1 control).2)

theorem Renewed.foldl_notifyNext (wellFormed : catalog.WellFormed) {done : VisibilityRule → Prop}
    {state : Decisions × List Change} (renewed : Renewed catalog sheet done state.1)
    (controls : List String) :
    Renewed catalog sheet (fun rule => done rule ∨ ∃ name ∈ controls, Reads catalog rule name)
      (controls.foldl (notifyNext catalog sheet) state).1 := by
  induction controls generalizing state done with
  | nil =>
    refine ⟨renewed.absent, fun rule member isDone => renewed.current rule member ?_⟩
    exact isDone.resolve_right fun ⟨_, isIn, _⟩ => nomatch isIn
  | cons control rest inductionHypothesis =>
    have next : Renewed catalog sheet _ (notifyNext catalog sheet state control).1 :=
      renewed.notify wellFormed control
    obtain ⟨absent, current⟩ := inductionHypothesis next
    refine ⟨absent, fun rule member isDone => current rule member ?_⟩
    rcases isDone with before | ⟨name, isIn, reads⟩
    · exact .inl (.inl before)
    · rcases List.mem_cons.mp isIn with rfl | inRest
      · exact .inl (.inr reads)
      · exact .inr ⟨name, inRest, reads⟩

/-- Deciding again what reads one of the changed controls is as good as deciding anew. -/
theorem notifyAll_decideAll (wellFormed : catalog.WellFormed) {names : List String}
    (agree : ∀ name, name ∉ names → SaysSame before after name) :
    (notifyAll catalog after (decideAll catalog before) names).1 = decideAll catalog after := by
  have start : Renewed catalog after _ (decideAll catalog before, ([] : List Change)).1 :=
    renewed_decideAll wellFormed agree
  refine (start.foldl_notifyNext wellFormed names).eq_decideAll wellFormed fun rule _ => ?_
  by_cases reads : ∃ name ∈ names, Reads catalog rule name
  · exact .inr reads
  · exact .inl fun name listed isRead => reads ⟨name, listed, isRead⟩

/-- So is deciding all rules again. -/
theorem refresh_decideAll (wellFormed : catalog.WellFormed) (before after : Sheet) :
    (refresh catalog after (decideAll catalog before)).1 = decideAll catalog after := by
  have start : Renewed catalog after (fun _ => False)
      (decideAll catalog before, ([] : List Change)).1 := by
    refine ⟨fun question none => ?_, fun _ _ never => never.elim⟩
    rw [get?_decideAll wellFormed, none]
    rfl
  exact (start.foldl_renew wellFormed (List.Subset.refl _)).eq_decideAll wellFormed
    fun rule member => .inr member

/-! ### Reported changes -/

/-- Decisions after changes, one after the other. -/
def replay (decisions : Decisions) (changes : List Change) : Decisions :=
  changes.foldl (fun decisions change => decisions.insert change.question change.shown) decisions

theorem replay_append (decisions : Decisions) (first second : List Change) :
    replay decisions (first ++ second) = replay (replay decisions first) second :=
  List.foldl_append

/-- Deciding a rule again keeps the changes leading to the decisions. -/
theorem replay_renew {state : Decisions × List Change} (leads : replay decisions state.2 = state.1)
    (rule : VisibilityRule) :
    replay decisions (renew catalog sheet state rule).2 = (renew catalog sheet state rule).1 := by
  unfold renew
  simp only
  split
  next same => rw [leads, NameMap.insert_eq_self same]
  next => rw [replay_append, leads]; rfl

theorem replay_foldl_renew {state : Decisions × List Change}
    (leads : replay decisions state.2 = state.1) (rules : List VisibilityRule) :
    replay decisions (rules.foldl (renew catalog sheet) state).2 =
      (rules.foldl (renew catalog sheet) state).1 := by
  induction rules generalizing state with
  | nil => exact leads
  | cons rule rest inductionHypothesis => exact inductionHypothesis (replay_renew leads rule)

theorem replay_notify (decisions : Decisions) (control : String) :
    replay decisions (notify catalog sheet decisions control).2 =
      (notify catalog sheet decisions control).1 :=
  replay_foldl_renew rfl _

theorem replay_foldl_notifyNext {state : Decisions × List Change}
    (leads : replay decisions state.2 = state.1) (controls : List String) :
    replay decisions (controls.foldl (notifyNext catalog sheet) state).2 =
      (controls.foldl (notifyNext catalog sheet) state).1 := by
  induction controls generalizing state with
  | nil => exact leads
  | cons control rest inductionHypothesis =>
    refine inductionHypothesis ?_
    unfold notifyNext
    rw [replay_append, leads, replay_notify]

/-- The changes that notifying reports lead from the decisions before to those after. -/
theorem replay_notifyAll (catalog : Catalog) (sheet : Sheet) (decisions : Decisions)
    (controls : List String) :
    replay decisions (notifyAll catalog sheet decisions controls).2 =
      (notifyAll catalog sheet decisions controls).1 :=
  replay_foldl_notifyNext rfl controls

end Visibility

namespace Session

open Visibility (decideAll replay)

variable {catalog : Catalog}

/-! ### Decisions along a run -/

/-- Whether the kept decisions of a session are those that deciding anew would give. -/
structure IsDecided (session : Session) : Prop where
  owned : session.IsOwned
  decided : session.decisions = decideAll session.catalog session.sheet

/-- Carrying a change keeps the decisions right, and reports how they change. -/
theorem IsDecided.carry {session : Session} (wellFormed : session.catalog.WellFormed)
    (decided : session.IsDecided) {control : String} {result : Sheet × Bool}
    (written : Sheet.Write session.sheet control result) :
    (session.carry result.1 control).1.IsDecided ∧
      replay session.decisions (session.carry result.1 control).2.visibility =
        (session.carry result.1 control).1.decisions := by
  have touched := Sync.agreeOff_propagate_write wellFormed decided.owned written
  have first := Visibility.notifyAll_decideAll wellFormed fun name unlisted =>
    Visibility.saysSame_of_content? (touched name unlisted)
  rw [← decided.decided] at first
  refine ⟨⟨decided.owned.carry wellFormed written, ?_⟩, ?_⟩
  · unfold Session.carry
    simp only
    split
    next =>
      show (Visibility.notifyAll _ _ (Visibility.notifyAll _ _ _ _).1 _).1 = _
      rw [first]
      exact Visibility.notifyAll_decideAll wellFormed fun name unlisted =>
        Visibility.saysSame_of_content? (Sheet.agreeOff_derivation_run _ _ _ name unlisted)
    next => exact first
  · unfold Session.carry
    simp only
    split
    next =>
      show replay _ ((Visibility.notifyAll _ _ _ _).2 ++ (Visibility.notifyAll _ _ _ _).2) = _
      rw [Visibility.replay_append, Visibility.replay_notifyAll, Visibility.replay_notifyAll]
    next => exact Visibility.replay_notifyAll _ _ _ _

theorem kept_isDecided (wellFormed : catalog.WellFormed) : Kept catalog IsDecided where
  start := ⟨isOwned_start wellFormed, rfl⟩
  carry same decided written := (decided.carry (same ▸ wellFormed) written).1
  recalculate := by
    intro session same decided
    refine ⟨(kept_isOwned wellFormed).recalculate same decided.owned, ?_⟩
    show (Visibility.notifyAll _ _ session.decisions _).1 = _
    rw [decided.decided]
    exact Visibility.notifyAll_decideAll (same ▸ wellFormed) fun name unlisted =>
      Visibility.saysSame_of_content? (Sheet.agreeOff_derivation_run _ _ _ name unlisted)
  rehydrate := by
    intro session snapshot same decided
    refine ⟨(kept_isOwned wellFormed).rehydrate snapshot same decided.owned, ?_⟩
    show (Visibility.refresh _ _ session.decisions).1 = _
    rw [decided.decided]
    exact Visibility.refresh_decideAll (same ▸ wellFormed) _ _
  withTiers := by
    intro session tiers same decided
    refine ⟨(kept_isOwned wellFormed).withTiers tiers same decided.owned, ?_⟩
    show (Visibility.refresh _ _ session.decisions).1 = _
    rw [decided.decided]
    exact Visibility.refresh_decideAll (same ▸ wellFormed) _ _
  beside _ _ _ _ decided := ⟨decided.owned, decided.decided⟩

/-- An edit that is taken is reported with the changes that it makes to the decisions. -/
theorem IsDecided.afterWrite {session : Session} (wellFormed : session.catalog.WellFormed)
    (decided : session.IsDecided) {control : String} {result : Sheet × Bool}
    (written : Sheet.Write session.sheet control result) :
    replay session.decisions (session.afterWrite control result).2.visibility =
      (session.afterWrite control result).1.decisions := by
  unfold Session.afterWrite
  split
  next => exact (decided.carry wellFormed written).2
  next => rfl

theorem isDecided_run (wellFormed : catalog.WellFormed) (operations : List Operation) :
    (run catalog operations).catalog = catalog ∧ (run catalog operations).IsDecided :=
  (kept_isDecided wellFormed).run operations

/-- In every session that a run reaches, the kept decisions are those that deciding all rules anew
gives; and the changes of view that an edit reports, made one after the other, lead from the
decisions before it to those after it. -/
theorem decisions_of_run {form : Form} (built : Catalog.build form = .ok catalog)
    (operations : List Operation) :
    let session := run catalog operations
    session.decisions = decideAll catalog session.sheet ∧
    (∀ control text after report, session.setValue control text = .ok (after, report) →
      replay session.decisions report.visibility = after.decisions) ∧
    ∀ control checked after report, session.setChecked control checked = .ok (after, report) →
      replay session.decisions report.visibility = after.decisions := by
  have wellFormed := Catalog.wellFormed_of_build built
  obtain ⟨same, decided⟩ := isDecided_run wellFormed operations
  generalize run catalog operations = session at same decided
  have sessionFormed : session.catalog.WellFormed := same ▸ wellFormed
  have taken : ∀ {written : Except Fault (Sheet × Bool)} {control after report},
      written.map (session.afterWrite control) = .ok (after, report) →
      (∀ result, written = .ok result → Sheet.Write session.sheet control result) →
        replay session.decisions report.visibility = after.decisions := by
    intro written control after report equal isWrite
    cases written with
    | error fault => cases equal
    | ok result =>
      have leads := decided.afterWrite sessionFormed (isWrite result rfl)
      rwa [show session.afterWrite control result = (after, report) from Except.ok.inj equal]
        at leads
  refine ⟨same ▸ decided.decided, fun control text after report edited => ?_,
    fun control checked after report edited => ?_⟩
  · have mapped : (session.writeText control text).map (session.afterWrite control) =
        .ok (after, report) := edited
    exact taken mapped fun result written => write_of_writeText written
  · exact taken edited fun result written => Sheet.write_of_setChecked written

/-- Checking the box that excludes another one hides the question that depends on the other. -/
theorem decisions_of_exclusion :
    let session := run surveyCatalog [.setChecked "pets_dog" true]
    ∃ after report, session.setChecked "pets_none" true = .ok (after, report) ∧
      report.visibility = [⟨"walks", false⟩] ∧ session.decisions.get? "walks" = some true ∧
      replay session.decisions report.visibility = after.decisions := by
  have isOk : ((run surveyCatalog [.setChecked "pets_dog" true]).setChecked "pets_none"
      true).toOption.isSome = true := by decide +kernel
  have edited := Catalog.eq_ok_get isOk
  refine ⟨_, _, edited, by decide +kernel, by decide +kernel, ?_⟩
  exact (decisions_of_run build_survey [.setChecked "pets_dog" true]).2.2 _ _ _ _ edited

end Session

end Questionnaire

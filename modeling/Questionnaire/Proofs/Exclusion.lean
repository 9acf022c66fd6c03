/-
This file says what the change of an option comes to in its group. The boxes that it excludes are
unchecked in one visit; each of them then waits in the queue, but it is unchecked, and so all that
its own visit does is to hide and empty its amount. Nothing is asked of the sheet but that it holds
the controls: any box may be checked, and any control hidden.
-/
import Questionnaire.Proofs.Partition
import Questionnaire.Proofs.Repetition

namespace Questionnaire

/-! ### Entries that follow -/

/-- An entry without its value; a box is unchecked. -/
def Entry.emptied (entry : Entry) : Entry := { entry with content := entry.content.cleared }

/-- The entry of an amount after its box was visited: shown as it is if the box is checked, and
otherwise hidden and emptied. -/
def Entry.following (checked : Bool) (entry : Entry) : Entry :=
  if checked then { entry with hidden := false } else { entry.emptied with hidden := true }

theorem Entry.following_following (entry : Entry) :
    (entry.following false).following false = entry.following false := by
  cases entry with
  | mk content hidden derived => cases content <;> rfl

/-- Whether a sheet holds the controls of a catalog, each of its kind. -/
def Sheet.Holds (sheet : Sheet) (catalog : Catalog) : Prop :=
  ∀ control ∈ catalog.controls,
    (sheet.content? control.name).map Content.cleared = some control.kind.blank

instance (sheet : Sheet) (catalog : Catalog) : Decidable (sheet.Holds catalog) :=
  inferInstanceAs (Decidable (∀ control ∈ catalog.controls,
    (sheet.content? control.name).map Content.cleared = some control.kind.blank))

/-- Only a box is checked or unchecked. -/
theorem Sheet.Holds.checked?_eq_none {sheet : Sheet} {catalog : Catalog}
    (holds : sheet.Holds catalog) {control : Control} (member : control ∈ catalog.controls)
    (noBox : control.isBox = false) : sheet.checked? control.name = none := by
  obtain ⟨content, held, blank⟩ := Option.map_eq_some_iff.mp (holds control member)
  unfold Sheet.checked?
  rw [held, Option.bind_some]
  unfold Control.isBox at noBox
  cases kind : control.kind with
  | checkbox _ _ _ => rw [kind] at noBox; cases noBox
  | text | select _ _ | amount _ | echo _ =>
    rw [kind] at blank
    cases content <;> first | rfl | cases blank

theorem Sheet.Holds.exists_checked? {sheet : Sheet} {catalog : Catalog}
    (holds : sheet.Holds catalog) {box : Control} (member : box ∈ catalog.controls)
    (isBox : box.isBox = true) : ∃ checked, sheet.checked? box.name = some checked := by
  obtain ⟨content, held, blank⟩ := Option.map_eq_some_iff.mp (holds box member)
  obtain ⟨value, amount, exclusive, kind⟩ := Control.exists_kind_of_isBox isBox
  unfold Sheet.checked?
  rw [held, Option.bind_some]
  rw [kind] at blank
  cases content with
  | checkbox checked _ => exact ⟨checked, rfl⟩
  | text _ => cases blank
  | select _ _ => cases blank

namespace Sync

variable {catalog : Catalog} {state : State} {origin : String}

/-! ### Unchecking -/

theorem uncheck_of_checked {name : String} (checked : state.sheet.checked? name = some true) :
    ∃ entry, state.sheet.get? name = some entry ∧ state.uncheck name =
      { state with
        sheet := state.sheet.insert name entry.emptied, changed := state.changed ++ [name] } := by
  unfold Sheet.checked? at checked
  obtain ⟨content, held, isChecked⟩ := Option.bind_eq_some_iff.mp checked
  obtain ⟨entry, present, rfl⟩ := Option.map_eq_some_iff.mp held
  refine ⟨entry, present, ?_⟩
  cases holds : entry.content with
  | text _ => rw [holds] at isChecked; cases isChecked
  | select _ _ => rw [holds] at isChecked; cases isChecked
  | checkbox old value =>
    rw [holds] at isChecked
    cases isChecked
    have takes : entry.content.withCheck? false = some (.checkbox false value) := by
      rw [holds]
      rfl
    have changes : entry.content ≠ .checkbox false value := by
      rw [holds]
      simp
    unfold State.uncheck
    rw [Sheet.setChecked_of_withCheck? present takes]
    unfold Sheet.put Entry.emptied
    rw [if_neg changes, holds]
    rfl

/-- Whether a name is the one of a checked box that a box excludes. -/
def ousts (catalog : Catalog) (box : Control) (sheet : Sheet) (name : String) : Bool :=
  excludes catalog box name && sheet.checked? name == some true

theorem ousts_congr {box : Control} {first second : Sheet} {name : String}
    (same : first.get? name = second.get? name) :
    ousts catalog box first name = ousts catalog box second name := by
  unfold ousts Sheet.checked? Sheet.content?
  rw [same]

/-- The boxes among some that are checked and excluded are unchecked, and listed. -/
theorem get?_foldl_exclude (box : Control) {names : List String} (different : names.Nodup)
    (state : State) :
    let after := names.foldl (exclude catalog box) state
    let ousted := names.filter (ousts catalog box state.sheet)
    after.changed = state.changed ++ ousted ∧ ∀ other, after.sheet.get? other =
      if other ∈ ousted then (state.sheet.get? other).map Entry.emptied
      else state.sheet.get? other := by
  induction names generalizing state with
  | nil => exact ⟨(List.append_nil _).symm, fun other => (if_neg List.not_mem_nil).symm⟩
  | cons name rest inductionHypothesis =>
    obtain ⟨absent, restDifferent⟩ := List.nodup_cons.mp different
    simp only [List.foldl_cons]
    by_cases isOusted : ousts catalog box state.sheet name = true
    · obtain ⟨excluded, isChecked⟩ := Bool.and_eq_true_iff.mp isOusted
      obtain ⟨entry, present, unchecks⟩ := uncheck_of_checked (beq_iff_eq.mp isChecked)
      have step : exclude catalog box state name = state.uncheck name := if_pos excluded
      have same : ∀ other, other ≠ name →
          (state.sheet.insert name entry.emptied).get? other = state.sheet.get? other :=
        fun other apart => by rw [NameMap.get?_insert, if_neg apart.symm]
      have sameRest : rest.filter (ousts catalog box (state.sheet.insert name entry.emptied)) =
          rest.filter (ousts catalog box state.sheet) :=
        List.filter_congr fun other isIn =>
          ousts_congr (same other fun equal => absent (equal ▸ isIn))
      obtain ⟨changed, found⟩ := inductionHypothesis restDifferent (state.uncheck name)
      rw [unchecks] at changed found
      simp only [sameRest] at changed found
      rw [step, unchecks, List.filter_cons_of_pos isOusted]
      refine ⟨by rw [changed, List.append_assoc]; rfl, fun other => ?_⟩
      rw [found]
      by_cases isName : other = name
      · subst isName
        rw [if_neg fun isIn => absent (List.mem_filter.mp isIn).1, NameMap.get?_insert_self,
          if_pos List.mem_cons_self, present, Option.map_some]
      · simp only [List.mem_cons, isName, false_or, same other isName]
    · have step : exclude catalog box state name = state := by
        unfold exclude
        split
        next excluded =>
          refine uncheck_eq_self fun isChecked => isOusted ?_
          exact Bool.and_eq_true_iff.mpr ⟨excluded, beq_iff_eq.mpr isChecked⟩
        next => rfl
      rw [step, List.filter_cons_of_neg isOusted]
      exact inductionHypothesis restDifferent state

/-- The checked boxes that a box excludes: none if it is not checked itself. -/
def ousted (catalog : Catalog) (box : Control) (sheet : Sheet) : List String :=
  if sheet.checked? box.name == some true then
    (siblings catalog box).filter (ousts catalog box sheet)
  else []

theorem mem_ousted {box : Control} {sheet : Sheet} {name : String} :
    name ∈ ousted catalog box sheet ↔ sheet.checked? box.name = some true ∧
      name ∈ siblings catalog box ∧ excludes catalog box name = true ∧
        sheet.checked? name = some true := by
  unfold ousted ousts
  split
  next isChecked => simpa using fun _ _ _ => beq_iff_eq.mp isChecked
  next unchecked => simpa using fun isChecked => absurd isChecked (by simpa using unchecked)

theorem get?_enforceExclusion (wellFormed : catalog.WellFormed) (box : Control) (state : State) :
    let after := enforceExclusion catalog state box
    after.changed = state.changed ++ ousted catalog box state.sheet ∧
      ∀ other, after.sheet.get? other =
        if other ∈ ousted catalog box state.sheet then
          (state.sheet.get? other).map Entry.emptied
        else state.sheet.get? other := by
  unfold ousted
  rw [enforceExclusion_eq]
  split
  next => exact get?_foldl_exclude box (nodup_siblings wellFormed box) state
  next => exact ⟨(List.append_nil _).symm, fun other => (if_neg List.not_mem_nil).symm⟩

/-! ### Amounts -/

theorem get?_followAmount (state : State) (name amount other : String) :
    (followAmount state name amount).sheet.get? other =
      if amount = other then
        (state.sheet.get? other).map (Entry.following (state.sheet.checked? name == some true))
      else state.sheet.get? other := by
  rw [followAmount_eq]
  split
  next isChecked =>
    unfold revealed
    rw [Sheet.get?_setHidden, isChecked]
    rfl
  next unchecked =>
    show ((revealed state name amount).sheet.clear amount).1.get? other = _
    unfold revealed
    rw [Bool.not_eq_true] at unchecked
    rw [Sheet.get?_clear, Sheet.get?_setHidden, unchecked]
    split
    next => rw [Option.map_map]; rfl
    next => rfl

/-- The amount of the box of a name. -/
def amountOf (catalog : Catalog) (name : String) : Option String :=
  (catalog.control? name).bind Control.amount?

theorem amountOf_of_mem (wellFormed : catalog.WellFormed) {control : Control}
    (member : control ∈ catalog.controls) : amountOf catalog control.name = control.amount? := by
  unfold amountOf
  rw [wellFormed.control?_of_mem member, Option.bind_some]

/-- An amount belongs to one control, and is no box. -/
theorem exists_part_of_amountOf (wellFormed : catalog.WellFormed) {name amount : String}
    (has : amountOf catalog name = some amount) : ∃ part ∈ catalog.controls,
      part.name = amount ∧ part.kind = .amount name := by
  obtain ⟨control, found, hasAmount⟩ := Option.bind_eq_some_iff.mp has
  obtain ⟨member, rfl⟩ := Catalog.mem_of_control?_eq_some found
  obtain ⟨part, partIn, named, kind, -⟩ := wellFormed.paired.amount control member amount hasAmount
  exact ⟨part, partIn, named, kind⟩

theorem amountOf_ne_box (wellFormed : catalog.WellFormed) {box : Control}
    (member : box ∈ catalog.controls) (isBox : box.isBox = true) (name : String) :
    amountOf catalog name ≠ some box.name := by
  intro has
  obtain ⟨part, partIn, named, kind⟩ := exists_part_of_amountOf wellFormed has
  rw [← wellFormed.eq_of_name_eq partIn member named] at isBox
  unfold Control.isBox at isBox
  rw [kind] at isBox
  cases isBox

/-! ### Visits -/

/-- The visit of a box unchecks the boxes that it excludes, and its amount follows it. -/
theorem get?_attend_box (wellFormed : catalog.WellFormed) {box : Control}
    (isBox : box.isBox = true) (state : State)
    (apart : ∀ amount, box.amount? = some amount → amount ∉ ousted catalog box state.sheet) :
    let after := attend catalog state box
    let ousted := ousted catalog box state.sheet
    (∃ more, after.changed = state.changed ++ (ousted ++ more) ∧
      more.Sublist box.amount?.toList) ∧
    ∀ other, after.sheet.get? other =
      if box.amount? = some other then
        (state.sheet.get? other).map
          (Entry.following (state.sheet.checked? box.name == some true))
      else if other ∈ ousted then (state.sheet.get? other).map Entry.emptied
      else state.sheet.get? other := by
  intro after ousted
  obtain ⟨changed, found⟩ := get?_enforceExclusion wellFormed box state
  cases has : box.amount? with
  | none =>
    obtain ⟨value, amount, exclusive, kind⟩ := Control.exists_kind_of_isBox isBox
    have noAmount : amount = none := by
      unfold Control.amount? at has
      rw [kind] at has
      exact has
    subst noAmount
    have attends : after = enforceExclusion catalog state box := by
      unfold after attend
      simp only [kind]
    rw [attends]
    refine ⟨⟨[], by rw [changed, List.append_nil], List.nil_sublist _⟩, fun other => ?_⟩
    rw [if_neg (by simp)]
    exact found other
  | some amount =>
    have itself : (enforceExclusion catalog state box).sheet.checked? box.name =
        state.sheet.checked? box.name := by
      unfold Sheet.checked? Sheet.content?
      rw [found, if_neg fun isIn => (mem_siblings wellFormed (mem_ousted.mp isIn).2.1).1 rfl]
    have attends : after = followAmount (enforceExclusion catalog state box) box.name amount :=
      attend_of_amount? has state
    obtain ⟨more, listed, sublist⟩ :=
      changed_followAmount (enforceExclusion catalog state box) box.name amount
    rw [attends]
    refine ⟨⟨more, by rw [listed, changed, List.append_assoc], sublist⟩, fun other => ?_⟩
    rw [get?_followAmount, itself]
    by_cases isAmount : amount = other
    · subst isAmount
      rw [if_pos rfl, if_pos rfl, found, if_neg (apart amount has)]
    · rw [if_neg isAmount, if_neg (by simpa using isAmount)]
      exact found other

/-- The visit of an unchecked box has its amount put away, and does nothing else. -/
theorem get?_visit_unchecked (wellFormed : catalog.WellFormed) (origin : String) {box : Control}
    (member : box ∈ catalog.controls) (isBox : box.isBox = true) (sync : Sync) {sheet : Sheet}
    (unchecked : sheet.checked? box.name ≠ some true) :
    let after := visit catalog origin box.name sync sheet
    (∀ name ∈ after.changed, Idle catalog name) ∧ ∀ other, after.sheet.get? other =
      if amountOf catalog box.name = some other then
        (sheet.get? other).map (Entry.following false)
      else sheet.get? other := by
  have nobody : ousted catalog box sheet = [] := if_neg (by simpa using unchecked)
  have isUnchecked : (sheet.checked? box.name == some true) = false := by simpa using unchecked
  have visited := get?_attend_box wellFormed isBox ⟨sync, sheet, []⟩ fun amount _ => by
    rw [nobody]
    exact List.not_mem_nil
  simp only [nobody, isUnchecked, List.nil_append, List.not_mem_nil, if_false] at visited
  obtain ⟨⟨more, changed, sublist⟩, found⟩ := visited
  rw [visit_of_isBox wellFormed member isBox, amountOf_of_mem wellFormed member]
  refine ⟨fun name isIn => ?_, found⟩
  rw [changed] at isIn
  have has := Option.mem_toList.mp (sublist.subset isIn)
  exact idle_of_amount? wellFormed member has

/-- The visit of a name that is neither a select nor a box does nothing. -/
theorem visit_of_idle (wellFormed : catalog.WellFormed) {name : String}
    (idle : Idle catalog name) (sync : Sync) (sheet : Sheet) :
    visit catalog origin name sync sheet = ⟨sync, sheet, []⟩ := by
  by_cases known : name ∈ catalog.controls.map Control.name
  · obtain ⟨control, member, rfl⟩ := List.mem_map.mp known
    obtain ⟨noSelect, noBox⟩ := idle control member rfl
    have attends : attend catalog ⟨sync, sheet, []⟩ control = ⟨sync, sheet, []⟩ := by
      unfold Control.isSelect at noSelect
      unfold Control.isBox at noBox
      unfold attend
      cases kind : control.kind with
      | select _ _ => rw [kind] at noSelect; cases noSelect
      | checkbox _ _ _ => rw [kind] at noBox; cases noBox
      | text | amount _ | echo _ => rfl
    rw [visit_of_mem wellFormed member, attends, forward]
    split
    next =>
      refine followLinks_eq_self wellFormed ?_ _
      exact fun other otherIn named => (idle other otherIn named).1
    next => rfl
  · exact visit_of_unknown wellFormed known origin sync sheet

/-! ### The queue -/

theorem sheet_drain_idle (wellFormed : catalog.WellFormed) {wave : Wave}
    (idle : ∀ name ∈ wave.queue, Idle catalog name) (bound : Nat) :
    (drain catalog origin bound wave).sheet = wave.sheet := by
  refine (drain_induction (fun after =>
    (∀ name ∈ after.queue, Idle catalog name) ∧ after.sheet = wave.sheet) ?_ bound ⟨idle, rfl⟩).2
  rintro after name rest waits ⟨idleAfter, same⟩
  rw [waits] at idleAfter
  obtain ⟨idleName, idleRest⟩ := List.forall_mem_cons.mp idleAfter
  unfold Wave.next
  rw [visit_of_idle wellFormed idleName]
  exact ⟨fun other isIn => idleRest other (by simpa using isIn), same⟩

/-- When unchecked boxes wait, the amount of each of them is put away in the end, and nothing else
changes. -/
theorem get?_drain_unchecked (wellFormed : catalog.WellFormed) {names rest : List String}
    {wave : Wave} (waits : wave.queue = names ++ rest)
    (boxes : ∀ name ∈ names, ∃ box ∈ catalog.controls, box.name = name ∧ box.isBox = true)
    (unchecked : ∀ name ∈ names, wave.sheet.checked? name ≠ some true)
    (idle : ∀ name ∈ rest, Idle catalog name) {bound : Nat} (enough : names.length ≤ bound)
    (other : String) :
    (drain catalog origin bound wave).sheet.get? other =
      if other ∈ names.filterMap (amountOf catalog) then
        (wave.sheet.get? other).map (Entry.following false)
      else wave.sheet.get? other := by
  induction names generalizing wave rest bound with
  | nil =>
    rw [sheet_drain_idle wellFormed fun name isIn => idle name (by simpa [waits] using isIn)]
    exact (if_neg List.not_mem_nil).symm
  | cons name names inductionHypothesis =>
    obtain ⟨bound, rfl⟩ := Nat.exists_eq_add_of_le' enough
    rw [List.cons_append] at waits
    obtain ⟨⟨box, member, rfl, isBox⟩, laterBoxes⟩ := List.forall_mem_cons.mp boxes
    obtain ⟨boxUnchecked, laterUnchecked⟩ := List.forall_mem_cons.mp unchecked
    obtain ⟨changed, found⟩ :=
      get?_visit_unchecked wellFormed origin member isBox wave.sync boxUnchecked
    -- The boxes that wait stay unchecked, since an amount is no box.
    have stillUnchecked : ∀ later ∈ names,
        (wave.next catalog origin box.name (names ++ rest)).sheet.checked? later ≠ some true := by
      intro later isIn
      obtain ⟨laterBox, laterIn, rfl, laterIsBox⟩ := laterBoxes later isIn
      have apart := amountOf_ne_box wellFormed laterIn laterIsBox box.name
      have same : (wave.next catalog origin box.name (names ++ rest)).sheet.get? laterBox.name =
          wave.sheet.get? laterBox.name := (found laterBox.name).trans (if_neg apart)
      unfold Sheet.checked? Sheet.content?
      rw [same]
      exact laterUnchecked laterBox.name isIn
    rw [List.length_cons, ← Nat.add_assoc, drain_of_cons waits,
      inductionHypothesis (List.append_assoc _ _ _) laterBoxes stillUnchecked
        (fun later isIn => (List.mem_append.mp isIn).elim (idle later) (changed later))
        (Nat.le_add_left _ _)]
    have foundNext : (wave.next catalog origin box.name (names ++ rest)).sheet.get? other = _ :=
      found other
    rw [foundNext]
    by_cases isOwn : amountOf catalog box.name = some other
    · rw [if_pos isOwn, if_pos (List.mem_filterMap.mpr ⟨box.name, List.mem_cons_self, isOwn⟩)]
      split
      next =>
        rw [Option.map_map]
        exact congrArg (Option.map · _) (funext Entry.following_following)
      next => rfl
    · rw [if_neg isOwn, List.filterMap_cons]
      cases has : amountOf catalog box.name with
      | none => rfl
      | some amount =>
        rw [has] at isOwn
        have apart : other ≠ amount := fun equal => isOwn (equal ▸ rfl)
        simp only [List.mem_cons, apart, false_or]

/-! ### The change of a box -/

/-- A box that is excluded is a checked box of the group. -/
theorem box_of_mem_ousted (wellFormed : catalog.WellFormed) {sheet : Sheet}
    (holds : sheet.Holds catalog) {box : Control} {name : String}
    (isOusted : name ∈ ousted catalog box sheet) : name ≠ box.name ∧
      ∃ other ∈ catalog.controls, other.name = name ∧ other.isBox = true := by
  obtain ⟨-, isSibling, -, isChecked⟩ := mem_ousted.mp isOusted
  obtain ⟨different, other, otherIn, rfl⟩ := mem_siblings wellFormed isSibling
  refine ⟨different, other, otherIn, rfl, ?_⟩
  by_contra noBox
  rw [holds.checked?_eq_none otherIn (by simpa using noBox)] at isChecked
  cases isChecked

/-- An amount is not excluded. -/
theorem part_notMem_ousted (wellFormed : catalog.WellFormed) {sheet : Sheet}
    (holds : sheet.Holds catalog) (box : Control) {name amount : String}
    (has : amountOf catalog name = some amount) : amount ∉ ousted catalog box sheet := by
  intro isOusted
  obtain ⟨-, other, otherIn, rfl, isBox⟩ := box_of_mem_ousted wellFormed holds isOusted
  exact amountOf_ne_box wellFormed otherIn isBox name has

/-- Two boxes have no amount in common. -/
theorem eq_of_amountOf_eq (wellFormed : catalog.WellFormed) {first second amount : String}
    (firstHas : amountOf catalog first = some amount)
    (secondHas : amountOf catalog second = some amount) : first = second := by
  obtain ⟨part, partIn, named, kind⟩ := exists_part_of_amountOf wellFormed firstHas
  obtain ⟨other, otherIn, otherNamed, otherKind⟩ := exists_part_of_amountOf wellFormed secondHas
  rw [wellFormed.eq_of_name_eq partIn otherIn (named.trans otherNamed.symm), otherKind] at kind
  cases kind
  rfl

/-- Emptying unchecks a box. -/
theorem checked?_of_emptied {before after : Sheet} {name : String}
    (isChecked : before.checked? name = some true)
    (emptied : after.get? name = (before.get? name).map Entry.emptied) :
    after.checked? name = some false := by
  unfold Sheet.checked? Sheet.content? at isChecked ⊢
  rw [emptied]
  cases present : before.get? name with
  | none => rw [present] at isChecked; cases isChecked
  | some entry =>
    rw [present, Option.map_some, Option.bind_some] at isChecked
    obtain ⟨content, hidden, derived⟩ := entry
    cases content with
    | checkbox checked value => rfl
    | text _ => cases isChecked
    | select _ _ => cases isChecked

/-- What every entry is when the change of a box has been carried. -/
theorem get?_propagate_box (wellFormed : catalog.WellFormed) (sync : Sync) {sheet : Sheet}
    (holds : sheet.Holds catalog) {box : Control} (member : box ∈ catalog.controls)
    (isBox : box.isBox = true) (name : String) :
    (propagate catalog sync sheet box.name).sheet.get? name =
      if name ∈ (ousted catalog box sheet).filterMap (amountOf catalog) then
        (sheet.get? name).map (Entry.following false)
      else if box.amount? = some name then
        (sheet.get? name).map (Entry.following (sheet.checked? box.name == some true))
      else if name ∈ ousted catalog box sheet then (sheet.get? name).map Entry.emptied
      else sheet.get? name := by
  have apart : ∀ amount, box.amount? = some amount → amount ∉ ousted catalog box sheet :=
    fun amount has =>
      part_notMem_ousted wellFormed holds box ((amountOf_of_mem wellFormed member).trans has)
  obtain ⟨⟨more, changed, sublist⟩, found⟩ :=
    get?_attend_box wellFormed isBox ⟨sync, sheet, []⟩ apart
  rw [← visit_of_isBox wellFormed member isBox box.name] at changed found
  have unchecked : ∀ other ∈ ousted catalog box sheet,
      (visit catalog box.name box.name sync sheet).sheet.checked? other ≠ some true := by
    intro other isOusted
    have emptied := found other
    rw [if_neg fun has => apart other has isOusted, if_pos isOusted] at emptied
    rw [checked?_of_emptied (mem_ousted.mp isOusted).2.2.2 emptied]
    simp
  have idle : ∀ other ∈ more, Idle catalog other := fun other isIn =>
    idle_of_amount? wellFormed member (Option.mem_toList.mp (sublist.subset isIn))
  have few : (ousted catalog box sheet).length ≤ 4 * catalog.controls.length := by
    have fewer : (ousted catalog box sheet).length ≤ (siblings catalog box).length := by
      unfold ousted
      split
      next => exact List.length_filter_le _ _
      next => exact Nat.zero_le _
    have siblings := siblings_lt wellFormed member
    omega
  have waits : ((Wave.start sync sheet box.name).next catalog box.name box.name []).queue =
      ousted catalog box sheet ++ more := changed
  have carried : (propagate catalog sync sheet box.name).sheet.get? name =
      if name ∈ (ousted catalog box sheet).filterMap (amountOf catalog) then
        ((visit catalog box.name box.name sync sheet).sheet.get? name).map (Entry.following false)
      else (visit catalog box.name box.name sync sheet).sheet.get? name := by
    unfold propagate bound
    rw [Nat.add_comm]
    exact get?_drain_unchecked wellFormed waits
      (fun other isOusted => (box_of_mem_ousted wellFormed holds isOusted).2) unchecked idle few
      name
  rw [carried, found]
  split
  next isPart =>
    obtain ⟨other, isOusted, has⟩ := List.mem_filterMap.mp isPart
    have notOwn : box.amount? ≠ some name := fun own =>
      (box_of_mem_ousted wellFormed holds isOusted).1
        (eq_of_amountOf_eq wellFormed has ((amountOf_of_mem wellFormed member).trans own))
    rw [if_neg notOwn, if_neg (part_notMem_ousted wellFormed holds box has)]
  next => rfl

/-- A box is written only if it is excluded. -/
theorem get?_propagate_box_box (wellFormed : catalog.WellFormed) (sync : Sync) {sheet : Sheet}
    (holds : sheet.Holds catalog) {box other : Control} (member : box ∈ catalog.controls)
    (isBox : box.isBox = true) (otherIn : other ∈ catalog.controls)
    (otherIsBox : other.isBox = true) :
    (propagate catalog sync sheet box.name).sheet.get? other.name =
      if other.name ∈ ousted catalog box sheet then (sheet.get? other.name).map Entry.emptied
      else sheet.get? other.name := by
  have noPart := amountOf_ne_box wellFormed otherIn otherIsBox
  rw [get?_propagate_box wellFormed sync holds member isBox, if_neg, if_neg]
  · exact fun own => noPart box.name ((amountOf_of_mem wellFormed member).trans own)
  · intro isPart
    obtain ⟨name, -, has⟩ := List.mem_filterMap.mp isPart
    exact noPart name has

/-! ### Groups -/

/-- Whether a control is another option of the group of a box. -/
def Beside (box other : Control) : Prop :=
  other.isBox = true ∧ other.question = box.question ∧ other ≠ box

instance (box other : Control) : Decidable (Beside box other) :=
  inferInstanceAs (Decidable (other.isBox = true ∧ other.question = box.question ∧ other ≠ box))

/-- The siblings of an option are the other answers of its question. -/
theorem mem_siblings_iff {form : Form} (built : Catalog.build form = .ok catalog) {box : Control}
    (member : box ∈ catalog.controls) {id : String} (isOf : box.question = some id)
    {name : String} : name ∈ siblings catalog box ↔ ∃ other ∈ catalog.controls,
      other.isAnswer = true ∧ other.question = some id ∧ other ≠ box ∧ other.name = name := by
  have wellFormed := Catalog.wellFormed_of_build built
  obtain ⟨registry, laid, hidden, laidOut⟩ := Catalog.exists_laidOut_of_build built
  obtain ⟨each, eachIn, -, rfl⟩ := laidOut.exists_of_question member isOf
  have isQuestion : each.1 ∈ catalog.questions := by
    rw [laidOut.questions]
    exact List.mem_map_of_mem eachIn
  have found : catalog.question? each.1.id = some each.1 :=
    Catalog.find?_of_mem wellFormed.ids isQuestion
  have lists : siblings catalog box =
      each.1.answers.filter fun other => other != box.name := by
    unfold siblings
    rw [isOf, Option.bind_some, found]
  rw [lists, (laidOut.fits each eachIn).answers, ← laidOut.filter_controls wellFormed eachIn]
  simp only [List.mem_filter, List.mem_map, bne_iff_ne, beq_iff_eq]
  constructor
  · rintro ⟨⟨other, ⟨⟨otherIn, isOther⟩, isAnswer⟩, rfl⟩, different⟩
    exact ⟨other, otherIn, isAnswer, isOther, fun equal => different (equal ▸ rfl), rfl⟩
  · rintro ⟨other, otherIn, isAnswer, isOther, different, rfl⟩
    exact ⟨⟨other, ⟨⟨otherIn, isOther⟩, isAnswer⟩, rfl⟩, fun named =>
      different (wellFormed.eq_of_name_eq otherIn member named)⟩

/-- The amount of a box belongs to the question of the box. -/
theorem question_of_amount {form : Form} (built : Catalog.build form = .ok catalog)
    {box part : Control} (member : box ∈ catalog.controls) (partIn : part ∈ catalog.controls)
    (has : box.amount? = some part.name) : part.question = box.question := by
  have wellFormed := Catalog.wellFormed_of_build built
  obtain ⟨registry, laid, hidden, laidOut⟩ := Catalog.exists_laidOut_of_build built
  obtain ⟨twin, twinIn, named, kind, -⟩ := wellFormed.paired.amount box member part.name has
  obtain rfl := wellFormed.eq_of_name_eq twinIn partIn named
  obtain ⟨each, eachIn, isPart, control, isControl, same⟩ :=
    laidOut.exists_together twinIn (.inl kind)
  obtain rfl := wellFormed.eq_of_name_eq (laidOut.mem_controls eachIn isControl) member same
  have owned := (laidOut.fits each eachIn).owned
  rw [owned twin isPart, owned control isControl]

/-- What the change of an option comes to. A checked option that is exclusive is the only one that
is checked then, and one that is not exclusive unchecks the exclusive ones; an unchecked option
leaves the others alone. Amounts follow the options that are unchecked and the option itself, and
no other entry changes. -/
structure GroupFollows (catalog : Catalog) (box : Control) (before after : Sheet) : Prop where
  itself : after.get? box.name = before.get? box.name
  sole : before.checked? box.name = some true → box.isExclusive = true →
    ∀ other ∈ catalog.controls, Beside box other → after.checked? other.name = some false
  plain : before.checked? box.name = some true → box.isExclusive = false →
    ∀ other ∈ catalog.controls, Beside box other →
      (other.isExclusive = true → after.checked? other.name = some false) ∧
      (other.isExclusive = false → after.get? other.name = before.get? other.name)
  unchecked : before.checked? box.name = some false →
    ∀ other ∈ catalog.controls, Beside box other →
      after.get? other.name = before.get? other.name
  excluded : ∀ other ∈ catalog.controls, Beside box other →
    before.checked? other.name = some true → after.checked? other.name = some false →
      after.get? other.name = (before.get? other.name).map Entry.emptied ∧
      ∀ amount, other.amount? = some amount →
        after.get? amount = (before.get? amount).map (Entry.following false)
  amount : ∀ amount, box.amount? = some amount → after.get? amount =
    (before.get? amount).map (Entry.following (before.checked? box.name == some true))
  others : ∀ name, after.get? name ≠ before.get? name → box.amount? = some name ∨
    ∃ other ∈ catalog.controls, Beside box other ∧
      before.checked? other.name = some true ∧ after.checked? other.name = some false ∧
        (other.name = name ∨ other.amount? = some name)
  outside : ∀ control ∈ catalog.controls, control.question ≠ box.question →
    after.get? control.name = before.get? control.name

/-- An option is excluded exactly if it and the option beside it are checked and one of them is
exclusive. -/
theorem mem_ousted_iff {form : Form} (built : Catalog.build form = .ok catalog) {sheet : Sheet}
    (holds : sheet.Holds catalog) {box : Control} (member : box ∈ catalog.controls)
    (isOption : box.question.isSome = true) {name : String} :
    name ∈ ousted catalog box sheet ↔ ∃ other ∈ catalog.controls, other.name = name ∧
      Beside box other ∧ sheet.checked? box.name = some true ∧
        (box.isExclusive || other.isExclusive) = true ∧ sheet.checked? name = some true := by
  have wellFormed := Catalog.wellFormed_of_build built
  obtain ⟨id, isOf⟩ := Option.isSome_iff_exists.mp isOption
  have excludes_of_mem : ∀ other ∈ catalog.controls,
      excludes catalog box other.name = (box.isExclusive || other.isExclusive) := by
    intro other otherIn
    unfold excludes
    rw [wellFormed.control?_of_mem otherIn, Option.any_some]
  rw [mem_ousted, mem_siblings_iff built member isOf]
  constructor
  · rintro ⟨boxChecked, ⟨other, otherIn, -, isOther, different, rfl⟩, excluded, isChecked⟩
    rw [excludes_of_mem other otherIn] at excluded
    have isBox : other.isBox = true := by
      by_contra noBox
      rw [holds.checked?_eq_none otherIn (by simpa using noBox)] at isChecked
      cases isChecked
    exact ⟨other, otherIn, rfl, ⟨isBox, isOther.trans isOf.symm, different⟩, boxChecked, excluded,
      isChecked⟩
  · rintro ⟨other, otherIn, rfl, ⟨isBox, isOther, different⟩, boxChecked, excluded, isChecked⟩
    obtain ⟨value, amount, exclusive, kind⟩ := Control.exists_kind_of_isBox isBox
    have isAnswer : other.isAnswer = true := by
      unfold Control.isAnswer
      rw [isOther, isOption, kind]
      rfl
    rw [excludes_of_mem other otherIn]
    exact ⟨boxChecked, ⟨other, otherIn, isAnswer, isOther.trans isOf, different, rfl⟩, excluded,
      isChecked⟩

section Group

variable {form : Form} (built : Catalog.build form = .ok catalog) (sync : Sync) {sheet : Sheet}
  (holds : sheet.Holds catalog) {box : Control} (member : box ∈ catalog.controls)
  (isBox : box.isBox = true)

include built holds member isBox

/-- Another option is unchecked if it is excluded, and otherwise stays as it is. -/
theorem option_of_propagate {other : Control} (otherIn : other ∈ catalog.controls)
    (beside : Beside box other) :
    let after := (propagate catalog sync sheet box.name).sheet
    (other.name ∈ ousted catalog box sheet ∧ sheet.checked? other.name = some true ∧
      after.get? other.name = (sheet.get? other.name).map Entry.emptied ∧
        after.checked? other.name = some false) ∨
    (other.name ∉ ousted catalog box sheet ∧ after.get? other.name = sheet.get? other.name ∧
      after.checked? other.name = sheet.checked? other.name) := by
  have wellFormed := Catalog.wellFormed_of_build built
  intro after
  have found := get?_propagate_box_box wellFormed sync holds member isBox otherIn beside.1
  by_cases isOusted : other.name ∈ ousted catalog box sheet
  · rw [if_pos isOusted] at found
    have isChecked := (mem_ousted.mp isOusted).2.2.2
    exact .inl ⟨isOusted, isChecked, found, checked?_of_emptied isChecked found⟩
  · rw [if_neg isOusted] at found
    refine .inr ⟨isOusted, found, Sheet.checked?_congr ?_⟩
    rw [Sheet.content?_eq, Sheet.content?_eq, found]

/-- A checked option leaves no other one checked if one of the two is exclusive. -/
theorem unchecked_of_exclusive (isOption : box.question.isSome = true)
    (isChecked : sheet.checked? box.name = some true) {other : Control}
    (otherIn : other ∈ catalog.controls) (beside : Beside box other)
    (exclusive : (box.isExclusive || other.isExclusive) = true) :
    (propagate catalog sync sheet box.name).sheet.checked? other.name = some false := by
  obtain ⟨-, -, -, unchecked⟩ | ⟨spared, -, same⟩ :=
    option_of_propagate built sync holds member isBox otherIn beside
  · exact unchecked
  · obtain ⟨checked, held⟩ := holds.exists_checked? otherIn beside.1
    rw [same, held]
    cases checked with
    | false => rfl
    | true =>
      exact absurd ((mem_ousted_iff built holds member isOption).mpr
        ⟨other, otherIn, rfl, beside, isChecked, exclusive, held⟩) spared

/-- Every entry that changes is the amount of the option, or is an option that is excluded or the
amount of one. -/
theorem excluded_of_propagate (isOption : box.question.isSome = true) {name : String}
    (changes : (propagate catalog sync sheet box.name).sheet.get? name ≠ sheet.get? name) :
    box.amount? = some name ∨ ∃ other ∈ catalog.controls, Beside box other ∧
      other.name ∈ ousted catalog box sheet ∧ (other.name = name ∨ other.amount? = some name) := by
  have wellFormed := Catalog.wellFormed_of_build built
  rw [get?_propagate_box wellFormed sync holds member isBox] at changes
  split at changes
  next isPart =>
    obtain ⟨_, isOusted, has⟩ := List.mem_filterMap.mp isPart
    obtain ⟨other, otherIn, rfl, beside, -⟩ :=
      (mem_ousted_iff built holds member isOption).mp isOusted
    rw [amountOf_of_mem wellFormed otherIn] at has
    exact .inr ⟨other, otherIn, beside, isOusted, .inr has⟩
  next =>
    split at changes
    next own => exact .inl own
    next =>
      split at changes
      next isOusted =>
        obtain ⟨other, otherIn, rfl, beside, -⟩ :=
          (mem_ousted_iff built holds member isOption).mp isOusted
        exact .inr ⟨other, otherIn, beside, isOusted, .inl rfl⟩
      next => exact absurd rfl changes

end Group

/-- For every form that has a catalog, whatever is kept beside the sheet, and whatever the sheet
holds the controls with, the group of a changed option follows it. -/
theorem groupFollows_of_build {form : Form} (built : Catalog.build form = .ok catalog)
    (sync : Sync) {sheet : Sheet} (holds : sheet.Holds catalog) {box : Control}
    (member : box ∈ catalog.controls) (isBox : box.isBox = true)
    (isOption : box.question.isSome = true) :
    GroupFollows catalog box sheet (propagate catalog sync sheet box.name).sheet := by
  have wellFormed := Catalog.wellFormed_of_build built
  have option : ∀ {other : Control}, other ∈ catalog.controls → Beside box other → _ :=
    option_of_propagate built sync holds member isBox
  have unchecked : ∀ _, ∀ {other : Control}, other ∈ catalog.controls → Beside box other → _ :=
    unchecked_of_exclusive built sync holds member isBox isOption
  constructor
  case itself =>
    rw [get?_propagate_box_box wellFormed sync holds member isBox member isBox,
      if_neg fun isIn => (box_of_mem_ousted wellFormed holds isIn).1 rfl]
  case sole =>
    intro isChecked exclusive other otherIn beside
    exact unchecked isChecked otherIn beside (by rw [exclusive, Bool.true_or])
  case plain =>
    intro isChecked plain other otherIn beside
    refine ⟨fun exclusive => ?_, fun notExclusive => ?_⟩
    · exact unchecked isChecked otherIn beside (by rw [exclusive, Bool.or_true])
    · obtain ⟨excluded, -⟩ | ⟨-, same, -⟩ := option otherIn beside
      · obtain ⟨twin, twinIn, named, -, -, excludes, -⟩ :=
          (mem_ousted_iff built holds member isOption).mp excluded
        rw [wellFormed.eq_of_name_eq twinIn otherIn named, plain, notExclusive] at excludes
        cases excludes
      · exact same
  case unchecked =>
    intro isUnchecked other otherIn beside
    obtain ⟨excluded, -⟩ | ⟨-, same, -⟩ := option otherIn beside
    · rw [(mem_ousted.mp excluded).1] at isUnchecked
      cases isUnchecked
    · exact same
  case excluded =>
    intro other otherIn beside wasChecked isUnchecked
    obtain ⟨excluded, -, emptied, -⟩ | ⟨-, -, same⟩ := option otherIn beside
    · refine ⟨emptied, fun amount has => ?_⟩
      rw [← amountOf_of_mem wellFormed otherIn] at has
      rw [get?_propagate_box wellFormed sync holds member isBox,
        if_pos (List.mem_filterMap.mpr ⟨other.name, excluded, has⟩)]
    · rw [same, wasChecked] at isUnchecked
      cases isUnchecked
  case amount =>
    intro amount has
    rw [get?_propagate_box wellFormed sync holds member isBox, if_neg, if_pos has]
    intro isPart
    obtain ⟨name, excluded, hasToo⟩ := List.mem_filterMap.mp isPart
    exact (box_of_mem_ousted wellFormed holds excluded).1
      (eq_of_amountOf_eq wellFormed hasToo ((amountOf_of_mem wellFormed member).trans has))
  case others =>
    intro name changes
    refine (excluded_of_propagate built sync holds member isBox isOption changes).imp_right ?_
    rintro ⟨other, otherIn, beside, excluded, isIt⟩
    obtain ⟨-, wasChecked, -, isUnchecked⟩ | ⟨spared, -⟩ := option otherIn beside
    · exact ⟨other, otherIn, beside, wasChecked, isUnchecked, isIt⟩
    · exact absurd excluded spared
  case outside =>
    intro control controlIn apart
    by_contra changes
    obtain own | ⟨other, otherIn, beside, -, named | has⟩ :=
      excluded_of_propagate built sync holds member isBox isOption changes
    · exact apart (question_of_amount built member controlIn own)
    · exact apart (wellFormed.eq_of_name_eq otherIn controlIn named ▸ beside.2.1)
    · exact apart ((question_of_amount built otherIn controlIn has).trans beside.2.1)

/-- In a sheet that was filled without carrying anything, all three tags are checked, and the
amounts of the first two are filled in and hidden. When the change of the last, which is exclusive,
is carried, it is the only one that is checked, and the amounts are empty. -/
theorem groupFollows_of_crowd :
    let sheet := (Session.run Catalog.crowdCatalog [.rehydrate (NameMap.ofList
      [("tags_a", "true"), ("tags_a_amount", "5"), ("tags_a_2", "true"), ("tags_a_2_amount", "7"),
       ("tags_a_amount_2", "true")])]).sheet
    let after := (propagate Catalog.crowdCatalog start sheet "tags_a_amount_2").sheet
    after.get? "tags_a_amount_2" = sheet.get? "tags_a_amount_2" ∧
      ∀ pair ∈ [("tags_a", "tags_a_amount"), ("tags_a_2", "tags_a_2_amount")],
        sheet.checked? pair.1 = some true ∧ after.checked? pair.1 = some false ∧
          after.get? pair.2 = some ⟨.text "", true, false⟩ := by
  intro sheet after
  obtain ⟨box, member, named, isBox, isOption, isChecked, exclusive, others⟩ :
      ∃ box ∈ Catalog.crowdCatalog.controls, box.name = "tags_a_amount_2" ∧ box.isBox = true ∧
        box.question.isSome = true ∧ sheet.checked? box.name = some true ∧
        box.isExclusive = true ∧
        ∀ pair ∈ [("tags_a", "tags_a_amount"), ("tags_a_2", "tags_a_2_amount")],
          ∃ other ∈ Catalog.crowdCatalog.controls, other.name = pair.1 ∧ Beside box other ∧
            other.amount? = some pair.2 ∧ sheet.checked? other.name = some true ∧
            (sheet.get? pair.2).map (Entry.following false) = some ⟨.text "", true, false⟩ := by
    decide +kernel
  have holds : sheet.Holds Catalog.crowdCatalog := by decide +kernel
  have follows := groupFollows_of_build Catalog.build_crowd start holds member isBox isOption
  rw [named] at follows
  refine ⟨named ▸ follows.itself, fun pair pairIn => ?_⟩
  obtain ⟨other, otherIn, otherNamed, beside, has, wasChecked, putAway⟩ := others pair pairIn
  have unchecked := follows.sole isChecked exclusive other otherIn beside
  have amount := (follows.excluded other otherIn beside wasChecked unchecked).2 pair.2 has
  rw [← otherNamed]
  exact ⟨wasChecked, unchecked, amount.trans putAway⟩

end Sync

end Questionnaire

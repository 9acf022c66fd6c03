/-
This file shows that carrying a change is made of elementary steps, and says of each part which
controls it may write, which it may show or hide, and what it adds to the changed ones. A box
unchecks siblings and shows or hides its amount, and links write selects on the other side.
-/
import Questionnaire.Proofs.Dropdown

namespace Questionnaire.Sync

variable {catalog : Catalog} {writes shows : Control → Prop} {state : State}

/-! ### Checkboxes -/

theorem steps_uncheck {control : Control} (owned : state.IsOwned catalog)
    (member : control ∈ catalog.controls) (may : control.isBox = true → writes control) :
    Steps catalog writes shows state (state.uncheck control.name) := by
  unfold State.uncheck
  split
  next result written =>
    exact steps_note member (may (owned.isBox_of_setChecked member written))
      (Sheet.write_of_setChecked written)
  next => exact .refl

theorem changed_uncheck (state : State) (name : String) :
    ∃ more, (state.uncheck name).changed = state.changed ++ more ∧ more.Sublist [name] := by
  unfold State.uncheck
  split
  next result _ => exact ⟨_, note_changed state name result, by
    cases result.2 <;> simp [Sheet.reported]⟩
  next => exact ⟨[], by simp, List.nil_sublist _⟩

/-- A sibling is another option: a control of the catalog with a different name. -/
theorem mem_siblings {control : Control} {sibling : String} (wellFormed : catalog.WellFormed)
    (member : sibling ∈ siblings catalog control) :
    sibling ≠ control.name ∧ ∃ other ∈ catalog.controls, other.name = sibling := by
  unfold siblings at member
  split at member
  next question found =>
    obtain ⟨answer, different⟩ := List.mem_filter.mp member
    obtain ⟨id, -, isQuestion⟩ := Option.bind_eq_some_iff.mp found
    have named := (wellFormed.answers question (List.mem_of_find?_eq_some isQuestion)).subset answer
    exact ⟨by simpa using different, List.mem_map.mp named⟩
  next => cases member

/-- Unchecks one sibling of a box, if one of the two excludes the other. -/
def exclude (catalog : Catalog) (control : Control) (state : State) (sibling : String) : State :=
  if control.isExclusive || (catalog.control? sibling).any Control.isExclusive then
    state.uncheck sibling
  else state

theorem enforceExclusion_eq (catalog : Catalog) (state : State) (control : Control) :
    enforceExclusion catalog state control =
      if state.sheet.checked? control.name == some true then
        (siblings catalog control).foldl (exclude catalog control) state
      else state := rfl

theorem steps_foldl_exclude (wellFormed : catalog.WellFormed) {control : Control}
    (may : ∀ other : Control, other.isBox = true → other.name ≠ control.name → writes other)
    {names : List String} (subset : names ⊆ siblings catalog control) {state : State}
    (owned : state.IsOwned catalog) :
    Steps catalog writes shows state (names.foldl (exclude catalog control) state) := by
  induction names generalizing state with
  | nil => exact .refl
  | cons name rest inductionHypothesis =>
    have step : Steps catalog writes shows state (exclude catalog control state name) := by
      unfold exclude
      split
      next =>
        obtain ⟨different, other, otherIn, rfl⟩ :=
          mem_siblings wellFormed (List.cons_subset.mp subset).1
        exact steps_uncheck owned otherIn fun isBox => may other isBox different
      next => exact .refl
    exact step.trans (inductionHypothesis (List.cons_subset.mp subset).2
      (Steps.isOwned step owned))

theorem steps_enforceExclusion (wellFormed : catalog.WellFormed) {control : Control}
    (owned : state.IsOwned catalog)
    (may : ∀ other : Control, other.isBox = true → other.name ≠ control.name → writes other) :
    Steps catalog writes shows state (enforceExclusion catalog state control) := by
  rw [enforceExclusion_eq]
  split
  next => exact steps_foldl_exclude wellFormed may (List.Subset.refl _) owned
  next => exact .refl

/-- An unchecked box is not checked by unchecking. -/
theorem checked?_uncheck {name other : String}
    (checked : (state.uncheck name).sheet.checked? other = some true) :
    other ≠ name ∧ state.sheet.checked? other = some true := by
  unfold State.uncheck at checked
  split at checked
  next result written =>
    obtain ⟨entry, content, present, takes, rfl⟩ := Sheet.setChecked_eq_ok written
    have isFalse : content.checked? = some false := by
      cases held : entry.content with
      | checkbox old value => rw [held] at takes; cases takes; rfl
      | text _ => rw [held] at takes; cases takes
      | select _ _ => rw [held] at takes; cases takes
    unfold Sheet.checked? at checked ⊢
    rw [Sheet.content?_eq] at checked ⊢
    change (((state.sheet.put name entry content).1.get? other).map _).bind _ = _ at checked
    rw [Sheet.get?_put present] at checked
    split at checked
    next => rw [Option.map_some, Option.bind_some, isFalse] at checked; cases checked
    next different => exact ⟨Ne.symm different, checked⟩
  next fault refused =>
    refine ⟨?_, checked⟩
    rintro rfl
    unfold Sheet.checked? Sheet.content? at checked
    cases present : state.sheet.get? other with
    | none => rw [present] at checked; cases checked
    | some entry =>
      rw [present] at checked
      cases held : entry.content with
      | text _ => rw [Option.map_some, Option.bind_some, held] at checked; cases checked
      | select _ _ => rw [Option.map_some, Option.bind_some, held] at checked; cases checked
      | checkbox old value =>
        have takes : entry.content.withCheck? false = some (.checkbox false value) := by
          rw [held]
          rfl
        rw [Sheet.setChecked_of_withCheck? present takes] at refused
        cases refused

/-- Exclusion changes siblings only, and leaves those that it changes unchecked. -/
theorem changed_foldl_exclude (catalog : Catalog) (control : Control) (names : List String)
    (state : State) :
    ∃ more, (names.foldl (exclude catalog control) state).changed = state.changed ++ more ∧
      more.Sublist names ∧ ∀ other,
        (names.foldl (exclude catalog control) state).sheet.checked? other = some true →
          other ∉ more ∧ state.sheet.checked? other = some true := by
  induction names generalizing state with
  | nil => exact ⟨[], by simp, .slnil, fun other checked => ⟨List.not_mem_nil, checked⟩⟩
  | cons name rest inductionHypothesis =>
    obtain ⟨more, listed, sublist, unchecked⟩ :=
      inductionHypothesis (exclude catalog control state name)
    rw [List.foldl_cons]
    unfold exclude at listed unchecked ⊢
    split at listed
    next excludes =>
      simp only [if_pos excludes] at unchecked ⊢
      obtain ⟨first, firstListed, firstSublist⟩ := changed_uncheck state name
      refine ⟨first ++ more, ?_, ?_, fun other checked => ?_⟩
      · rw [listed, firstListed, List.append_assoc]
      · exact firstSublist.append sublist
      · obtain ⟨notMore, before⟩ := unchecked other checked
        obtain ⟨different, checkedBefore⟩ := checked?_uncheck before
        refine ⟨fun isIn => ?_, checkedBefore⟩
        rcases List.mem_append.mp isIn with inFirst | inMore
        · exact different (List.mem_singleton.mp (firstSublist.subset inFirst))
        · exact notMore inMore
    next spares =>
      simp only [if_neg spares] at unchecked ⊢
      exact ⟨more, listed, sublist.cons _, unchecked⟩

/-- The state in which the amount of a box is shown or hidden as the box asks. -/
def revealed (state : State) (name amount : String) : State :=
  { state with
    sheet := (state.sheet.setHidden amount !(state.sheet.checked? name == some true)).1 }

theorem followAmount_eq (state : State) (name amount : String) :
    followAmount state name amount =
      if state.sheet.checked? name == some true then revealed state name amount
      else (revealed state name amount).note amount
        ((revealed state name amount).sheet.clear amount) := rfl

theorem steps_followAmount {part : Control} (member : part ∈ catalog.controls)
    (mayWrite : writes part) (mayShow : shows part) (name : String) :
    Steps catalog writes shows state (followAmount state name part.name) := by
  have first : Steps catalog writes shows state (revealed state name part.name) :=
    .single (.reveal member mayShow)
  rw [followAmount_eq]
  split
  next => exact first
  next => exact first.trans (steps_note member mayWrite (Sheet.write_clear _ _))

theorem changed_followAmount (state : State) (name amount : String) :
    ∃ more, (followAmount state name amount).changed = state.changed ++ more ∧
      more.Sublist [amount] := by
  rw [followAmount_eq]
  split
  next => exact ⟨[], by simp [revealed], List.nil_sublist _⟩
  next =>
    refine ⟨_, note_changed _ _ _, ?_⟩
    cases ((revealed state name amount).sheet.clear amount).2 <;> simp [Sheet.reported]

/-- Afterwards the amount is hidden exactly if its box is not checked. -/
theorem isHidden_followAmount {name amount : String}
    (present : state.sheet.contains amount = true) :
    (followAmount state name amount).sheet.isHidden amount =
      !(state.sheet.checked? name == some true) := by
  have shown : (revealed state name amount).sheet.isHidden amount =
      !(state.sheet.checked? name == some true) := by
    obtain ⟨entry, found⟩ := NameMap.contains_iff.mp present
    unfold revealed Sheet.isHidden
    rw [Sheet.get?_setHidden, if_pos rfl, found, Option.map_some, Option.any_some]
  rw [followAmount_eq]
  split
  next => exact shown
  next =>
    exact ((Sheet.write_clear (revealed state name amount).sheet amount).refilled.isHidden
      amount).trans shown

/-! ### Links -/

theorem touches_across (channel : Channel) (control : String) :
    channel.touches (channel.across control) = true := by
  unfold Channel.across Channel.touches
  split <;> simp

theorem across_ne {channel : Channel} {control : String} (ordered : channel.low < channel.high)
    (touches : channel.touches control = true) : channel.across control ≠ control := by
  unfold Channel.across
  split
  next isLow =>
    rw [beq_iff_eq] at isLow
    rintro rfl
    exact String.lt_irrefl _ (isLow ▸ ordered)
  next notLow =>
    intro isLow
    exact notLow (beq_iff_eq.mpr isLow)

/-- The selects across the channels of a control. -/
def partners (catalog : Catalog) (control : String) : List String :=
  (catalog.channelsOf control).map fun channel => channel.across control

/-- A control with a channel is a select, and so is the other side, which is a different one. -/
theorem sides_of_mem_channelsOf (wellFormed : catalog.WellFormed) {channel : Channel}
    {control : String} (member : channel ∈ catalog.channelsOf control) :
    (∃ entry ∈ catalog.controls, entry.name = control ∧ entry.isSelect = true) ∧
    ∃ partner ∈ catalog.controls, partner.name = channel.across control ∧
      partner.isSelect = true ∧ partner.name ≠ control := by
  obtain ⟨linked, touches⟩ := List.mem_filter.mp member
  obtain ⟨ordered, sides⟩ := wellFormed.sides channel linked
  obtain ⟨entry, found, isSelect⟩ := sides control touches
  obtain ⟨partner, partnerFound, partnerIsSelect⟩ := sides _ (touches_across channel control)
  obtain ⟨entryIn, named⟩ := Catalog.mem_of_control?_eq_some found
  obtain ⟨partnerIn, partnerNamed⟩ := Catalog.mem_of_control?_eq_some partnerFound
  refine ⟨⟨entry, entryIn, named, isSelect⟩, partner, partnerIn, partnerNamed, partnerIsSelect, ?_⟩
  rw [partnerNamed]
  exact across_ne ordered touches

/-- A channel is known by its two sides. -/
theorem eq_of_across_eq {first second : Channel} {control : String}
    (firstOrdered : first.low < first.high) (secondOrdered : second.low < second.high)
    (firstTouches : first.touches control = true) (secondTouches : second.touches control = true)
    (equal : first.across control = second.across control) : first = second := by
  obtain ⟨firstLow, firstHigh⟩ := first
  obtain ⟨secondLow, secondHigh⟩ := second
  simp only [Channel.touches, Channel.across, Bool.or_eq_true, beq_iff_eq]
    at firstTouches secondTouches equal firstOrdered secondOrdered
  split at equal
  next firstIsLow =>
    split at equal
    next secondIsLow => rw [firstIsLow, secondIsLow, equal]
    next secondNotLow =>
      have secondIsHigh := secondTouches.resolve_left secondNotLow
      rw [firstIsLow, equal, ← secondIsHigh] at firstOrdered
      exact absurd secondOrdered (String.lt_asymm (secondIsHigh ▸ firstOrdered))
  next firstNotLow =>
    have firstIsHigh := firstTouches.resolve_left firstNotLow
    split at equal
    next secondIsLow =>
      rw [firstIsHigh, equal, ← secondIsLow] at firstOrdered
      exact absurd secondOrdered (String.lt_asymm firstOrdered)
    next secondNotLow =>
      rw [equal, firstIsHigh, secondTouches.resolve_left secondNotLow]

/-- The selects across the channels of a control are all different. -/
theorem nodup_partners (wellFormed : catalog.WellFormed) (control : String) :
    (partners catalog control).Nodup := by
  refine List.Nodup.map_on ?_ (wellFormed.links.filter _)
  intro first firstIn second secondIn equal
  obtain ⟨firstLinked, firstTouches⟩ := List.mem_filter.mp firstIn
  obtain ⟨secondLinked, secondTouches⟩ := List.mem_filter.mp secondIn
  exact eq_of_across_eq (wellFormed.sides first firstLinked).1
    (wellFormed.sides second secondLinked).1 firstTouches secondTouches equal

theorem steps_followChannel (wellFormed : catalog.WellFormed) {control : String}
    {channel : Channel} (member : channel ∈ catalog.channelsOf control)
    (may : ∀ partner : Control, partner.isSelect = true → partner.name ≠ control → writes partner)
    (choice : String) :
    Steps catalog writes shows state (followChannel control choice state channel) := by
  obtain ⟨-, partner, partnerIn, named, isSelect, different⟩ :=
    sides_of_mem_channelsOf wellFormed member
  have noted : Steps catalog writes shows state
      { state with sync.inFlight := state.sync.inFlight ++ [channel] } := .single .aside
  unfold followChannel
  split
  next => exact .refl
  next =>
    simp only
    split
    next => exact noted
    next =>
      split
      next option _ =>
        rw [← named]
        exact noted.trans (steps_setText partnerIn (may partner isSelect different) option)
      next => exact noted.trans (.single .aside)

theorem changed_followChannel (control choice : String) (state : State) (channel : Channel) :
    ∃ more, (followChannel control choice state channel).changed = state.changed ++ more ∧
      more.Sublist [channel.across control] := by
  unfold followChannel
  split
  next => exact ⟨[], by simp, List.nil_sublist _⟩
  next =>
    simp only
    split
    next => exact ⟨[], by simp, List.nil_sublist _⟩
    next =>
      split
      next option _ =>
        exact changed_setText { state with sync.inFlight := state.sync.inFlight ++ [channel] }
          (channel.across control) option
      next => exact ⟨[], by simp, List.nil_sublist _⟩

theorem steps_followLinks (wellFormed : catalog.WellFormed) {control : String}
    (may : ∀ partner : Control, partner.isSelect = true → partner.name ≠ control →
      writes partner) :
    Steps catalog writes shows state (followLinks catalog state control) := by
  unfold followLinks
  simp only
  generalize (state.sheet.text? control).getD "" = choice
  have all : ∀ (channels : List Channel) (state : State),
      channels ⊆ catalog.channelsOf control →
      Steps catalog writes shows state (channels.foldl (followChannel control choice) state) := by
    intro channels
    induction channels with
    | nil => exact fun _ _ => .refl
    | cons channel rest inductionHypothesis =>
      intro state subset
      exact (steps_followChannel wellFormed (List.cons_subset.mp subset).1 may choice).trans
        (inductionHypothesis _ (List.cons_subset.mp subset).2)
  exact all _ state (List.Subset.refl _)

theorem changed_followLinks (catalog : Catalog) (state : State) (control : String) :
    ∃ more, (followLinks catalog state control).changed = state.changed ++ more ∧
      more.Sublist (partners catalog control) := by
  unfold followLinks partners
  simp only
  generalize (state.sheet.text? control).getD "" = choice
  induction catalog.channelsOf control generalizing state with
  | nil => exact ⟨[], by simp, .slnil⟩
  | cons channel rest inductionHypothesis =>
    obtain ⟨first, firstListed, firstSublist⟩ := changed_followChannel control choice state channel
    obtain ⟨more, listed, sublist⟩ :=
      inductionHypothesis (followChannel control choice state channel)
    refine ⟨first ++ more, ?_, firstSublist.append sublist⟩
    rw [List.foldl_cons, listed, firstListed, List.append_assoc]

/-- A control that is no select has no channels. -/
theorem channelsOf_eq_nil (wellFormed : catalog.WellFormed) {control : String}
    (noSelect : ∀ entry ∈ catalog.controls, entry.name = control → entry.isSelect = false) :
    catalog.channelsOf control = [] := by
  refine List.eq_nil_iff_forall_not_mem.mpr fun channel member => ?_
  obtain ⟨⟨entry, entryIn, named, isSelect⟩, -⟩ := sides_of_mem_channelsOf wellFormed member
  rw [noSelect entry entryIn named] at isSelect
  cases isSelect

theorem followLinks_eq_self (wellFormed : catalog.WellFormed) {control : String}
    (noSelect : ∀ entry ∈ catalog.controls, entry.name = control → entry.isSelect = false)
    (state : State) : followLinks catalog state control = state := by
  unfold followLinks
  rw [channelsOf_eq_nil wellFormed noSelect]
  rfl

end Questionnaire.Sync

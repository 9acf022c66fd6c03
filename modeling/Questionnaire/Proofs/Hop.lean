/-
This file says how far the choice of a select travels. The selects linked to it that offer the
choice take it, and the others are warned of; no other select changes, whatever is linked to those
that did, since only the changed control follows its channels.
-/
import Questionnaire.Proofs.Repetition

namespace Questionnaire

namespace Sync

variable {catalog : Catalog} {origin : String} {sync : Sync} {sheet : Sheet}

/-! ### One visit -/

/-- A control by itself writes no select. -/
theorem content?_attend (wellFormed : catalog.WellFormed) {state : State}
    (owned : state.IsOwned catalog) {control : Control} (member : control ∈ catalog.controls)
    {select : Control} (selectIn : select ∈ catalog.controls) (isSelect : select.isSelect = true) :
    (attend catalog state control).sheet.content? select.name =
      state.sheet.content? select.name := by
  have noSelect : ∀ {other : Control}, other.isBox = true ∨ (∃ name, other.kind = .echo name) ∨
      (∃ name, other.kind = .amount name) → other ≠ select := by
    rintro other (isBox | ⟨name, kind⟩ | ⟨name, kind⟩) rfl
    · rw [Control.not_isBox_of_isSelect isSelect] at isBox
      cases isBox
    · exact kind_ne_of_busy (.inl isSelect) name (.inl kind)
    · exact kind_ne_of_busy (.inl isSelect) name (.inr kind)
  have steps : Steps catalog (· ≠ select) (fun _ => True) state (attend catalog state control) :=
    steps_attend wellFormed owned member (fun _ kind => noSelect (.inr (.inl ⟨_, kind⟩)))
      (fun _ kind => ⟨noSelect (.inr (.inr ⟨_, kind⟩)), trivial⟩)
      fun _ _ isBox _ => noSelect (.inl isBox)
  exact Steps.content? steps wellFormed owned selectIn fun different => different rfl

/-- A visit of another control follows no channel and warns of nothing. -/
theorem aside_visit_later (wellFormed : catalog.WellFormed) {control : String}
    (later : control ≠ origin) (sync : Sync) (sheet : Sheet) :
    (visit catalog origin control sync sheet).sync.aside = sync.aside := by
  by_cases known : control ∈ catalog.controls.map Control.name
  · obtain ⟨entry, member, rfl⟩ := List.mem_map.mp known
    rw [visit_of_mem wellFormed member, forward, if_neg (by simpa using later)]
    exact aside_attend catalog _ entry
  · rw [visit_of_unknown wellFormed known]

/-! ### A whole change -/

/-- What carrying the change of a control comes to for the selects: those that its choice is handed
to take it or are warned of, and the others stay. -/
structure Hopped (catalog : Catalog) (origin : String) (sync : Sync) (sheet : Sheet)
    (after : State) : Prop where
  taken : ∀ name ∈ recipients catalog sheet origin, after.sheet.text? name =
    (sheet.chosen? name (choiceOf sheet origin)).or (sheet.text? name)
  others : ∀ select ∈ catalog.controls, select.isSelect = true →
    select.name ∉ recipients catalog sheet origin →
      after.sheet.content? select.name = sheet.content? select.name
  refused : after.sync.warnings = sync.warnings ++
    refusals sheet origin (choiceOf sheet origin) (recipients catalog sheet origin)

theorem exists_select_of_mem_recipients (wellFormed : catalog.WellFormed) {name : String}
    (listed : name ∈ recipients catalog sheet origin) :
    ∃ select ∈ catalog.controls, select.name = name ∧ select.isSelect = true := by
  obtain ⟨channel, member, rfl⟩ := List.mem_map.mp (mem_partners_of_mem_recipients listed)
  obtain ⟨-, partner, partnerIn, named, isSelect, -⟩ := sides_of_mem_channelsOf wellFormed member
  exact ⟨partner, partnerIn, named, isSelect⟩

theorem recipients_eq_nil (wellFormed : catalog.WellFormed)
    (noChoice : choiceOf sheet origin = "" ∨
      ∀ control ∈ catalog.controls, control.name = origin → control.isSelect = false) :
    recipients catalog sheet origin = [] := by
  unfold recipients
  split
  next => rfl
  next some =>
    rcases noChoice with empty | noSelect
    · rw [empty] at some
      exact absurd rfl some
    · unfold partners
      rw [channelsOf_eq_nil wellFormed noSelect]
      rfl

/-- Nothing travels from a control that has no choice to hand over. -/
theorem hopped_of_nil {after : State} (nobody : recipients catalog sheet origin = [])
    (same : ∀ select ∈ catalog.controls, select.isSelect = true →
      after.sheet.content? select.name = sheet.content? select.name)
    (warnings : after.sync.warnings = sync.warnings) : Hopped catalog origin sync sheet after where
  taken name listed := by
    rw [nobody] at listed
    cases listed
  others select selectIn isSelect _ := same select selectIn isSelect
  refused := by
    rw [nobody, warnings]
    exact (List.append_nil _).symm

/-- What a select hands over travels, if no select was written before that. -/
theorem hopped_of_handed (wellFormed : catalog.WellFormed) {select : Control}
    (member : select ∈ catalog.controls) (isSelect : select.isSelect = true)
    {before after : State}
    (same : ∀ other ∈ catalog.controls, other.isSelect = true →
      before.sheet.content? other.name = sheet.content? other.name)
    (warnings : before.sync.warnings = sync.warnings)
    (handed : Handed select.name (choiceOf before.sheet select.name)
      (recipients catalog before.sheet select.name) before after) :
    Hopped catalog select.name sync sheet after := by
  have sameChoice := (choiceOf_congr (same select member isSelect)).1
  have sameRecipients : recipients catalog before.sheet select.name =
      recipients catalog sheet select.name := by
    unfold recipients
    rw [sameChoice]
  rw [sameChoice, sameRecipients] at handed
  have sameContent : ∀ name ∈ recipients catalog sheet select.name,
      before.sheet.content? name = sheet.content? name := by
    intro name listed
    obtain ⟨other, otherIn, rfl, otherIsSelect⟩ :=
      exists_select_of_mem_recipients wellFormed listed
    exact same other otherIn otherIsSelect
  constructor
  case taken =>
    intro name listed
    rw [handed.taken name listed, Sheet.chosen?_congr (sameContent name listed),
      Sheet.text?_congr (sameContent name listed)]
  case others =>
    exact fun other otherIn otherIsSelect apart =>
      (handed.others other.name apart).symm.trans (same other otherIn otherIsSelect)
  case refused =>
    rw [handed.refused, warnings]
    congr 1
    exact refusals_congr fun name listed => Sheet.chosen?_congr (sameContent name listed) _

/-- The visit of the changed control hands its choice over. -/
theorem hopped_visit (wellFormed : catalog.WellFormed) (owned : Owned catalog sync.derived sheet)
    (rested : sync.inFlight = []) (origin : String) :
    Hopped catalog origin sync sheet (visit catalog origin origin sync sheet) := by
  have ownedState : State.IsOwned catalog ⟨sync, sheet, []⟩ := owned
  by_cases known : origin ∈ catalog.controls.map Control.name
  · obtain ⟨control, member, rfl⟩ := List.mem_map.mp known
    obtain ⟨inFlight, warnings⟩ := Prod.mk.inj (aside_attend catalog ⟨sync, sheet, []⟩ control)
    have same : ∀ select ∈ catalog.controls, select.isSelect = true →
        (attend catalog ⟨sync, sheet, []⟩ control).sheet.content? select.name =
          sheet.content? select.name := fun select selectIn isSelect =>
      content?_attend wellFormed ownedState member selectIn isSelect
    rw [visit_of_mem wellFormed member, forward, if_pos (by simp)]
    by_cases isSelect : control.isSelect = true
    · exact hopped_of_handed wellFormed member isSelect same warnings
        (handed_followLinks wellFormed (inFlight.trans rested) control.name)
    · have noSelect : ∀ other ∈ catalog.controls, other.name = control.name →
          other.isSelect = false := by
        intro other otherIn named
        rw [wellFormed.eq_of_name_eq otherIn member named]
        simpa using isSelect
      rw [followLinks_eq_self wellFormed noSelect]
      exact hopped_of_nil (recipients_eq_nil wellFormed (.inr noSelect)) same warnings
  · rw [visit_of_unknown wellFormed known]
    refine hopped_of_nil (recipients_eq_nil wellFormed (.inr fun control member named => ?_))
      (fun _ _ _ => rfl) rfl
    exact absurd (List.mem_map.mpr ⟨control, member, named⟩) known

/-- The visits after that write no select, and so the choice travels no farther. -/
theorem hopped_propagate (wellFormed : catalog.WellFormed)
    (owned : Owned catalog sync.derived sheet) (rested : sync.inFlight = []) (origin : String) :
    Hopped catalog origin sync sheet (propagate catalog sync sheet origin) := by
  have hopped := propagate_later wellFormed owned origin
    (fun wave => Hopped catalog origin sync sheet ⟨wave.sync, wave.sheet, []⟩) ?_ ?_
  · exact ⟨hopped.taken, hopped.others, hopped.refused⟩
  · obtain ⟨taken, others, refused⟩ := hopped_visit wellFormed owned rested origin
    exact ⟨taken, others, refused⟩
  · intro wave control rest calm waits hopped
    obtain ⟨later, spares⟩ := calm.spares wellFormed waits
    have same : ∀ select ∈ catalog.controls, select.isSelect = true →
        (visit catalog origin control wave.sync wave.sheet).sheet.content? select.name =
          wave.sheet.content? select.name := fun select selectIn isSelect =>
      spares.content select selectIn (.inl isSelect)
    constructor
    case taken =>
      intro name listed
      obtain ⟨select, selectIn, rfl, isSelect⟩ := exists_select_of_mem_recipients wellFormed listed
      rw [← hopped.taken select.name listed]
      exact Sheet.text?_congr (same select selectIn isSelect)
    case others =>
      exact fun select selectIn isSelect apart =>
        (same select selectIn isSelect).trans (hopped.others select selectIn isSelect apart)
    case refused =>
      exact (congrArg Prod.snd (aside_visit_later wellFormed later wave.sync wave.sheet)).trans
        hopped.refused

end Sync

namespace Session

variable {catalog : Catalog}

/-- In every session that a run reaches, and whatever was written since, the choice of a select goes
to the selects linked to it, and no farther. Each of them takes the option that the choice names, or
else keeps its text, and those that keep it are warned of once, in the order of the channels. An
empty choice, or the change of a control that is no select, goes nowhere. -/
theorem links_of_run {form : Form} (built : Catalog.build form = .ok catalog)
    (operations : List Operation) (origin : String) :
    let session := run catalog operations
    ∀ sheet, Sheet.Refilled session.sheet sheet →
      let choice := Sync.choiceOf sheet origin
      let partners := Sync.partners catalog origin
      let after := Sync.propagate catalog session.sync sheet origin
      (∀ partner, partner ∈ partners ↔ Channel.between origin partner ∈ catalog.links) ∧
      (choice ≠ "" →
        (∀ partner ∈ partners, ∃ select ∈ catalog.controls, select.name = partner ∧
          ∃ options echo, select.kind = .select options echo ∧
            sheet.chosen? partner choice = Answer.option? options choice ∧
            after.sheet.text? partner =
              (Answer.option? options choice).or (sheet.text? partner)) ∧
        after.sync.warnings = session.sync.warnings ++
          (partners.filter fun partner => (sheet.chosen? partner choice).isNone).map
            fun partner => ⟨origin, partner, choice⟩) ∧
      (choice = "" ∨
          (∀ control ∈ catalog.controls, control.name = origin → control.isSelect = false) →
        (∀ select ∈ catalog.controls, select.isSelect = true →
          after.sheet.content? select.name = sheet.content? select.name) ∧
        after.sync.warnings = session.sync.warnings) ∧
      ∀ select ∈ catalog.controls, select.isSelect = true → select.name ∉ partners →
        after.sheet.content? select.name = sheet.content? select.name := by
  have wellFormed := Catalog.wellFormed_of_build built
  have rested := ((kept_rested catalog).run operations).2
  intro session sheet refilled choice partners after
  have owned : Owned catalog session.sync.derived sheet :=
    (owned_run wellFormed operations).refilled refilled
  have hopped : Sync.Hopped catalog origin session.sync sheet after :=
    Sync.hopped_propagate wellFormed owned rested origin
  refine ⟨fun partner => Sync.mem_partners_iff wellFormed, fun some => ?_, fun noChoice => ?_, ?_⟩
  · have recipients : Sync.recipients catalog sheet origin = partners :=
      if_neg (by simpa using some)
    refine ⟨fun partner listed => ?_, recipients ▸ hopped.refused⟩
    obtain ⟨select, selectIn, rfl, isSelect⟩ :=
      Sync.exists_select_of_mem_recipients wellFormed (recipients ▸ listed)
    obtain ⟨options, echo, kind⟩ := Control.exists_kind_of_isSelect isSelect
    have chosen := owned.chosen?_of_kind selectIn kind choice
    refine ⟨select, selectIn, rfl, options, echo, kind, chosen, ?_⟩
    rw [← chosen]
    exact hopped.taken select.name (recipients ▸ listed)
  · have nobody := Sync.recipients_eq_nil wellFormed noChoice
    have refused := hopped.refused
    rw [nobody] at refused
    refine ⟨fun select selectIn isSelect => ?_, refused.trans (List.append_nil _)⟩
    exact hopped.others select selectIn isSelect (nobody ▸ List.not_mem_nil)
  · exact fun select selectIn isSelect apart => hopped.others select selectIn isSelect
      fun listed => apart (Sync.mem_partners_of_mem_recipients listed)

/-- A form of four selects, in which the first is linked to the second and the last, and the second
to the third. -/
def chain : Form :=
  { id := "chain", title := "Chain", description := none
    sections := [⟨1, "One",
      [plain "first" .dropdown "A" [⟨"Red", none, false, false⟩, ⟨"Blue", none, false, false⟩],
       plain "second" .dropdown "B" [⟨"RED", none, false, false⟩, ⟨"Blue", none, false, false⟩],
       plain "third" .singleChoice "C" [⟨"Red", none, false, false⟩],
       plain "fourth" .singleChoice "D" [⟨"Green", none, false, false⟩]]⟩]
    hiddenFields := []
    links := [⟨"first", "second"⟩, ⟨"second", "third"⟩, ⟨"fourth", "first"⟩] }

theorem chain_isSome : (Catalog.build chain).toOption.isSome = true := by decide +kernel

/-- The catalog of that form. -/
def chainCatalog : Catalog := (Catalog.build chain).toOption.get chain_isSome

theorem build_chain : Catalog.build chain = .ok chainCatalog := Catalog.eq_ok_get chain_isSome

/-- The choice of the first select reaches the second, which spells it in its own way, but not the
third; and the fourth is warned of. -/
theorem links_of_chain :
    let session := run chainCatalog [.rehydrate (NameMap.ofList [("a", " red")])]
    let after := Sync.propagate chainCatalog session.sync session.sheet "a"
    Sync.choiceOf session.sheet "a" = "Red" ∧ after.sheet.text? "b" = some "RED" ∧
      after.sheet.text? "c" = some "" ∧ after.sync.warnings = [⟨"a", "d", "Red"⟩] := by
  obtain ⟨-, handed, -, others⟩ := links_of_run build_chain
    [.rehydrate (NameMap.ofList [("a", " red")])] "a" _ (.refl _)
  obtain ⟨-, refused⟩ := handed (by decide +kernel)
  exact ⟨by decide +kernel, by decide +kernel, by decide +kernel,
    refused.trans (by decide +kernel)⟩

end Session

end Questionnaire

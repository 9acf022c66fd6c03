/-
This file says what holds of a control to which a change has been carried: all that goes with it
agrees with it. Its echo holds its choice; what it has derived is what it asks for; the linked
selects that offer its choice hold it; the boxes that it excludes are not checked; and its amount
follows it. A visit brings all of this about, and the visits after it leave it alone, since they
write nothing but echoes and amounts of other controls.
-/
import Questionnaire.Proofs.Agreement
import Questionnaire.Proofs.Amount
import Questionnaire.Proofs.Link

namespace Questionnaire.Sync

variable {catalog : Catalog} {state : State} {origin : String}

/-! ### Exclusion -/

/-- Whether one of a box and its sibling excludes the other. -/
def excludes (catalog : Catalog) (box : Control) (sibling : String) : Bool :=
  box.isExclusive || (catalog.control? sibling).any Control.isExclusive

theorem checked?_foldl_exclude (box : Control) (names : List String) (state : State)
    {name : String}
    (checked : (names.foldl (exclude catalog box) state).sheet.checked? name = some true) :
    state.sheet.checked? name = some true ∧ (name ∈ names → excludes catalog box name = false) := by
  induction names generalizing state with
  | nil => exact ⟨checked, fun never => by cases never⟩
  | cons head rest inductionHypothesis =>
    rw [List.foldl_cons] at checked
    obtain ⟨before, spared⟩ := inductionHypothesis _ checked
    unfold exclude at before
    split at before
    next excluded =>
      obtain ⟨different, checkedBefore⟩ := checked?_uncheck before
      refine ⟨checkedBefore, fun listed => spared ?_⟩
      exact (List.mem_cons.mp listed).resolve_left different
    next notExcluded =>
      refine ⟨before, fun listed => ?_⟩
      rcases List.mem_cons.mp listed with rfl | inRest
      · exact Bool.eq_false_iff.mpr notExcluded
      · exact spared inRest

/-- No box stays checked that a checked box excludes. -/
theorem checked?_enforceExclusion {box : Control} {sibling : String}
    (isSibling : sibling ∈ siblings catalog box) (excluded : excludes catalog box sibling = true)
    (checked : state.sheet.checked? box.name = some true) :
    (enforceExclusion catalog state box).sheet.checked? sibling ≠ some true := by
  rw [enforceExclusion_eq, if_pos (by simp [checked])]
  intro still
  rw [(checked?_foldl_exclude box _ state still).2 isSibling] at excluded
  cases excluded

/-! ### Parts of a visit -/

/-- What is kept beside the derived entries: the channels that are followed and the warnings. -/
def aside (sync : Sync) : List Channel × List SyncWarning := (sync.inFlight, sync.warnings)

theorem aside_release (state : State) (select : String) :
    (release state select).sync.aside = state.sync.aside := by
  unfold release
  split <;> rfl

theorem aside_acquire (state : State) (select name choice : String) :
    (acquire state select name choice).sync.aside = state.sync.aside := by
  unfold acquire
  split
  next => rfl
  next => split <;> rfl

theorem aside_echoChoice (state : State) (select echo : String) :
    (echoChoice state select echo).sync.aside = state.sync.aside := by
  have same : (echoed state select echo).sync = state.sync := sync_setText state echo _
  rcases echoChoice_cases state select echo with
    ⟨name, -, -, equal⟩ | ⟨-, equal⟩ | ⟨name, -, equal⟩
  · rw [equal, same]
  · rw [equal, aside_release, same]
  · rw [equal, aside_acquire, aside_release, same]

/-- A control by itself follows no channel and warns of nothing. -/
theorem aside_attend (catalog : Catalog) (state : State) (control : Control) :
    (attend catalog state control).sync.aside = state.sync.aside := by
  unfold attend
  split
  next => exact aside_echoChoice state _ _
  next => rw [sync_followAmount, sync_enforceExclusion]
  next => rw [sync_enforceExclusion]
  next => rfl

/-- A box itself writes siblings and its amount. -/
theorem steps_attend_box (wellFormed : catalog.WellFormed) (owned : state.IsOwned catalog)
    {box : Control} (member : box ∈ catalog.controls) (isBox : box.isBox = true) :
    Steps catalog (fun written => written ≠ box) (fun _ => True) state
      (attend catalog state box) := by
  obtain ⟨value, amount, exclusive, kind⟩ := Control.exists_kind_of_isBox isBox
  refine steps_attend wellFormed owned member ?_ ?_ ?_
  · rintro twin twinKind rfl
    rw [kind] at twinKind
    cases twinKind
  · refine fun part partKind => ⟨?_, trivial⟩
    rintro rfl
    rw [kind] at partKind
    cases partKind
  · rintro _ other _ different rfl
    exact different rfl

/-- Boxes are checked or not as they were if no box is written. -/
theorem Steps.checked? {writes shows : Control → Prop} {before after : State}
    (steps : Steps catalog writes shows before after) (wellFormed : catalog.WellFormed)
    (owned : before.IsOwned catalog) (spared : ∀ control, writes control → control.isBox = false)
    {control : Control} (member : control ∈ catalog.controls) :
    after.sheet.checked? control.name = before.sheet.checked? control.name := by
  by_cases isBox : control.isBox = true
  · refine Sheet.checked?_congr (Steps.content? steps wellFormed owned member fun may => ?_)
    rw [spared control may] at isBox
    cases isBox
  · have unchecked : ∀ {derived sheet}, Owned catalog derived sheet →
        sheet.checked? control.name = none := fun owned =>
      Option.eq_none_iff_forall_ne_some.mpr fun _ holds =>
        isBox (owned.isBox_of_checked? member holds)
    rw [unchecked owned, unchecked (Steps.isOwned steps owned)]

theorem cleared_cleared (content : Content) : content.cleared.cleared = content.cleared := by
  cases content <;> rfl

/-- The amount of an unchecked box is empty afterwards. -/
theorem cleared_followAmount {name amount : String} {content : Content}
    (unchecked : state.sheet.checked? name ≠ some true)
    (holds : (followAmount state name amount).sheet.content? amount = some content) :
    content.cleared = content := by
  rw [followAmount_eq, if_neg (by simpa using unchecked)] at holds
  change ((revealed state name amount).sheet.clear amount).1.content? amount = _ at holds
  unfold Sheet.clear at holds
  split at holds
  next absent => rw [Sheet.content?_eq, absent] at holds; cases holds
  next entry present =>
    rw [Sheet.content?_eq, Sheet.get?_put present, if_pos rfl] at holds
    cases holds
    exact cleared_cleared entry.content

/-! ### Controls that a change has been carried to -/

/-- Whether the selects linked to a control hold its choice, as far as they offer it. -/
def LinksAgree (catalog : Catalog) (name : String) (sheet : Sheet) : Prop :=
  ∀ partner ∈ partners catalog name, ∀ option, (choiceOf sheet name).isEmpty = false →
    sheet.chosen? partner (choiceOf sheet name) = some option → sheet.text? partner = some option

/-- Links are read off what the selects hold. -/
theorem LinksAgree.congr (wellFormed : catalog.WellFormed) {name : String} {first second : Sheet}
    (same : ∀ select ∈ catalog.controls, select.isSelect = true →
      second.content? select.name = first.content? select.name)
    (agree : LinksAgree catalog name first) : LinksAgree catalog name second := by
  intro partner isPartner option chosen offered
  obtain ⟨channel, channelIn, rfl⟩ := List.mem_map.mp isPartner
  obtain ⟨⟨select, selectIn, named, isSelect⟩, other, otherIn, otherNamed, otherIsSelect, -⟩ :=
    sides_of_mem_channelsOf wellFormed channelIn
  have sameSelect := same select selectIn isSelect
  have sameOther := same other otherIn otherIsSelect
  rw [named] at sameSelect
  rw [otherNamed] at sameOther
  rw [(choiceOf_congr sameSelect).1] at chosen offered
  rw [Sheet.chosen?_congr sameOther] at offered
  rw [Sheet.text?_congr sameOther]
  exact agree _ isPartner option chosen offered

/-- Whether all that goes with a control agrees with it. -/
structure Settled (catalog : Catalog) (name : String) (derived : NameMap String)
    (sheet : Sheet) : Prop where
  echo : EchoAgrees catalog name sheet
  entry : ∀ entry, derived.get? name = some entry → wanted sheet name = some entry
  links : LinksAgree catalog name sheet
  exclusion : ∀ box ∈ catalog.controls, box.name = name → sheet.checked? name = some true →
    ∀ sibling ∈ siblings catalog box, excludes catalog box sibling = true →
      sheet.checked? sibling ≠ some true
  amount : Follows catalog name sheet
  emptied : ∀ box ∈ catalog.controls, box.name = name → ∀ amount, box.amount? = some amount →
    sheet.checked? name ≠ some true →
      ∀ content, sheet.content? amount = some content → content.cleared = content

/-- What a visited dropdown has derived is what it asks for. -/
theorem wanted_visit (wellFormed : catalog.WellFormed) {sync : Sync} {sheet : Sheet}
    (owned : Owned catalog sync.derived sheet) {name entry : String}
    (owns : (visit catalog origin name sync sheet).sync.derived.get? name = some entry) :
    wanted (visit catalog origin name sync sheet).sheet name = some entry := by
  have ownedVisited : (visit catalog origin name sync sheet).IsOwned catalog :=
    Steps.isOwned (steps_visit wellFormed owned origin name) owned
  obtain ⟨-, dropdown, member, rfl, derives⟩ := ownedVisited.owner name entry owns
  obtain ⟨echo, echoes⟩ := echo?_of_derives derives
  rw [visit_eq_forward wellFormed member echoes, derived_forward] at owns
  have asked := wanted_of_renewed echoes owns
  rw [(choiceOf_congr (content?_visit wellFormed owned member echoes)).2]
  exact asked

/-- The selects linked to a visited control hold its choice, if they offer it. -/
theorem linksAgree_visit (wellFormed : catalog.WellFormed) {sync : Sync} {sheet : Sheet}
    (owned : Owned catalog sync.derived sheet) (rested : sync.inFlight = []) (origin : String) :
    LinksAgree catalog origin (visit catalog origin origin sync sheet).sheet := by
  have ownedVisited : (visit catalog origin origin sync sheet).IsOwned catalog :=
    Steps.isOwned (steps_visit wellFormed owned origin origin) owned
  intro partner isPartner option chosen offered
  obtain ⟨channel, channelIn, rfl⟩ := List.mem_map.mp isPartner
  obtain ⟨⟨select, member, rfl, -⟩, other, otherIn, otherNamed, isSelect, -⟩ :=
    sides_of_mem_channelsOf wellFormed channelIn
  obtain ⟨options, echo, kind⟩ := Control.exists_kind_of_isSelect isSelect
  have attended : Steps catalog (fun _ => True) (fun _ => True) ⟨sync, sheet, []⟩
      (attend catalog ⟨sync, sheet, []⟩ select) :=
    steps_attend wellFormed owned member (fun _ _ => trivial) (fun _ _ => ⟨trivial, trivial⟩)
      fun _ _ _ _ => trivial
  have ownedAttended := Steps.isOwned attended owned
  rw [← otherNamed, ownedVisited.chosen?_of_kind otherIn kind,
    ← ownedAttended.chosen?_of_kind otherIn kind, otherNamed] at offered
  rw [visit_of_mem wellFormed member, forward, if_pos (by simp)] at chosen offered ⊢
  have handed := handed_followLinks wellFormed
    ((congrArg Prod.fst (aside_attend catalog ⟨sync, sheet, []⟩ select)).trans rested) select.name
  -- The links write other selects only, so the choice that was followed is the one held now.
  have same := (choiceOf_congr (handed.others select.name fun listed =>
    self_notMem_partners wellFormed _ (mem_partners_of_mem_recipients listed))).1
  rw [← same] at chosen offered
  have isRecipient : channel.across select.name ∈ recipients catalog
      (attend catalog ⟨sync, sheet, []⟩ select).sheet select.name := by
    unfold recipients
    rw [chosen]
    exact isPartner
  rw [handed.taken _ isRecipient, offered]
  rfl

/-- A visited box is checked or not as it was. -/
theorem checked?_visit_box (wellFormed : catalog.WellFormed) {sync : Sync} {sheet : Sheet}
    (owned : Owned catalog sync.derived sheet) {box : Control} (member : box ∈ catalog.controls)
    (isBox : box.isBox = true) :
    (visit catalog origin box.name sync sheet).sheet.checked? box.name =
      sheet.checked? box.name := by
  have ownedState : State.IsOwned catalog ⟨sync, sheet, []⟩ := owned
  have steps := steps_attend_box wellFormed ownedState member isBox
  rw [visit_of_isBox wellFormed member isBox]
  exact Sheet.checked?_congr (Steps.content? steps wellFormed ownedState member
    fun different => different rfl)

/-- No box stays checked that a visited and checked box excludes. -/
theorem exclusion_visit (wellFormed : catalog.WellFormed) {sync : Sync} {sheet : Sheet}
    (owned : Owned catalog sync.derived sheet) {box : Control} (member : box ∈ catalog.controls)
    (checked : (visit catalog origin box.name sync sheet).sheet.checked? box.name = some true)
    {sibling : String} (isSibling : sibling ∈ siblings catalog box)
    (excluded : excludes catalog box sibling = true) :
    (visit catalog origin box.name sync sheet).sheet.checked? sibling ≠ some true := by
  have ownedState : State.IsOwned catalog ⟨sync, sheet, []⟩ := owned
  have ownedVisited : (visit catalog origin box.name sync sheet).IsOwned catalog :=
    Steps.isOwned (steps_visit wellFormed owned origin box.name) owned
  have isBox := ownedVisited.isBox_of_checked? member checked
  rw [checked?_visit_box wellFormed owned member isBox] at checked
  have unchecked : (enforceExclusion catalog ⟨sync, sheet, []⟩ box).sheet.checked? sibling ≠
      some true := checked?_enforceExclusion isSibling excluded checked
  rw [visit_of_isBox wellFormed member isBox]
  cases has : box.amount? with
  | none =>
    obtain ⟨value, amount, exclusive, kind⟩ := Control.exists_kind_of_isBox isBox
    have noAmount : amount = none := by
      unfold Control.amount? at has
      rw [kind] at has
      exact has
    subst noAmount
    unfold attend
    simp only [kind]
    exact unchecked
  | some amount =>
    obtain ⟨part, partIn, rfl, partKind, -⟩ := wellFormed.paired.amount box member amount has
    obtain ⟨-, other, otherIn, rfl⟩ := mem_siblings wellFormed isSibling
    have excludes : Steps catalog (fun _ => True) (fun _ => True) ⟨sync, sheet, []⟩
        (enforceExclusion catalog ⟨sync, sheet, []⟩ box) :=
      steps_enforceExclusion wellFormed ownedState fun _ _ _ => trivial
    have follows : Steps catalog (part = ·) (part = ·)
        (enforceExclusion catalog ⟨sync, sheet, []⟩ box)
        (followAmount (enforceExclusion catalog ⟨sync, sheet, []⟩ box) box.name part.name) :=
      steps_followAmount partIn rfl rfl box.name
    have noBox : ∀ control, part = control → control.isBox = false := by
      rintro control rfl
      unfold Control.isBox
      rw [partKind]
    rw [attend_of_amount? has, Steps.checked? follows wellFormed (Steps.isOwned excludes owned)
      noBox otherIn]
    exact unchecked

/-- The amount of a visited box that is not checked is empty. -/
theorem emptied_visit (wellFormed : catalog.WellFormed) {sync : Sync} {sheet : Sheet}
    (owned : Owned catalog sync.derived sheet) {box : Control} (member : box ∈ catalog.controls)
    {amount : String} (has : box.amount? = some amount)
    (unchecked : (visit catalog origin box.name sync sheet).sheet.checked? box.name ≠ some true)
    {content : Content}
    (holds : (visit catalog origin box.name sync sheet).sheet.content? amount = some content) :
    content.cleared = content := by
  have ownedState : State.IsOwned catalog ⟨sync, sheet, []⟩ := owned
  obtain ⟨value, exclusive, kind⟩ := exists_kind_of_amount? has
  have isBox : box.isBox = true := by
    unfold Control.isBox
    rw [kind]
  rw [checked?_visit_box wellFormed owned member isBox] at unchecked
  have excludes : Steps catalog (fun written => written ≠ box) (fun _ => True) ⟨sync, sheet, []⟩
      (enforceExclusion catalog ⟨sync, sheet, []⟩ box) :=
    steps_enforceExclusion wellFormed ownedState fun other _ different equal =>
      different (equal ▸ rfl)
  have same := Steps.content? excludes wellFormed owned member fun different => different rfl
  rw [visit_of_isBox wellFormed member isBox, attend_of_amount? has] at holds
  exact cleared_followAmount (by rwa [Sheet.checked?_congr same]) holds

/-- The visit of the changed control settles it. -/
theorem settled_visit (wellFormed : catalog.WellFormed) {sync : Sync} {sheet : Sheet}
    (owned : Owned catalog sync.derived sheet) (rested : sync.inFlight = []) :
    Settled catalog origin (visit catalog origin origin sync sheet).sync.derived
      (visit catalog origin origin sync sheet).sheet where
  echo := echoAgrees_visit wellFormed owned origin
  entry _ owns := wanted_visit wellFormed owned owns
  links := linksAgree_visit wellFormed owned rested origin
  exclusion := by
    rintro box member rfl checked sibling isSibling excluded
    exact exclusion_visit wellFormed owned member checked isSibling excluded
  amount := follows_visit wellFormed owned origin
  emptied := by
    rintro box member rfl amount has unchecked content holds
    exact emptied_visit wellFormed owned member has unchecked holds

/-! ### What later visits leave alone -/

theorem exists_of_not_idle {name : String} (busy : ¬Idle catalog name) :
    ∃ control ∈ catalog.controls, control.name = name ∧
      (control.isSelect = true ∨ control.isBox = true) := by
  unfold Idle at busy
  push Not at busy
  obtain ⟨control, member, named, isBusy⟩ := busy
  refine ⟨control, member, named, ?_⟩
  by_cases isSelect : control.isSelect = true
  · exact .inl isSelect
  · exact .inr (by simpa using isBusy (by simpa using isSelect))

theorem kind_ne_of_busy {control : Control}
    (busy : control.isSelect = true ∨ control.isBox = true) (name : String) :
    ¬(control.kind = .echo name ∨ control.kind = .amount name) := by
  unfold Control.isSelect Control.isBox at busy
  rintro (kind | kind) <;> simp [kind] at busy

/-- What a later visit leaves alone: all selects and boxes, and the echo and amount of the changed
control. -/
structure Spares (catalog : Catalog) (origin : String) (before after : Sheet) : Prop where
  content : ∀ control ∈ catalog.controls,
    control.isSelect = true ∨ control.isBox = true ∨ control.kind = .echo origin ∨
      control.kind = .amount origin →
    after.content? control.name = before.content? control.name
  hidden : ∀ part ∈ catalog.controls, part.kind = .amount origin →
    after.isHidden part.name = before.isHidden part.name

theorem Wave.Calm.spares (wellFormed : catalog.WellFormed) {wave : Wave}
    (calm : wave.Calm catalog origin) {control : String} {rest : List String}
    (waits : wave.queue = control :: rest) :
    control ≠ origin ∧
      Spares catalog origin wave.sheet
        (visit catalog origin control wave.sync wave.sheet).sheet := by
  have controlIn : control ∈ wave.queue := waits ▸ List.mem_cons_self
  have different : control ≠ origin := fun equal => calm.fresh (equal ▸ controlIn)
  have steps := steps_visit_later wellFormed calm.owned different (calm.unchecked control controlIn)
  refine ⟨different, fun other member among => ?_, fun part member kind => ?_⟩
  · refine Steps.content? steps wellFormed calm.owned member ?_
    rcases among with isSelect | isBox | kind | kind
    · exact kind_ne_of_busy (.inl isSelect) control
    · exact kind_ne_of_busy (.inr isBox) control
    · rw [kind]
      rintro (equal | equal) <;> cases equal
      exact different rfl
    · rw [kind]
      rintro (equal | equal) <;> cases equal
      exact different rfl
  · refine Steps.isHidden (steps_visit wellFormed calm.owned origin control) wellFormed calm.owned
      member ?_
    rw [kind]
    rintro equal
    cases equal
    exact different rfl

/-- What agrees with a select or box still agrees with it if nothing of it is changed. -/
theorem Settled.spared (wellFormed : catalog.WellFormed) {derived other : NameMap String}
    {before after : Sheet} (owned : Owned catalog other after) (busy : ¬Idle catalog origin)
    (spares : Spares catalog origin before after) (same : other.get? origin = derived.get? origin)
    (settled : Settled catalog origin derived before) : Settled catalog origin other after := by
  obtain ⟨control, controlIn, rfl, isBusy⟩ := exists_of_not_idle busy
  have sameControl := spares.content control controlIn (isBusy.imp_right .inl)
  obtain ⟨sameChoice, sameWanted⟩ := choiceOf_congr sameControl
  have sameCheck := Sheet.checked?_congr sameControl
  constructor
  case echo =>
    intro dropdown member named echo echoes
    obtain ⟨twin, twinIn, rfl, kind⟩ := wellFormed.paired.echo dropdown member echo echoes
    rw [sameChoice, spares.content twin twinIn (.inr (.inr (.inl (named ▸ kind))))]
    exact settled.echo dropdown member named twin.name echoes
  case entry =>
    intro name owns
    rw [sameWanted]
    exact settled.entry name (same ▸ owns)
  case links =>
    exact settled.links.congr wellFormed fun select selectIn isSelect =>
      spares.content select selectIn (.inl isSelect)
  case exclusion =>
    intro box member named checked sibling isSibling excluded stillChecked
    obtain ⟨-, other, otherIn, rfl⟩ := mem_siblings wellFormed isSibling
    have isBox := owned.isBox_of_checked? otherIn stillChecked
    refine settled.exclusion box member named (sameCheck ▸ checked) other.name isSibling excluded ?_
    rw [← Sheet.checked?_congr (spares.content other otherIn (.inr (.inl isBox)))]
    exact stillChecked
  case amount =>
    intro box member named amount has
    obtain ⟨part, partIn, rfl, kind, -⟩ := wellFormed.paired.amount box member amount has
    rw [spares.hidden part partIn (named ▸ kind), sameCheck]
    exact settled.amount box member named part.name has
  case emptied =>
    intro box member named amount has unchecked content holds
    obtain ⟨part, partIn, rfl, kind, -⟩ := wellFormed.paired.amount box member amount has
    rw [spares.content part partIn (.inr (.inr (.inr (named ▸ kind))))] at holds
    exact settled.emptied box member named part.name has (sameCheck ▸ unchecked) content holds

/-- A control is settled once a change has been carried to it. -/
theorem settled_propagate (wellFormed : catalog.WellFormed) {sync : Sync} {sheet : Sheet}
    (owned : Owned catalog sync.derived sheet) (rested : sync.inFlight = []) (origin : String) :
    Settled catalog origin (propagate catalog sync sheet origin).sync.derived
      (propagate catalog sync sheet origin).sheet := by
  refine propagate_later wellFormed owned origin
    (fun wave => Settled catalog origin wave.sync.derived wave.sheet)
    (settled_visit wellFormed owned rested) ?_
  intro wave control rest calm waits settled
  obtain ⟨different, spares⟩ := calm.spares wellFormed waits
  refine settled.spared wellFormed (calm_next wellFormed calm waits).1.owned
    (calm.busy (waits ▸ List.cons_ne_nil control rest)) spares ?_
  exact get?_derived_visit wellFormed wave.sync wave.sheet different

end Questionnaire.Sync

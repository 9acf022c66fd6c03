/-
This file says what a dropdown has once it was brought up to its choice, by a change that is carried
from it or with all dropdowns. Its echo holds the choice. It has the derived entry of its choice if
nobody else has the name, unless a dropdown whose turn comes later had the name and gives it up
then. An entry that is new is checked and has the choice as its value; but an entry of the same name
is left as it is, so it may be unchecked, or have another option of the same slug as its value.
-/
import Questionnaire.Proofs.Hop

namespace Questionnaire

namespace Sync

variable {catalog : Catalog} {state : State} {origin : String}

/-! ### What a step leaves alone -/

/-- A name that is not listed as changed holds what it held. -/
theorem Steps.content?_of_listed {writes shows : Control → Prop} {before after : State}
    (steps : Steps catalog writes shows before after) {more : List String}
    (listed : after.changed = before.changed ++ more) {name : String} (unlisted : name ∉ more) :
    after.sheet.content? name = before.sheet.content? name := by
  obtain ⟨reported, sameListed, agree⟩ := Steps.reports steps
  rw [listed, List.append_cancel_left_eq] at sameListed
  exact (agree name (sameListed ▸ unlisted)).symm

theorem content?_echoed (wellFormed : catalog.WellFormed) {dropdown : Control}
    (member : dropdown ∈ catalog.controls) {echo : String} (echoes : dropdown.echo? = some echo)
    {name : String} (foreign : name ∉ catalog.controls.map Control.name) :
    (echoed state dropdown.name echo).sheet.content? name = state.sheet.content? name := by
  obtain ⟨twin, twinIn, named, -⟩ := wellFormed.paired.echo dropdown member echo echoes
  have steps : Steps catalog (fun _ => True) (fun _ => True) state
      (echoed state dropdown.name echo) := steps_echoed wellFormed member echoes fun _ _ => trivial
  obtain ⟨more, listed, sublist⟩ := changed_setText state echo (choiceOf state.sheet dropdown.name)
  refine Steps.content?_of_listed steps listed fun isIn => foreign ?_
  rw [List.mem_singleton.mp (sublist.subset isIn), ← named]
  exact List.mem_map_of_mem twinIn

theorem content?_release {select owner name : String} (owned : state.IsOwned catalog)
    (different : select ≠ owner) (owns : state.sync.derived.get? owner = some name) :
    (release state select).sheet.content? name = state.sheet.content? name := by
  cases had : state.sync.derived.get? select with
  | none => rw [release_of_none had]
  | some previous =>
    have apart : previous ≠ name := by
      rintro rfl
      exact different (owned.apart _ _ _ had owns)
    rw [release_of_some owned had, Sheet.content?_eq, NameMap.get?_erase, if_neg apart]
    rfl

theorem content?_acquire {select name other choice : String} (owned : state.IsOwned catalog)
    (free : state.sync.derived.get? select = none) (live : state.sheet.contains name = true) :
    (acquire state select other choice).sheet.content? name = state.sheet.content? name := by
  rw [acquire_eq owned free]
  split
  next => rfl
  next absent =>
    have apart : other ≠ name := by
      rintro rfl
      exact absent live
    rw [Sheet.content?_eq, NameMap.get?_insert, if_neg apart]
    rfl

/-! ### The entry of a dropdown -/

/-- A dropdown has an entry exactly if it asks for it and nobody else has its name. -/
theorem owns_renewed_iff (wellFormed : catalog.WellFormed) (owned : state.IsOwned catalog)
    {dropdown : Control} (member : dropdown ∈ catalog.controls) {echo : String}
    (echoes : dropdown.echo? = some echo) {name : String} :
    (renewed state dropdown).sync.derived.get? dropdown.name = some name ↔
      wanted state.sheet dropdown.name = some name ∧ name ∉ catalog.controls.map Control.name ∧
        ∀ other, other ≠ dropdown.name → state.sync.derived.get? other ≠ some name := by
  have ownedNext := Steps.isOwned (steps_renewed_echoes wellFormed owned member) owned
  constructor
  · intro owns
    refine ⟨wanted_of_renewed echoes owns, ownedNext.notMem_controls owns, ?_⟩
    exact fun other different otherOwns =>
      different (eq_of_renewed_owns wellFormed owned member owns otherOwns).symm
  · rintro ⟨asked, foreign, nobody⟩
    obtain ⟨owner, owns⟩ := (ownedNext.contains_iff foreign).mp
      (contains_of_wanted wellFormed owned member echoes asked)
    by_cases isOwn : owner = dropdown.name
    · exact isOwn ▸ owns
    · rw [get?_derived_renewed (Ne.symm isOwn)] at owns
      exact absurd owns (nobody owner isOwn)

/-- The entry that a dropdown had already is left as it is; one that it takes is checked, and its
value is the choice. -/
theorem content?_renewed (wellFormed : catalog.WellFormed) (owned : state.IsOwned catalog)
    {dropdown : Control} (member : dropdown ∈ catalog.controls) {echo : String}
    (echoes : dropdown.echo? = some echo) {name : String}
    (owns : (renewed state dropdown).sync.derived.get? dropdown.name = some name) :
    (renewed state dropdown).sheet.content? name =
      if state.sync.derived.get? dropdown.name = some name then state.sheet.content? name
      else some (.checkbox true (choiceOf state.sheet dropdown.name)) := by
  obtain ⟨asked, foreign, nobody⟩ := (owns_renewed_iff wellFormed owned member echoes).mp owns
  rw [renewed_of_echo? echoes] at owns ⊢
  split
  next had =>
    rw [echoChoice_of_owns owned had asked]
    exact content?_echoed wellFormed member echoes foreign
  next hadNot =>
    rcases echoChoice_cases state dropdown.name echo with
      ⟨other, otherAsked, had, -⟩ | ⟨nothing, -⟩ | ⟨other, otherAsked, equal⟩
    · rw [asked] at otherAsked
      cases otherAsked
      exact absurd had hadNot
    · rw [asked] at nothing
      cases nothing
    · rw [asked] at otherAsked
      cases otherAsked
      have free : (release (echoed state dropdown.name echo) dropdown.name).sync.derived.get?
          dropdown.name = none := by
        rw [get?_derived_release, if_pos rfl]
      rw [equal, acquire_eq (isOwned_released wellFormed owned member echoes) free] at owns ⊢
      split at owns
      next => rw [free] at owns; cases owns
      next absent =>
        rw [if_neg absent, Sheet.content?_eq, NameMap.get?_insert_self]
        rfl

/-- The entry of another dropdown is left as it is. -/
theorem content?_renewed_other (wellFormed : catalog.WellFormed) (owned : state.IsOwned catalog)
    {control : Control} (member : control ∈ catalog.controls) {owner name : String}
    (different : control.name ≠ owner) (owns : state.sync.derived.get? owner = some name) :
    (renewed state control).sheet.content? name = state.sheet.content? name := by
  cases echoes : control.echo? with
  | none => rw [renewed_of_no_echo echoes]
  | some echo =>
    have foreign := owned.notMem_controls owns
    have same : (echoed state control.name echo).sync = state.sync := sync_setText state echo _
    have toEchoed : Steps catalog (fun _ => True) (fun _ => True) state
        (echoed state control.name echo) := steps_echoed wellFormed member echoes fun _ _ => trivial
    have stillOwns : (echoed state control.name echo).sync.derived.get? owner = some name := by
      rw [same]
      exact owns
    have ownedReleased := isOwned_released wellFormed owned member echoes
    have live :
        (release (echoed state control.name echo) control.name).sheet.contains name = true :=
      ownedReleased.contains_derived
        ((get?_derived_release _ _ owner).trans ((if_neg different).trans stillOwns))
    have released : (release (echoed state control.name echo) control.name).sheet.content? name =
        state.sheet.content? name :=
      (content?_release (Steps.isOwned toEchoed owned) different stillOwns).trans
        (content?_echoed wellFormed member echoes foreign)
    rw [renewed_of_echo? echoes]
    rcases echoChoice_cases state control.name echo with
      ⟨other, -, -, equal⟩ | ⟨-, equal⟩ | ⟨other, -, equal⟩
    · rw [equal]
      exact content?_echoed wellFormed member echoes foreign
    · rw [equal, released]
    · rw [equal, content?_acquire ownedReleased (by rw [get?_derived_release, if_pos rfl]) live,
        released]

/-! ### Visits -/

theorem attend_of_echo? {control : Control} {echo : String} (echoes : control.echo? = some echo)
    (state : State) : attend catalog state control = renewed state control := by
  obtain ⟨options, kind⟩ := exists_kind_of_echo? echoes
  unfold attend renewed
  simp only [kind]

/-- What is no dropdown writes controls only. -/
theorem attend_of_no_echo (wellFormed : catalog.WellFormed) (owned : state.IsOwned catalog)
    {control : Control} (member : control ∈ catalog.controls) (noEcho : control.echo? = none) :
    (attend catalog state control).sync = state.sync ∧
      ∀ name, name ∉ catalog.controls.map Control.name →
        (attend catalog state control).sheet.content? name = state.sheet.content? name := by
  have excludes : ∀ name, name ∉ catalog.controls.map Control.name →
      (enforceExclusion catalog state control).sheet.content? name = state.sheet.content? name := by
    intro name foreign
    rw [enforceExclusion_eq]
    split
    next =>
      obtain ⟨more, listed, sublist, -⟩ :=
        changed_foldl_exclude catalog control (siblings catalog control) state
      have steps : Steps catalog (fun _ => True) (fun _ => True) state
          ((siblings catalog control).foldl (exclude catalog control) state) :=
        steps_foldl_exclude wellFormed (fun _ _ _ => trivial) (List.Subset.refl _) owned
      refine Steps.content?_of_listed steps listed fun isIn => foreign ?_
      obtain ⟨-, other, otherIn, rfl⟩ := mem_siblings wellFormed (sublist.subset isIn)
      exact List.mem_map_of_mem otherIn
    next => rfl
  unfold attend
  split
  next options echo kind =>
    rw [Control.echo?_of_kind kind] at noEcho
    cases noEcho
  next value amount exclusive kind =>
    obtain ⟨part, partIn, rfl, -⟩ :=
      wellFormed.paired.amount control member amount (amount?_of_kind kind).1
    refine ⟨by rw [sync_followAmount, sync_enforceExclusion], fun name foreign => ?_⟩
    rw [← excludes name foreign]
    obtain ⟨more, listed, sublist⟩ :=
      changed_followAmount (enforceExclusion catalog state control) control.name part.name
    have steps : Steps catalog (fun _ => True) (fun _ => True)
        (enforceExclusion catalog state control)
        (followAmount (enforceExclusion catalog state control) control.name part.name) :=
      steps_followAmount partIn trivial trivial control.name
    refine Steps.content?_of_listed steps listed fun isIn => foreign ?_
    exact List.mem_singleton.mp (sublist.subset isIn) ▸ List.mem_map_of_mem partIn
  next => exact ⟨sync_enforceExclusion catalog state control, excludes⟩
  next => exact ⟨rfl, fun _ _ => rfl⟩

/-- Links write selects only. -/
theorem content?_forward (wellFormed : catalog.WellFormed) (origin : String) (state : State)
    (control : String) {name : String} (foreign : name ∉ catalog.controls.map Control.name) :
    (forward catalog origin state control).sheet.content? name = state.sheet.content? name := by
  unfold forward
  split
  next =>
    obtain ⟨more, listed, sublist⟩ := changed_followLinks catalog state control
    have steps : Steps catalog (fun _ => True) (fun _ => True) state
        (followLinks catalog state control) := steps_followLinks wellFormed fun _ _ _ => trivial
    refine Steps.content?_of_listed steps listed fun isIn => foreign ?_
    obtain ⟨channel, channelIn, rfl⟩ := List.mem_map.mp (sublist.subset isIn)
    obtain ⟨-, partner, partnerIn, named, -⟩ := sides_of_mem_channelsOf wellFormed channelIn
    exact named ▸ List.mem_map_of_mem partnerIn
  next => rfl

/-- A visit leaves the entry of another dropdown as it is. -/
theorem content?_visit_other (wellFormed : catalog.WellFormed) {sync : Sync} {sheet : Sheet}
    (owned : Owned catalog sync.derived sheet) (origin : String) {control owner name : String}
    (different : control ≠ owner) (owns : sync.derived.get? owner = some name) :
    (visit catalog origin control sync sheet).sheet.content? name = sheet.content? name := by
  have ownedState : State.IsOwned catalog ⟨sync, sheet, []⟩ := owned
  have foreign := owned.notMem_controls owns
  by_cases known : control ∈ catalog.controls.map Control.name
  · obtain ⟨entry, member, rfl⟩ := List.mem_map.mp known
    rw [visit_of_mem wellFormed member, content?_forward wellFormed _ _ _ foreign]
    cases echoes : entry.echo? with
    | none => exact (attend_of_no_echo wellFormed ownedState member echoes).2 name foreign
    | some echo =>
      rw [attend_of_echo? echoes]
      exact content?_renewed_other wellFormed ownedState member different owns
  · rw [visit_of_unknown wellFormed known]

/-! ### The values of entries -/

/-- Whether a value is an option of a dropdown that gives a derived entry its name. -/
def StandsFor (dropdown : Control) (name value : String) : Prop :=
  ∃ options echo, dropdown.kind = .select options (some echo) ∧ value ∈ options ∧
    derivedName dropdown.name value = some name

/-- Whether the value of every derived entry is an option of its owner that gives it its name. -/
def EntriesStand (catalog : Catalog) (derived : NameMap String) (sheet : Sheet) : Prop :=
  ∀ dropdown ∈ catalog.controls, ∀ name, derived.get? dropdown.name = some name →
    ∃ checked value, sheet.content? name = some (.checkbox checked value) ∧
      StandsFor dropdown name value

/-- Writes change no value of a box. -/
theorem EntriesStand.refilled {derived : NameMap String} {sheet after : Sheet}
    (stand : EntriesStand catalog derived sheet) (refilled : Sheet.Refilled sheet after) :
    EntriesStand catalog derived after := by
  intro dropdown member name owns
  obtain ⟨checked, value, held, standsFor⟩ := stand dropdown member name owns
  obtain ⟨entry, present, holds⟩ := Option.map_eq_some_iff.mp held
  obtain ⟨content, found, refills⟩ := refilled.entry name entry present
  have cleared := refills.cleared
  rw [holds] at cleared
  rw [Sheet.content?_eq, found]
  cases content with
  | text _ => cases cleared
  | select _ _ => cases cleared
  | checkbox other _ => cases cleared; exact ⟨other, value, rfl, standsFor⟩

theorem entriesStand_renewed (wellFormed : catalog.WellFormed) (owned : state.IsOwned catalog)
    (stand : EntriesStand catalog state.sync.derived state.sheet) {control : Control}
    (member : control ∈ catalog.controls) :
    EntriesStand catalog (renewed state control).sync.derived (renewed state control).sheet := by
  intro dropdown dropdownIn name owns
  by_cases isControl : control.name = dropdown.name
  · obtain rfl := wellFormed.eq_of_name_eq member dropdownIn isControl
    have ownedNext := Steps.isOwned (steps_renewed_echoes wellFormed owned member) owned
    obtain ⟨-, twin, twinIn, named, options, echo, kind, -⟩ :=
      ownedNext.owner control.name name owns
    obtain rfl := wellFormed.eq_of_name_eq twinIn member named
    have echoes := Control.echo?_of_kind kind
    rw [content?_renewed wellFormed owned member echoes owns]
    split
    next had => exact stand twin member name had
    next =>
      have asked := wanted_of_renewed echoes owns
      exact ⟨true, _, rfl, options, echo, kind, choice_of_wanted owned member kind asked, asked⟩
  · rw [get?_derived_renewed isControl] at owns
    rw [content?_renewed_other wellFormed owned member isControl owns]
    exact stand dropdown dropdownIn name owns

theorem entriesStand_foldl_renewed (wellFormed : catalog.WellFormed) {controls : List Control}
    (subset : controls ⊆ catalog.controls) {state : State} (owned : state.IsOwned catalog)
    (stand : EntriesStand catalog state.sync.derived state.sheet) :
    EntriesStand catalog (controls.foldl renewed state).sync.derived
      (controls.foldl renewed state).sheet := by
  induction controls generalizing state with
  | nil => exact stand
  | cons control rest inductionHypothesis =>
    obtain ⟨member, restSubset⟩ := List.cons_subset.mp subset
    exact inductionHypothesis restSubset
      (Steps.isOwned (steps_renewed_echoes wellFormed owned member) owned)
      (entriesStand_renewed wellFormed owned stand member)

theorem entriesStand_echoAll (wellFormed : catalog.WellFormed) {sync : Sync} {sheet : Sheet}
    (owned : Owned catalog sync.derived sheet) (stand : EntriesStand catalog sync.derived sheet) :
    EntriesStand catalog (echoAll catalog sync sheet).sync.derived
      (echoAll catalog sync sheet).sheet := by
  have ownedStart : State.IsOwned catalog ⟨sync, sheet, []⟩ := owned
  exact entriesStand_foldl_renewed wellFormed (List.Subset.refl _) ownedStart stand

theorem entriesStand_visit (wellFormed : catalog.WellFormed) {sync : Sync} {sheet : Sheet}
    (owned : Owned catalog sync.derived sheet) (stand : EntriesStand catalog sync.derived sheet)
    (origin control : String) :
    EntriesStand catalog (visit catalog origin control sync sheet).sync.derived
      (visit catalog origin control sync sheet).sheet := by
  have ownedState : State.IsOwned catalog ⟨sync, sheet, []⟩ := owned
  have ownedVisited : (visit catalog origin control sync sheet).IsOwned catalog :=
    Steps.isOwned (steps_visit wellFormed owned origin control) owned
  intro dropdown member name owns
  by_cases isControl : control = dropdown.name
  · subst isControl
    have foreign := ownedVisited.notMem_controls owns
    rw [visit_of_mem wellFormed member, derived_forward] at owns
    rw [visit_of_mem wellFormed member, content?_forward wellFormed _ _ _ foreign]
    cases echoes : dropdown.echo? with
    | none =>
      obtain ⟨sameSync, sameContent⟩ := attend_of_no_echo wellFormed ownedState member echoes
      rw [sameSync] at owns
      rw [sameContent name foreign]
      exact stand dropdown member name owns
    | some echo =>
      rw [attend_of_echo? echoes] at owns ⊢
      exact entriesStand_renewed wellFormed ownedState stand member dropdown member name owns
  · rw [get?_derived_visit wellFormed sync sheet isControl] at owns
    rw [content?_visit_other wellFormed owned origin isControl owns]
    exact stand dropdown member name owns

theorem entriesStand_propagate (wellFormed : catalog.WellFormed) {sync : Sync} {sheet : Sheet}
    (owned : Owned catalog sync.derived sheet) (stand : EntriesStand catalog sync.derived sheet)
    (origin : String) :
    EntriesStand catalog (propagate catalog sync sheet origin).sync.derived
      (propagate catalog sync sheet origin).sheet := by
  refine (propagate_induction wellFormed owned origin
    (fun wave => EntriesStand catalog wave.sync.derived wave.sheet) stand ?_).2
  intro wave control rest isOwned _ holds
  exact entriesStand_visit wellFormed isOwned holds origin control

/-! ### The turn of a dropdown -/

/-- What a dropdown has afterwards, if some dropdowns had their turn after it: the entry of its
choice, if nobody else has the name and none of those gave it up. If the entry is new it is checked
and has the choice as its value; otherwise it is left as it is. -/
structure UpToDate (catalog : Catalog) (dropdown : Control) (options : List String) (echo : String)
    (late : String → Prop) (sync : Sync) (sheet : Sheet) (after : State) : Prop where
  choice : after.sheet.text? dropdown.name = sheet.text? dropdown.name
  echo : after.sheet.text? echo = after.sheet.text? dropdown.name
  owns : ∀ name, after.sync.derived.get? dropdown.name = some name ↔
    wanted after.sheet dropdown.name = some name ∧ name ∉ catalog.controls.map Control.name ∧
      (∀ other, other ≠ dropdown.name → after.sync.derived.get? other ≠ some name) ∧
      ∀ other, late other → sync.derived.get? other = some name →
        after.sync.derived.get? other = some name
  taken : ∀ name, after.sync.derived.get? dropdown.name = some name →
    sync.derived.get? dropdown.name ≠ some name → after.sheet.get? name =
      some ⟨.checkbox true (choiceOf after.sheet dropdown.name), true, true⟩
  kept : ∀ name, after.sync.derived.get? dropdown.name = some name →
    sync.derived.get? dropdown.name = some name →
      ∃ checked, ∃ value ∈ options, derivedName dropdown.name value = some name ∧
        sheet.get? name = some ⟨.checkbox checked value, true, true⟩ ∧
        after.sheet.get? name = sheet.get? name

/-- The entry of a dropdown is checked and has its choice as its value, unless it was there before
and was unchecked, or there is another option of that slug. -/
theorem UpToDate.exact {dropdown : Control} {options : List String} {echo : String}
    {late : String → Prop} {sync : Sync} {sheet : Sheet} {after : State}
    (upToDate : UpToDate catalog dropdown options echo late sync sheet after) (name : String)
    (owns : after.sync.derived.get? dropdown.name = some name)
    (checked : sync.derived.get? dropdown.name = some name → sheet.checked? name = some true)
    (sole : ∀ option ∈ options, derivedName dropdown.name option = some name →
      option = choiceOf after.sheet dropdown.name) :
    after.sheet.get? name =
      some ⟨.checkbox true (choiceOf after.sheet dropdown.name), true, true⟩ := by
  by_cases had : sync.derived.get? dropdown.name = some name
  · obtain ⟨isChecked, value, valueIn, standsFor, present, same⟩ := upToDate.kept name owns had
    have wasChecked := checked had
    unfold Sheet.checked? at wasChecked
    rw [Sheet.content?_eq, present] at wasChecked
    cases wasChecked
    rw [same, present, sole value valueIn standsFor]
  · exact upToDate.taken name owns had

/-- How the state in which a dropdown has its turn lies between the state before and the one in the
end. The dropdowns that have their turn later have not been renewed yet, and the others are not
renewed any more. -/
structure Turn (catalog : Catalog) (dropdown : Control) (late : String → Prop) (sync : Sync)
    (sheet : Sheet) (turn after : State) : Prop where
  owned : turn.IsOwned catalog
  ownedAfter : after.IsOwned catalog
  choice : turn.sheet.content? dropdown.name = sheet.content? dropdown.name
  own : turn.sync.derived.get? dropdown.name = sync.derived.get? dropdown.name
  entry : ∀ name, sync.derived.get? dropdown.name = some name →
    turn.sheet.content? name = sheet.content? name
  choiceAfter : after.sheet.content? dropdown.name = sheet.content? dropdown.name
  ownAfter : after.sync.derived.get? dropdown.name =
    (renewed turn dropdown).sync.derived.get? dropdown.name
  entryAfter : ∀ name, after.sync.derived.get? dropdown.name = some name →
    after.sheet.content? name = (renewed turn dropdown).sheet.content? name
  later : ∀ other, late other → other ≠ dropdown.name ∧
    turn.sync.derived.get? other = sync.derived.get? other
  others : ∀ other, other ≠ dropdown.name → ¬late other →
    after.sync.derived.get? other = turn.sync.derived.get? other

/-- What is derived is found as a hidden entry. -/
theorem get?_of_owns {derived : NameMap String} {sheet : Sheet}
    (owned : Owned catalog derived sheet) {owner name : String}
    (owns : derived.get? owner = some name) {content : Content}
    (holds : sheet.content? name = some content) :
    sheet.get? name = some ⟨content, true, true⟩ := by
  obtain ⟨⟨entry, present, isDerived⟩, -⟩ := owned.owner owner name owns
  have isHidden := (owned.option name entry present isDerived).1
  rw [Sheet.content?_eq, present] at holds
  obtain ⟨held, hidden, wasDerived⟩ := entry
  cases isHidden
  cases isDerived
  cases holds
  exact present

/-- In the end a dropdown has the entry it asks for if nobody else has the name, and none of those
whose turn came later had it at first and gave it up. -/
theorem Turn.owns_iff (wellFormed : catalog.WellFormed) {dropdown : Control}
    (member : dropdown ∈ catalog.controls) {echo : String} (echoes : dropdown.echo? = some echo)
    {late : String → Prop} {sync : Sync} {sheet : Sheet} {turn after : State}
    (isTurn : Turn catalog dropdown late sync sheet turn after) (name : String) :
    after.sync.derived.get? dropdown.name = some name ↔
      wanted after.sheet dropdown.name = some name ∧ name ∉ catalog.controls.map Control.name ∧
        (∀ other, other ≠ dropdown.name → after.sync.derived.get? other ≠ some name) ∧
        ∀ other, late other → sync.derived.get? other = some name →
          after.sync.derived.get? other = some name := by
  rw [(choiceOf_congr (isTurn.choiceAfter.trans isTurn.choice.symm)).2]
  have ownsTurn : after.sync.derived.get? dropdown.name = some name ↔ _ :=
    isTurn.ownAfter ▸ owns_renewed_iff wellFormed isTurn.owned member echoes
  constructor
  · intro owns
    obtain ⟨asked, foreign, nobody⟩ := ownsTurn.mp owns
    refine ⟨asked, foreign, fun other different otherOwns => ?_, fun other isLate had => ?_⟩
    · exact different (isTurn.ownedAfter.apart _ _ _ otherOwns owns)
    · obtain ⟨different, same⟩ := isTurn.later other isLate
      exact absurd (same.trans had) (nobody other different)
  · rintro ⟨asked, foreign, nobody, keeps⟩
    refine ownsTurn.mpr ⟨asked, foreign, fun other different otherOwns => ?_⟩
    by_cases isLate : late other
    · have had := (isTurn.later other isLate).2.symm.trans otherOwns
      exact nobody other different (keeps other isLate had)
    · exact nobody other different ((isTurn.others other different isLate).trans otherOwns)

/-- The entry of a dropdown is in the end what it is after its turn. -/
theorem Turn.content?_entry (wellFormed : catalog.WellFormed) {dropdown : Control}
    (member : dropdown ∈ catalog.controls) {echo : String} (echoes : dropdown.echo? = some echo)
    {late : String → Prop} {sync : Sync} {sheet : Sheet} {turn after : State}
    (isTurn : Turn catalog dropdown late sync sheet turn after) {name : String}
    (owns : after.sync.derived.get? dropdown.name = some name) :
    after.sheet.content? name =
      if sync.derived.get? dropdown.name = some name then sheet.content? name
      else some (.checkbox true (choiceOf after.sheet dropdown.name)) := by
  have ownsTurn := isTurn.ownAfter ▸ owns
  rw [isTurn.entryAfter name owns,
    content?_renewed wellFormed isTurn.owned member echoes ownsTurn, isTurn.own,
    (choiceOf_congr (isTurn.choiceAfter.trans isTurn.choice.symm)).1]
  split
  next had => exact isTurn.entry name had
  next => rfl

/-- The text of an echo that agrees is that of its dropdown. -/
theorem text?_of_agrees (owned : state.IsOwned catalog) {dropdown : Control}
    (member : dropdown ∈ catalog.controls) {options : List String} {echo : String}
    (kind : dropdown.kind = .select options (some echo))
    (agrees : state.sheet.content? echo = some (.text (choiceOf state.sheet dropdown.name))) :
    state.sheet.text? echo = state.sheet.text? dropdown.name := by
  obtain ⟨choice, holds, -⟩ := owned.select member kind
  have isText : state.sheet.text? dropdown.name = some choice := by
    unfold Sheet.text?
    rw [holds]
    rfl
  have isChoice : choiceOf state.sheet dropdown.name = choice := by
    unfold choiceOf
    rw [isText]
    rfl
  unfold Sheet.text? at isText ⊢
  rw [agrees, isText, isChoice]
  rfl

/-- A dropdown that had its turn is up to date. -/
theorem upToDate_of_turn (wellFormed : catalog.WellFormed) {dropdown : Control}
    (member : dropdown ∈ catalog.controls) {options : List String} {echo : String}
    (kind : dropdown.kind = .select options (some echo)) {late : String → Prop} {sync : Sync}
    {sheet : Sheet} (owned : Owned catalog sync.derived sheet)
    (stand : EntriesStand catalog sync.derived sheet) {turn after : State}
    (isTurn : Turn catalog dropdown late sync sheet turn after)
    (agrees : after.sheet.content? echo =
      some (.text (choiceOf after.sheet dropdown.name))) :
    UpToDate catalog dropdown options echo late sync sheet after := by
  have echoes := Control.echo?_of_kind kind
  constructor
  case choice => exact Sheet.text?_congr isTurn.choiceAfter
  case echo => exact text?_of_agrees isTurn.ownedAfter member kind agrees
  case owns => exact isTurn.owns_iff wellFormed member echoes
  case taken =>
    intro name owns hadNot
    refine get?_of_owns isTurn.ownedAfter owns ?_
    rw [isTurn.content?_entry wellFormed member echoes owns, if_neg hadNot]
  case kept =>
    intro name owns had
    obtain ⟨checked, value, held, otherOptions, otherEcho, otherKind, valueIn, standsFor⟩ :=
      stand dropdown member name had
    rw [kind] at otherKind
    cases otherKind
    have before := get?_of_owns owned had held
    refine ⟨checked, value, valueIn, standsFor, before, ?_⟩
    rw [before]
    refine get?_of_owns isTurn.ownedAfter owns ?_
    rw [isTurn.content?_entry wellFormed member echoes owns, if_pos had, held]

/-- When a change is carried, the dropdown it starts from has its turn first, and the dropdowns
linked to it later. -/
theorem turn_propagate (wellFormed : catalog.WellFormed) {sync : Sync} {sheet : Sheet}
    (owned : Owned catalog sync.derived sheet) {dropdown : Control}
    (member : dropdown ∈ catalog.controls) {echo : String} (echoes : dropdown.echo? = some echo) :
    Turn catalog dropdown (· ∈ partners catalog dropdown.name) sync sheet ⟨sync, sheet, []⟩
      (propagate catalog sync sheet dropdown.name) := by
  have ownedState : State.IsOwned catalog ⟨sync, sheet, []⟩ := owned
  have ownedAfter := owned_propagate wellFormed owned dropdown.name
  obtain ⟨sameContent, sameOwn, sameOthers⟩ :=
    propagate_spares wellFormed owned member (isSelect_of_echo? echoes)
  have visited : (visit catalog dropdown.name dropdown.name sync sheet).sync.derived =
      (renewed ⟨sync, sheet, []⟩ dropdown).sync.derived := by
    rw [visit_eq_forward wellFormed member echoes, derived_forward]
  constructor
  case owned => exact owned
  case ownedAfter => exact ownedAfter
  case choice => rfl
  case own => rfl
  case entry => exact fun _ _ => rfl
  case choiceAfter => exact sameContent.trans (content?_visit wellFormed owned member echoes)
  case ownAfter => rw [sameOwn, visited]
  case entryAfter =>
    intro name owns
    have foreign := ownedAfter.notMem_controls owns
    rw [sameOwn] at owns
    have kept := propagate_later wellFormed owned dropdown.name (fun wave =>
      wave.sync.derived.get? dropdown.name = some name ∧ wave.sheet.content? name =
        (visit catalog dropdown.name dropdown.name sync sheet).sheet.content? name) ⟨owns, rfl⟩ ?_
    · refine kept.2.trans ?_
      rw [visit_eq_forward wellFormed member echoes, content?_forward wellFormed _ _ _ foreign]
    · rintro wave control rest calm waits ⟨stillOwns, same⟩
      have later := (calm.spares wellFormed waits).1
      exact ⟨(get?_derived_visit wellFormed wave.sync wave.sheet later).trans stillOwns,
        (content?_visit_other wellFormed calm.owned dropdown.name later stillOwns).trans same⟩
  case later =>
    intro other isPartner
    obtain ⟨channel, channelIn, rfl⟩ := List.mem_map.mp isPartner
    obtain ⟨-, partner, -, named, -, different⟩ := sides_of_mem_channelsOf wellFormed channelIn
    exact ⟨named ▸ different, rfl⟩
  case others => exact sameOthers

/-- The entry of a dropdown is left as it is while others are renewed. -/
theorem content?_foldl_renewed_other (wellFormed : catalog.WellFormed) {controls : List Control}
    (subset : controls ⊆ catalog.controls) {owner name : String}
    (absent : owner ∉ controls.map Control.name) {state : State} (owned : state.IsOwned catalog)
    (owns : state.sync.derived.get? owner = some name) :
    (controls.foldl renewed state).sheet.content? name = state.sheet.content? name := by
  induction controls generalizing state with
  | nil => rfl
  | cons control rest inductionHypothesis =>
    obtain ⟨member, restSubset⟩ := List.cons_subset.mp subset
    rw [List.map_cons, List.mem_cons, not_or] at absent
    have different := Ne.symm absent.1
    rw [List.foldl_cons, inductionHypothesis restSubset absent.2
        (Steps.isOwned (steps_renewed_echoes wellFormed owned member) owned)
        ((get?_derived_renewed different).trans owns),
      content?_renewed_other wellFormed owned member different owns]

/-- When all dropdowns are echoed, they have their turns in their order. -/
theorem turn_echoAll (wellFormed : catalog.WellFormed) {sync : Sync} {sheet : Sheet}
    (owned : Owned catalog sync.derived sheet) {earlier later : List Control} {dropdown : Control}
    (equal : catalog.controls = earlier ++ dropdown :: later) {echo : String}
    (echoes : dropdown.echo? = some echo) :
    Turn catalog dropdown (· ∈ later.map Control.name) sync sheet
      (earlier.foldl renewed ⟨sync, sheet, []⟩) (echoAll catalog sync sheet) := by
  have ownedStart : State.IsOwned catalog ⟨sync, sheet, []⟩ := owned
  have ownedAfter := owned_echoAll wellFormed owned
  obtain ⟨⟨earlierSubset, member, laterSubset⟩, absent, -, apart⟩ := split_controls wellFormed equal
  have notEarlier : dropdown.name ∉ earlier.map Control.name := by
    have different := wellFormed.nodup
    rw [equal, List.map_append, List.map_cons, List.nodup_append] at different
    exact fun isEarlier => different.2.2 _ isEarlier _ List.mem_cons_self rfl
  have stepsEarlier := steps_foldl_echoes wellFormed ownedStart earlierSubset
  have ownedTurn := Steps.isOwned stepsEarlier ownedStart
  have ownedRenewed := Steps.isOwned (steps_renewed_echoes wellFormed ownedTurn member) ownedTurn
  have after : echoAll catalog sync sheet = later.foldl renewed
      (renewed (earlier.foldl renewed ⟨sync, sheet, []⟩) dropdown) := by
    rw [echoAll_eq, equal, List.foldl_append, List.foldl_cons]
  have ownAfter : (echoAll catalog sync sheet).sync.derived.get? dropdown.name = _ :=
    after ▸ get?_derived_foldl_renewed absent _
  constructor
  case owned => exact ownedTurn
  case ownedAfter => exact ownedAfter
  case choice =>
    exact Steps.content? stepsEarlier wellFormed ownedStart member
      fun ⟨select, kind⟩ => kind_ne_echo echoes select kind
  case own => exact get?_derived_foldl_renewed notEarlier _
  case entry =>
    exact fun name had =>
      content?_foldl_renewed_other wellFormed earlierSubset notEarlier ownedStart had
  case choiceAfter => exact content?_echoAll_other wellFormed owned member (kind_ne_echo echoes)
  case ownAfter => exact ownAfter
  case entryAfter =>
    intro name owns
    rw [after]
    exact content?_foldl_renewed_other wellFormed laterSubset absent ownedRenewed
      (ownAfter ▸ owns)
  case later =>
    intro other isLater
    obtain ⟨control, controlIn, rfl⟩ := List.mem_map.mp isLater
    refine ⟨fun same => absent (same ▸ isLater), ?_⟩
    exact get?_derived_foldl_renewed (apart control controlIn) _
  case others =>
    intro other different notLater
    rw [after, get?_derived_foldl_renewed notLater, get?_derived_renewed (Ne.symm different)]

end Sync

namespace Session

variable {catalog : Catalog}

/-- In every session that a run reaches, the values of derived entries are options that give them
their names. -/
theorem kept_entriesStand (wellFormed : catalog.WellFormed) :
    Kept catalog fun session => session.IsOwned ∧
      Sync.EntriesStand session.catalog session.sync.derived session.sheet where
  start := by
    refine ⟨isOwned_start wellFormed, Sync.EntriesStand.refilled ?_
      (Sheet.refilled_derivation_run _ _ _)⟩
    exact Sync.entriesStand_echoAll wellFormed (owned_ofCatalog wellFormed)
      fun _ _ _ owns => nomatch owns
  carry := by
    rintro session control result rfl ⟨owned, stand⟩ written
    have carried := Sync.entriesStand_propagate wellFormed (owned.refilled written.refilled)
      (stand.refilled written.refilled) control
    refine ⟨owned.carry wellFormed written, ?_⟩
    unfold Session.carry
    simp only
    split
    next => exact carried.refilled (Sheet.refilled_derivation_run _ _ _)
    next => exact carried
  recalculate := by
    rintro session - ⟨owned, stand⟩
    have recalculated := Sheet.refilled_derivation_run session.tiers session.catalog session.sheet
    exact ⟨owned.refilled recalculated, stand.refilled recalculated⟩
  rehydrate := by
    rintro session snapshot rfl ⟨owned, stand⟩
    have applied := Sheet.refilled_applyAll session.sheet snapshot
    have echoed := Sync.entriesStand_echoAll wellFormed (owned.refilled applied)
      (stand.refilled applied)
    exact ⟨owned.rehydrate wellFormed snapshot,
      echoed.refilled (Sheet.refilled_derivation_run _ _ _)⟩
  withTiers := by
    rintro session tiers - ⟨owned, stand⟩
    have recalculated := Sheet.refilled_derivation_run tiers session.catalog session.sheet
    exact ⟨owned.refilled recalculated, stand.refilled recalculated⟩
  beside _ _ _ _ holds := holds

/-- In every session that a run reaches, and whatever was written since, a dropdown is up to date
once its change was carried, and once all dropdowns were echoed. -/
theorem upToDate_of_run {form : Form} (built : Catalog.build form = .ok catalog)
    (operations : List Operation) :
    let session := run catalog operations
    ∀ sheet, Sheet.Refilled session.sheet sheet → ∀ earlier dropdown later,
      catalog.controls = earlier ++ dropdown :: later → ∀ options echo,
        dropdown.kind = .select options (some echo) →
      Sync.UpToDate catalog dropdown options echo (· ∈ Sync.partners catalog dropdown.name)
        session.sync sheet (Sync.propagate catalog session.sync sheet dropdown.name) ∧
      Sync.UpToDate catalog dropdown options echo (· ∈ later.map Control.name)
        session.sync sheet (Sync.echoAll catalog session.sync sheet) := by
  have wellFormed := Catalog.wellFormed_of_build built
  have rested := ((kept_rested catalog).run operations).2
  obtain ⟨same, -, held⟩ := (kept_entriesStand wellFormed).run operations
  rw [same] at held
  intro session sheet refilled earlier dropdown later equal options echo kind
  have owned : Owned catalog session.sync.derived sheet :=
    (owned_run wellFormed operations).refilled refilled
  have stand : Sync.EntriesStand catalog session.sync.derived sheet := held.refilled refilled
  have member := (Sync.split_controls wellFormed equal).1.2.1
  have echoes := Control.echo?_of_kind kind
  constructor
  · exact Sync.upToDate_of_turn wellFormed member kind owned stand
      (Sync.turn_propagate wellFormed owned member echoes)
      ((Sync.settled_propagate wellFormed owned rested dropdown.name).echo dropdown member rfl echo
        echoes)
  · exact Sync.upToDate_of_turn wellFormed member kind owned stand
      (Sync.turn_echoAll wellFormed owned equal echoes)
      (Sync.echoAgrees_echoAll wellFormed owned dropdown.name dropdown member rfl echo echoes)

/-- A form with a dropdown of which two options have one slug. -/
def twins : Form :=
  { id := "twins", title := "Twins", description := none
    sections := [⟨1, "One",
      [plain "first" .dropdown "A"
        [⟨"B c", none, false, false⟩, ⟨"B-c", none, false, false⟩,
         ⟨"Other", none, false, false⟩]]⟩]
    hiddenFields := [], links := [] }

theorem twins_isSome : (Catalog.build twins).toOption.isSome = true := by decide +kernel

/-- The catalog of that form. -/
def twinsCatalog : Catalog := (Catalog.build twins).toOption.get twins_isSome

theorem build_twins : Catalog.build twins = .ok twinsCatalog := Catalog.eq_ok_get twins_isSome

/-- An entry that is there already keeps the value of another option of the same slug, and stays
unchecked; and the dropdown gets no entry if a linked one gives up the name afterwards. -/
theorem entries_left_behind :
    Catalog.build twins = .ok twinsCatalog ∧ Catalog.build crossing = .ok crossingCatalog ∧
    (let session := run twinsCatalog [.setValue "a" "B c", .setValue "a" "B-c"]
      ∀ after ∈ [Sync.propagate twinsCatalog session.sync session.sheet "a",
          Sync.echoAll twinsCatalog session.sync session.sheet],
        after.sheet.text? "a" = some "B-c" ∧ Sync.derivedName "a" "B-c" = some "a_b_c" ∧
        after.sync.derived = NameMap.ofList [("a", "a_b_c")] ∧
        after.sheet.get? "a_b_c" = some ⟨.checkbox true "B c", true, true⟩) ∧
    (let session := run twinsCatalog [.setValue "a" "B c", .setChecked "a_b_c" false]
      ∀ after ∈ [Sync.propagate twinsCatalog session.sync session.sheet "a",
          Sync.echoAll twinsCatalog session.sync session.sheet],
        after.sheet.text? "a" = some "B c" ∧ Sync.derivedName "a" "B c" = some "a_b_c" ∧
        after.sync.derived = NameMap.ofList [("a", "a_b_c")] ∧
        after.sheet.get? "a_b_c" = some ⟨.checkbox false "B c", true, true⟩) ∧
    let session := run crossingCatalog
      [.setValue "a_b" "C", .rehydrate (NameMap.ofList [("a", "B c")])]
    let after := Sync.propagate crossingCatalog session.sync session.sheet "a"
    after.sheet.text? "a" = some "B c" ∧ Sync.derivedName "a" "B c" = some "a_b_c" ∧
      after.sync.derived = NameMap.ofList [("a_b", "a_b_b_c")] ∧
      after.sheet.get? "a_b_c" = none := by
  refine ⟨build_twins, build_crossing, ?_⟩
  decide +kernel

/-- A dropdown that takes another choice exchanges its entry. -/
theorem upToDate_of_twins :
    let session := run twinsCatalog [.setValue "a" "B c"]
    let sheet := (session.sheet.applyExported "a" "Other").1
    ∀ after ∈ [Sync.propagate twinsCatalog session.sync sheet "a",
        Sync.echoAll twinsCatalog session.sync sheet],
      after.sheet.text? "a_selected" = after.sheet.text? "a" ∧
      after.sync.derived = NameMap.ofList [("a", "a_other")] ∧
      after.sheet.get? "a_other" = some ⟨.checkbox true "Other", true, true⟩ := by
  intro session sheet
  have refilled : Sheet.Refilled session.sheet sheet := Sheet.refilled_applyExported _ _ _
  obtain ⟨dropdown, member, named, kind⟩ : ∃ dropdown ∈ twinsCatalog.controls,
      dropdown.name = "a" ∧
        dropdown.kind = .select ["B c", "B-c", "Other"] (some "a_selected") := by
    decide +kernel
  obtain ⟨earlier, later, equal⟩ := List.append_of_mem member
  obtain ⟨carried, echoed⟩ := upToDate_of_run build_twins [.setValue "a" "B c"] sheet refilled
    earlier dropdown later equal _ _ kind
  rw [named] at carried
  have exchanged : ∀ {late : String → Prop} {after : Sync.State},
      Sync.UpToDate twinsCatalog dropdown ["B c", "B-c", "Other"] "a_selected" late session.sync
        sheet after →
      after.sync.derived = NameMap.ofList [("a", "a_other")] →
      Sync.choiceOf after.sheet "a" = "Other" →
      after.sheet.text? "a_selected" = after.sheet.text? "a" ∧
        after.sync.derived = NameMap.ofList [("a", "a_other")] ∧
        after.sheet.get? "a_other" = some ⟨.checkbox true "Other", true, true⟩ := by
    intro late after upToDate derived choice
    refine ⟨named ▸ upToDate.echo, derived, ?_⟩
    have exact := upToDate.exact "a_other"
    rw [named, choice, derived] at exact
    refine exact (by decide +kernel) (fun had => ?_) (by decide +kernel)
    exact absurd had (by decide +kernel)
  rw [List.forall_mem_cons, List.forall_mem_singleton]
  exact ⟨exchanged carried (by decide +kernel) (by decide +kernel),
    exchanged echoed (by decide +kernel) (by decide +kernel)⟩

end Session

end Questionnaire

/-
This file says in what dropdowns agree with what goes with them. An echo holds the choice of its
dropdown after every change that is carried and after all dropdowns were echoed. A derived entry is
there exactly if a dropdown asks for it, provided that no two dropdowns can ask for one name: then
nobody else ever holds the name a dropdown asks for, and nobody else gives it up.
-/
import Questionnaire.Proofs.Drain
import Questionnaire.Proofs.Rederivation

namespace Questionnaire

/-! ### Names of derived entries -/

/-- The names of the derived entries for the options of a dropdown. -/
def Control.derivedNames (control : Control) : List String :=
  match control.kind with
  | .select options (some _) => options.filterMap (Sync.derivedName control.name)
  | _ => []

theorem Control.mem_derivedNames {control : Control} {name : String} :
    name ∈ control.derivedNames ↔ control.Derives name := by
  unfold derivedNames Derives
  constructor
  · intro isIn
    split at isIn
    next options echo kind =>
      obtain ⟨option, optionIn, derives⟩ := List.mem_filterMap.mp isIn
      exact ⟨options, echo, kind, option, optionIn, derives⟩
    next => cases isIn
  · rintro ⟨options, echo, kind, option, optionIn, derives⟩
    rw [kind]
    exact List.mem_filterMap.mpr ⟨option, optionIn, derives⟩

/-- Whether no two dropdowns can ask for derived entries of one name. -/
def Catalog.NamesApart (catalog : Catalog) : Prop :=
  ∀ first ∈ catalog.controls, ∀ second ∈ catalog.controls, ∀ name ∈ first.derivedNames,
    name ∈ second.derivedNames → first.name = second.name

instance (catalog : Catalog) : Decidable catalog.NamesApart :=
  inferInstanceAs (Decidable (∀ first ∈ catalog.controls, ∀ second ∈ catalog.controls,
    ∀ name ∈ first.derivedNames, name ∈ second.derivedNames → first.name = second.name))

namespace Sync

variable {catalog : Catalog} {state : State} {origin : String}

/-! ### What only dropdowns do -/

theorem sync_enforceExclusion (catalog : Catalog) (state : State) (control : Control) :
    (enforceExclusion catalog state control).sync = state.sync := by
  have all : ∀ (names : List String) (state : State),
      (names.foldl (exclude catalog control) state).sync = state.sync := by
    intro names
    induction names with
    | nil => exact fun _ => rfl
    | cons name rest inductionHypothesis =>
      intro state
      rw [List.foldl_cons, inductionHypothesis]
      unfold exclude State.uncheck
      split
      · split <;> rfl
      · rfl
  rw [enforceExclusion_eq]
  split
  next => exact all _ state
  next => rfl

theorem sync_followAmount (state : State) (name amount : String) :
    (followAmount state name amount).sync = state.sync := by
  rw [followAmount_eq]
  split <;> rfl

theorem derived_followLinks (catalog : Catalog) (state : State) (control : String) :
    (followLinks catalog state control).sync.derived = state.sync.derived := by
  have all : ∀ (choice : String) (channels : List Channel) (state : State),
      (channels.foldl (followChannel control choice) state).sync.derived =
        state.sync.derived := by
    intro choice channels
    induction channels with
    | nil => exact fun _ => rfl
    | cons channel rest inductionHypothesis =>
      intro state
      rw [List.foldl_cons, inductionHypothesis]
      unfold followChannel
      split
      next => rfl
      next =>
        simp only
        split
        next => rfl
        next =>
          split
          next => rw [sync_setText]
          next => rfl
  exact all _ _ state

theorem derived_forward (catalog : Catalog) (origin : String) (state : State) (control : String) :
    (forward catalog origin state control).sync.derived = state.sync.derived := by
  unfold forward
  split
  next => exact derived_followLinks catalog state control
  next => rfl

/-- A visit changes what the visited dropdown has derived, and nothing that another one has. -/
theorem get?_derived_visit (wellFormed : catalog.WellFormed) (sync : Sync) (sheet : Sheet)
    {control other : String} (different : control ≠ other) :
    (visit catalog origin control sync sheet).sync.derived.get? other =
      sync.derived.get? other := by
  by_cases known : control ∈ catalog.controls.map Control.name
  · obtain ⟨entry, member, rfl⟩ := List.mem_map.mp known
    rw [visit_of_mem wellFormed member, derived_forward]
    unfold attend
    split
    next options echo kind =>
      rw [← renewed_of_echo? (Control.echo?_of_kind kind), get?_derived_renewed different]
    next => rw [sync_followAmount, sync_enforceExclusion]
    next => rw [sync_enforceExclusion]
    next => rfl
  · rw [visit_of_unknown wellFormed known]

/-- A visited dropdown is renewed, and its choice may be carried on. -/
theorem visit_eq_forward (wellFormed : catalog.WellFormed) {dropdown : Control}
    (member : dropdown ∈ catalog.controls) {echo : String} (echoes : dropdown.echo? = some echo)
    (sync : Sync) (sheet : Sheet) :
    visit catalog origin dropdown.name sync sheet =
      forward catalog origin (renewed ⟨sync, sheet, []⟩ dropdown) dropdown.name := by
  obtain ⟨options, kind⟩ := exists_kind_of_echo? echoes
  rw [visit_of_mem wellFormed member]
  unfold attend renewed
  simp only [kind]

/-- A visited dropdown keeps its choice. -/
theorem content?_visit (wellFormed : catalog.WellFormed) {sync : Sync} {sheet : Sheet}
    (owned : Owned catalog sync.derived sheet) {dropdown : Control}
    (member : dropdown ∈ catalog.controls) {echo : String}
    (echoes : dropdown.echo? = some echo) :
    (visit catalog origin dropdown.name sync sheet).sheet.content? dropdown.name =
      sheet.content? dropdown.name := by
  obtain ⟨options, isSelect⟩ := exists_kind_of_echo? echoes
  have steps : Steps catalog (· ≠ dropdown) (fun _ => True) ⟨sync, sheet, []⟩
      (visit catalog origin dropdown.name sync sheet) := by
    rw [visit_of_mem wellFormed member]
    refine .trans (steps_attend wellFormed owned member ?_ ?_ ?_)
      (steps_forward wellFormed origin ?_)
    · rintro twin kind rfl
      rw [isSelect] at kind
      cases kind
    · refine fun part kind => ⟨?_, trivial⟩
      rintro rfl
      rw [isSelect] at kind
      cases kind
    · rintro _ other _ different rfl
      exact different rfl
    · rintro _ partner _ different rfl
      exact different rfl
  exact Steps.content? steps wellFormed owned member fun different => different rfl

/-! ### Echoes -/

/-- Whether the echo of a dropdown, if the name is the one of a dropdown with an echo, holds its
choice. -/
def EchoAgrees (catalog : Catalog) (name : String) (sheet : Sheet) : Prop :=
  ∀ dropdown ∈ catalog.controls, dropdown.name = name → ∀ echo, dropdown.echo? = some echo →
    sheet.content? echo = some (.text (choiceOf sheet name))

theorem echoAgrees_visit (wellFormed : catalog.WellFormed) {sync : Sync} {sheet : Sheet}
    (owned : Owned catalog sync.derived sheet) (name : String) :
    EchoAgrees catalog name (visit catalog origin name sync sheet).sheet := by
  rintro dropdown member rfl echo echoes
  have ownedState : State.IsOwned catalog ⟨sync, sheet, []⟩ := owned
  obtain ⟨twin, twinIn, rfl, kind⟩ := wellFormed.paired.echo dropdown member echo echoes
  have own : Steps catalog (fun _ => True) (fun _ => True) ⟨sync, sheet, []⟩
      (renewed ⟨sync, sheet, []⟩ dropdown) :=
    steps_renewed wellFormed ownedState member fun _ _ => trivial
  have linked : Steps catalog (fun partner => partner.isSelect = true) (fun _ => False)
      (renewed ⟨sync, sheet, []⟩ dropdown)
      (forward catalog origin (renewed ⟨sync, sheet, []⟩ dropdown) dropdown.name) :=
    steps_forward wellFormed origin fun _ _ isSelect _ => isSelect
  have noSelect : ¬twin.isSelect = true := by
    unfold Control.isSelect
    rw [kind]
    exact Bool.false_ne_true
  rw [(choiceOf_congr (content?_visit wellFormed owned member echoes)).1,
    visit_eq_forward wellFormed member echoes,
    Steps.content? linked wellFormed (Steps.isOwned own ownedState) twinIn noSelect,
    renewed_of_echo? echoes]
  exact content?_echoChoice wellFormed ownedState member echoes

theorem echoAgrees_visit_other (wellFormed : catalog.WellFormed) {sync : Sync} {sheet : Sheet}
    (owned : Owned catalog sync.derived sheet) {control name : String} (other : name ≠ control)
    (unchanged : name ∉ (visit catalog origin control sync sheet).changed)
    (agrees : EchoAgrees catalog name sheet) :
    EchoAgrees catalog name (visit catalog origin control sync sheet).sheet := by
  rintro dropdown member rfl echo echoes
  obtain ⟨twin, twinIn, rfl, kind⟩ := wellFormed.paired.echo dropdown member echo echoes
  have spared : ¬∀ select, twin.kind = .echo select → select = control :=
    fun own => other (own dropdown.name kind)
  rw [(choiceOf_congr (agreeOff_visit wellFormed owned control _ unchanged)).1.symm,
    Steps.content? (steps_visit wellFormed owned origin control) wellFormed owned twinIn spared]
  exact agrees dropdown member rfl twin.name echoes

/-- All echoes agree when a change has been carried, if those of the other dropdowns did before. -/
theorem echoAgrees_propagate (wellFormed : catalog.WellFormed) {sync : Sync} {sheet : Sheet}
    (owned : Owned catalog sync.derived sheet)
    (before : ∀ name, name ≠ origin → EchoAgrees catalog name sheet) (name : String) :
    EchoAgrees catalog name (propagate catalog sync sheet origin).sheet := by
  refine propagate_settles_all wellFormed owned origin (fun sync sheet name owned => ?_)
    (fun sync sheet control name owned other unchanged agrees => ?_) before name
  · exact echoAgrees_visit wellFormed owned name
  · exact echoAgrees_visit_other wellFormed owned other unchanged agrees

theorem echoAgrees_echoAll (wellFormed : catalog.WellFormed) {sync : Sync} {sheet : Sheet}
    (owned : Owned catalog sync.derived sheet) (name : String) :
    EchoAgrees catalog name (echoAll catalog sync sheet).sheet := by
  rintro dropdown member rfl echo echoes
  have kept := content?_echoAll_other wellFormed owned member (kind_ne_echo echoes)
  rw [content?_echoAll wellFormed owned member echoes, (choiceOf_congr kept).1]

/-! ### Derived entries -/

/-- Whether, if the name is the one of a dropdown, of all names of its derived entries that are no
controls exactly the one that it asks for is there. -/
def EntryAgrees (catalog : Catalog) (name : String) (sheet : Sheet) : Prop :=
  ∀ dropdown ∈ catalog.controls, dropdown.name = name → ∀ entry ∈ dropdown.derivedNames,
    entry ∉ catalog.controls.map Control.name →
      (sheet.contains entry = true ↔ wanted sheet name = some entry)

/-- Nobody but its dropdown has a derived entry. -/
theorem contains_iff_owns (apart : catalog.NamesApart) {derived : NameMap String} {sheet : Sheet}
    (owned : Owned catalog derived sheet) {dropdown : Control}
    (member : dropdown ∈ catalog.controls) {name : String}
    (derives : name ∈ dropdown.derivedNames) (foreign : name ∉ catalog.controls.map Control.name) :
    sheet.contains name = true ↔ derived.get? dropdown.name = some name := by
  rw [owned.contains_iff foreign]
  constructor
  · rintro ⟨owner, owns⟩
    obtain ⟨-, other, otherIn, rfl, otherDerives⟩ := owned.owner owner name owns
    rwa [apart dropdown member other otherIn name derives
      (Control.mem_derivedNames.mpr otherDerives)]
  · exact fun owns => ⟨dropdown.name, owns⟩

theorem echo?_of_mem_derivedNames {dropdown : Control} {name : String}
    (derives : name ∈ dropdown.derivedNames) : ∃ echo, dropdown.echo? = some echo :=
  echo?_of_derives (Control.mem_derivedNames.mp derives)

/-- What is derived is derived by a dropdown with an echo, under one of its names. -/
theorem exists_dropdown {derived : NameMap String} {sheet : Sheet}
    (owned : Owned catalog derived sheet) {owner name : String}
    (owns : derived.get? owner = some name) : ∃ dropdown ∈ catalog.controls, ∃ echo,
      dropdown.echo? = some echo ∧ name ∈ dropdown.derivedNames := by
  obtain ⟨-, dropdown, member, -, derives⟩ := owned.owner owner name owns
  obtain ⟨echo, echoes⟩ := echo?_of_derives derives
  exact ⟨dropdown, member, echo, echoes, Control.mem_derivedNames.mpr derives⟩

theorem entryAgrees_visit (wellFormed : catalog.WellFormed) (apart : catalog.NamesApart)
    {sync : Sync} {sheet : Sheet} (owned : Owned catalog sync.derived sheet) (name : String) :
    EntryAgrees catalog name (visit catalog origin name sync sheet).sheet := by
  rintro dropdown member rfl entry derives foreign
  obtain ⟨echo, echoes⟩ := echo?_of_mem_derivedNames derives
  have ownedState : State.IsOwned catalog ⟨sync, sheet, []⟩ := owned
  have own := steps_renewed_echoes wellFormed ownedState member
  have ownedOwn := Steps.isOwned own ownedState
  have ownedVisited := Steps.isOwned (steps_visit wellFormed owned origin dropdown.name) ownedState
  have sameOwner : (visit catalog origin dropdown.name sync sheet).sync.derived =
      (renewed ⟨sync, sheet, []⟩ dropdown).sync.derived := by
    rw [visit_eq_forward wellFormed member echoes, derived_forward]
  rw [contains_iff_owns apart ownedVisited member derives foreign, sameOwner,
    (choiceOf_congr (content?_visit wellFormed owned member echoes)).2]
  constructor
  · exact wanted_of_renewed echoes
  · intro asked
    rw [← contains_iff_owns apart ownedOwn member derives foreign]
    exact contains_of_wanted wellFormed ownedState member echoes asked

theorem entryAgrees_visit_other (wellFormed : catalog.WellFormed) (apart : catalog.NamesApart)
    {sync : Sync} {sheet : Sheet} (owned : Owned catalog sync.derived sheet)
    {control name : String} (other : name ≠ control)
    (unchanged : name ∉ (visit catalog origin control sync sheet).changed)
    (agrees : EntryAgrees catalog name sheet) :
    EntryAgrees catalog name (visit catalog origin control sync sheet).sheet := by
  rintro dropdown member rfl entry derives foreign
  have ownedVisited : (visit catalog origin control sync sheet).IsOwned catalog :=
    Steps.isOwned (steps_visit wellFormed owned origin control) owned
  rw [contains_iff_owns apart ownedVisited member derives foreign,
    get?_derived_visit wellFormed sync sheet (Ne.symm other),
    ← contains_iff_owns apart owned member derives foreign,
    ← (choiceOf_congr (agreeOff_visit wellFormed owned control _ unchanged)).2]
  exact agrees dropdown member rfl entry derives foreign

theorem entryAgrees_propagate (wellFormed : catalog.WellFormed) (apart : catalog.NamesApart)
    {sync : Sync} {sheet : Sheet} (owned : Owned catalog sync.derived sheet)
    (before : ∀ name, name ≠ origin → EntryAgrees catalog name sheet) (name : String) :
    EntryAgrees catalog name (propagate catalog sync sheet origin).sheet := by
  refine propagate_settles_all wellFormed owned origin (fun sync sheet name owned => ?_)
    (fun sync sheet control name owned other unchanged agrees => ?_) before name
  · exact entryAgrees_visit wellFormed apart owned name
  · exact entryAgrees_visit_other wellFormed apart owned other unchanged agrees

/-- Without names in common it takes no more than a dropdown that asks for a name to have a derived
entry of it. -/
theorem rederives_iff_of_apart (wellFormed : catalog.WellFormed) (apart : catalog.NamesApart)
    {derived : NameMap String} {first second : Sheet} (ownedFirst : Owned catalog derived first)
    {otherDerived : NameMap String} (ownedSecond : Owned catalog otherDerived second)
    {name : String} :
    Rederives catalog derived second name ↔ name ∉ catalog.controls.map Control.name ∧
      ∃ dropdown ∈ catalog.controls, dropdown.echo?.isSome = true ∧
        wanted second dropdown.name = some name := by
  constructor
  · rintro ⟨foreign, earlier, dropdown, later, equal, hasEcho, asked, -⟩
    exact ⟨foreign, dropdown, (split_controls wellFormed equal).1.2.1, hasEcho, asked⟩
  · rintro ⟨foreign, dropdown, member, hasEcho, asked⟩
    obtain ⟨earlier, later, equal⟩ := List.append_of_mem member
    obtain ⟨⟨-, -, laterSubset⟩, absent, -, -⟩ := split_controls wellFormed equal
    refine ⟨foreign, earlier, dropdown, later, equal, hasEcho, asked, fun other otherIn owns => ?_⟩
    obtain ⟨echo, echoes⟩ := Option.isSome_iff_exists.mp hasEcho
    obtain ⟨options, kind⟩ := exists_kind_of_echo? echoes
    have derives := derives_of_wanted ownedSecond member kind asked
    obtain ⟨-, owning, owningIn, named, otherDerives⟩ := ownedFirst.owner other.name name owns
    have same := apart dropdown member owning owningIn name (Control.mem_derivedNames.mpr derives)
      (Control.mem_derivedNames.mpr otherDerives)
    exact absurd (List.mem_map_of_mem otherIn) ((same.trans named) ▸ absent)

theorem entryAgrees_echoAll (wellFormed : catalog.WellFormed) (apart : catalog.NamesApart)
    {sync : Sync} {sheet : Sheet} (owned : Owned catalog sync.derived sheet) (name : String) :
    EntryAgrees catalog name (echoAll catalog sync sheet).sheet := by
  rintro dropdown member rfl entry derives foreign
  obtain ⟨echo, echoes⟩ := echo?_of_mem_derivedNames derives
  have kept := content?_echoAll_other wellFormed owned member (kind_ne_echo echoes)
  rw [contains_echoAll wellFormed owned foreign, (choiceOf_congr kept).2,
    rederives_iff_of_apart wellFormed apart owned owned]
  constructor
  · rintro ⟨-, other, otherIn, hasEcho, asked⟩
    obtain ⟨otherEcho, otherEchoes⟩ := Option.isSome_iff_exists.mp hasEcho
    obtain ⟨otherOptions, otherKind⟩ := exists_kind_of_echo? otherEchoes
    have otherDerives := derives_of_wanted owned otherIn otherKind asked
    have same := apart dropdown member other otherIn entry derives
      (Control.mem_derivedNames.mpr otherDerives)
    rw [same]
    exact asked
  · intro asked
    exact ⟨foreign, dropdown, member, by rw [echoes]; rfl, asked⟩

end Sync

end Questionnaire

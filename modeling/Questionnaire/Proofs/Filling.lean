/-
This file follows fillings, the runs in which a person fills in a form: answers and amounts are
written, and the position moves from section to section. A filling never leaves the range of
sections. And in a form whose calculations write nothing that belongs to a dropdown, every dropdown
agrees with its echo and its derived entry after every operation, and no derived entry is ever
unchecked.
-/
import Questionnaire.Proofs.Agreement
import Questionnaire.Proofs.Calculation
import Questionnaire.Proofs.Position

namespace Questionnaire

/-- Whether a control is filled in by hand: it carries an answer, or it is an amount. -/
def Control.isFilledIn (control : Control) : Bool :=
  control.isAnswer ||
    match control.kind with
    | .amount _ => true
    | _ => false

/-- Whether an operation belongs to a filling: it writes a control that is filled in by hand, or it
moves. -/
def Operation.fills (catalog : Catalog) : Operation → Bool
  | .setValue control _ | .setChecked control _ =>
    (catalog.control? control).any Control.isFilledIn
  | .advance | .retreat | .goTo _ => true
  | _ => false

/-- Whether calculations write no dropdown, no echo and no name of a derived entry. -/
def Catalog.SparesDropdowns (catalog : Catalog) : Prop :=
  ∀ target ∈ catalog.calculations, ∀ dropdown ∈ catalog.controls, ∀ echo ∈ dropdown.echo?,
    target.target ≠ dropdown.name ∧ target.target ≠ echo ∧ target.target ∉ dropdown.derivedNames

instance (catalog : Catalog) : Decidable catalog.SparesDropdowns :=
  inferInstanceAs (Decidable (∀ target ∈ catalog.calculations, ∀ dropdown ∈ catalog.controls,
    ∀ echo ∈ dropdown.echo?, target.target ≠ dropdown.name ∧ target.target ≠ echo ∧
      target.target ∉ dropdown.derivedNames))

/-! ### Sheets of fillings -/

theorem Control.kind_ne_echo {control : Control} (filledIn : control.isFilledIn = true)
    (select : String) : control.kind ≠ .echo select := by
  intro kind
  unfold Control.isFilledIn Control.isAnswer at filledIn
  rw [kind, Bool.and_false] at filledIn
  cases filledIn

section

variable {catalog : Catalog}

theorem Catalog.SparesDropdowns.untargeted (spares : catalog.SparesDropdowns) {dropdown : Control}
    (member : dropdown ∈ catalog.controls) {echo : String} (echoes : dropdown.echo? = some echo) :
    let targets := catalog.calculations.map CalculationTarget.target
    dropdown.name ∉ targets ∧ echo ∉ targets ∧ ∀ name ∈ dropdown.derivedNames, name ∉ targets := by
  have apart : ∀ target ∈ catalog.calculations, target.target ≠ dropdown.name ∧
      target.target ≠ echo ∧ target.target ∉ dropdown.derivedNames :=
    fun target targetIn => spares target targetIn dropdown member echo echoes
  refine ⟨fun isIn => ?_, fun isIn => ?_, fun name derives isIn => ?_⟩
  · obtain ⟨target, targetIn, named⟩ := List.mem_map.mp isIn
    exact (apart target targetIn).1 named
  · obtain ⟨target, targetIn, named⟩ := List.mem_map.mp isIn
    exact (apart target targetIn).2.1 named
  · obtain ⟨target, targetIn, rfl⟩ := List.mem_map.mp isIn
    exact (apart target targetIn).2.2 derives

/-- A sheet in which the owners are in order, no derived entry is unchecked, and every dropdown
agrees with what goes with it. -/
structure Tidy (catalog : Catalog) (derived : NameMap String) (sheet : Sheet) : Prop where
  owned : Owned catalog derived sheet
  checked : Sync.AllChecked (fun _ => True) sheet
  echoes : ∀ name, Sync.EchoAgrees catalog name sheet
  entries : catalog.NamesApart → ∀ name, Sync.EntryAgrees catalog name sheet

namespace Tidy

variable {derived : NameMap String} {sheet : Sheet}

/-- Calculations that spare dropdowns keep a sheet tidy. -/
theorem run (tidy : Tidy catalog derived sheet) (wellFormed : catalog.WellFormed)
    (spares : catalog.SparesDropdowns) (tiers : Tiers) :
    Tidy catalog derived (Derivation.run tiers catalog sheet).1 := by
  have refilled := Sheet.refilled_derivation_run tiers catalog sheet
  have same : ∀ {dropdown echo}, dropdown ∈ catalog.controls → dropdown.echo? = some echo →
      (Derivation.run tiers catalog sheet).1.content? dropdown.name =
        sheet.content? dropdown.name := fun member echoes =>
    Sheet.content?_run wellFormed tiers sheet (spares.untargeted member echoes).1
  constructor
  case owned => exact tidy.owned.refilled refilled
  case checked =>
    refine tidy.checked.refilled refilled fun name entry present isDerived => ?_
    obtain ⟨-, -, owner, owns⟩ := tidy.owned.option name entry present isDerived
    obtain ⟨dropdown, member, echo, echoes, isName⟩ := Sync.exists_dropdown tidy.owned owns
    exact (Sheet.content?_run wellFormed tiers sheet
      ((spares.untargeted member echoes).2.2 name isName)).symm
  case echoes =>
    rintro name dropdown member rfl echo echoes
    rw [Sheet.content?_run wellFormed tiers sheet (spares.untargeted member echoes).2.1,
      (Sync.choiceOf_congr (same member echoes)).1]
    exact tidy.echoes dropdown.name dropdown member rfl echo echoes
  case entries =>
    rintro apart name dropdown member rfl entry derives foreign
    obtain ⟨echo, echoes⟩ := Sync.echo?_of_mem_derivedNames derives
    rw [refilled.contains, (Sync.choiceOf_congr (same member echoes)).2]
    exact tidy.entries apart dropdown.name dropdown member rfl entry derives foreign

/-- So does a change of a control that is filled in by hand, when it is carried. -/
theorem propagate {sync : Sync} (tidy : Tidy catalog sync.derived sheet)
    (wellFormed : catalog.WellFormed) {control : Control} (member : control ∈ catalog.controls)
    (filledIn : control.isFilledIn = true) {result : Sheet × Bool}
    (written : Sheet.Write sheet control.name result) :
    Tidy catalog (Sync.propagate catalog sync result.1 control.name).sync.derived
      (Sync.propagate catalog sync result.1 control.name).sheet := by
  have owned := tidy.owned.refilled written.refilled
  have same : ∀ name, name ≠ control.name → result.1.content? name = sheet.content? name :=
    fun name different => (written.agreeOff name fun listed =>
      different (Sheet.eq_of_mem_reported listed)).symm
  constructor
  case owned => exact Sync.owned_propagate wellFormed owned control.name
  case checked =>
    exact Sync.allChecked_propagate wellFormed owned control.name
      (tidy.checked.write tidy.owned member written)
  case echoes =>
    refine Sync.echoAgrees_propagate wellFormed owned ?_
    rintro name different dropdown dropdownIn rfl echo echoes
    obtain ⟨twin, twinIn, rfl, kind⟩ := wellFormed.paired.echo dropdown dropdownIn echo echoes
    have notControl : twin.name ≠ control.name := fun equal =>
      Control.kind_ne_echo filledIn dropdown.name
        (wellFormed.eq_of_name_eq twinIn member equal ▸ kind)
    rw [same twin.name notControl, (Sync.choiceOf_congr (same dropdown.name different)).1]
    exact tidy.echoes dropdown.name dropdown dropdownIn rfl twin.name echoes
  case entries =>
    refine fun apart => Sync.entryAgrees_propagate wellFormed apart owned ?_
    rintro name different dropdown dropdownIn rfl entry derives foreign
    rw [written.refilled.contains, (Sync.choiceOf_congr (same dropdown.name different)).2]
    exact tidy.entries apart dropdown.name dropdown dropdownIn rfl entry derives foreign

theorem start (wellFormed : catalog.WellFormed) (spares : catalog.SparesDropdowns) :
    Tidy catalog (Session.start catalog).sync.derived (Session.start catalog).sheet := by
  have ownedFirst := owned_ofCatalog wellFormed
  have steps : Sync.Steps catalog (fun _ => True) (fun _ => True)
      ⟨Sync.start, Sheet.ofCatalog catalog, []⟩
      (Sync.echoAll catalog Sync.start (Sheet.ofCatalog catalog)) :=
    Sync.steps_echoAll wellFormed ownedFirst fun _ _ _ => trivial
  have unchecked : Sync.AllChecked (fun _ => True) (Sheet.ofCatalog catalog) := by
    intro name entry _ present isDerived
    obtain ⟨-, -, owner, owns⟩ := ownedFirst.option name entry present isDerived
    cases owns
  have echoed : Tidy catalog
      (Sync.echoAll catalog Sync.start (Sheet.ofCatalog catalog)).sync.derived
      (Sync.echoAll catalog Sync.start (Sheet.ofCatalog catalog)).sheet :=
    { owned := Sync.Steps.isOwned steps ownedFirst
      checked := Sync.Steps.allChecked steps ownedFirst unchecked
      echoes := Sync.echoAgrees_echoAll wellFormed ownedFirst
      entries := fun apart => Sync.entryAgrees_echoAll wellFormed apart ownedFirst }
  exact echoed.run wellFormed spares Tiers.usual

end Tidy

/-! ### Runs of fillings -/

/-- What an operation of a filling writes is filled in by hand. -/
theorem Operation.filledIn_of_write? {session : Session} {operation : Operation}
    (fills : operation.fills catalog = true) {name : String} {result : Sheet × Bool}
    (writes : session.write? operation = some (name, result)) :
    ∃ control ∈ catalog.controls, control.name = name ∧ control.isFilledIn = true := by
  have known : ∀ {written : Option (Sheet × Bool)} {control : String},
      written.map (control, ·) = some (name, result) →
        (catalog.control? control).any Control.isFilledIn = true →
          ∃ entry ∈ catalog.controls, entry.name = name ∧ entry.isFilledIn = true := by
    intro written control equal isKnown
    obtain ⟨other, -, pair⟩ := Option.map_eq_some_iff.mp equal
    cases pair
    obtain ⟨entry, found, filledIn⟩ := (Option.any_eq_true _ _).mp isKnown
    obtain ⟨member, named⟩ := Catalog.mem_of_control?_eq_some found
    exact ⟨entry, member, named, filledIn⟩
  cases operation with
  | setValue control text => exact known writes fills
  | setChecked control checked => exact known writes fills
  | _ => cases writes

namespace Session

/-- What holds of a session that is being filled in. -/
structure IsFilling (session : Session) : Prop where
  tiers : session.tiers = Tiers.usual
  navigation : session.navigation.InRange session.catalog.sectionCount
  tidy : session.catalog.SparesDropdowns →
    Tidy session.catalog session.sync.derived session.sheet

namespace IsFilling

variable {session : Session}

theorem carry (filling : session.IsFilling) (wellFormed : session.catalog.WellFormed)
    {control : Control} (member : control ∈ session.catalog.controls)
    (filledIn : control.isFilledIn = true) {result : Sheet × Bool}
    (written : Sheet.Write session.sheet control.name result) :
    (session.carry result.1 control.name).1.IsFilling := by
  have carried : session.catalog.SparesDropdowns →
      Tidy session.catalog
        (Sync.propagate session.catalog session.sync result.1 control.name).sync.derived
        (Sync.propagate session.catalog session.sync result.1 control.name).sheet :=
    fun spares => (filling.tidy spares).propagate wellFormed member filledIn written
  unfold Session.carry
  simp only
  split
  next =>
    refine ⟨filling.tiers, filling.navigation, fun spares => ?_⟩
    exact (carried spares).run wellFormed spares _
  next => exact ⟨filling.tiers, filling.navigation, carried⟩

theorem recalculate (filling : session.IsFilling) (wellFormed : session.catalog.WellFormed) :
    session.recalculate.IsFilling :=
  ⟨filling.tiers, filling.navigation, fun spares => (filling.tidy spares).run wellFormed spares _⟩

theorem beside (filling : session.IsFilling) {navigation : Navigation}
    (inRange : navigation.InRange session.catalog.sectionCount) (warnings : List SyncWarning)
    (finalized : Nat) : (session.beside navigation warnings finalized).IsFilling :=
  ⟨filling.tiers, inRange, filling.tidy⟩

/-- Every operation of a filling keeps it. -/
theorem perform (filling : session.IsFilling) (wellFormed : session.catalog.WellFormed)
    {operation : Operation} (fills : operation.fills session.catalog = true) :
    (session.perform operation).IsFilling := by
  have edit : (∃ control text, operation = .setValue control text) ∨
      (∃ control checked, operation = .setChecked control checked) →
      (session.perform operation).IsFilling := by
    intro isEdit
    rw [perform_edit session operation isEdit]
    split
    next name result writes =>
      obtain ⟨control, member, rfl, filledIn⟩ := Operation.filledIn_of_write? fills writes
      split
      · exact filling.carry wellFormed member filledIn (write_of_write? writes)
      · exact filling
    next => exact filling
  cases operation with
  | setValue control text => exact edit (.inl ⟨control, text, rfl⟩)
  | setChecked control checked => exact edit (.inr ⟨control, checked, rfl⟩)
  | advance =>
    have before := filling.recalculate wellFormed
    have moved := before.beside (before.navigation.advance session.recalculate.sheet)
      session.recalculate.sync.warnings (session.recalculate.finalized +
        if (session.recalculate.navigation.advance session.catalog
          session.recalculate.sheet).2.finishes then 1 else 0)
    exact moved.recalculate wellFormed
  | retreat =>
    exact filling.beside filling.navigation.retreat session.sync.warnings session.finalized
  | goTo id =>
    exact filling.beside (filling.navigation.goTo id) session.sync.warnings session.finalized
  | _ => cases fills

end IsFilling

theorem isFilling_start (wellFormed : catalog.WellFormed) : (start catalog).IsFilling :=
  ⟨rfl, Navigation.inRange_start _, Tidy.start wellFormed⟩

theorem isFilling_run (wellFormed : catalog.WellFormed) {operations : List Operation}
    (fills : ∀ operation ∈ operations, operation.fills catalog = true) :
    (run catalog operations).IsFilling := by
  have reached : ∀ (session : Session), session.catalog = catalog → session.IsFilling →
      (operations.foldl Session.perform session).IsFilling := by
    induction operations with
    | nil => exact fun _ _ filling => filling
    | cons operation rest inductionHypothesis =>
      intro session same filling
      obtain ⟨head, tail⟩ := List.forall_mem_cons.mp fills
      subst same
      exact inductionHypothesis tail _ (catalog_perform session operation)
        (filling.perform wellFormed head)
  exact reached (start catalog) rfl (isFilling_start wellFormed)

end Session

end

end Questionnaire

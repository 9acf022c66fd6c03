/-
This file says which sessions survive being exported and restored. Restoring starts a new session,
takes over the exported values without carrying them, echoes all dropdowns and runs the calculations
once more. So a session that is being filled in survives exactly if it is settled: if another run of
the calculations would change nothing, and the derived entries that are there are those that a new
session derives from the same choices. Both can fail. A calculation may have run before what it
reads was written; and of two dropdowns that ask for one name, the one that came second is left
without it when the first one gives it up.
-/
import Questionnaire.Proofs.Decision
import Questionnaire.Proofs.Filling
import Questionnaire.Proofs.Rehydration

namespace Questionnaire.Session

/-! ### Settled sessions -/

/-- Whether restoring a session finds nothing to change: every dropdown agrees with its echo,
derived entries are checked, exactly those are there that a new session derives again, and the
calculations would change nothing. -/
structure IsSettled (session : Session) : Prop where
  echoes : ∀ name, Sync.EchoAgrees session.catalog name session.sheet
  checked : Sync.AllChecked (fun _ => True) session.sheet
  entries : ∀ name, name ∉ session.catalog.controls.map Control.name →
    (session.sheet.contains name = true ↔
      Sync.Rederives session.catalog (start session.catalog).sync.derived session.sheet name)
  calculated : (Derivation.run Tiers.usual session.catalog session.sheet).2 = []

/-- Whether a session that is restored from what it exports is at the same position, exports the
same and shows the same questions. -/
def Survives (session : Session) : Prop :=
  let restored := restore session.catalog session.snapshot session.navigation
  restored.snapshot = session.snapshot ∧ restored.navigation = session.navigation ∧
    restored.decisions = session.decisions

instance (session : Session) : Decidable session.Survives :=
  inferInstanceAs (Decidable (_ ∧ _ ∧ _))

/-! ### What restoring does -/

/-- A new session's sheet with the values of a session taken over. -/
def takenOver (session : Session) : Sheet :=
  (applyAll (start session.catalog).sheet session.snapshot).1

/-- That sheet after all dropdowns were echoed. -/
def echoedAgain (session : Session) : Sync.State :=
  Sync.echoAll session.catalog (start session.catalog).sync session.takenOver

theorem sheet_restore (session : Session) (navigation : Navigation) :
    (restore session.catalog session.snapshot navigation).sheet =
      (Derivation.run Tiers.usual session.catalog session.echoedAgain.sheet).1 := rfl

variable {session : Session}

theorem IsFilling.navigation_restore (filling : session.IsFilling) :
    (restore session.catalog session.snapshot session.navigation).navigation =
      session.navigation := by
  show session.navigation.normalized session.catalog.sectionCount = session.navigation
  exact filling.navigation.normalized_eq_self

theorem owned_takenOver (wellFormed : session.catalog.WellFormed) :
    Owned session.catalog (start session.catalog).sync.derived session.takenOver :=
  (isOwned_start wellFormed).refilled (Sheet.refilled_applyAll _ _)

theorem owned_echoedAgain (wellFormed : session.catalog.WellFormed) :
    session.echoedAgain.IsOwned session.catalog := by
  have ownedStart : Sync.State.IsOwned session.catalog
    ⟨(start session.catalog).sync, session.takenOver, []⟩ := owned_takenOver wellFormed
  exact Sync.Steps.isOwned
    (Sync.steps_foldl_echoes wellFormed ownedStart (List.Subset.refl _)) ownedStart

theorem owned_restore (wellFormed : session.catalog.WellFormed) (navigation : Navigation) :
    Owned session.catalog session.echoedAgain.sync.derived
      (restore session.catalog session.snapshot navigation).sheet :=
  (owned_echoedAgain wellFormed).refilled (Sheet.refilled_derivation_run _ _ _)

namespace IsOwned

/-- Every control takes over its content. -/
theorem content?_takenOver (owned : session.IsOwned) (wellFormed : session.catalog.WellFormed)
    {control : Control} (member : control ∈ session.catalog.controls) :
    session.takenOver.content? control.name = session.sheet.content? control.name :=
  Sheet.content?_applyAll_control (isOwned_start wellFormed) owned member

/-- Up to the calculations, restoring a session makes a sheet like its own. -/
theorem alike_echoedAgain (owned : session.IsOwned) (wellFormed : session.catalog.WellFormed)
    (echoes : ∀ name, Sync.EchoAgrees session.catalog name session.sheet)
    (checked : Sync.AllChecked (fun _ => True) session.sheet)
    (entries : ∀ name, name ∉ session.catalog.controls.map Control.name →
      (session.sheet.contains name = true ↔
        Sync.Rederives session.catalog (start session.catalog).sync.derived session.sheet name)) :
    Sheet.Alike session.catalog session.sheet session.echoedAgain.sheet :=
  Sheet.alike_echoAll wellFormed owned (owned_takenOver wellFormed)
    (fun _ member => owned.content?_takenOver wellFormed member)
    (Sheet.allChecked_applyAll (isOwned_start wellFormed) owned checked) echoes checked entries

/-! ### Settled sessions survive -/

theorem snapshot_restore (owned : session.IsOwned) (wellFormed : session.catalog.WellFormed)
    (settled : session.IsSettled) (navigation : Navigation) :
    (restore session.catalog session.snapshot navigation).snapshot = session.snapshot := by
  have alike := owned.alike_echoedAgain wellFormed settled.echoes settled.checked settled.entries
  have still := (alike.run_still_iff owned wellFormed).mp settled.calculated
  show (restore _ _ _).sheet.snapshot = session.sheet.snapshot
  rw [sheet_restore, Sheet.run_eq_self still]
  exact (alike.snapshot_eq owned (owned_echoedAgain wellFormed)).symm

/-- A session that is restored with the same values shows the same questions. -/
theorem decisions_restore (owned : session.IsOwned) (wellFormed : session.catalog.WellFormed)
    (decided : session.decisions = Visibility.decideAll session.catalog session.sheet)
    {navigation : Navigation}
    (same : (restore session.catalog session.snapshot navigation).snapshot = session.snapshot) :
    (restore session.catalog session.snapshot navigation).decisions = session.decisions := by
  obtain ⟨-, restored⟩ := isDecided_run wellFormed [.restore session.snapshot navigation]
  rw [decided]
  refine Eq.trans restored.decided ?_
  exact Visibility.decideAll_congr wellFormed fun control member =>
    Sheet.content?_of_snapshot_eq (owned_restore wellFormed navigation) owned same member

end IsOwned

/-! ### Sessions that survive are settled -/

section

variable (tidy : Tidy session.catalog session.sync.derived session.sheet)
  (wellFormed : session.catalog.WellFormed) (spares : session.catalog.SparesDropdowns)

include tidy wellFormed

/-- Before the calculations run, every control of a tidy session is restored as it was. -/
theorem content?_echoedAgain {control : Control} (member : control ∈ session.catalog.controls) :
    session.echoedAgain.sheet.content? control.name = session.sheet.content? control.name := by
  have ownedTaken : Owned session.catalog (start session.catalog).sync.derived session.takenOver :=
    owned_takenOver wellFormed
  by_cases isEcho : ∃ select, control.kind = .echo select
  · obtain ⟨select, kind⟩ := isEcho
    obtain ⟨dropdown, dropdownIn, rfl, twin⟩ := wellFormed.paired.ofEcho control member select kind
    have same := IsOwned.content?_takenOver tidy.owned wellFormed dropdownIn
    rw [tidy.echoes dropdown.name dropdown dropdownIn rfl control.name twin,
      ← (Sync.choiceOf_congr same).1]
    exact Sync.content?_echoAll wellFormed ownedTaken dropdownIn twin
  · have noEcho : ∀ select, control.kind ≠ .echo select := fun select kind => isEcho ⟨select, kind⟩
    rw [← IsOwned.content?_takenOver tidy.owned wellFormed member]
    exact Sync.content?_echoAll_other wellFormed ownedTaken member noEcho

/-- And every control that no calculation writes is restored as it was. -/
theorem content?_restore {control : Control} (member : control ∈ session.catalog.controls)
    (untargeted : control.name ∉ session.catalog.calculations.map CalculationTarget.target)
    (navigation : Navigation) :
    (restore session.catalog session.snapshot navigation).sheet.content? control.name =
      session.sheet.content? control.name := by
  rw [sheet_restore, Sheet.content?_run wellFormed Tiers.usual _ untargeted]
  exact content?_echoedAgain tidy wellFormed member

include spares

/-- The calculations change nothing in a session that is restored with the same values. -/
theorem still_of_snapshot_eq {navigation : Navigation}
    (same : (restore session.catalog session.snapshot navigation).snapshot = session.snapshot) :
    (Derivation.run Tiers.usual session.catalog session.echoedAgain.sheet).2 = [] := by
  have ownedAgain : session.echoedAgain.IsOwned session.catalog := owned_echoedAgain wellFormed
  refine List.eq_nil_iff_forall_not_mem.mpr fun name isIn => ?_
  obtain ⟨isTarget, different⟩ :=
    Sheet.reported_run wellFormed Tiers.usual session.echoedAgain.sheet name isIn
  refine different ?_
  by_cases foreign : name ∈ session.catalog.controls.map Control.name
  · obtain ⟨control, member, rfl⟩ := List.mem_map.mp foreign
    rw [content?_echoedAgain tidy wellFormed member]
    exact Sheet.content?_of_snapshot_eq (owned_restore wellFormed navigation) tidy.owned same member
  · -- A target that is no control is no derived entry either, so it is not there.
    have absent : session.echoedAgain.sheet.get? name = none := by
      cases found : session.echoedAgain.sheet.get? name with
      | none => rfl
      | some entry =>
        have present := NameMap.contains_iff.mpr ⟨entry, found⟩
        obtain ⟨owner, owns⟩ := (ownedAgain.contains_iff foreign).mp present
        obtain ⟨dropdown, member, echo, echoes, isName⟩ := Sync.exists_dropdown ownedAgain owns
        exact absurd isTarget ((spares.untargeted member echoes).2.2 name isName)
    have refilled := Sheet.refilled_derivation_run Tiers.usual session.catalog
      session.echoedAgain.sheet
    rw [Sheet.content?_eq, Sheet.content?_eq, absent, refilled.absent name absent]

theorem isSettled_of_snapshot_eq {navigation : Navigation}
    (same : (restore session.catalog session.snapshot navigation).snapshot = session.snapshot) :
    session.IsSettled := by
  have still := still_of_snapshot_eq tidy wellFormed spares same
  have sheets : session.echoedAgain.sheet.snapshot = session.sheet.snapshot := by
    rw [← Sheet.run_eq_self still]
    exact same
  have entries : ∀ name, name ∉ session.catalog.controls.map Control.name →
      (session.sheet.contains name = true ↔
        Sync.Rederives session.catalog (start session.catalog).sync.derived session.sheet
          name) := by
    intro name foreign
    have asked : ∀ control ∈ session.catalog.controls,
        Sync.wanted session.takenOver control.name = Sync.wanted session.sheet control.name :=
      fun control member =>
        (Sync.choiceOf_congr (IsOwned.content?_takenOver tidy.owned wellFormed member)).2
    have present : session.echoedAgain.sheet.contains name = session.sheet.contains name := by
      have exported := congrArg (fun snapshot => (snapshot.get? name).isSome) sheets
      simp only [Sheet.get?_snapshot, Option.isSome_map] at exported
      rw [Sheet.contains_eq_isSome_content?, Sheet.contains_eq_isSome_content?, exported]
    rw [← present]
    refine (Sync.contains_echoAll wellFormed (owned_takenOver wellFormed) foreign).trans ?_
    exact ⟨fun rederives => rederives.congr asked, fun rederives =>
      rederives.congr fun control member => (asked control member).symm⟩
  have alike := IsOwned.alike_echoedAgain tidy.owned wellFormed tidy.echoes tidy.checked entries
  exact ⟨tidy.echoes, tidy.checked, entries, (alike.run_still_iff tidy.owned wellFormed).mpr still⟩

end

/-- Without names in common a tidy session has just the derived entries that a new one derives. -/
theorem entries_of_apart (tidy : Tidy session.catalog session.sync.derived session.sheet)
    (wellFormed : session.catalog.WellFormed) (apart : session.catalog.NamesApart) (name : String)
    (foreign : name ∉ session.catalog.controls.map Control.name) :
    session.sheet.contains name = true ↔
      Sync.Rederives session.catalog (start session.catalog).sync.derived session.sheet name := by
  rw [Sync.rederives_iff_of_apart wellFormed apart (isOwned_start wellFormed) tidy.owned]
  constructor
  · intro present
    obtain ⟨owner, owns⟩ := (tidy.owned.contains_iff foreign).mp present
    obtain ⟨dropdown, member, echo, echoes, isName⟩ := Sync.exists_dropdown tidy.owned owns
    have asked :=
      (tidy.entries apart dropdown.name dropdown member rfl name isName foreign).mp present
    exact ⟨foreign, dropdown, member, by rw [echoes]; rfl, asked⟩
  · rintro ⟨-, dropdown, member, hasEcho, asked⟩
    obtain ⟨echo, echoes⟩ := Option.isSome_iff_exists.mp hasEcho
    obtain ⟨options, kind⟩ := Sync.exists_kind_of_echo? echoes
    have isName := Control.mem_derivedNames.mpr
      (Sync.derives_of_wanted tidy.owned member kind asked)
    exact (tidy.entries apart dropdown.name dropdown member rfl name isName foreign).mpr asked

/-! ### Sessions that are being filled in -/

/-- A session that is being filled in is restored at its position; if it exports the same then, it
shows the same; and it survives if it is settled. If calculations spare dropdowns, what no
calculation writes is restored as it was, and the session survives only if it is settled. If no two
dropdowns can ask for one name either, all that takes is that the calculations would change nothing.
-/
theorem survives_of_run {form : Form} {catalog : Catalog}
    (built : Catalog.build form = .ok catalog) (operations : List Operation)
    (fills : ∀ operation ∈ operations, operation.fills catalog = true) :
    let session := run catalog operations
    let restored := restore catalog session.snapshot session.navigation
    restored.navigation = session.navigation ∧
    (restored.snapshot = session.snapshot → restored.decisions = session.decisions) ∧
    (session.IsSettled → session.Survives) ∧
    (catalog.SparesDropdowns →
      (∀ control ∈ catalog.controls,
        control.name ∉ catalog.calculations.map CalculationTarget.target →
          restored.sheet.content? control.name = session.sheet.content? control.name) ∧
      (session.Survives ↔ session.IsSettled) ∧
      (catalog.NamesApart →
        (session.Survives ↔ (Derivation.run Tiers.usual catalog session.sheet).2 = []))) := by
  have wellFormed := Catalog.wellFormed_of_build built
  have filling := isFilling_run wellFormed fills
  obtain ⟨same, decided⟩ := isDecided_run wellFormed operations
  generalize run catalog operations = session at same decided filling ⊢
  subst same
  have navigation := filling.navigation_restore
  have decisions : ∀ {navigation},
      (restore session.catalog session.snapshot navigation).snapshot = session.snapshot →
      (restore session.catalog session.snapshot navigation).decisions = session.decisions :=
    decided.owned.decisions_restore wellFormed decided.decided
  have survives : session.IsSettled → session.Survives := by
    intro settled
    have snapshot := decided.owned.snapshot_restore wellFormed settled session.navigation
    exact ⟨snapshot, navigation, decisions snapshot⟩
  refine ⟨navigation, decisions, survives, fun spares => ?_⟩
  have tidy := filling.tidy spares
  have settled : session.Survives → session.IsSettled := fun survived =>
    isSettled_of_snapshot_eq tidy wellFormed spares survived.1
  refine ⟨fun control member untargeted => ?_, ⟨settled, survives⟩, fun apart => ?_⟩
  · exact content?_restore tidy wellFormed member untargeted session.navigation
  · refine ⟨fun survived => (settled survived).calculated, fun calculated => survives ?_⟩
    exact ⟨tidy.echoes, tidy.checked, entries_of_apart tidy wellFormed apart, calculated⟩

/-- Calculations check a box and a hidden field in time, and the session survives. -/
theorem survives_of_remarks :
    let operations := [.setValue "remarks" "3", .setValue "pets_dog_amount" "5",
      .setValue "a" "Other", .advance]
    let session := run surveyCatalog operations
    (∀ operation ∈ operations, operation.fills surveyCatalog = true) ∧
    session.snapshot.get? "many" = some "true" ∧ surveyCatalog.SparesDropdowns ∧
    session.Survives ∧ session.IsSettled := by
  intro operations session
  have fills : ∀ operation ∈ operations, operation.fills surveyCatalog = true := by decide +kernel
  have spares : surveyCatalog.SparesDropdowns := by decide +kernel
  have survives : session.Survives := by decide +kernel
  obtain ⟨-, -, -, onlySettled⟩ := survives_of_run build_survey operations fills
  exact ⟨fills, by decide +kernel, spares, survives, (onlySettled spares).2.1.mp survives⟩

/-- The field that counts on a box is computed before the calculation that checks the box, and of
two dropdowns the one that was refused a name does not get it when the other one is emptied: neither
session exports the same after it is restored. -/
theorem lost_when_restored :
    Catalog.build survey = .ok surveyCatalog ∧
    ∀ operations ∈
      [[.setValue "pets_dog_amount" "5", .setValue "remarks" "3"],
       [.setValue "a_b" "C", .setValue "a" "B c", .setValue "a_b" ""]],
      let session := run surveyCatalog operations
      (∀ operation ∈ operations, operation.fills surveyCatalog = true) ∧
      (restore surveyCatalog session.snapshot session.navigation).snapshot ≠
        session.snapshot := by
  refine ⟨build_survey, ?_⟩
  decide +kernel

end Questionnaire.Session

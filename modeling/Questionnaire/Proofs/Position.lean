/-
This file follows the position of a filling. The position is a section of the form or the end, and
every section on the way to it is one of the form, whatever jumps lead to, whatever number one goes
to, and whatever state is taken over from outside. The end is left only by taking over a position.
A filling is handed over as finished once for every advance that reaches the end, and once for every
submission.
-/
import Questionnaire.Proofs.Run

namespace Questionnaire

/-! ### The range of sections -/

namespace Navigation

theorem toNat_max (first second : UInt32) :
    (max first second).toNat = max first.toNat second.toNat := by
  show (if first ≤ second then second else first).toNat = _
  split
  next less => exact (Nat.max_eq_right (UInt32.le_iff_toNat_le.mp less)).symm
  next more =>
    rw [UInt32.le_iff_toNat_le] at more
    omega

theorem toNat_min (first second : UInt32) :
    (min first second).toNat = min first.toNat second.toNat := by
  show (if first ≤ second then first else second).toNat = _
  split
  next less => exact (Nat.min_eq_left (UInt32.le_iff_toNat_le.mp less)).symm
  next more =>
    rw [UInt32.le_iff_toNat_le] at more
    omega

/-- Whether a number is the one of a section, when there are so many. A form has at least one. -/
def IsSection (last id : UInt32) : Prop := 1 ≤ id.toNat ∧ id.toNat ≤ max last.toNat 1

theorem toNat_clamp (last id : UInt32) :
    (clamp last id).toNat = max 1 (min id.toNat (max last.toNat 1)) := by
  unfold clamp
  rw [toNat_max, toNat_min, toNat_max]
  rfl

theorem isSection_clamp (last id : UInt32) : IsSection last (clamp last id) := by
  unfold IsSection
  rw [toNat_clamp]
  omega

theorem clamp_eq_self {last id : UInt32} (inRange : IsSection last id) : clamp last id = id := by
  unfold IsSection at inRange
  refine UInt32.toNat_inj.mp ?_
  rw [toNat_clamp]
  omega

/-- Whether a position and the way to it lie in the range of sections. -/
structure InRange (last : UInt32) (navigation : Navigation) : Prop where
  current : ∀ id, navigation.current = .section id → IsSection last id
  history : ∀ id ∈ navigation.history, IsSection last id

/-- What lies in range is not moved into it. -/
theorem InRange.normalized_eq_self {last : UInt32} {navigation : Navigation}
    (inRange : navigation.InRange last) : navigation.normalized last = navigation := by
  obtain ⟨current, history⟩ := navigation
  unfold normalized
  congr 1
  · cases current with
    | finish => rfl
    | «section» id => exact congrArg Position.section (clamp_eq_self (inRange.current id rfl))
  · refine List.filter_eq_self.mpr fun id isIn => ?_
    obtain ⟨least, greatest⟩ := inRange.history id isIn
    rw [Bool.and_eq_true, decide_eq_true_iff, decide_eq_true_iff, UInt32.le_iff_toNat_le,
      UInt32.le_iff_toNat_le, toNat_max]
    exact ⟨least, greatest⟩

theorem inRange_start (last : UInt32) : start.InRange last where
  current id equal := by
    cases equal
    exact ⟨Nat.le_refl 1, Nat.le_max_right _ _⟩
  history id isIn := by cases isIn

theorem InRange.leave {last : UInt32} {navigation : Navigation} (inRange : navigation.InRange last)
    {current : UInt32} (isCurrent : navigation.current = .section current) {target : Position}
    (inside : ∀ id, target = .section id → IsSection last id) :
    (navigation.leave current target).1.InRange last where
  current := inside
  history id isIn := by
    rcases List.mem_cons.mp isIn with rfl | inHistory
    · exact inRange.current _ isCurrent
    · exact inRange.history id inHistory

theorem InRange.advance {catalog : Catalog} {navigation : Navigation}
    (inRange : navigation.InRange catalog.sectionCount) (sheet : Sheet) :
    (navigation.advance catalog sheet).1.InRange catalog.sectionCount := by
  unfold Navigation.advance
  split
  next => exact inRange
  next current isCurrent =>
    split
    next => exact inRange.leave isCurrent fun id equal => nomatch equal
    next target leads =>
      split
      next => exact inRange
      next =>
        refine inRange.leave isCurrent fun id equal => ?_
        cases equal
        unfold nextFrom at leads
        simp only at leads
        split at leads
        next => cases leads; exact isSection_clamp _ _
        next => cases leads

theorem InRange.retreat {last : UInt32} {navigation : Navigation}
    (inRange : navigation.InRange last) : navigation.retreat.1.InRange last := by
  unfold Navigation.retreat
  split
  next => exact inRange
  next current isCurrent =>
    split
    next previous rest equal =>
      refine ⟨fun id isPrevious => ?_, fun id isIn => ?_⟩
      · cases isPrevious
        exact inRange.history _ (equal ▸ List.mem_cons_self)
      · exact inRange.history id (equal ▸ List.mem_cons_of_mem _ isIn)
    next =>
      split
      next more =>
        refine ⟨fun id isPrevious => ?_, fun id isIn => nomatch isIn⟩
        cases isPrevious
        obtain ⟨-, greatest⟩ := inRange.current current isCurrent
        have least : 1 < current.toNat := UInt32.lt_iff_toNat_lt.mp more
        have less : (1 : UInt32) ≤ current := UInt32.le_of_lt more
        have one : (1 : UInt32).toNat = 1 := rfl
        unfold IsSection
        rw [UInt32.toNat_sub_of_le _ _ less, one]
        omega
      next => exact inRange

theorem InRange.goTo {catalog : Catalog} {navigation : Navigation}
    (inRange : navigation.InRange catalog.sectionCount) (id : UInt32) :
    (navigation.goTo catalog id).1.InRange catalog.sectionCount := by
  unfold Navigation.goTo
  split
  next => exact inRange
  next =>
    simp only
    split
    next => exact inRange
    next =>
      refine ⟨fun other isTarget => ?_, inRange.history⟩
      cases isTarget
      exact isSection_clamp _ _

/-- A state from outside is moved into range. -/
theorem inRange_normalized (navigation : Navigation) (last : UInt32) :
    (navigation.normalized last).InRange last where
  current id isCurrent := by
    unfold normalized at isCurrent
    simp only at isCurrent
    split at isCurrent
    next => cases isCurrent; exact isSection_clamp _ _
    next => cases isCurrent
  history id isIn := by
    have kept := (List.mem_filter.mp isIn).2
    rw [Bool.and_eq_true, decide_eq_true_iff, decide_eq_true_iff, UInt32.le_iff_toNat_le,
      UInt32.le_iff_toNat_le, toNat_max] at kept
    exact kept

/-! ### The end -/

variable {navigation : Navigation} {catalog : Catalog}

theorem advance_of_finish (isEnd : navigation.current = .finish) (sheet : Sheet) :
    navigation.advance catalog sheet = (navigation, .unchanged) := by
  unfold Navigation.advance
  rw [isEnd]

theorem retreat_of_finish (isEnd : navigation.current = .finish) :
    navigation.retreat = (navigation, .unchanged) := by
  unfold Navigation.retreat
  rw [isEnd]

theorem goTo_of_finish (isEnd : navigation.current = .finish) (id : UInt32) :
    navigation.goTo catalog id = (navigation, .unchanged) := by
  unfold Navigation.goTo Navigation.isFinished
  rw [isEnd, if_pos (by decide)]

/-- An advance reaches the end exactly from a section after which the end comes. -/
theorem finishes_advance_iff (navigation : Navigation) (catalog : Catalog) (sheet : Sheet) :
    (navigation.advance catalog sheet).2.finishes = true ↔
      ∃ current, navigation.current = .section current ∧
        nextFrom catalog sheet current = .finish := by
  unfold Navigation.advance
  cases navigation.current with
  | finish => simp [Transition.finishes]
  | «section» current =>
    cases leads : nextFrom catalog sheet current with
    | finish => simp [leads, leave, Transition.finishes]
    | «section» next =>
      simp only [Position.section.injEq, exists_eq_left', leads, reduceCtorEq, iff_false]
      split <;> exact Bool.false_ne_true

end Navigation

/-! ### The number of sections -/

namespace Catalog

/-- The sections that are counted are those of the form, and there is one. -/
theorem countSections_ok {form : Form} {count : UInt32} (counted : countSections form = .ok count) :
    1 ≤ form.sections.length ∧ count.toNat = form.sections.length := by
  unfold countSections at counted
  simp only at counted
  split at counted
  next => cases counted
  next some =>
    split at counted
    next numbered =>
      cases counted
      refine ⟨by omega, ?_⟩
      -- The last section has its place as its number, and so the count is a word.
      have isLast : form.sections.length ∈ List.range' 1 form.sections.length := by
        rw [List.mem_range'_1]
        omega
      rw [← numbered] at isLast
      obtain ⟨last, -, isNumber⟩ := List.mem_map.mp isLast
      have word := last.id.toNat_lt
      rw [UInt32.toNat_ofNat']
      omega
    next => cases counted

theorem sectionCount_of_build {form : Form} {catalog : Catalog} (built : build form = .ok catalog) :
    1 ≤ form.sections.length ∧ catalog.sectionCount.toNat = form.sections.length := by
  obtain ⟨count, registry, counted, -, rfl⟩ := build_ok built
  exact countSections_ok counted

end Catalog

/-! ### Operations that place and count -/

namespace Operation

/-- Whether an operation takes over a position from outside. -/
def places : Operation → Bool
  | .resume _ _ | .restore _ _ => true
  | _ => false

/-- Whether an operation puts a new session in the place of the old one. -/
def restores : Operation → Bool
  | .restore _ _ => true
  | _ => false

/-- Whether an operation hands the filling over wherever it stands. -/
def submits : Operation → Bool
  | .submit => true
  | _ => false

end Operation

namespace Session

variable {catalog : Catalog}

/-- Whether an operation on a session is an advance that reaches the end. -/
def reachesEnd (session : Session) : Operation → Bool
  | .advance => session.advance.2.finishes
  | _ => false

/-- How many advances of a run reach the end. -/
def arrivals (session : Session) : List Operation → Nat
  | [] => 0
  | operation :: rest =>
    (if session.reachesEnd operation then 1 else 0) + arrivals (session.perform operation) rest

/-- Carrying a change neither moves nor hands over. -/
theorem position_carry (session : Session) (sheet : Sheet) (control : String) :
    (session.carry sheet control).1.navigation = session.navigation ∧
      (session.carry sheet control).1.finalized = session.finalized := by
  unfold carry
  simp only
  split <;> exact ⟨rfl, rfl⟩

theorem position_edit (session : Session) (operation : Operation)
    (isEdit : (∃ control text, operation = .setValue control text) ∨
      ∃ control checked, operation = .setChecked control checked) :
    (session.perform operation).navigation = session.navigation ∧
      (session.perform operation).finalized = session.finalized := by
  rw [perform_edit session operation isEdit]
  split
  next control result _ =>
    split
    · exact position_carry session _ control
    · exact ⟨rfl, rfl⟩
  next => exact ⟨rfl, rfl⟩

/-- An advance moves as the recalculated sheet says. -/
theorem advance_snd (session : Session) :
    session.advance.2 =
      (session.navigation.advance session.catalog session.recalculate.sheet).2 := rfl

/-! ### Positions along a run -/

/-- Every operation keeps to the range of sections. -/
theorem inRange_perform {session : Session}
    (inRange : session.navigation.InRange session.catalog.sectionCount) (operation : Operation) :
    (session.perform operation).navigation.InRange session.catalog.sectionCount := by
  cases operation with
  | setValue control text =>
    rw [(position_edit session _ (.inl ⟨control, text, rfl⟩)).1]
    exact inRange
  | setChecked control checked =>
    rw [(position_edit session _ (.inr ⟨control, checked, rfl⟩)).1]
    exact inRange
  | advance => exact inRange.advance session.recalculate.sheet
  | retreat => exact inRange.retreat
  | goTo id => exact inRange.goTo id
  | resume snapshot navigation => exact Navigation.inRange_normalized navigation _
  | restore snapshot navigation => exact Navigation.inRange_normalized navigation _
  | submit | rehydrate _ | withTiers _ | takeWarnings => exact inRange

theorem inRange_run (catalog : Catalog) (operations : List Operation) :
    (run catalog operations).navigation.InRange catalog.sectionCount := by
  have reached : ∀ session : Session, session.catalog = catalog →
      session.navigation.InRange catalog.sectionCount →
      (operations.foldl perform session).navigation.InRange catalog.sectionCount := by
    induction operations with
    | nil => exact fun _ _ inRange => inRange
    | cons operation rest inductionHypothesis =>
      intro session same inRange
      subst same
      exact inductionHypothesis _ (catalog_perform session operation)
        (inRange_perform inRange operation)
  exact reached (start catalog) rfl (Navigation.inRange_start _)

/-- At the end, an operation that takes over no position does not move. -/
theorem navigation_perform_of_finish {session : Session}
    (isEnd : session.navigation.current = .finish) {operation : Operation}
    (stays : operation.places = false) :
    (session.perform operation).navigation = session.navigation := by
  cases operation with
  | setValue control text => exact (position_edit session _ (.inl ⟨control, text, rfl⟩)).1
  | setChecked control checked => exact (position_edit session _ (.inr ⟨control, checked, rfl⟩)).1
  | advance =>
    exact congrArg Prod.fst (Navigation.advance_of_finish isEnd session.recalculate.sheet)
  | retreat => exact congrArg Prod.fst (Navigation.retreat_of_finish isEnd)
  | goTo id => exact congrArg Prod.fst (Navigation.goTo_of_finish isEnd id)
  | resume _ _ | restore _ _ => cases stays
  | submit | rehydrate _ | withTiers _ | takeWarnings => rfl

theorem navigation_foldl_of_finish {session : Session}
    (isEnd : session.navigation.current = .finish) {operations : List Operation}
    (stay : ∀ operation ∈ operations, operation.places = false) :
    (operations.foldl perform session).navigation = session.navigation := by
  induction operations generalizing session with
  | nil => rfl
  | cons operation rest inductionHypothesis =>
    obtain ⟨head, tail⟩ := List.forall_mem_cons.mp stay
    have stayed := navigation_perform_of_finish isEnd head
    rw [List.foldl_cons, inductionHypothesis (stayed ▸ isEnd) tail, stayed]

/-- An operation hands over once if it is an advance that reaches the end or a submission. -/
theorem finalized_perform (session : Session) {operation : Operation}
    (goesOn : operation.restores = false) :
    (session.perform operation).finalized =
      session.finalized + (if session.reachesEnd operation then 1 else 0) +
        if operation.submits then 1 else 0 := by
  cases operation with
  | setValue control text => exact (position_edit session _ (.inl ⟨control, text, rfl⟩)).2
  | setChecked control checked => exact (position_edit session _ (.inr ⟨control, checked, rfl⟩)).2
  | restore _ _ => cases goesOn
  | advance | retreat | goTo _ | submit | rehydrate _ | resume _ _ | withTiers _
  | takeWarnings => rfl

theorem finalized_foldl (session : Session) {operations : List Operation}
    (goOn : ∀ operation ∈ operations, operation.restores = false) :
    (operations.foldl perform session).finalized =
      session.finalized + session.arrivals operations + operations.countP Operation.submits := by
  induction operations generalizing session with
  | nil => rfl
  | cons operation rest inductionHypothesis =>
    obtain ⟨head, tail⟩ := List.forall_mem_cons.mp goOn
    rw [List.foldl_cons, inductionHypothesis _ tail, finalized_perform session head, arrivals,
      List.countP_cons]
    omega

/-- In every session that a run reaches, the position is the end or a section of the form, and so
are all sections in the history. Once at the end, a filling stays there whatever is done, until a
position is taken over. An advance reaches the end exactly from a section after which, by the
recalculated answers, the end comes; and a run hands the filling over as often as an advance reaches
the end, and once more for every submission. -/
theorem positions_of_run {form : Form} (built : Catalog.build form = .ok catalog)
    (operations : List Operation) :
    let session := run catalog operations
    (∀ id, session.navigation.current = .section id ∨ id ∈ session.navigation.history →
      1 ≤ id.toNat ∧ id.toNat ≤ form.sections.length) ∧
    (session.navigation.current = .finish → ∀ more : List Operation,
      (∀ operation ∈ more, operation.places = false) →
        (run catalog (operations ++ more)).navigation = session.navigation) ∧
    (session.advance.2.finishes = true ↔ ∃ current, session.navigation.current = .section current ∧
      Navigation.nextFrom catalog session.recalculate.sheet current = .finish) ∧
    ((∀ operation ∈ operations, operation.restores = false) →
      session.finalized =
        (start catalog).arrivals operations + operations.countP Operation.submits) := by
  obtain ⟨some, counted⟩ := Catalog.sectionCount_of_build built
  have inRange := inRange_run catalog operations
  have isSection : ∀ {id}, Navigation.IsSection catalog.sectionCount id →
      1 ≤ id.toNat ∧ id.toNat ≤ form.sections.length := by
    intro id isSection
    unfold Navigation.IsSection at isSection
    omega
  refine ⟨?_, fun isEnd more stay => ?_, ?_, fun goOn => ?_⟩
  · rintro id (isCurrent | inHistory)
    · exact isSection (inRange.current id isCurrent)
    · exact isSection (inRange.history id inHistory)
  · unfold run at isEnd ⊢
    rw [List.foldl_append]
    exact navigation_foldl_of_finish isEnd stay
  · have same : (run catalog operations).catalog = catalog := catalog_run catalog operations
    rw [advance_snd, same]
    exact Navigation.finishes_advance_iff _ _ _
  · have counts := finalized_foldl (start catalog) goOn
    rwa [show (start catalog).finalized = 0 from rfl, Nat.zero_add] at counts

/-! ### A form with jumps -/

/-- A form in which one answer jumps to the end, one beyond all sections, and one to its own
section. -/
def journey : Form :=
  { id := "journey", title := "Journey", description := none
    sections :=
      [⟨1, "First",
        [{ plain "route" .singleChoice "Route"
            [⟨"Stop", none, false, false⟩, ⟨"Far", none, false, false⟩,
             ⟨"Stay", none, false, false⟩] with
          jumps := [⟨"Stop", .marker " END "⟩, ⟨"Far", .section 4294967295⟩,
            ⟨"Stay", .section 1⟩] }]⟩,
       ⟨2, "Second", [plain "remarks" .shortText "Remarks" []]⟩,
       ⟨3, "Third", [plain "wishes" .shortText "Wishes" []]⟩]
    hiddenFields := []
    links := [] }

theorem journey_isSome : (Catalog.build journey).toOption.isSome = true := by decide +kernel

/-- The catalog of that form. -/
def journeyCatalog : Catalog := (Catalog.build journey).toOption.get journey_isSome

theorem build_journey : Catalog.build journey = .ok journeyCatalog :=
  Catalog.eq_ok_get journey_isSome

/-- A jump beyond all sections leads to the last one, and one to the end ends the filling: what is
done then does not move it, and it is handed over once for the jump and once for the submission. -/
theorem positions_of_journey :
    let operations := [.resume NameMap.empty ⟨.section 0, [9, 2, 0]⟩, .setValue "route" "Far",
      .advance, .retreat, .setValue "route" "Stop", .advance, .submit]
    let session := run journeyCatalog operations
    (run journeyCatalog (operations.take 3)).navigation = ⟨.section 3, [1, 2]⟩ ∧
    session.navigation = ⟨.finish, [1, 2]⟩ ∧
    (run journeyCatalog (operations ++ [.advance, .goTo 2, .retreat])).navigation =
      session.navigation ∧
    (start journeyCatalog).arrivals operations = 1 ∧ session.finalized = 2 := by
  intro operations session
  have isEnd : session.navigation = ⟨.finish, [1, 2]⟩ := by decide +kernel
  have arrivals : (start journeyCatalog).arrivals operations = 1 := by decide +kernel
  obtain ⟨-, stays, -, counts⟩ := positions_of_run build_journey operations
  refine ⟨by decide +kernel, isEnd, ?_, arrivals, ?_⟩
  · exact stays (congrArg Navigation.current isEnd) [.advance, .goTo 2, .retreat] (by decide)
  · have handed : session.finalized = _ := counts (by decide)
    rw [handed, arrivals]
    decide

end Session

end Questionnaire

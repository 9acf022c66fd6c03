/-
This file says what retreating undoes. An advance that moves to a section leaves the section it came
from on top of the history, and retreating takes it back from there; one that does not move leaves
nothing behind. So after any advances that do not reach the end, as many retreats as there were
moves lead back over the same sections to where the advances began, with the history as it was.
Nothing but the history decides the way back, so the answers may be any others by then.
-/
import Questionnaire.Proofs.Position

namespace Questionnaire

namespace Transition

/-- Whether a step moved. -/
def isMove : Transition → Bool
  | .moved _ _ => true
  | .unchanged => false

/-- The step in the other direction. -/
def reversed : Transition → Transition
  | .moved source target => .moved target source
  | .unchanged => .unchanged

end Transition

namespace Navigation

variable {catalog : Catalog} {sheet : Sheet}

/-! ### One step -/

/-- Retreating from a section that was moved to goes back to where the move began. -/
theorem retreat_leave {navigation : Navigation} {current : UInt32}
    (isCurrent : navigation.current = .section current) (target : UInt32) :
    (navigation.leave current (.section target)).1.retreat =
      (navigation, .moved (.section target) (.section current)) := by
  obtain ⟨position, history⟩ := navigation
  cases isCurrent
  rfl

/-- An advance that does not reach the end stays where it is, or can be taken back. -/
theorem retreat_advance {navigation : Navigation}
    (goesOn : (navigation.advance catalog sheet).2.finishes = false) :
    navigation.advance catalog sheet = (navigation, .unchanged) ∨
      (navigation.advance catalog sheet).2.isMove = true ∧
        (navigation.advance catalog sheet).1.retreat =
          (navigation, (navigation.advance catalog sheet).2.reversed) := by
  unfold advance at goesOn ⊢
  cases isCurrent : navigation.current with
  | finish => exact .inl rfl
  | «section» current =>
    simp only [isCurrent] at goesOn ⊢
    cases leads : nextFrom catalog sheet current with
    | finish =>
      rw [leads] at goesOn
      cases goesOn
    | «section» next =>
      simp only
      split
      next => exact .inl rfl
      next => exact .inr ⟨rfl, retreat_leave isCurrent next⟩

/-! ### Many steps -/

/-- Advances once for every sheet, and lists what the advances did. -/
def advances (catalog : Catalog) (navigation : Navigation) :
    List Sheet → Navigation × List Transition
  | [] => (navigation, [])
  | sheet :: rest =>
    let advanced := advances catalog (navigation.advance catalog sheet).1 rest
    (advanced.1, (navigation.advance catalog sheet).2 :: advanced.2)

/-- Retreats so many times, and lists what the retreats did. -/
def retreats (navigation : Navigation) : Nat → Navigation × List Transition
  | 0 => (navigation, [])
  | count + 1 =>
    let retreated := retreats navigation.retreat.1 count
    (retreated.1, navigation.retreat.2 :: retreated.2)

/-- The last of several retreats comes after the others. -/
theorem retreats_succ (navigation : Navigation) (count : Nat) :
    navigation.retreats (count + 1) =
      ((navigation.retreats count).1.retreat.1,
        (navigation.retreats count).2 ++ [(navigation.retreats count).1.retreat.2]) := by
  induction count generalizing navigation with
  | zero => rfl
  | succ count inductionHypothesis =>
    rw [retreats, inductionHypothesis]
    simp only [retreats, List.cons_append]

/-- As many retreats as there were moves take advances back. -/
theorem retreats_advances (catalog : Catalog) (navigation : Navigation) (sheets : List Sheet)
    (goOn : ∀ transition ∈ (navigation.advances catalog sheets).2, transition.finishes = false) :
    let moves := (navigation.advances catalog sheets).2.filter Transition.isMove
    (navigation.advances catalog sheets).1.retreats moves.length =
      (navigation, moves.reverse.map Transition.reversed) := by
  induction sheets generalizing navigation with
  | nil => rfl
  | cons sheet rest inductionHypothesis =>
    simp only [advances, List.forall_mem_cons] at goOn ⊢
    obtain ⟨head, tail⟩ := goOn
    have undone := inductionHypothesis _ tail
    rcases retreat_advance head with stays | ⟨moves, back⟩
    · rw [stays] at undone ⊢
      exact undone
    · rw [List.filter_cons_of_pos moves, List.length_cons, retreats_succ, undone, back]
      simp

end Navigation

/-! ### Operations between the steps -/

namespace Operation

/-- Whether an operation can move. -/
def steers : Operation → Bool
  | .advance | .retreat | .goTo _ | .resume _ _ | .restore _ _ => true
  | _ => false

/-- Whether an operation is an advance. -/
def isAdvance : Operation → Bool
  | .advance => true
  | _ => false

/-- Whether an operation is a retreat. -/
def isRetreat : Operation → Bool
  | .retreat => true
  | _ => false

theorem steers_of_isRetreat {operation : Operation} (isRetreat : operation.isRetreat = true) :
    operation.steers = true := by
  cases operation <;> first | rfl | cases isRetreat

end Operation

namespace Session

/-- What an operation does to the position, if it is an advance or a retreat. -/
def stepOf (session : Session) : Operation → List Transition
  | .advance => [session.advance.2]
  | .retreat => [session.retreat.2]
  | _ => []

/-- What the advances and retreats of a run do. -/
def steps (session : Session) : List Operation → List Transition
  | [] => []
  | operation :: rest => session.stepOf operation ++ steps (session.perform operation) rest

/-- An operation that cannot move does not. -/
theorem navigation_perform_of_not_steers (session : Session) {operation : Operation}
    (stays : operation.steers = false) :
    (session.perform operation).navigation = session.navigation ∧
      session.stepOf operation = [] := by
  cases operation with
  | setValue control text => exact ⟨(position_edit session _ (.inl ⟨control, text, rfl⟩)).1, rfl⟩
  | setChecked control checked =>
    exact ⟨(position_edit session _ (.inr ⟨control, checked, rfl⟩)).1, rfl⟩
  | advance | retreat | goTo _ | resume _ _ | restore _ _ => cases stays
  | submit | rehydrate _ | withTiers _ | takeWarnings => exact ⟨rfl, rfl⟩

/-- A run without other steps than advances advances once for each, on whatever sheets. -/
theorem exists_advances (session : Session) {operations : List Operation}
    (onward : ∀ operation ∈ operations, operation.steers = true → operation.isAdvance = true) :
    ∃ sheets, session.navigation.advances session.catalog sheets =
      ((operations.foldl perform session).navigation, session.steps operations) := by
  induction operations generalizing session with
  | nil => exact ⟨[], rfl⟩
  | cons operation rest inductionHypothesis =>
    obtain ⟨head, tail⟩ := List.forall_mem_cons.mp onward
    obtain ⟨sheets, run⟩ := inductionHypothesis (session.perform operation) tail
    rw [catalog_perform] at run
    cases steers : operation.steers with
    | false =>
      obtain ⟨same, nothing⟩ := navigation_perform_of_not_steers session steers
      rw [same] at run
      exact ⟨sheets, by rw [run, steps, nothing]; rfl⟩
    | true =>
      cases operation with
      | advance =>
        refine ⟨session.recalculate.sheet :: sheets, ?_⟩
        rw [Navigation.advances]
        exact congrArg (fun last => (last.1, session.advance.2 :: last.2)) run
      | _ => cases head steers

/-- A run without other steps than retreats retreats once for each. -/
theorem retreats_foldl (session : Session) {operations : List Operation}
    (backward : ∀ operation ∈ operations, operation.steers = true → operation.isRetreat = true) :
    session.navigation.retreats (operations.countP Operation.isRetreat) =
      ((operations.foldl perform session).navigation, session.steps operations) := by
  induction operations generalizing session with
  | nil => rfl
  | cons operation rest inductionHypothesis =>
    obtain ⟨head, tail⟩ := List.forall_mem_cons.mp backward
    have run := inductionHypothesis (session.perform operation) tail
    cases steers : operation.steers with
    | false =>
      obtain ⟨same, nothing⟩ := navigation_perform_of_not_steers session steers
      have other : ¬operation.isRetreat = true := fun isRetreat =>
        Bool.false_ne_true (steers.symm.trans (Operation.steers_of_isRetreat isRetreat))
      rw [same] at run
      rw [List.countP_cons_of_neg other, run, steps, nothing]
      rfl
    | true =>
      cases operation with
      | retreat =>
        rw [List.countP_cons_of_pos rfl, Navigation.retreats]
        exact congrArg (fun last => (last.1, session.retreat.2 :: last.2)) run
      | _ => cases head steers

/-- After any advances that do not reach the end, each on whatever sheet, as many retreats as there
were moves lead back to where the advances began, over the same sections, and the history is as it
was. It is so in every session, whatever else is done to it before, between and after the steps. -/
theorem retreats_undo (catalog : Catalog) :
    (∀ (navigation : Navigation) (sheets : List Sheet),
      let advanced := navigation.advances catalog sheets
      let moves := advanced.2.filter Transition.isMove
      (∀ transition ∈ advanced.2, transition.finishes = false) →
        advanced.1.retreats moves.length = (navigation, moves.reverse.map Transition.reversed)) ∧
    ∀ (session : Session) (onward backward : List Operation),
      let moves := (session.steps onward).filter Transition.isMove
      let arrived := onward.foldl perform session
      (∀ operation ∈ onward, operation.steers = true → operation.isAdvance = true) →
      (∀ operation ∈ backward, operation.steers = true → operation.isRetreat = true) →
      (∀ transition ∈ session.steps onward, transition.finishes = false) →
      backward.countP Operation.isRetreat = moves.length →
        (backward.foldl perform arrived).navigation = session.navigation ∧
          arrived.steps backward = moves.reverse.map Transition.reversed := by
  refine ⟨Navigation.retreats_advances catalog, ?_⟩
  intro session onward backward moves arrived areAdvances areRetreats goOn enough
  obtain ⟨sheets, advanced⟩ := exists_advances session areAdvances
  have undone := Navigation.retreats_advances session.catalog session.navigation sheets
    (by rw [advanced]; exact goOn)
  have retreated := retreats_foldl arrived areRetreats
  rw [advanced] at undone
  rw [enough] at retreated
  exact Prod.ext_iff.mp (retreated.symm.trans undone)

/-- Of three advances the first stays where it is, and the way back leads over the sections of the
two others, though by then the answer would end the filling. A jump over a section is taken back at
once. -/
theorem retreats_undo_of_journey :
    let session := run journeyCatalog [.resume NameMap.empty ⟨.section 1, [3, 2]⟩]
    let onward : List Operation := [.setValue "route" "Stay", .advance, .setValue "route" "",
      .takeWarnings, .advance, .advance]
    let arrived := onward.foldl perform session
    let backward : List Operation := [.retreat, .setValue "route" "Stop", .retreat]
    let sheet := (run journeyCatalog [.setValue "route" "Far"]).sheet
    let jumped := session.navigation.advances journeyCatalog [sheet]
    arrived.navigation = ⟨.section 3, [2, 1, 3, 2]⟩ ∧
    (backward.foldl perform arrived).navigation = session.navigation ∧
    arrived.steps backward =
      [.moved (.section 3) (.section 2), .moved (.section 2) (.section 1)] ∧
    jumped.1 = ⟨.section 3, [1, 3, 2]⟩ ∧
    jumped.1.retreats 1 = (session.navigation, [.moved (.section 3) (.section 1)]) := by
  intro session onward arrived backward sheet jumped
  obtain ⟨ofSheets, ofSession⟩ := retreats_undo journeyCatalog
  have moves : (session.steps onward).filter Transition.isMove =
      [.moved (.section 1) (.section 2), .moved (.section 2) (.section 3)] := by decide +kernel
  have jumps : jumped.2 = [.moved (.section 1) (.section 3)] := by decide +kernel
  obtain ⟨undone, way⟩ := ofSession session onward backward (by decide) (by decide)
    (by decide +kernel) (by rw [moves]; decide)
  have back := ofSheets session.navigation [sheet]
    (by rw [show (session.navigation.advances journeyCatalog [sheet]).2 = _ from jumps]; decide)
  refine ⟨by decide +kernel, undone, ?_, by decide +kernel, ?_⟩
  · rw [way, moves]
    rfl
  · rw [show (session.navigation.advances journeyCatalog [sheet]).2 = _ from jumps] at back
    exact back

end Session

end Questionnaire

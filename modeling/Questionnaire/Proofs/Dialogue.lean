/-
This file says when a dialogue ends. A turn reads a line, or leaves a section in which nothing is
left to ask. Leaving for a later section brings the end nearer, and a section whose fields were
answered can be left once for every line read; so a dialogue goes on for ever exactly if again and
again it leaves a section that asks for nothing for an earlier one. Where no jump leads back, there
is no such return, and the dialogue ends within a number of turns that depends on the number of
lines and the number of sections alone. It ends at a moment that has none after it: the form is
completed there, or no line is left, or the line that is read aborts it or is not taken.
-/
import Mathlib.Computability.StateTransition
import Questionnaire.CommandLine.Commands
import Questionnaire.Proofs.Order
import Questionnaire.Proofs.Position
import Questionnaire.Proofs.Screen

namespace Questionnaire

/-! ### What an advance does -/

namespace Navigation

variable {catalog : Catalog} {sheet : Sheet}

/-- An advance that moves leaves a section for another position, the one that comes after it. -/
theorem advance_moved {navigation : Navigation} {source target : Position}
    (moves : (navigation.advance catalog sheet).2 = .moved source target) :
    ∃ current, navigation.current = .section current ∧ source = .section current ∧
      (navigation.advance catalog sheet).1.current = target ∧ target ≠ .section current ∧
      ∀ next, target = .section next → nextFrom catalog sheet current = .section next := by
  unfold advance at moves ⊢
  cases isCurrent : navigation.current with
  | finish => simp only [isCurrent] at moves; cases moves
  | «section» current =>
    simp only [isCurrent] at moves ⊢
    cases leads : nextFrom catalog sheet current with
    | finish =>
      simp only [leads] at moves ⊢
      cases moves
      exact ⟨current, rfl, rfl, rfl, nofun, nofun⟩
    | «section» next =>
      simp only [leads] at moves ⊢
      split at moves
      next => cases moves
      next different =>
        rw [if_neg different]
        cases moves
        exact ⟨current, rfl, rfl, rfl, fun same => different (Position.section.inj same),
          fun other same => leads.trans (congrArg Destination.section (Position.section.inj same))⟩

/-- An advance goes the same way whatever the history is. -/
theorem advance_congr {first second : Navigation} (same : first.current = second.current)
    (catalog : Catalog) (sheet : Sheet) :
    (first.advance catalog sheet).2 = (second.advance catalog sheet).2 ∧
      (first.advance catalog sheet).1.current = (second.advance catalog sheet).1.current := by
  obtain ⟨current, history⟩ := first
  obtain ⟨_, other⟩ := second
  cases same
  unfold advance
  cases current with
  | finish => exact ⟨rfl, rfl⟩
  | «section» id =>
    simp only
    cases nextFrom catalog sheet id with
    | finish => exact ⟨rfl, rfl⟩
    | «section» next =>
      simp only
      split <;> exact ⟨rfl, rfl⟩

end Navigation

theorem Session.advance_congr (session : Session) {first second : Navigation}
    (same : first.current = second.current) :
    let ofFirst := { session with navigation := first }.advance
    let ofSecond := { session with navigation := second }.advance
    ofFirst.2 = ofSecond.2 ∧ ofFirst.1.snapshot = ofSecond.1.snapshot ∧
      ofFirst.1.navigation.current = ofSecond.1.navigation.current := by
  obtain ⟨transition, arrives⟩ :=
    Navigation.advance_congr same session.catalog session.recalculate.sheet
  exact ⟨transition, rfl, arrives⟩

/-! ### Jumps that lead back -/

/-- Whether a jump from a section leads to an earlier one. Before the first section there is
none. -/
def JumpTarget.leadsBack (target : JumpTarget) (id : UInt32) : Bool :=
  match target.destination with
  | some (.section other) => max 1 other < id
  | _ => false

/-- Whether no jump of a form leads to an earlier section. -/
def Form.JumpsAhead (form : Form) : Prop :=
  ∀ entry ∈ form.questions, ∀ jump ∈ entry.2.jumps, jump.target.leadsBack entry.1 = false

instance (form : Form) : Decidable form.JumpsAhead := inferInstanceAs (Decidable (∀ _ ∈ _, _))

theorem Form.JumpsAhead.leadsBack_eq_false {form : Form} {catalog : Catalog}
    (built : Catalog.build form = .ok catalog) (ahead : form.JumpsAhead) {current : UInt32}
    {rule : JumpRule} (member : rule ∈ catalog.jumpsOf current) :
    rule.target.leadsBack current = false := by
  obtain ⟨count, registry, -, -, rfl⟩ := Catalog.build_ok built
  obtain ⟨inCatalog, isHere⟩ := List.mem_filter.mp member
  obtain ⟨entry, isQuestion, isRule⟩ := List.mem_flatMap.mp inCatalog
  obtain ⟨jump, isJump, rfl⟩ := List.mem_map.mp isRule
  rw [← eq_of_beq isHere]
  exact ahead entry ((Catalog.perm_questions form).mem_iff.mp isQuestion) jump isJump

namespace Navigation

theorem le_clamp {last current other : UInt32} (isSection : IsSection last current)
    (reaches : current.toNat ≤ max 1 other.toNat) : current ≤ clamp last other := by
  unfold IsSection at isSection
  rw [UInt32.le_iff_toNat_le, toNat_clamp]
  omega

theorem le_successor (id : UInt32) : id ≤ successor id := by
  unfold successor
  split
  next => exact UInt32.le_refl id
  next notLast =>
    have word := id.toNat_lt
    have size : UInt32.size = 2 ^ 32 := rfl
    have one : (1 : UInt32).toNat = 1 := rfl
    rw [UInt32.le_iff_toNat_le, UInt32.toNat_add, one]
    omega

/-- Where no jump leads back, what comes after a section is not before it. -/
theorem le_nextFrom {form : Form} {catalog : Catalog} (built : Catalog.build form = .ok catalog)
    (ahead : form.JumpsAhead) {sheet : Sheet} {current next : UInt32}
    (isSection : IsSection catalog.sectionCount current)
    (leads : nextFrom catalog sheet current = .section next) : current ≤ next := by
  have reaches : ∀ other, (((catalog.jumpsOf current).filter (jumpApplies catalog sheet)).findSome?
      fun jump => jump.target.destination).getD (.section (successor current)) = .section other →
        current.toNat ≤ max 1 other.toNat := by
    intro other isOther
    cases found : ((catalog.jumpsOf current).filter (jumpApplies catalog sheet)).findSome?
        fun jump => jump.target.destination with
    | none =>
      rw [found] at isOther
      cases isOther
      have later := UInt32.le_iff_toNat_le.mp (le_successor current)
      exact Nat.le_trans later (Nat.le_max_right 1 _)
    | some destination =>
      rw [found] at isOther
      cases isOther
      obtain ⟨rule, member, leadsThere⟩ := List.exists_of_findSome?_eq_some found
      have noReturn := ahead.leadsBack_eq_false built (List.mem_filter.mp member).1
      unfold JumpTarget.leadsBack at noReturn
      simp only [leadsThere, decide_eq_false_iff_not, UInt32.lt_iff_toNat_lt, toNat_max] at noReturn
      exact Nat.le_of_not_lt noReturn
  unfold nextFrom at leads
  simp only at leads
  split at leads
  next other isOther => cases leads; exact le_clamp isSection (reaches other isOther)
  next => cases leads

end Navigation

namespace Wizard

open StateTransition (Reaches)

/-! ### Turns -/

namespace State

variable (catalog : Catalog)

/-- The session that a turn looks at. -/
def session (state : State) : Session := state.saved.resume catalog

/-- What a turn shows. -/
def screen (state : State) : Screen := .ofView (.ofSession (state.session catalog))

/-- Where a dialogue stands in the form. -/
def position (state : State) : Position := (state.session catalog).navigation.current

/-- The state once its section is entered. -/
def entered (state : State) : State :=
  if state.shown = (state.screen catalog).current then { state with announced := true }
  else
    { state with
      announced := true, shown := (state.screen catalog).current, handled := NameMap.empty }

/-- The state once its section is entered and left again. -/
def advanced (state : State) : State :=
  { state.entered catalog with saved := .ofSession (state.session catalog).advance.1 }

end State

variable {settings : Settings} {catalog : Catalog} {state : State}

theorem leave_snd (settings : Settings) (catalog : Catalog) (state : State) :
    (leave settings catalog state).2 =
      match (state.session catalog).advance.2 with
      | .moved _ _ => .again { state with saved := .ofSession (state.session catalog).advance.1 }
      | .unchanged => .done (.ok ()) := by
  unfold leave State.session
  obtain ⟨session, transition⟩ := (state.saved.resume catalog).advance
  cases transition <;> rfl

theorem State.saved_entered (catalog : Catalog) (state : State) :
    (state.entered catalog).saved = state.saved := by
  unfold entered
  split <;> rfl

/-- What a turn leads to, whatever is printed. -/
theorem turn_snd (settings : Settings) (catalog : Catalog) (state : State) :
    (turn settings catalog state).2 =
      if (state.screen catalog).complete then .done (.ok ())
      else match (state.screen catalog).nextPrompt? (state.entered catalog).handled with
        | some prompt => .ask prompt (state.entered catalog)
        | none => match (state.session catalog).advance.2 with
          | .moved _ _ => .again (state.advanced catalog)
          | .unchanged => .done (.ok ()) := by
  have enters : (enter settings (.ofSession (state.session catalog)) (state.screen catalog)
      { state with announced := true }).2 = state.entered catalog := by
    unfold enter State.entered
    simp only
    split <;> rfl
  unfold turn
  simp only [Screen.decode_encode]
  show (turnOn settings catalog (.ofSession (state.session catalog)) (state.screen catalog)
    state).2 = _
  unfold turnOn
  simp only
  split
  next => rfl
  next =>
    rw [enters]
    cases (state.screen catalog).nextPrompt? (state.entered catalog).handled with
    | some prompt => rfl
    | none =>
      show (leave settings catalog (state.entered catalog)).2 = _
      rw [leave_snd]
      unfold State.session State.advanced
      rw [state.saved_entered catalog]
      rfl

/-! ### From turn to turn -/

/-- A moment of a dialogue: its state and the lines not read yet. -/
structure Moment where
  state : State
  lines : List String

/-- The moment after a turn and the answer that it asks for, unless the dialogue ends with them. -/
def Moment.next (settings : Settings) (catalog : Catalog) (moment : Moment) : Option Moment :=
  match (turn settings catalog moment.state).2, moment.lines with
  | .done _, _ => none
  | .again state, lines => some ⟨state, lines⟩
  | .ask _ _, [] => none
  | .ask prompt state, line :: rest =>
    match (answer catalog state prompt line).2 with
    | .error _ => none
    | .ok state => some ⟨state, rest⟩

variable {moment after : Moment}

/-- A dialogue goes on as it does from its next moment. -/
theorem run_of_next (step : moment.next settings catalog = some after) :
    ∃ printed, ∀ turns, run settings catalog (turns + 1) moment.state moment.lines =
      (run settings catalog turns after.state after.lines).map
        fun (more, result) => (printed ++ more, result) := by
  obtain ⟨state, lines⟩ := moment
  simp only [Moment.next] at step
  simp only [run]
  generalize turn settings catalog state = turned at step ⊢
  obtain ⟨outputs, next⟩ := turned
  cases next with
  | done result => cases step
  | again state => cases step; exact ⟨outputs, fun _ => rfl⟩
  | ask prompt asked =>
    cases lines with
    | nil => cases step
    | cons line rest =>
      simp only at step ⊢
      generalize answer catalog asked prompt line = answered at step ⊢
      obtain ⟨replies, result⟩ := answered
      cases result with
      | error failure => cases step
      | ok replied => cases step; exact ⟨outputs ++ replies, fun _ => rfl⟩

/-- The ways in which a dialogue may end at a moment. Its turn completes the form; or its turn asks,
and there is no line left, or the next line means to abort, or it is an answer that the session does
not take. -/
inductive Ending (settings : Settings) (catalog : Catalog) (last : Moment) :
    Except Failure Unit → Prop where
  | complete (done : (turn settings catalog last.state).2 = .done (.ok ())) :
    Ending settings catalog last (.ok ())
  | closed {prompt : Prompt} {asked : State}
    (asks : (turn settings catalog last.state).2 = .ask prompt asked) (used : last.lines = []) :
    Ending settings catalog last (.error .closed)
  | aborted {prompt : Prompt} {asked : State} {line : String} {rest : List String}
    (asks : (turn settings catalog last.state).2 = .ask prompt asked)
    (given : last.lines = line :: rest) (exits : readInput prompt.field line = .ok .exit) :
    Ending settings catalog last (.error .aborted)
  | refused {prompt : Prompt} {asked : State} {line : String} {rest : List String} {input : Input}
    {cause : Fault} (asks : (turn settings catalog last.state).2 = .ask prompt asked)
    (given : last.lines = line :: rest) (means : readInput prompt.field line = .ok input)
    (refuses : Host.change (asked.session catalog) prompt.field.name (input.value?.getD "") =
      .error cause) :
    Ending settings catalog last (.error (.fault cause))

theorem eq_ok_of_turn {result : Except Failure Unit}
    (ends : (turn settings catalog state).2 = .done result) : result = .ok () := by
  rw [turn_snd] at ends
  split at ends
  next => cases ends; rfl
  next =>
    split at ends
    next => cases ends
    next =>
      split at ends
      next => cases ends
      next => cases ends; rfl

theorem ending_of_answer {prompt : Prompt} {asked : State} {line : String} {rest : List String}
    {failure : Failure} (asks : (turn settings catalog moment.state).2 = .ask prompt asked)
    (given : moment.lines = line :: rest)
    (fails : (answer catalog asked prompt line).2 = .error failure) :
    Ending settings catalog moment (.error failure) := by
  unfold answer at fails
  simp only at fails
  split at fails
  next => cases fails
  next => cases fails
  next => cases fails
  next exits => cases fails; exact .aborted asks given exits
  next input _ _ _ means =>
    unfold set at fails
    split at fails
    next cause refuses => cases fails; exact .refused asks given means refuses
    next => cases fails

/-- A dialogue without a next moment ends. -/
theorem run_of_last (last : moment.next settings catalog = none) :
    ∃ ending, (∀ turns, run settings catalog (turns + 1) moment.state moment.lines = some ending) ∧
      Ending settings catalog moment ending.2 := by
  obtain ⟨state, lines⟩ := moment
  simp only [Moment.next] at last
  simp only [run]
  cases isTurn : turn settings catalog state with
  | mk outputs next =>
    have leads : (turn settings catalog state).2 = next := congrArg Prod.snd isTurn
    rw [isTurn] at last
    cases next with
    | done result =>
      obtain rfl := eq_ok_of_turn leads
      exact ⟨_, fun _ => rfl, .complete leads⟩
    | again state => cases last
    | ask prompt asked =>
      cases lines with
      | nil => exact ⟨_, fun _ => rfl, .closed leads rfl⟩
      | cons line rest =>
        simp only at last ⊢
        cases isAnswer : answer catalog asked prompt line with
        | mk replies result =>
          rw [isAnswer] at last
          cases result with
          | error failure =>
            exact ⟨_, fun _ => rfl, ending_of_answer leads rfl (congrArg Prod.snd isAnswer)⟩
          | ok replied => cases last

/-- A dialogue does not end within so many turns if it goes on after one and does not end within
the others. -/
theorem run_succ_eq_none_iff {turns : Nat} :
    run settings catalog (turns + 1) moment.state moment.lines = none ↔
      ∃ after, moment.next settings catalog = some after ∧
        run settings catalog turns after.state after.lines = none := by
  cases step : moment.next settings catalog with
  | none =>
    obtain ⟨ending, ends, -⟩ := run_of_last step
    simp [ends]
  | some after =>
    obtain ⟨printed, goesOn⟩ := run_of_next step
    simp [goesOn]

/-- A turn after which the dialogue goes on reads a line, or leaves a section in which nothing is
left to ask. -/
theorem next_cases (step : moment.next settings catalog = some after) :
    (∃ line, moment.lines = line :: after.lines) ∨
      (moment.state.screen catalog).nextPrompt? (moment.state.entered catalog).handled = none ∧
      (∃ source target, (moment.state.session catalog).advance.2 = .moved source target) ∧
      after = ⟨moment.state.advanced catalog, moment.lines⟩ := by
  obtain ⟨state, lines⟩ := moment
  unfold Moment.next at step
  rw [turn_snd] at step
  split at step
  next isDone => cases step
  next next lines isAgain =>
    cases step
    refine .inr ?_
    split at isAgain
    next => cases isAgain
    next =>
      split at isAgain
      next => cases isAgain
      next nothing =>
        split at isAgain
        next source target moves => cases isAgain; exact ⟨nothing, ⟨source, target, moves⟩, rfl⟩
        next => cases isAgain
  next => cases step
  next line rest _ reads =>
    split at step
    next => cases step
    next => cases step; exact .inl ⟨line, reads⟩

/-! ### The way to the end -/

/-- How far a position is from the end, when there are so many sections and no jumps. -/
def distance (sections : Nat) : Position → Nat
  | .section id => sections + 1 - id.toNat
  | .finish => 0

/-- Whether a turn leaves a section that asks for nothing for an earlier one. -/
def State.returnsIdly (catalog : Catalog) (state : State) : Bool :=
  (state.screen catalog).prompts.isEmpty &&
    match (state.session catalog).advance.2 with
    | .moved (.section source) (.section target) => target < source
    | _ => false

/-- How often a dialogue does so within so many turns. -/
def Moment.idleReturns (settings : Settings) (catalog : Catalog) : Nat → Moment → Nat
  | 0, _ => 0
  | turns + 1, moment =>
    match moment.next settings catalog with
    | none => 0
    | some after =>
      (if moment.state.returnsIdly catalog then 1 else 0) +
        after.idleReturns settings catalog turns

/-- A bound on the turns that are left: a pass through the sections for every line, once before it
is read and once after it, one more for the fields that are handled, and the rest of this one. -/
def Moment.potential (catalog : Catalog) (moment : Moment) : Nat :=
  let sections := catalog.sectionCount.toNat
  2 * moment.lines.length * (sections + 1) +
    (if (moment.state.entered catalog).handled = NameMap.empty then 0 else sections + 1) +
    distance sections (moment.state.position catalog)

theorem inRange_session (catalog : Catalog) (state : State) :
    (state.session catalog).navigation.InRange catalog.sectionCount :=
  Navigation.inRange_normalized _ _

theorem shown_entered (catalog : Catalog) (state : State) :
    (state.entered catalog).shown = (state.screen catalog).current := by
  unfold State.entered
  split
  next isShown => exact isShown
  next => rfl

theorem position_advanced (catalog : Catalog) (state : State) :
    (state.advanced catalog).position catalog =
      (state.session catalog).advance.1.navigation.current := by
  have inRange := (inRange_session catalog state).advance (state.session catalog).recalculate.sheet
  exact congrArg Navigation.current inRange.normalized_eq_self

/-- Screens show the same section exactly at the same position. -/
theorem current_screen_inj {first second : State}
    (same : (first.screen catalog).current = (second.screen catalog).current) :
    first.position catalog = second.position catalog := by
  have sections : (Navigation.sectionOf (first.position catalog)).map UInt32.toNat =
      (Navigation.sectionOf (second.position catalog)).map UInt32.toNat := same
  cases isFirst : first.position catalog <;> cases isSecond : second.position catalog <;>
    simp_all [Navigation.sectionOf, UInt32.toNat_inj]

/-- Leaving a section leads to another position, where nothing is handled yet. -/
theorem advanced_moved {source target : Position}
    (moves : (state.session catalog).advance.2 = .moved source target) :
    ∃ current, state.position catalog = .section current ∧ source = .section current ∧
      (state.advanced catalog).position catalog = target ∧ target ≠ .section current ∧
      ((state.advanced catalog).entered catalog).handled = NameMap.empty ∧
      ∀ next, target = .section next →
        Navigation.nextFrom catalog (state.session catalog).recalculate.sheet current =
          .section next := by
  obtain ⟨current, isCurrent, isSource, isTarget, different, leads⟩ :=
    Navigation.advance_moved moves
  have arrives := (position_advanced catalog state).trans isTarget
  refine ⟨current, isCurrent, isSource, arrives, different, ?_, leads⟩
  have notShown : (state.advanced catalog).shown ≠
      ((state.advanced catalog).screen catalog).current := fun same => by
    have stays := current_screen_inj ((shown_entered catalog state).symm.trans same)
    exact different (arrives.symm.trans (stays.symm.trans isCurrent))
  conv_lhs => unfold State.entered
  rw [if_neg notShown]

theorem distance_le (catalog : Catalog) (hasSection : 1 ≤ catalog.sectionCount.toNat)
    (state : State) :
    distance catalog.sectionCount.toNat (state.position catalog) ≤ catalog.sectionCount.toNat := by
  cases isCurrent : state.position catalog with
  | finish => exact Nat.zero_le _
  | «section» id =>
    have isSection := (inRange_session catalog state).current id isCurrent
    unfold Navigation.IsSection at isSection
    unfold distance
    simp only
    omega

/-- A section in which nothing is handled, and still nothing is left to ask, asks for nothing. -/
theorem returnsIdly_of_back {source target : UInt32}
    (nothing : (state.screen catalog).nextPrompt? (state.entered catalog).handled = none)
    (unhandled : (state.entered catalog).handled = NameMap.empty)
    (moves : (state.session catalog).advance.2 = .moved (.section source) (.section target))
    (back : target < source) : state.returnsIdly catalog = true := by
  rw [unhandled] at nothing
  unfold State.returnsIdly
  rw [Screen.nextPrompt?_empty nothing, moves]
  exact decide_eq_true back

/-- A turn brings the end nearer, unless it leaves a section that asks for nothing for an earlier
one; and then it leads away from the end by at most one pass through the sections. -/
theorem potential_next (hasSection : 1 ≤ catalog.sectionCount.toNat)
    (step : moment.next settings catalog = some after) :
    after.potential catalog + 1 ≤ moment.potential catalog +
      if moment.state.returnsIdly catalog then catalog.sectionCount.toNat + 1 else 0 := by
  have near := distance_le catalog hasSection after.state
  unfold Moment.potential
  rcases next_cases step with ⟨line, reads⟩ | ⟨nothing, ⟨source, target, moves⟩, rfl⟩
  · -- The line that was read pays for one pass and for the field that it may have handled.
    have lines : 2 * moment.lines.length * (catalog.sectionCount.toNat + 1) =
        2 * after.lines.length * (catalog.sectionCount.toNat + 1) +
          2 * (catalog.sectionCount.toNat + 1) := by
      rw [reads, List.length_cons, Nat.mul_add 2, Nat.add_mul]
    simp only
    split <;> omega
  · obtain ⟨current, isCurrent, rfl, isTarget, different, unhandled, -⟩ := advanced_moved moves
    have isSection := (inRange_session catalog moment.state).current current isCurrent
    unfold Navigation.IsSection at isSection
    simp only at near ⊢
    rw [isTarget] at near ⊢
    rw [if_pos unhandled, isCurrent]
    cases target with
    | finish =>
      unfold distance
      simp only
      omega
    | «section» next =>
      unfold distance
      simp only
      by_cases back : next < current
      · -- What was handled here pays for the way back; where nothing was, the return is idle.
        split
        next nothingHandled =>
          rw [if_pos (returnsIdly_of_back nothing nothingHandled moves back)]
          omega
        next => omega
      · have onward : current.toNat < next.toNat := by
          have unequal : next.toNat ≠ current.toNat := fun same =>
            different (congrArg Position.section (UInt32.toNat_inj.mp same))
          have notLess := UInt32.not_lt.mp back
          rw [UInt32.le_iff_toNat_le] at notLess
          omega
        omega

/-! ### Whole dialogues -/

/-- A dialogue takes no more turns than the bound at first, and one pass more for every idle
return. -/
theorem le_potential_of_run (hasSection : 1 ≤ catalog.sectionCount.toNat) {turns : Nat}
    (goesOn : run settings catalog turns moment.state moment.lines = none) :
    turns ≤ moment.potential catalog +
      moment.idleReturns settings catalog turns * (catalog.sectionCount.toNat + 1) := by
  induction turns generalizing moment with
  | zero => exact Nat.zero_le _
  | succ turns inductionHypothesis =>
    obtain ⟨after, step, rest⟩ := run_succ_eq_none_iff.mp goesOn
    have later := inductionHypothesis rest
    have nearer := potential_next hasSection step
    unfold Moment.idleReturns
    rw [step]
    simp only
    rw [Nat.add_mul]
    split at nearer
    next idle => rw [if_pos idle]; omega
    next notIdle => rw [if_neg notIdle]; omega

/-- A dialogue that ends returns no oftener than it takes turns. -/
theorem idleReturns_le {turns : Nat} (more : Nat)
    (ends : run settings catalog turns moment.state moment.lines ≠ none) :
    moment.idleReturns settings catalog more ≤ turns := by
  induction turns generalizing moment more with
  | zero => exact absurd rfl ends
  | succ turns inductionHypothesis =>
    cases more with
    | zero => exact Nat.zero_le _
    | succ more =>
      unfold Moment.idleReturns
      cases step : moment.next settings catalog with
      | none => exact Nat.zero_le _
      | some after =>
        have rest : run settings catalog turns after.state after.lines ≠ none := fun goesOn =>
          ends (run_succ_eq_none_iff.mpr ⟨after, step, goesOn⟩)
        have later := inductionHypothesis more rest
        simp only
        split <;> omega

/-- Where no jump leads back, no turn returns. -/
theorem returnsIdly_eq_false {form : Form} (built : Catalog.build form = .ok catalog)
    (ahead : form.JumpsAhead) (state : State) : state.returnsIdly catalog = false := by
  unfold State.returnsIdly
  split
  next source target moves =>
    obtain ⟨current, isCurrent, isSource, -, -, -, leads⟩ := advanced_moved moves
    cases isSource
    have isSection := (inRange_session catalog state).current source isCurrent
    have onward := Navigation.le_nextFrom built ahead isSection (leads target rfl)
    rw [decide_eq_false (UInt32.not_lt.mpr onward), Bool.and_false]
  next => exact Bool.and_false _

theorem idleReturns_eq_zero {form : Form} (built : Catalog.build form = .ok catalog)
    (ahead : form.JumpsAhead) (turns : Nat) (moment : Moment) :
    moment.idleReturns settings catalog turns = 0 := by
  induction turns generalizing moment with
  | zero => rfl
  | succ turns inductionHypothesis =>
    unfold Moment.idleReturns
    cases moment.next settings catalog with
    | none => rfl
    | some after =>
      simp only
      rw [returnsIdly_eq_false built ahead, inductionHypothesis]
      rfl

/-! ### How dialogues end -/

/-- A dialogue that ends gets to a moment at which it ends so. -/
theorem ending_of_run {turns : Nat} {outputs : List Output} {result : Except Failure Unit}
    (ends : run settings catalog turns moment.state moment.lines = some (outputs, result)) :
    ∃ last, Reaches (Moment.next settings catalog) moment last ∧
      Ending settings catalog last result := by
  induction turns generalizing moment outputs with
  | zero => cases ends
  | succ turns inductionHypothesis =>
    cases step : moment.next settings catalog with
    | none =>
      obtain ⟨ending, always, isEnding⟩ := run_of_last step
      obtain rfl := Option.some.inj ((always turns).symm.trans ends)
      exact ⟨moment, .refl, isEnding⟩
    | some after =>
      obtain ⟨printed, goesOn⟩ := run_of_next step
      rw [goesOn] at ends
      obtain ⟨⟨more, ending⟩, later, equal⟩ := Option.map_eq_some_iff.mp ends
      cases equal
      obtain ⟨last, reaches, isEnding⟩ := inductionHypothesis later
      exact ⟨last, .head step reaches, isEnding⟩

/-- The potential of a dialogue before its first turn. -/
theorem potential_start_lt (hasSection : 1 ≤ catalog.sectionCount.toNat) (saved : Host.Saved)
    (lines : List String) :
    Moment.potential catalog ⟨.start saved, lines⟩ <
      (2 * lines.length + 1) * (catalog.sectionCount.toNat + 1) := by
  have unhandled : ((State.start saved).entered catalog).handled = NameMap.empty := by
    unfold State.entered
    split <;> rfl
  have near := distance_le catalog hasSection (.start saved)
  unfold Moment.potential
  simp only
  rw [if_pos unhandled, Nat.add_mul]
  omega

/-- A dialogue ends within a number of turns, unless it again and again leaves a section that asks
for nothing for an earlier one; and if it does that without end, it does not end. Where no jump
leads back, it always ends. At the moment to which it has come then, its turn completes the form, or
the lines are used up when it asks, or the next one aborts it or is an answer that is not taken. -/
theorem dialogue_ends {form : Form} (built : Catalog.build form = .ok catalog)
    (settings : Settings) (saved : Host.Saved) (lines : List String) :
    let dialogue := fun turns => run settings catalog turns (.start saved) lines
    let returns := fun turns => Moment.idleReturns settings catalog turns ⟨.start saved, lines⟩
    let passes := form.sections.length + 1
    (∀ turns, (2 * lines.length + 1 + returns turns) * passes ≤ turns →
      (dialogue turns).isSome = true) ∧
    ((∀ turns, dialogue turns = none) ↔ ∀ bound, ∃ turns, bound < returns turns) ∧
    (form.JumpsAhead → (dialogue ((2 * lines.length + 1) * passes)).isSome = true) ∧
    ∀ turns outputs result, dialogue turns = some (outputs, result) →
      ∃ last, Reaches (Moment.next settings catalog) ⟨.start saved, lines⟩ last ∧
        Ending settings catalog last result := by
  intro dialogue returns passes
  obtain ⟨hasSection, counted⟩ := Catalog.sectionCount_of_build built
  rw [← counted] at hasSection
  have bounded : ∀ turns, dialogue turns = none →
      turns < (2 * lines.length + 1 + returns turns) * passes := by
    intro turns goesOn
    have taken : turns ≤ Moment.potential catalog ⟨.start saved, lines⟩ + _ :=
      le_potential_of_run hasSection goesOn
    have start := potential_start_lt hasSection saved lines
    rw [counted] at taken start
    rw [Nat.add_mul]
    exact Nat.lt_of_le_of_lt taken (Nat.add_lt_add_right start _)
  have ends : ∀ turns, (2 * lines.length + 1 + returns turns) * passes ≤ turns →
      (dialogue turns).isSome = true := fun turns enough =>
    Option.isSome_iff_ne_none.mpr fun goesOn =>
      absurd (bounded turns goesOn) (Nat.not_lt.mpr enough)
  refine ⟨ends, ⟨fun goesOn bound => ?_, fun unbounded turns => ?_⟩, fun ahead => ?_, ?_⟩
  · have more := bounded ((2 * lines.length + 1 + bound) * passes) (goesOn _)
    have less := Nat.lt_of_mul_lt_mul_right more
    exact ⟨_, Nat.lt_of_add_lt_add_left less⟩
  · by_contra ended
    obtain ⟨more, oftener⟩ := unbounded turns
    have seldom : returns more ≤ turns := idleReturns_le more ended
    omega
  · refine ends _ ?_
    have none : returns ((2 * lines.length + 1) * passes) = 0 := idleReturns_eq_zero built ahead _ _
    rw [none]
  · exact fun turns outputs result ended => ending_of_run ended

/-- A line that aborts the dialogue on the form with jumps ends it within three passes. -/
theorem dialogue_ends_of_journey :
    ∃ outputs result last,
      run ⟨false, false, .text⟩ Session.journeyCatalog 12 (.start .blank) ["quit"] =
        some (outputs, result) ∧
      Reaches (Moment.next ⟨false, false, .text⟩ Session.journeyCatalog)
        ⟨.start .blank, ["quit"]⟩ last ∧
      Ending ⟨false, false, .text⟩ Session.journeyCatalog last result := by
  obtain ⟨-, -, ends, endings⟩ :=
    dialogue_ends Session.build_journey ⟨false, false, .text⟩ .blank ["quit"]
  obtain ⟨⟨outputs, result⟩, ended⟩ := Option.isSome_iff_exists.mp (ends (by decide +kernel))
  obtain ⟨last, reaches, ending⟩ := endings _ _ _ ended
  exact ⟨outputs, result, last, ended, reaches, ending⟩

/-! ### A dialogue that does not end -/

/-- Whether two states keep the same values at the same position. What was passed on the way may
differ. -/
def State.Alike (first second : State) : Prop :=
  first.saved.values = second.saved.values ∧
    first.saved.navigation.current = second.saved.navigation.current

instance (first second : State) : Decidable (first.Alike second) :=
  inferInstanceAs (Decidable (_ ∧ _))

theorem State.Alike.trans {first second third : State} (before : first.Alike second)
    (after : second.Alike third) : first.Alike third :=
  ⟨before.1.trans after.1, before.2.trans after.2⟩

/-- What is shown, and where leaving leads, does not depend on the way. -/
theorem State.Alike.leads {first second : State} (alike : first.Alike second) (catalog : Catalog) :
    first.screen catalog = second.screen catalog ∧
      (first.session catalog).advance.2 = (second.session catalog).advance.2 ∧
      (first.advanced catalog).Alike (second.advanced catalog) := by
  obtain ⟨⟨values, ⟨current, history⟩⟩, handled, shown, announced⟩ := first
  obtain ⟨⟨_, ⟨_, other⟩⟩, _, _, _⟩ := second
  obtain ⟨rfl, rfl⟩ := alike
  have sameCurrent : (Navigation.normalized ⟨current, history⟩ catalog.sectionCount).current =
      (Navigation.normalized ⟨current, other⟩ catalog.sectionCount).current := rfl
  obtain ⟨transition, values, arrives⟩ := Session.advance_congr
    (Host.Saved.resume ⟨values, Navigation.start⟩ catalog) sameCurrent
  exact ⟨rfl, transition, values, arrives⟩

theorem next_of_quiet {lines : List String} {source target : Position}
    (noPrompts : (state.screen catalog).prompts = [])
    (moves : (state.session catalog).advance.2 = .moved source target) :
    Moment.next settings catalog ⟨state, lines⟩ = some ⟨state.advanced catalog, lines⟩ := by
  obtain ⟨current, isCurrent, -⟩ := advanced_moved moves
  have notComplete : (state.screen catalog).complete = false := by
    show (state.position catalog == .finish) = false
    rw [isCurrent]
    rfl
  have nothing : (state.screen catalog).nextPrompt? (state.entered catalog).handled = none := by
    unfold Screen.nextPrompt?
    rw [noPrompts]
    rfl
  unfold Moment.next
  rw [turn_snd, notComplete, nothing, moves]
  rfl

/-- A dialogue does not end where nothing is asked and every section leads to another one. -/
theorem run_eq_none_of_quiet {Quiet : State → Prop}
    (quiet : ∀ state, Quiet state → (state.screen catalog).prompts = [] ∧
      (∃ source target, (state.session catalog).advance.2 = .moved source target) ∧
      Quiet (state.advanced catalog)) (turns : Nat) (isQuiet : Quiet state) (lines : List String) :
    run settings catalog turns state lines = none := by
  induction turns generalizing state with
  | zero => rfl
  | succ turns inductionHypothesis =>
    obtain ⟨noPrompts, ⟨source, target, moves⟩, staysQuiet⟩ := quiet state isQuiet
    have step : Moment.next settings catalog ⟨state, lines⟩ =
        some ⟨state.advanced catalog, lines⟩ := next_of_quiet noPrompts moves
    show run settings catalog (turns + 1) (Moment.mk state lines).state _ = none
    exact run_succ_eq_none_iff.mpr ⟨_, step, inductionHypothesis staysQuiet⟩

/-- A form whose second section holds nothing but an answer that is never shown and leads back to
the first. -/
def circle : Form :=
  { id := "circle", title := "Circle", description := none
    sections :=
      [⟨1, "First", []⟩,
       ⟨2, "Second",
        [{ Question.blank with
            id := "again", text := "Again", preset := some "Yes"
            logic := some ⟨[⟨"again", "Never"⟩]⟩, jumps := [⟨"Yes", .section 1⟩] }]⟩]
    hiddenFields := []
    links := [] }

theorem circle_isSome : (Catalog.build circle).toOption.isSome = true := by decide +kernel

/-- The catalog of that form. -/
def circleCatalog : Catalog := (Catalog.build circle).toOption.get circle_isSome

theorem build_circle : Catalog.build circle = .ok circleCatalog := Catalog.eq_ok_get circle_isSome

/-- The first or the second section of the circle. -/
def circleSection (second : Bool) : UInt32 := if second then 2 else 1

/-- A dialogue on the circle in one of its sections, with the values of the start. -/
def circleIn (second : Bool) : State :=
  .start ⟨(Host.Saved.blank.resume circleCatalog).snapshot, ⟨.section (circleSection second), []⟩⟩

/-- In each section of the circle nothing is asked, and leaving it leads to the other one. -/
theorem circle_leads (second : Bool) :
    ((circleIn second).screen circleCatalog).prompts = [] ∧
    ((circleIn second).session circleCatalog).advance.2 =
      .moved (.section (circleSection second)) (.section (circleSection !second)) ∧
    ((circleIn second).advanced circleCatalog).Alike (circleIn !second) := by
  cases second <;> decide +kernel

/-- Whether a dialogue stands in a section of the circle, with the values of the start. -/
def Circling (state : State) : Prop := ∃ second, state.Alike (circleIn second)

theorem quiet_of_circling {state : State} (circling : Circling state) :
    (state.screen circleCatalog).prompts = [] ∧
    (∃ source target, (state.session circleCatalog).advance.2 = .moved source target) ∧
    Circling (state.advanced circleCatalog) := by
  obtain ⟨second, alike⟩ := circling
  have leads := circle_leads second
  have same := alike.leads circleCatalog
  refine ⟨?_, ?_, ?_⟩
  · rw [same.1]
    exact leads.1
  · exact ⟨_, _, same.2.1.trans leads.2.1⟩
  · exact ⟨!second, same.2.2.trans leads.2.2⟩

/-- The dialogue on the circle does not end, though it is given no line to read. -/
theorem dialogue_circles :
    Catalog.build circle = .ok circleCatalog ∧ ∀ settings turns, run settings circleCatalog turns
      (.start (CommandLine.initial circleCatalog none)) [] = none := by
  refine ⟨build_circle, fun settings turns => ?_⟩
  have starts : Circling (.start (CommandLine.initial circleCatalog none)) :=
    ⟨false, rfl, rfl⟩
  exact run_eq_none_of_quiet (fun _ => quiet_of_circling) turns starts []

end Wizard

end Questionnaire

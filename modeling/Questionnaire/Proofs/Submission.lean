/-
This file says where a dialogue submits. It submits in a section that cannot be left, and takes that
for the end of the form. The last section cannot be left unless a jump decides otherwise; but no
section can be left from which the jump that decides leads to that section itself, and there the
dialogue submits although sections come after it.
-/
import Mathlib.Computability.StateTransition
import Questionnaire.Proofs.Dialogue
import Questionnaire.Proofs.Jump

namespace Questionnaire

namespace Navigation

/-- An advance changes nothing at the end, and in a section that leads to itself. -/
theorem advance_snd_eq_unchanged_iff (navigation : Navigation) (catalog : Catalog)
    (sheet : Sheet) :
    (navigation.advance catalog sheet).2 = .unchanged ↔
      navigation.current = .finish ∨
        ∃ id, navigation.current = .section id ∧ nextFrom catalog sheet id = .section id := by
  unfold advance
  cases navigation.current with
  | finish => simp only [true_or]
  | «section» current =>
    simp only [reduceCtorEq, false_or, Position.section.injEq, exists_eq_left']
    cases nextFrom catalog sheet current with
    | finish => simp [leave]
    | «section» next =>
      simp only [Destination.section.injEq]
      split
      next same => simp only [same]
      next different => simp [leave, different]

end Navigation

namespace Wizard

open StateTransition (Reaches)

variable {settings : Settings} {catalog : Catalog} {state : State}

/-! ### The last moment of a dialogue -/

/-- Whether a turn submits because the section, in which nothing is left to ask, cannot be left. -/
def State.Submits (catalog : Catalog) (state : State) : Prop :=
  state.position catalog ≠ .finish ∧
    (state.screen catalog).nextPrompt? (state.entered catalog).handled = none ∧
    (state.session catalog).advance.2 = .unchanged

instance (catalog : Catalog) (state : State) : Decidable (state.Submits catalog) :=
  inferInstanceAs (Decidable (_ ∧ _ ∧ _))

theorem complete_iff (catalog : Catalog) (state : State) :
    (state.screen catalog).complete = true ↔ state.position catalog = .finish :=
  beq_iff_eq

/-- A turn completes the form at its end, or by submitting. -/
theorem turn_completes_iff :
    (turn settings catalog state).2 = .done (.ok ()) ↔
      state.position catalog = .finish ∨ state.Submits catalog := by
  unfold State.Submits
  rw [turn_snd]
  by_cases isEnd : state.position catalog = .finish
  · simp [(complete_iff catalog state).mpr isEnd, isEnd]
  · have notComplete := mt (complete_iff catalog state).mp isEnd
    rw [if_neg notComplete]
    cases (state.screen catalog).nextPrompt? (state.entered catalog).handled with
    | some prompt => simp [isEnd]
    | none => cases (state.session catalog).advance.2 <;> simp [isEnd]

/-- A dialogue completes the form exactly if it gets to a moment whose turn does. -/
theorem run_completes_iff (start : Moment) :
    (∃ turns outputs, run settings catalog turns start.state start.lines =
        some (outputs, .ok ())) ↔
      ∃ last, Reaches (Moment.next settings catalog) start last ∧
        (turn settings catalog last.state).2 = .done (.ok ()) := by
  constructor
  · rintro ⟨turns, outputs, completes⟩
    obtain ⟨last, reaches, ending⟩ := ending_of_run completes
    cases ending with
    | complete done => exact ⟨last, reaches, done⟩
  · rintro ⟨last, reaches, done⟩
    induction reaches using Relation.ReflTransGen.head_induction_on with
    | refl =>
      refine ⟨1, (turn settings catalog last.state).1, ?_⟩
      unfold run
      generalize turn settings catalog last.state = turned at done
      obtain ⟨outputs, next⟩ := turned
      cases done
      rfl
    | head step _ inductionHypothesis =>
      obtain ⟨turns, outputs, completes⟩ := inductionHypothesis
      obtain ⟨printed, goesOn⟩ := run_of_next step
      exact ⟨turns + 1, printed ++ outputs, by rw [goesOn, completes]; rfl⟩

/-! ### Blank lines -/

theorem readInput_blank (field : Field) : readInput field "" = .ok .keep := by
  have blank : Text.lower (Text.trim "") = "" := by decide
  unfold readInput
  simp only [blank]
  rfl

/-- A blank line leaves everything as it is, and the field that was asked for counts as handled. -/
theorem next_of_blank {prompt : Prompt} (notEnd : state.position catalog ≠ .finish)
    (asks : (state.screen catalog).nextPrompt? (state.entered catalog).handled = some prompt)
    (lines : List String) :
    Moment.next settings catalog ⟨state, "" :: lines⟩ =
      some ⟨{ state.entered catalog with
        handled := (state.entered catalog).handled.add prompt.field.name }, lines⟩ := by
  have notComplete := mt (complete_iff catalog state).mp notEnd
  unfold Moment.next
  simp only [turn_snd]
  rw [if_neg notComplete, asks]
  simp only [answer, readInput_blank]

/-- What is shown, and where, depends on what is kept of the session only. -/
theorem screen_congr {first second : State} (same : first.saved = second.saved)
    (catalog : Catalog) :
    first.screen catalog = second.screen catalog ∧
      first.position catalog = second.position catalog := by
  unfold State.screen State.position State.session
  rw [same]
  exact ⟨rfl, rfl⟩

/-- A section that was entered is not entered again when fields are handled. -/
theorem entered_handled (catalog : Catalog) (state : State) (handled : NameSet) :
    State.entered catalog { state.entered catalog with handled } =
      { state.entered catalog with handled } := by
  have sameScreen : State.screen catalog { state.entered catalog with handled } =
      state.screen catalog := (screen_congr (state.saved_entered catalog) catalog).1
  have announced : (state.entered catalog).announced = true := by
    unfold State.entered
    split <;> rfl
  rw [State.entered, sameScreen, if_pos (shown_entered catalog state)]
  simp only [← announced]

/-- With enough blank lines nothing is left to ask, and everything is as it was. -/
theorem reaches_quiet (notEnd : state.position catalog ≠ .finish) {before after : List Prompt}
    (listed : (state.screen catalog).prompts = before ++ after)
    (handled : ∀ prompt ∈ before,
      (state.entered catalog).handled.contains prompt.field.name = true) :
    ∃ blanks last, Reaches (Moment.next settings catalog) ⟨state, List.replicate blanks ""⟩ last ∧
      last.state.saved = state.saved ∧
      (last.state.screen catalog).nextPrompt? (last.state.entered catalog).handled = none := by
  induction after generalizing state before with
  | nil =>
    refine ⟨0, ⟨state, []⟩, .refl, rfl, List.find?_eq_none.mpr fun prompt member => ?_⟩
    rw [listed, List.append_nil] at member
    simp [handled prompt member]
  | cons prompt rest inductionHypothesis =>
    have isListed : (state.screen catalog).prompts = (before ++ [prompt]) ++ rest := by
      rw [listed, List.append_assoc, List.singleton_append]
    by_cases isHandled : (state.entered catalog).handled.contains prompt.field.name = true
    · refine inductionHypothesis notEnd isListed fun other member => ?_
      rcases List.mem_append.mp member with earlier | isPrompt
      · exact handled other earlier
      · exact List.mem_singleton.mp isPrompt ▸ isHandled
    · have asks : (state.screen catalog).nextPrompt? (state.entered catalog).handled =
          some prompt := by
        refine List.find?_eq_some_iff_append.mpr
          ⟨by simpa using isHandled, before, rest, listed, ?_⟩
        intro other earlier
        simp [handled other earlier]
      let replied : State := { state.entered catalog with
        handled := (state.entered catalog).handled.add prompt.field.name }
      have sameSaved : replied.saved = state.saved := state.saved_entered catalog
      obtain ⟨sameScreen, samePosition⟩ := screen_congr sameSaved catalog
      have nowHandled : ∀ other ∈ before ++ [prompt],
          (replied.entered catalog).handled.contains other.field.name = true := by
        intro other member
        rw [entered_handled]
        show ((state.entered catalog).handled.insert prompt.field.name ()).contains _ = true
        rw [NameMap.contains_insert]
        rcases List.mem_append.mp member with earlier | isPrompt
        · simp [handled other earlier]
        · simp [List.mem_singleton.mp isPrompt]
      obtain ⟨blanks, last, reaches, saved, quiet⟩ := inductionHypothesis
        (samePosition.trans_ne notEnd) ((congrArg Screen.prompts sameScreen).trans isListed)
        nowHandled
      exact ⟨blanks + 1, last, .head (next_of_blank notEnd asks _) reaches,
        saved.trans sameSaved, quiet⟩

/-! ### Sections that lead to themselves -/

/-- Whether a dialogue stands in a section of a form that leads to itself. -/
def State.StaysIn (catalog : Catalog) (form : Form) (state : State) (part : FormSection) : Prop :=
  state.position catalog = .section part.id ∧
    Leads catalog (state.session catalog).recalculate.sheet form.sections.length part.id
      (part.authored Question.jumps) (.section part.id)

/-- A dialogue submits exactly where nothing is left to ask in a section that leads to itself. -/
theorem submits_iff {form : Form} (built : Catalog.build form = .ok catalog) :
    state.Submits catalog ↔
      (state.screen catalog).nextPrompt? (state.entered catalog).handled = none ∧
        ∃ part ∈ form.sections, state.StaysIn catalog form part := by
  have wellFormed := Catalog.wellFormed_of_build built
  obtain ⟨hasSection, counted⟩ := Catalog.sectionCount_of_build built
  obtain ⟨count, -, numbers, -, -⟩ := Catalog.build_ok built
  have leads : ∀ part ∈ form.sections,
      (Navigation.nextFrom catalog (state.session catalog).recalculate.sheet part.id =
          .section part.id ↔
        Leads catalog (state.session catalog).recalculate.sheet form.sections.length part.id
          (part.authored Question.jumps) (.section part.id)) := by
    intro part member
    rw [Navigation.nextFrom_eq built member, Navigation.leads_iff wellFormed]
  unfold State.Submits State.StaysIn
  rw [Session.advance_snd, Navigation.advance_snd_eq_unchanged_iff]
  change _ ∧ _ ∧ (state.position catalog = _ ∨ ∃ id, state.position catalog = _ ∧ _) ↔ _
  constructor
  · rintro ⟨notEnd, quiet, isEnd | ⟨id, isCurrent, stays⟩⟩
    · exact absurd isEnd notEnd
    · have inRange := (inRange_session catalog state).current id isCurrent
      unfold Navigation.IsSection at inRange
      obtain ⟨part, member, rfl⟩ :=
        (Catalog.exists_section numbers).2 id inRange.1 (by omega)
      exact ⟨quiet, part, member, isCurrent, (leads part member).mp stays⟩
  · rintro ⟨quiet, part, member, isCurrent, stays⟩
    refine ⟨?_, quiet, .inr ⟨part.id, isCurrent, (leads part member).mpr stays⟩⟩
    rw [isCurrent]
    exact nofun

/-- Whether no jump of a section before the last one leads to that section itself. -/
def Form.JumpsAway (form : Form) : Prop :=
  ∀ part ∈ form.sections, part.id.toNat < form.sections.length →
    ∀ question ∈ part.questions, ∀ jump ∈ question.jumps,
      jump.target.destination.map (Destination.within form.sections.length) ≠
        some (.section part.id)

instance (form : Form) : Decidable (Form.JumpsAway form) :=
  inferInstanceAs (Decidable (∀ part ∈ form.sections, _ → ∀ question ∈ part.questions, _))

/-- A section before the last one leads to itself by one of its jumps only. -/
theorem not_staysIn_of_jumpsAway {form : Form} (built : Catalog.build form = .ok catalog)
    (away : Form.JumpsAway form) {part : FormSection} (member : part ∈ form.sections)
    (before : part.id.toNat < form.sections.length) : ¬state.StaysIn catalog form part := by
  rintro ⟨-, stays⟩
  generalize itself : Destination.section part.id = target at stays
  cases stays with
  | @jump _ _ decisive destination listed _ counts =>
    have authored : decisive ∈ part.authored Question.jumps := listed ▸ List.mem_append_right _
      List.mem_cons_self
    obtain ⟨question, isQuestion, isJump⟩ := List.mem_flatMap.mp authored
    obtain ⟨jump, inQuestion, rfl⟩ := List.mem_map.mp isJump
    refine away part member before question isQuestion jump inQuestion ?_
    rw [JumpTarget.destination_eq_some_iff.mpr counts.2, itself]
    rfl
  | onward _ =>
    obtain ⟨-, counted⟩ := Catalog.sectionCount_of_build built
    have word := catalog.sectionCount.toNat_lt
    have size : UInt32.size = 2 ^ 32 := rfl
    have sameNumber := congrArg UInt32.toNat (Destination.section.inj itself)
    rw [UInt32.toNat_ofNat_of_lt' (by omega)] at sameNumber
    omega

/-- A dialogue that completes a form gets to the end, or it submits, and it submits exactly where
nothing is left to ask in a section that leads to itself. That is always the last section exactly if
no section before it ever leads to itself, and so it is if no jump of such a section leads to it. -/
theorem submissions_of_build {form : Form} (built : Catalog.build form = .ok catalog)
    (settings : Settings) :
    (∀ saved lines,
      (∃ turns outputs, run settings catalog turns (.start saved) lines = some (outputs, .ok ())) ↔
        ∃ last, Reaches (Moment.next settings catalog) ⟨.start saved, lines⟩ last ∧
          (last.state.position catalog = .finish ∨ last.state.Submits catalog)) ∧
    (∀ state : State, state.Submits catalog ↔
      (state.screen catalog).nextPrompt? (state.entered catalog).handled = none ∧
        ∃ part ∈ form.sections, state.StaysIn catalog form part) ∧
    ((∀ saved lines last, Reaches (Moment.next settings catalog) ⟨.start saved, lines⟩ last →
        last.state.Submits catalog →
          last.state.position catalog = .section (.ofNat form.sections.length)) ↔
      ∀ saved, ∀ part ∈ form.sections, part.id.toNat < form.sections.length →
        ¬(State.start saved).StaysIn catalog form part) ∧
    (Form.JumpsAway form → ∀ saved, ∀ part ∈ form.sections,
      part.id.toNat < form.sections.length → ¬(State.start saved).StaysIn catalog form part) := by
  obtain ⟨-, counted⟩ := Catalog.sectionCount_of_build built
  have word := catalog.sectionCount.toNat_lt
  have size : UInt32.size = 2 ^ 32 := rfl
  have lastNumber : (UInt32.ofNat form.sections.length).toNat = form.sections.length :=
    UInt32.toNat_ofNat_of_lt' (by omega)
  refine ⟨fun saved lines => ?_, fun state => submits_iff built,
    ⟨fun lastOnly saved part member before stays => ?_,
      fun never saved lines last _ submits => ?_⟩, ?_⟩
  · have completes : (∃ turns outputs, run settings catalog turns (.start saved) lines =
        some (outputs, .ok ())) ↔ _ := run_completes_iff ⟨.start saved, lines⟩
    simp only [completes, turn_completes_iff]
  · -- With blank lines nothing changes until the section submits, and so it is the last one.
    have notEnd : (State.start saved).position catalog ≠ .finish := stays.1.trans_ne nofun
    obtain ⟨blanks, last, reaches, sameSaved, quiet⟩ : ∃ blanks last, _ :=
      reaches_quiet notEnd (List.nil_append _).symm nofun
    have staysThere : last.state.StaysIn catalog form part := by
      unfold State.StaysIn State.position State.session at stays ⊢
      rw [sameSaved]
      exact stays
    have submits := (submits_iff built).mpr ⟨quiet, part, member, staysThere⟩
    have isLast := staysThere.1.symm.trans (lastOnly saved _ last reaches submits)
    rw [Position.section.inj isLast, lastNumber] at before
    exact Nat.lt_irrefl _ before
  · obtain ⟨-, part, member, stays⟩ := (submits_iff built).mp submits
    rcases Nat.lt_or_eq_of_le (Navigation.id_le_length built member).2 with before | isLast
    · exact absurd stays (never last.state.saved part member before)
    · rw [stays.1, UInt32.toNat_inj.mp (isLast.trans lastNumber.symm)]
  · exact fun away saved part member before => not_staysIn_of_jumpsAway built away member before

/-- No section of the tour before the last one leads to itself, and so every dialogue on it that
submits does so in the third section. The third section leads to itself, and so a dialogue in it
submits once its only field is handled. -/
theorem submissions_of_tour :
    let state : State :=
      ⟨⟨NameMap.empty, ⟨.section 3, [1]⟩⟩, NameMap.empty.add "wishes", some 3, true⟩
    state.Submits Navigation.tourCatalog ∧
      ∀ saved lines last,
        Reaches (Moment.next ⟨false, false, .text⟩ Navigation.tourCatalog) ⟨.start saved, lines⟩
          last → last.state.Submits Navigation.tourCatalog →
            last.state.position Navigation.tourCatalog = .section 3 := by
  intro state
  obtain ⟨-, submits, lastOnly, away⟩ :=
    submissions_of_build Navigation.build_tour ⟨false, false, .text⟩
  refine ⟨(submits state).mpr ⟨by decide +kernel, _, List.mem_cons_self, by decide +kernel, ?_⟩,
    lastOnly.mpr (away (by decide))⟩
  exact .onward fun _ isAuthored => nomatch isAuthored

/-! ### A form whose first section leads to itself -/

/-- A form whose first section is to be gone through again on one answer. -/
def stay : Form :=
  { id := "stay", title := "Stay", description := none
    sections :=
      [⟨1, "First",
        [{ Session.plain "again" .singleChoice "Again?"
            [⟨"Yes", none, false, false⟩, ⟨"No", none, false, false⟩] with
          jumps := [⟨"Yes", .section 1⟩] }]⟩,
       ⟨2, "Second", [Session.plain "name" .shortText "Name" []]⟩]
    hiddenFields := []
    links := [] }

theorem stay_isSome : (Catalog.build stay).toOption.isSome = true := by decide +kernel

/-- The catalog of that form. -/
def stayCatalog : Catalog := (Catalog.build stay).toOption.get stay_isSome

theorem build_stay : Catalog.build stay = .ok stayCatalog := Catalog.eq_ok_get stay_isSome

/-- On that answer a dialogue submits in the first of two sections, and the name is never asked
for. -/
theorem submits_in_first_section :
    Catalog.build stay = .ok stayCatalog ∧ stay.sections.length = 2 ∧
      ∃ last, Reaches (Moment.next ⟨false, false, .text⟩ stayCatalog)
          ⟨.start .blank, ["yes", "Ann"]⟩ last ∧
        last.state.Submits stayCatalog ∧ last.state.position stayCatalog = .section 1 ∧
        last.lines = ["Ann"] := by
  obtain ⟨last, step, submits⟩ : ∃ last ∈ Moment.next ⟨false, false, .text⟩ stayCatalog
      ⟨.start .blank, ["yes", "Ann"]⟩, last.state.Submits stayCatalog ∧
        last.state.position stayCatalog = .section 1 ∧ last.lines = ["Ann"] := by
    decide +kernel
  exact ⟨build_stay, rfl, last, .single step, submits⟩

end Wizard

end Questionnaire

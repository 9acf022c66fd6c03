/-
This file compares the three ways in which the current section is shown: as a value that the wizard
reads, as the prompts that the wizard asks from it, and as a text. Each leaves out what is hidden in
a way of its own: the wizard asks for no echo, and the text leaves echoes to their being hidden.
That comes to the same because nothing but an amount is ever shown or hidden, so that an echo, which
starts hidden, stays so.
-/
import Questionnaire.Proofs.Amount
import Questionnaire.Proofs.Screen
import Questionnaire.Proofs.Validity

namespace Questionnaire

/-! ### Echoes -/

/-- Whether a control is hidden at the start if it is an echo. -/
def Control.KeepsEcho (control : Control) : Prop :=
  (∃ select, control.kind = .echo select) → control.hidden = true

namespace Layout

theorem keepsEcho_of_text {control : Control} (kind : control.kind = .text) :
    control.KeepsEcho := by
  rintro ⟨select, isEcho⟩
  rw [kind] at isEcho
  cases isEcho

theorem keepsEcho_select (slug : String) (question : Question) (taken : List String) :
    ∀ control ∈ select slug question taken, control.KeepsEcho := by
  unfold select Control.KeepsEcho
  cases question.kind.isDropdown <;> simp

theorem keepsEcho_checkbox (registry : Slug.Registry) (question : Question) (taken : List String)
    (choice : Choice) :
    ∀ control ∈ checkbox registry question taken choice, control.KeepsEcho := by
  unfold checkbox Control.KeepsEcho
  cases choice.amount <;> simp

theorem keepsEcho_checkboxes (registry : Slug.Registry) (question : Question)
    (choices : List Choice) (taken : List String) :
    ∀ control ∈ checkboxes registry question taken choices, control.KeepsEcho := by
  induction choices generalizing taken with
  | nil => exact fun _ member => nomatch member
  | cons choice rest inductionHypothesis =>
    intro control member
    rcases List.mem_append.mp member with ofChoice | inRest
    · exact keepsEcho_checkbox registry question taken choice control ofChoice
    · exact inductionHypothesis _ control inRest

theorem keepsEcho_ofQuestion (registry : Slug.Registry) (taken : List String)
    (question : Question) :
    ∀ control ∈ ofQuestion registry taken question, control.KeepsEcho := by
  unfold ofQuestion
  cases question.kind with
  | shortText | paragraph | money | date | email | phone =>
    exact fun control member => keepsEcho_of_text (by rw [List.mem_singleton.mp member])
  | dateRange =>
    exact fun control member =>
      keepsEcho_of_text (kind_dateParts registry question _ taken control member)
  | singleChoice | dropdown | numberedDropdown => exact keepsEcho_select _ question taken
  | checkboxGroup => exact keepsEcho_checkboxes registry question _ taken
  | textboxSet =>
    exact fun control member =>
      keepsEcho_of_text (kind_textboxes registry question _ taken control member)

end Layout

namespace Catalog

variable {form : Form} {catalog : Catalog}

/-- Every echo of a catalog starts hidden. -/
theorem keepsEcho_of_build (built : build form = .ok catalog) :
    ∀ control ∈ catalog.controls, control.KeepsEcho := by
  obtain ⟨registry, laid, hidden, laidOut⟩ := exists_laidOut_of_build built
  intro control member
  rw [laidOut.controls, List.mem_append, List.mem_flatMap] at member
  rcases member with ⟨each, eachIn, isOwn⟩ | isHidden
  · rw [laidOut.byQuestion] at eachIn
    obtain ⟨entry, -, others, isOf, -⟩ := exists_of_mem_layQuestions eachIn
    exact Layout.keepsEcho_ofQuestion registry others entry.2 control (isOf ▸ isOwn)
  · rw [laidOut.byField] at isHidden
    rintro ⟨select, isEcho⟩
    exact absurd isEcho (((Layout.names_ofHiddenFields _ _).2 control isHidden).2 select).2

/-! ### The questions of a section -/

/-- Controls are found by their names. -/
theorem WellFormed.filterMap_control? (wellFormed : catalog.WellFormed) {controls : List Control}
    (within : ∀ control ∈ controls, control ∈ catalog.controls) :
    (controls.map Control.name).filterMap catalog.control? = controls := by
  induction controls with
  | nil => rfl
  | cons control rest inductionHypothesis =>
    obtain ⟨isControl, restIn⟩ := List.forall_mem_cons.mp within
    rw [List.map_cons, List.filterMap_cons_some (wellFormed.control?_of_mem isControl),
      inductionHypothesis restIn]

/-- A question of a section has an entry with its slug and the controls that belong to it. -/
theorem exists_question?_of_section (built : build form = .ok catalog) {id : UInt32}
    {part : FormSection} (found : catalog.section? id = some part) {question : Question}
    (member : question ∈ part.questions) :
    ∃ entry, catalog.question? question.id = some entry ∧
      entry.slug = catalog.slugs.slugOf question.id ∧
      entry.controls.filterMap catalog.control? =
        catalog.controls.filter fun control => control.question == some question.id := by
  have wellFormed := wellFormed_of_build built
  have isForm : catalog.form = inOrder form := by
    obtain ⟨count, registry, -, -, rfl⟩ := build_ok built
    rfl
  obtain ⟨registry, laid, hidden, laidOut⟩ := exists_laidOut_of_build built
  have asked : (part.id, question) ∈ (inOrder form).questions := by
    refine List.mem_flatMap.mpr ⟨part, ?_, List.mem_map_of_mem member⟩
    exact isForm ▸ List.mem_of_find?_eq_some found
  obtain ⟨each, eachIn, same, -⟩ := exists_mem_layQuestions registry [] asked
  rw [← laidOut.byQuestion] at eachIn
  have same : each.1.id = question.id := same
  refine ⟨each.1, ?_, ?_, ?_⟩
  · rw [← same]
    refine find?_of_mem wellFormed.ids ?_
    rw [laidOut.questions]
    exact List.mem_map_of_mem eachIn
  · rw [laidOut.byQuestion] at eachIn
    obtain ⟨entry, -, others, -, isEntry⟩ := exists_of_mem_layQuestions eachIn
    rw [laidOut.slugs, ← same, isEntry]
    rfl
  · rw [(laidOut.fits each eachIn).controls, ← same, laidOut.filter_controls wellFormed eachIn]
    exact wellFormed.filterMap_control? fun control isOwn => laidOut.mem_controls eachIn isOwn

end Catalog

/-! ### What stays hidden -/

namespace Sync

variable {catalog : Catalog}

/-- Carrying a change neither shows nor hides anything but an amount. -/
theorem isHidden_propagate_other (wellFormed : catalog.WellFormed) {sync : Sync} {sheet : Sheet}
    (owned : Owned catalog sync.derived sheet) (origin : String) {control : Control}
    (member : control ∈ catalog.controls) (noAmount : ∀ box, control.kind ≠ .amount box) :
    (propagate catalog sync sheet origin).sheet.isHidden control.name =
      sheet.isHidden control.name := by
  refine (propagate_induction wellFormed owned origin
    (fun wave => wave.sheet.isHidden control.name = sheet.isHidden control.name) rfl ?_).2
  intro wave visited rest isOwned _ same
  rw [← same]
  exact Steps.isHidden (steps_visit wellFormed isOwned origin visited) wellFormed isOwned member
    (noAmount visited)

end Sync

namespace Session

variable {catalog : Catalog}

/-- Whether all controls but amounts are hidden or not as they were at the start. -/
def KeepsHidden (session : Session) : Prop :=
  ∀ control ∈ session.catalog.controls, (∀ box, control.kind ≠ .amount box) →
    session.sheet.isHidden control.name = control.hidden

theorem keepsHidden_start (wellFormed : catalog.WellFormed) : (start catalog).KeepsHidden := by
  intro control member _
  show (Derivation.run _ _ (Sync.echoAll _ _ _).sheet).1.isHidden _ = _
  rw [isHidden_run, isHidden_echoAll wellFormed (owned_ofCatalog wellFormed) member]
  unfold Sheet.isHidden
  rw [get?_ofCatalog wellFormed, wellFormed.control?_of_mem member]
  rfl

theorem IsOwned.keepsHidden_carry {session : Session} (owned : session.IsOwned)
    (wellFormed : session.catalog.WellFormed) (keeps : session.KeepsHidden) {origin : String}
    {result : Sheet × Bool} (written : Sheet.Write session.sheet origin result) :
    (session.carry result.1 origin).1.KeepsHidden := by
  intro control member noAmount
  rw [catalog_carry] at member
  have carried : (Sync.propagate session.catalog session.sync result.1 origin).sheet.isHidden
      control.name = control.hidden := by
    rw [Sync.isHidden_propagate_other wellFormed (owned.refilled written.refilled) origin member
      noAmount, written.refilled.isHidden, keeps control member noAmount]
  unfold Session.carry
  simp only
  split
  next => exact (isHidden_run _ _ _ _).trans carried
  next => exact carried

theorem kept_keepsHidden (wellFormed : catalog.WellFormed) :
    Kept catalog fun session => session.IsOwned ∧ session.KeepsHidden where
  start := ⟨isOwned_start wellFormed, keepsHidden_start wellFormed⟩
  carry := by
    rintro session origin result rfl ⟨owned, keeps⟩ written
    exact ⟨owned.carry wellFormed written, owned.keepsHidden_carry wellFormed keeps written⟩
  recalculate := by
    rintro session - ⟨owned, keeps⟩
    exact ⟨owned.refilled (Sheet.refilled_derivation_run _ _ _), fun control member noAmount =>
      (isHidden_run _ _ _ _).trans (keeps control member noAmount)⟩
  rehydrate := by
    rintro session snapshot rfl ⟨owned, keeps⟩
    exact ⟨owned.rehydrate wellFormed snapshot, fun control member noAmount =>
      (owned.isHidden_rehydrate wellFormed member snapshot).trans (keeps control member noAmount)⟩
  withTiers := by
    rintro session tiers - ⟨owned, keeps⟩
    exact ⟨owned.refilled (Sheet.refilled_derivation_run _ _ _), fun control member noAmount =>
      (isHidden_run _ _ _ _).trans (keeps control member noAmount)⟩
  beside := fun _ _ _ _ holds => holds

/-- Whether all echoes of a session are hidden. -/
def HidesEchoes (session : Session) : Prop :=
  ∀ control ∈ session.catalog.controls, ∀ select, control.kind = .echo select →
    session.sheet.isHidden control.name = true

/-- In every session that a run reaches, all echoes are hidden. -/
theorem hidesEchoes_run {form : Form} (built : Catalog.build form = .ok catalog)
    (operations : List Operation) : (run catalog operations).HidesEchoes := by
  intro control member select isEcho
  obtain ⟨same, -, keeps⟩ :=
    (kept_keepsHidden (Catalog.wellFormed_of_build built)).run operations
  rw [keeps control member (by rw [isEcho]; simp)]
  exact Catalog.keepsEcho_of_build built control (same ▸ member) ⟨select, isEcho⟩

/-! ### The current section -/

/-- The questions of the section in which a session is. There are none at the end of the form. -/
def currentQuestions (session : Session) : List Question :=
  match (Navigation.sectionOf session.navigation.current).bind session.catalog.section? with
  | some part => part.questions
  | none => []

/-- The controls that belong to a question. -/
def controlsOf (session : Session) (question : Question) : List Control :=
  session.catalog.controls.filter fun control => control.question == some question.id

end Session

namespace View

/-- A question of a session as it is shown. -/
def describe (session : Session) (question : Question) : QuestionView :=
  { id := question.id
    slug := session.catalog.slugs.slugOf question.id
    title := session.substitute question.text
    description := question.description.map session.substitute
    kind := question.kind
    visible := session.shows question.id
    controls := (session.controlsOf question).map (ofControl session) }

/-- All questions of the current section are shown, with all their controls. -/
theorem questions_ofSession {session : Session} {form : Form}
    (built : Catalog.build form = .ok session.catalog) :
    (ofSession session).questions = session.currentQuestions.map (describe session) := by
  unfold ofSession Session.currentQuestions
  simp only
  cases current :
    (Navigation.sectionOf session.navigation.current).bind session.catalog.section? with
  | none => rfl
  | some part =>
    obtain ⟨id, -, found⟩ := Option.bind_eq_some_iff.mp current
    simp only
    rw [← List.filterMap_eq_map]
    refine List.filterMap_congr fun question member => ?_
    obtain ⟨entry, isEntry, slug, controls⟩ :=
      Catalog.exists_question?_of_section built found member
    rw [ofQuestion, isEntry, Option.map_some, slug, controls]
    rfl

/-- The lines of a question before those of its controls. -/
def questionHead (question : QuestionView) : List String :=
  (" - " ++ question.title ++ " [" ++ question.kind.label ++ "]") ::
    (question.description.map fun description => "   " ++ description).toList

/-- The lines of a view, when the lines for the controls of every question are given. -/
def linesWith (view : View) (entries : QuestionView → List String) : List String :=
  headLines view ++
    match view.sectionTitle with
    | none => ["The form is complete."]
    | some title =>
      ("Section: " ++ title) ::
        (view.questions.filter (·.visible)).flatMap (fun question =>
          questionHead question ++ entries question) ++
        view.warnings.map fun warning => "Warning: " ++ warning

theorem lines_eq_linesWith {view : View} {entries : QuestionView → List String}
    (same : ∀ question ∈ view.questions, question.visible = true →
      entries question =
        (question.controls.filter fun control => !control.hidden).map controlLine) :
    view.lines = view.linesWith entries := by
  have all : (view.questions.filter (·.visible)).flatMap questionLines =
      (view.questions.filter (·.visible)).flatMap fun question =>
        questionHead question ++ entries question := by
    refine List.flatMap_congr fun question member => ?_
    obtain ⟨isShown, visible⟩ := List.mem_filter.mp member
    rw [same question isShown visible]
    rfl
  unfold lines linesWith
  cases view.sectionTitle with
  | none => rfl
  | some title => simp only [all]

end View

namespace Wizard

/-! ### Prompts -/

/-- The kind of input of a kind of control. -/
def FieldKind.of : ControlKind → FieldKind
  | .text => .text
  | .select _ _ => .select
  | .checkbox _ _ _ => .checkbox
  | .amount _ => .amount
  | .echo _ => .echo

/-- A control of a session as the wizard sees it. -/
def Field.of (session : Session) (control : Control) : Field :=
  { name := control.name
    label := control.label
    kind := .of control.kind
    hidden := session.sheet.isHidden control.name
    value := (session.sheet.text? control.name).getD ""
    options := match control.kind with
      | .select options _ => some options
      | _ => none }

/-- A question of a session as the wizard sees it. -/
def Item.of (session : Session) (question : Question) : Item :=
  { title := session.substitute question.text
    description := question.description.map session.substitute
    visible := session.shows question.id
    fields := (session.controlsOf question).map (Field.of session) }

/-- The prompt for a control of a question. -/
def Prompt.of (session : Session) (question : Question) (control : Control) : Prompt :=
  ⟨session.substitute question.text, question.description.map session.substitute,
    .of session control⟩

/-- The line of a text for a field: its name, its value if it has one, and its options if it has
some. -/
def Field.line (field : Field) : String :=
  "   * " ++ field.name ++
    (if field.value.isEmpty then "" else " = " ++ field.value) ++
    match field.options with
    | some options => " (" ++ String.intercalate " | " options ++ ")"
    | none => ""

theorem Field.ofView_ofControl (session : Session) (control : Control) :
    ofView (View.ofControl session control) = of session control := by
  unfold ofView View.ofControl of
  cases control.kind <;> rfl

theorem Item.ofView_describe (session : Session) (question : Question) :
    ofView (View.describe session question) = of session question := by
  unfold ofView View.describe of
  rw [List.map_map]
  exact congrArg _ (List.map_congr_left fun control _ => Field.ofView_ofControl session control)

/-- Where echoes are hidden, the prompts of a question are for its controls that are not. -/
theorem Item.prompts_of {session : Session} (hides : session.HidesEchoes) (question : Question) :
    (Item.of session question).prompts =
      if session.shows question.id then
        ((session.controlsOf question).filter fun control =>
          !session.sheet.isHidden control.name).map (Prompt.of session question)
      else [] := by
  have asked : ∀ control ∈ session.controlsOf question,
      (Field.isPrompted ∘ Field.of session) control = !session.sheet.isHidden control.name := by
    intro control member
    show (Field.of session control).isPrompted = _
    unfold Field.isPrompted Field.of
    cases kind : control.kind with
    | echo select => rw [hides control (List.mem_filter.mp member).1 select kind]; rfl
    | text | select _ _ | checkbox _ _ _ | amount _ => exact Bool.and_true _
  unfold Item.prompts Item.of
  simp only [List.filter_map, List.map_map]
  rw [List.filter_congr asked]
  rfl

/-- What only some items of a list have is what those items have. -/
theorem flatMap_if {Thing Part : Type} (things : List Thing) (chosen : Thing → Bool)
    (parts : Thing → List Part) :
    (things.flatMap fun thing => if chosen thing then parts thing else []) =
      (things.filter chosen).flatMap parts := by
  induction things with
  | nil => rfl
  | cons thing rest inductionHypothesis =>
    rw [List.flatMap_cons, inductionHypothesis]
    cases isChosen : chosen thing with
    | true => rw [List.filter_cons_of_pos isChosen, List.flatMap_cons, if_pos rfl]
    | false => rw [List.filter_cons_of_neg (by simp [isChosen])]; rfl

end Wizard

namespace Session

open Wizard

variable {catalog : Catalog}

section Screens

variable {session : Session} {form : Form}

/-- The screen has the questions of the current section. -/
theorem items_screen (built : Catalog.build form = .ok session.catalog) :
    (Screen.ofView (View.ofSession session)).items =
      session.currentQuestions.map (Item.of session) := by
  show (View.ofSession session).questions.map Item.ofView = _
  rw [View.questions_ofSession built, List.map_map]
  exact List.map_congr_left fun question _ => Item.ofView_describe session question

/-- The wizard asks for the controls that are not hidden of the questions that are shown. -/
theorem prompts_screen (built : Catalog.build form = .ok session.catalog)
    (hides : session.HidesEchoes) :
    (Screen.ofView (View.ofSession session)).prompts =
      (session.currentQuestions.filter fun question => session.shows question.id).flatMap
        (fun question =>
          ((session.controlsOf question).filter fun control =>
            !session.sheet.isHidden control.name).map (Prompt.of session question)) := by
  rw [← flatMap_if]
  show (Screen.ofView (View.ofSession session)).items.flatMap Item.prompts = _
  rw [items_screen built, List.flatMap_map]
  exact List.flatMap_congr fun question _ => Item.prompts_of hides question

/-- The text has a line for every prompt of a question, and for no other control. -/
theorem lines_ofSession (built : Catalog.build form = .ok session.catalog)
    (hides : session.HidesEchoes) :
    (View.ofSession session).lines = (View.ofSession session).linesWith fun question =>
      (Item.ofView question).prompts.map fun prompt => prompt.field.line := by
  refine View.lines_eq_linesWith fun shown member visible => ?_
  rw [View.questions_ofSession built] at member
  obtain ⟨question, -, rfl⟩ := List.mem_map.mp member
  have isShown : session.shows question.id = true := visible
  rw [Item.ofView_describe, Item.prompts_of hides, if_pos isShown, List.map_map]
  unfold View.describe
  rw [List.filter_map, List.map_map]
  rfl

/-- Where there is no section there are no questions. -/
theorem currentQuestions_of_untitled (untitled : (View.ofSession session).sectionTitle = none) :
    session.currentQuestions = [] := by
  have nowhere : (Navigation.sectionOf session.navigation.current).bind
      session.catalog.section? = none := Option.map_eq_none_iff.mp untitled
  unfold currentQuestions
  rw [nowhere]

/-- A prompt is for a control of a question that is no echo. -/
theorem exists_control_of_prompt (built : Catalog.build form = .ok session.catalog)
    (hides : session.HidesEchoes) {prompt : Prompt}
    (member : prompt ∈ (Screen.ofView (View.ofSession session)).prompts) :
    ∃ control ∈ session.catalog.controls, control.name = prompt.field.name ∧
      control.question.isSome = true ∧ ∀ select, control.kind ≠ .echo select := by
  rw [prompts_screen built hides] at member
  obtain ⟨question, -, isPrompt⟩ := List.mem_flatMap.mp member
  obtain ⟨control, isShown, rfl⟩ := List.mem_map.mp isPrompt
  obtain ⟨isOwn, notHidden⟩ := List.mem_filter.mp isShown
  obtain ⟨isControl, belongs⟩ := List.mem_filter.mp isOwn
  have isOf : control.question = some question.id := by simpa using belongs
  refine ⟨control, isControl, rfl, by rw [isOf]; rfl, fun select isEcho => ?_⟩
  rw [hides control isControl select isEcho] at notHidden
  cases notHidden

end Screens

/-- In every session that a run reaches, the wizard reads the view without missing anything, and
sees just the questions and controls that the section has. It asks for the controls that are not
hidden of the questions that are shown, and these are the controls that the text has a line for,
question by question and in the same order. None of them is an echo, a derived entry or a hidden
field. -/
theorem prompts_of_run {form : Form} (built : Catalog.build form = .ok catalog)
    (operations : List Operation) :
    let session := run catalog operations
    let view := View.ofSession session
    let screen := Screen.ofView view
    Screen.decode view.encode = .ok screen ∧
    view.questions = session.currentQuestions.map (View.describe session) ∧
    screen.items = session.currentQuestions.map (Item.of session) ∧
    screen.prompts =
      (session.currentQuestions.filter fun question => session.shows question.id).flatMap
        (fun question =>
          ((session.controlsOf question).filter fun control =>
            !session.sheet.isHidden control.name).map (Prompt.of session question)) ∧
    view.lines = view.linesWith (fun question =>
      (Item.ofView question).prompts.map fun prompt => prompt.field.line) ∧
    (view.sectionTitle = none → screen.prompts = []) ∧
    ∀ prompt ∈ screen.prompts, ∃ control ∈ catalog.controls, control.name = prompt.field.name ∧
      control.question.isSome = true ∧ (∀ select, control.kind ≠ .echo select) ∧
      ∃ entry, session.sheet.get? control.name = some entry ∧ entry.derived = false := by
  intro session view screen
  have same : session.catalog = catalog := catalog_run catalog operations
  have hides : session.HidesEchoes := hidesEchoes_run built operations
  have builtSession : Catalog.build form = .ok session.catalog := same ▸ built
  have prompts := prompts_screen builtSession hides
  refine ⟨Screen.decode_encode view, View.questions_ofSession builtSession,
    items_screen builtSession, prompts, lines_ofSession builtSession hides, fun untitled => ?_,
    fun prompt member => ?_⟩
  · rw [prompts, currentQuestions_of_untitled untitled]
    rfl
  · obtain ⟨control, isControl, named, belongs, noEcho⟩ :=
      exists_control_of_prompt builtSession hides member
    have within : control ∈ catalog.controls := same ▸ isControl
    obtain ⟨entry, present, notDerived, -⟩ :=
      (owned_run (Catalog.wellFormed_of_build built) operations).control control within
    exact ⟨control, within, named, belongs, noEcho, entry, present, notDerived⟩

/-- The amount of the checked box is asked for, and neither the echoes of the dropdowns nor the
derived entry, all of which hold the choice. -/
theorem prompts_of_survey :
    let session := run surveyCatalog [.setChecked "pets_dog" true, .setValue "a" "B c"]
    let view := View.ofSession session
    (session.sheet.text? "a_selected", session.sheet.text? "a_b_c") = (some "B c", some "B c") ∧
    ∃ screen, Screen.decode view.encode = .ok screen ∧
      screen.prompts.map (fun prompt => prompt.field.line) =
        ["   * a = B c (B c | Other)", "   * a_b (C | Other)", "   * pets_dog = Dog",
          "   * pets_dog_amount", "   * pets_none", "   * walks"] ∧
      view.lines = view.linesWith fun question =>
        (Item.ofView question).prompts.map fun prompt => prompt.field.line := by
  obtain ⟨reads, -, -, -, lines, -⟩ :=
    prompts_of_run build_survey [.setChecked "pets_dog" true, .setValue "a" "B c"]
  exact ⟨by decide +kernel, _, reads, by decide +kernel, lines⟩

end Session

end Questionnaire

/-
This file compares the screen that the wizard reads with the view that it is read from. The wizard
reads every view without missing anything, and the screen says of titles, progress, questions and
controls just what the view says.
-/
import Mathlib.Data.List.Basic
import Questionnaire.View
import Questionnaire.Wizard.Screen

namespace Questionnaire

/-! ### Texts and lists of JSON values -/

theorem Json.text?_textOrNull (value : Option String) : (textOrNull value).text? = value := by
  cases value <;> rfl

theorem Json.filterMap_text? (texts : List String) :
    (texts.map text).filterMap text? = texts := by
  rw [List.filterMap_map]
  exact List.filterMap_some

/-- Where every value is read back from what it is written as, a list is read back too. -/
theorem mapM_map_eq_ok {Value Written Content Reason : Type} {write : Value → Written}
    {read : Written → Except Reason Content} {content : Value → Content}
    (reads : ∀ value, read (write value) = .ok (content value)) (values : List Value) :
    (values.map write).mapM read = .ok (values.map content) := by
  induction values with
  | nil => rfl
  | cons value values inductionHypothesis =>
    rw [List.map_cons, List.mapM_cons, reads, inductionHypothesis]
    rfl

namespace Wizard

/-! ### Screens of views -/

/-- A control as the wizard sees it. -/
def Field.ofView (control : ControlView) : Field :=
  ⟨control.name, control.label, .ofLabel control.kind, control.hidden, control.value,
    control.options⟩

/-- A question as the wizard sees it. -/
def Item.ofView (question : QuestionView) : Item :=
  ⟨question.title, question.description, question.visible, question.controls.map Field.ofView⟩

/-- A session as the wizard sees it. -/
def Screen.ofView (view : View) : Screen :=
  { title := view.formTitle
    help := view.help
    complete := view.finished
    current := view.current.map UInt32.toNat
    sectionTitle := view.sectionTitle
    total := view.total.toNat
    items := view.questions.map Item.ofView }

theorem Field.decode_encode (control : ControlView) :
    decode (View.encodeControl control) = .ok (ofView control) := by
  obtain ⟨name, label, kind, hidden, value, options⟩ := control
  cases options with
  | none => rfl
  | some options =>
    have read : decode (View.encodeControl ⟨name, label, kind, hidden, value, some options⟩) =
        .ok ⟨name, label, .ofLabel kind, hidden, value,
          some ((options.map Json.text).filterMap Json.text?)⟩ := rfl
    rw [read, Json.filterMap_text?]
    rfl

theorem Item.decode_encode (question : QuestionView) :
    decode (View.encodeQuestion question) = .ok (ofView question) := by
  have id : textIn (View.encodeQuestion question) "id" = some question.id := rfl
  have title : textIn (View.encodeQuestion question) "title" = some question.title := rfl
  have description : textIn (View.encodeQuestion question) "description" = question.description :=
    Json.text?_textOrNull question.description
  have fields : ((listIn (View.encodeQuestion question) "controls").getD []).mapM Field.decode =
      .ok (question.controls.map Field.ofView) := mapM_map_eq_ok Field.decode_encode _
  unfold decode
  rw [id, title, description, fields]
  rfl

/-- The wizard reads every view, and sees what the view shows. -/
theorem Screen.decode_encode (view : View) : decode view.encode = .ok (ofView view) := by
  have help : textIn view.encode "help" = view.help := Json.text?_textOrNull view.help
  have title : textIn view.encode "section_title" = view.sectionTitle :=
    Json.text?_textOrNull view.sectionTitle
  have complete : (textIn view.encode "status" == some "complete") = view.finished := by
    show (some view.status == some "complete") = view.finished
    unfold View.status
    cases view.finished <;> rfl
  have items : (view.questions.map View.encodeQuestion).mapM Item.decode =
      .ok (view.questions.map Item.ofView) := mapM_map_eq_ok Item.decode_encode _
  have questions : listIn view.encode "questions" =
      some (view.questions.map View.encodeQuestion) := rfl
  obtain ⟨progress, isProgress, current, total⟩ : ∃ progress,
      progress? view.encode = some progress ∧
      natIn progress "section" = view.current.map UInt32.toNat ∧
      natIn progress "total" = some view.total.toNat := by
    refine ⟨_, rfl, ?_, rfl⟩
    cases view.current <;> rfl
  unfold decode
  rw [help, title, complete, questions, isProgress]
  simp only [expect, bind, Except.bind, items, current, total]
  rfl

/-! ### Prompts -/

/-- A section in which nothing was handled is asked for all of it. -/
theorem Screen.nextPrompt?_empty {screen : Screen}
    (nothing : screen.nextPrompt? NameMap.empty = none) : screen.prompts = [] :=
  List.eq_nil_iff_forall_not_mem.mpr fun prompt member =>
    List.find?_eq_none.mp nothing prompt member rfl

end Wizard

end Questionnaire

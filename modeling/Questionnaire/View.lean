/-
This file holds what a filler sees of a session: the current section with its questions and their
controls, as a value, as a JSON value and as a text. Placeholders in titles and descriptions of
questions and sections show the current numbers.
-/
import Questionnaire.Session

namespace Questionnaire

/-- A control as it is shown. -/
structure ControlView where
  name : String
  label : String
  kind : String
  hidden : Bool
  value : String
  options : Option (List String)
  deriving DecidableEq, Repr

/-- A question as it is shown. -/
structure QuestionView where
  id : String
  slug : String
  title : String
  description : Option String
  kind : QuestionKind
  visible : Bool
  controls : List ControlView
  deriving DecidableEq, Repr

/-- A session as it is shown. The title of the section and the number of the section are missing at
the end of the form. -/
structure View where
  formId : String
  formTitle : String
  finished : Bool
  sectionTitle : Option String
  current : Option UInt32
  total : UInt32
  help : Option String
  questions : List QuestionView
  warnings : List String
  deriving DecidableEq, Repr

namespace View

/-! ### Making views -/

/-- A control of a session as it is shown. -/
def ofControl (session : Session) (control : Control) : ControlView :=
  { name := control.name
    label := control.label
    kind := control.kind.label
    hidden := session.sheet.isHidden control.name
    value := (session.sheet.text? control.name).getD ""
    options := match control.kind with
      | .select options _ => some options
      | _ => none }

/-- A question of a session as it is shown. -/
def ofQuestion (session : Session) (question : Question) : Option QuestionView :=
  (session.catalog.question? question.id).map fun entry =>
    { id := question.id
      slug := entry.slug
      title := session.substitute question.text
      description := question.description.map session.substitute
      kind := question.kind
      visible := session.shows question.id
      controls := (entry.controls.filterMap session.catalog.control?).map (ofControl session) }

/-- A session as it is shown. -/
def ofSession (session : Session) : View :=
  let catalog := session.catalog
  let position := session.navigation.current
  let current := (Navigation.sectionOf position).bind catalog.section?
  { formId := catalog.form.id
    formTitle := session.substitute catalog.form.title
    finished := session.navigation.isFinished
    sectionTitle := current.map fun part => session.substitute part.name
    current := Navigation.sectionOf position
    total := catalog.sectionCount
    help := catalog.form.description
    questions := match current with
      | some part => part.questions.filterMap (ofQuestion session)
      | none => []
    warnings := session.sync.warnings.map SyncWarning.message }

/-- The word for how far a session is. -/
def status (view : View) : String := if view.finished then "complete" else "in_progress"

/-! ### As a JSON value -/

/-- The JSON value of a control. -/
def encodeControl (control : ControlView) : Json :=
  .object <|
    [("hidden", .boolean control.hidden), ("kind", .text control.kind),
      ("label", .text control.label), ("name", .text control.name)] ++
    (control.options.map fun options => ("options", Json.texts options)).toList ++
    [("value", .text control.value)]

/-- The JSON value of a question. -/
def encodeQuestion (question : QuestionView) : Json :=
  .object [("controls", .array (question.controls.map encodeControl)),
    ("description", Json.textOrNull question.description), ("id", .text question.id),
    ("slug", .text question.slug), ("title", .text question.title),
    ("type", .text question.kind.label), ("visible", .boolean question.visible)]

/-- The JSON value of a view. -/
def encode (view : View) : Json :=
  let current := match view.current with
    | some id => .nat id.toNat
    | none => .null
  .object [("form_id", .text view.formId), ("form_title", .text view.formTitle),
    ("help", Json.textOrNull view.help),
    ("progress", .object [("section", current), ("total", .nat view.total.toNat)]),
    ("questions", .array (view.questions.map encodeQuestion)),
    ("section_title", Json.textOrNull view.sectionTitle), ("status", .text view.status),
    ("warnings", Json.texts view.warnings)]

/-! ### As a text -/

/-- The line of a control: its name, its value if it has one, and its options if it has some. -/
def controlLine (control : ControlView) : String :=
  "   * " ++ control.name ++
    (if control.value.isEmpty then "" else " = " ++ control.value) ++
    match control.options with
    | some options => " (" ++ String.intercalate " | " options ++ ")"
    | none => ""

/-- The lines of a question: its title, its description and its controls that are not hidden. -/
def questionLines (question : QuestionView) : List String :=
  (" - " ++ question.title ++ " [" ++ question.kind.label ++ "]") ::
    (question.description.map fun description => "   " ++ description).toList ++
    (question.controls.filter fun control => !control.hidden).map controlLine

/-- The lines before the section: the form, how far it is, and the help. -/
def headLines (view : View) : List String :=
  let place := match view.current with
    | some id =>
      " (section " ++ Text.numeral id.toNat ++ "/" ++ Text.numeral view.total.toNat ++ ")"
    | none => ""
  ["Form: " ++ view.formTitle ++ " (" ++ view.formId ++ ")", "Status: " ++ view.status ++ place] ++
    (view.help.map fun help => "Help: " ++ help).toList

/-- The lines of a view. -/
def lines (view : View) : List String :=
  headLines view ++
    match view.sectionTitle with
    | none => ["The form is complete."]
    | some title =>
      ("Section: " ++ title) ::
        (view.questions.filter (·.visible)).flatMap questionLines ++
        view.warnings.map fun warning => "Warning: " ++ warning

/-- The text of a view. -/
def text (view : View) : String := String.intercalate "\n" view.lines

end View

end Questionnaire

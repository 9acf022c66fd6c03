/-
This file holds sheets, the live values of all controls of one filling. An entry is a text, the
choice of a select with the options it may take, or a checkbox with the value it stands for.
Derived entries are made while the form is filled; all others come from the catalog and stay.
-/
import Questionnaire.Answer
import Questionnaire.Catalog.Basic
import Questionnaire.Fault

namespace Questionnaire

/-- What an entry holds. -/
inductive Content where
  | text (text : String)
  | select (choice : String) (options : List String)
  | checkbox (checked : Bool) (value : String)
  deriving DecidableEq, Repr

namespace Content

/-- The word for what an entry holds. -/
def label : Content → String
  | .text _ => "text"
  | .select _ _ => "select"
  | .checkbox _ _ => "checkbox"

/-- The text, the choice, or the value of a checked box. -/
def value : Content → String
  | .text words => words
  | .select choice _ => choice
  | .checkbox checked value => if checked then value else ""

/-- Whether a box is checked; nothing else is a box. -/
def checked? : Content → Option Bool
  | .checkbox checked _ => some checked
  | _ => none

/-- The options of a select. -/
def options? : Content → Option (List String)
  | .select _ options => some options
  | _ => none

/-- The content without its value. -/
def cleared : Content → Content
  | .text _ => .text ""
  | .select _ options => .select "" options
  | .checkbox _ value => .checkbox false value

/-- The value under which the content is exported. -/
def exported : Content → String
  | .text words => words
  | .select choice _ => choice
  | .checkbox checked _ => if checked then "true" else "false"

end Content

/-- An entry of a sheet. -/
structure Entry where
  content : Content
  hidden : Bool
  derived : Bool
  deriving DecidableEq, Repr

/-- The entries by the names of their controls. -/
abbrev Sheet := NameMap Entry

/-- The exported values by the names of their controls. -/
abbrev Snapshot := NameMap String

namespace Sheet

/-! ### Reading -/

/-- What the entry of a control holds. -/
def content? (sheet : Sheet) (name : String) : Option Content := (sheet.get? name).map (·.content)

/-- The text of a control. -/
def text? (sheet : Sheet) (name : String) : Option String := (content? sheet name).map (·.value)

/-- Whether a checkbox is checked. -/
def checked? (sheet : Sheet) (name : String) : Option Bool :=
  (content? sheet name).bind Content.checked?

/-- Whether a control is hidden. -/
def isHidden (sheet : Sheet) (name : String) : Bool := (sheet.get? name).any (·.hidden)

/-- The options of a select. -/
def options? (sheet : Sheet) (name : String) : Option (List String) :=
  (content? sheet name).bind Content.options?

/-- The option of a select that a text chooses. -/
def chosen? (sheet : Sheet) (name text : String) : Option String :=
  (options? sheet name).bind fun options => Answer.option? options text

/-- The answer of a question as one text: the texts of its controls that are not empty. -/
def answerText (sheet : Sheet) (question : QuestionEntry) : String :=
  String.intercalate " - "
    ((question.answers.filterMap (text? sheet)).filter fun text => !text.isEmpty)

/-- The values of the checked boxes of a question. -/
def checkedValues (sheet : Sheet) (question : QuestionEntry) : List String :=
  (question.answers.filter fun name => checked? sheet name == some true).filterMap (text? sheet)

/-! ### The first sheet of a catalog -/

/-- What a control holds before anyone has filled it. -/
def initialContent (control : Control) : Content :=
  let preset := control.preset.getD ""
  match control.kind with
  | .text | .amount _ | .echo _ => .text preset
  | .select options _ => .select ((Answer.option? options preset).getD "") options
  | .checkbox value _ _ => .checkbox (Answer.isYes preset) value

/-- The sheet of a catalog before anyone has filled it. -/
def ofCatalog (catalog : Catalog) : Sheet :=
  NameMap.ofList (catalog.controls.map fun control =>
    (control.name, ⟨initialContent control, control.hidden, false⟩))

/-! ### Writing -/

/-- Puts content into an entry, and tells whether that changed it. -/
def put (sheet : Sheet) (name : String) (entry : Entry) (content : Content) : Sheet × Bool :=
  if entry.content = content then (sheet, false)
  else (sheet.insert name { entry with content }, true)

/-- Writes a text or select, and tells whether it changed. A select takes the option that the text
chooses, or none for the empty text. -/
def setText (sheet : Sheet) (name text : String) : Except Fault (Sheet × Bool) :=
  match sheet.get? name with
  | none => .error (.unknownControl name)
  | some entry =>
    match entry.content with
    | .text _ => .ok (put sheet name entry (.text text))
    | .select _ options =>
      if text.isEmpty then .ok (put sheet name entry (.select "" options))
      else match Answer.option? options text with
        | some option => .ok (put sheet name entry (.select option options))
        | none => .error (.unknownOption name text)
    | .checkbox _ _ => .error (.wrongKind name "checkbox")

/-- Checks or unchecks a checkbox, and tells whether it changed. -/
def setChecked (sheet : Sheet) (name : String) (checked : Bool) : Except Fault (Sheet × Bool) :=
  match sheet.get? name with
  | none => .error (.unknownControl name)
  | some entry =>
    match entry.content with
    | .checkbox _ value => .ok (put sheet name entry (.checkbox checked value))
    | other => .error (.wrongKind name other.label)

/-- Hides or shows a control, and tells whether that changed it. -/
def setHidden (sheet : Sheet) (name : String) (hidden : Bool) : Sheet × Bool :=
  match sheet.get? name with
  | none => (sheet, false)
  | some entry =>
    if entry.hidden = hidden then (sheet, false)
    else (sheet.insert name { entry with hidden }, true)

/-- Empties a control of any kind, and tells whether it changed. -/
def clear (sheet : Sheet) (name : String) : Sheet × Bool :=
  match sheet.get? name with
  | none => (sheet, false)
  | some entry => put sheet name entry entry.content.cleared

/-- Adds a derived entry, a hidden checked box with a value, and tells whether it did. An entry that
is not derived is not overwritten. -/
def addDerived (sheet : Sheet) (name value : String) : Sheet × Bool :=
  if (sheet.get? name).any fun entry => !entry.derived then (sheet, false)
  else (sheet.insert name ⟨.checkbox true value, true, true⟩, true)

/-- Removes a derived entry, and tells whether it did. -/
def dropDerived (sheet : Sheet) (name : String) : Sheet × Bool :=
  if (sheet.get? name).any fun entry => entry.derived then (sheet.erase name, true)
  else (sheet, false)

/-- Writes an exported value, and tells whether it fits. -/
def applyExported (sheet : Sheet) (name value : String) : Sheet × Bool :=
  let written := match content? sheet name with
    | none => none
    | some (.checkbox _ _) => (setChecked sheet name (Answer.isYes value)).toOption
    | some _ => (setText sheet name value).toOption
  match written with
  | some (sheet, _) => (sheet, true)
  | none => (sheet, false)

/-! ### Exporting -/

/-- The exported values of all controls. -/
def snapshot (sheet : Sheet) : Snapshot := sheet.mapValues fun _ entry => entry.content.exported

end Sheet

end Questionnaire

/-
This file holds screens, what the wizard knows of a shown section. A screen is read from the JSON
value of a view. It asks for less than a view holds: only the title, the progress and the questions
have to be there, and the id of every question and the name of every control.
-/
import Questionnaire.Json.Value

namespace Questionnaire.Wizard

/-- The kinds of input that a field takes. -/
inductive FieldKind where
  | text
  | select
  | checkbox
  | amount
  | echo
  deriving DecidableEq, Repr

/-- The kind of a word; a word that is not known means a text. -/
def FieldKind.ofLabel : String → FieldKind
  | "select" => .select
  | "checkbox" => .checkbox
  | "amount" => .amount
  | "mirror" => .echo
  | _ => .text

/-- A control as the wizard sees it. -/
structure Field where
  name : String
  label : String
  kind : FieldKind
  hidden : Bool
  value : String
  options : Option (List String)
  deriving DecidableEq, Repr

/-- A question as the wizard sees it. -/
structure Item where
  title : String
  description : Option String
  visible : Bool
  fields : List Field
  deriving DecidableEq, Repr

/-- A shown section. At the end of the form it is complete. -/
structure Screen where
  title : String
  help : Option String
  complete : Bool
  current : Option Nat
  sectionTitle : Option String
  total : Nat
  items : List Item
  deriving DecidableEq, Repr

/-! ### Prompts -/

/-- A field with what is said about its question. -/
structure Prompt where
  title : String
  description : Option String
  field : Field
  deriving DecidableEq, Repr

/-- Whether a field is asked for. -/
def Field.isPrompted (field : Field) : Bool := !field.hidden && field.kind != .echo

/-- The prompts of a question. -/
def Item.prompts (item : Item) : List Prompt :=
  if item.visible then
    (item.fields.filter Field.isPrompted).map fun field => ⟨item.title, item.description, field⟩
  else []

/-- The prompts of a screen, in order. -/
def Screen.prompts (screen : Screen) : List Prompt := screen.items.flatMap Item.prompts

/-- The first prompt whose field is not handled yet. -/
def Screen.nextPrompt? (screen : Screen) (handled : NameSet) : Option Prompt :=
  screen.prompts.find? fun prompt => !handled.contains prompt.field.name

/-! ### Reading -/

/-- What is missing in a value that is no screen. -/
inductive Missing where
  | title
  | progress
  | questions
  | id
  | name
  deriving DecidableEq, Repr

/-- The message about what is missing. -/
def Missing.message : Missing → String
  | .title => "wizard payload missing form_title"
  | .progress => "wizard payload missing progress"
  | .questions => "wizard payload missing questions"
  | .id => "question missing id"
  | .name => "control missing name"

/-- The text of a member. -/
def textIn (value : Json) (name : String) : Option String := (value.member? name).bind Json.text?

/-- The truth value of a member, or else the given one. -/
def flagIn (value : Json) (name : String) (otherwise : Bool) : Bool :=
  ((value.member? name).bind Json.boolean?).getD otherwise

/-- The elements of a member. -/
def listIn (value : Json) (name : String) : Option (List Json) :=
  (value.member? name).bind Json.array?

/-- The natural number of a member. -/
def natIn (value : Json) (name : String) : Option Nat := (value.member? name).bind Json.nat?

/-- What is there, or the error that it is missing. -/
def expect {α : Type} (missing : Missing) : Option α → Except Missing α
  | some content => .ok content
  | none => .error missing

/-- Reads a field. Its label is its name where it has none. -/
def Field.decode (value : Json) : Except Missing Field :=
  (expect .name (textIn value "name")).map fun name =>
    { name
      label := (textIn value "label").getD name
      kind := FieldKind.ofLabel ((textIn value "kind").getD "text")
      hidden := flagIn value "hidden" false
      value := (textIn value "value").getD ""
      options := (listIn value "options").map fun options => options.filterMap Json.text? }

/-- Reads a question. Its title is its id where it has none. -/
def Item.decode (value : Json) : Except Missing Item := do
  let id ← expect .id (textIn value "id")
  let fields ← ((listIn value "controls").getD []).mapM Field.decode
  return {
    title := (textIn value "title").getD id
    description := textIn value "description"
    visible := flagIn value "visible" true
    fields }

/-- The progress of a value, which has to be an object. -/
def progress? (value : Json) : Option Json :=
  (value.member? "progress").bind fun progress =>
    match progress with
    | .object members => some (.object members)
    | _ => none

/-- Reads a screen. -/
def Screen.decode (value : Json) : Except Missing Screen := do
  let title ← expect .title (textIn value "form_title")
  let progress ← expect .progress (progress? value)
  let questions ← expect .questions (listIn value "questions")
  let items ← questions.mapM Item.decode
  return {
    title
    help := textIn value "help"
    complete := textIn value "status" == some "complete"
    current := natIn progress "section"
    sectionTitle := textIn value "section_title"
    total := (natIn progress "total").getD 0
    items }

end Questionnaire.Wizard

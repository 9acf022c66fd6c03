/-
This file lays out the controls of questions and hidden fields. Each control gets a name that is not
taken: the question's slug, or the slug with the author's hint, the option's label or the part of
the control after it. A control and the one that goes with it are both named before either of them
counts as taken.
-/
import Questionnaire.Catalog.Control
import Questionnaire.Form.Schema
import Questionnaire.Slug.Registry

namespace Questionnaire.Layout

open FreshName (fresh)

/-- The two texts of a range of dates. -/
def dateParts (registry : Slug.Registry) (question : Question) (taken : List String) :
    List String → List Control
  | [] => []
  | part :: rest =>
    let name := fresh taken (registry.controlName question.id "" part)
    { name, question := some question.id, label := part, kind := .text, hidden := false,
      preset := none } :: dateParts registry question (name :: taken) rest

/-- The select of a choice, with its echo if it is a dropdown. -/
def select (slug : String) (question : Question) (taken : List String) : List Control :=
  let name := fresh taken slug
  let echo := if question.kind.isDropdown then some (fresh taken (slug ++ "_selected")) else none
  { name, question := some question.id, label := question.text,
    kind := .select question.choices echo, hidden := false, preset := question.preset } ::
  (echo.map fun echo =>
    { name := echo, question := some question.id, label := question.text, kind := .echo name,
      hidden := true, preset := none }).toList

/-- The controls of one option of a checkbox group: the checkbox, and its amount if it has one. -/
def checkbox (registry : Slug.Registry) (question : Question) (taken : List String)
    (choice : Choice) : List Control :=
  let wanted := registry.controlName question.id (choice.name.getD "") choice.label
  let name := fresh taken wanted
  let amount := if choice.amount then some (fresh taken (name ++ "_amount")) else none
  let checked := question.preset.any fun preset => Text.sameAscii preset choice.label
  { name, question := some question.id, label := choice.label,
    kind := .checkbox choice.label amount choice.exclusive, hidden := false,
    preset := if checked then some "true" else none } ::
  (amount.map fun amount =>
    { name := amount, question := some question.id, label := choice.label ++ " amount",
      kind := .amount name, hidden := !checked, preset := none }).toList

/-- The checkboxes of a group. -/
def checkboxes (registry : Slug.Registry) (question : Question) (taken : List String) :
    List Choice → List Control
  | [] => []
  | choice :: rest =>
    let controls := checkbox registry question taken choice
    controls ++ checkboxes registry question (controls.map (·.name) ++ taken) rest

/-- The texts of a textbox set. -/
def textboxes (registry : Slug.Registry) (question : Question) (taken : List String) :
    List Choice → List Control
  | [] => []
  | choice :: rest =>
    let wanted := registry.controlName question.id (choice.name.getD "") choice.label
    let name := fresh taken wanted
    { name, question := some question.id, label := choice.label, kind := .text, hidden := false,
      preset := none } :: textboxes registry question (name :: taken) rest

/-- The controls of a question, in order, when the given names are taken. -/
def ofQuestion (registry : Slug.Registry) (taken : List String) (question : Question) :
    List Control :=
  let slug := registry.slugOf question.id
  match question.kind with
  | .shortText | .paragraph | .money | .date | .email | .phone =>
    [{ name := fresh taken slug, question := some question.id, label := question.text,
       kind := .text, hidden := false, preset := question.preset }]
  | .dateRange => dateParts registry question taken ["start", "end"]
  | .singleChoice | .dropdown | .numberedDropdown => select slug question taken
  | .checkboxGroup => checkboxes registry question taken question.options
  | .textboxSet => textboxes registry question taken question.options

/-- The control of a hidden field. There is none for a blank name or one that is taken. -/
def ofHiddenField (taken : List String) (field : HiddenField) : Option Control :=
  if (Text.trim field.name).isEmpty || taken.contains field.name then none
  else
    some { name := field.name, question := none, label := field.name
           kind := match field.kind with
             | .text => .text
             | .checkbox => .checkbox field.name none false
           hidden := true, preset := field.preset }

/-- The controls of hidden fields, in order. -/
def ofHiddenFields (taken : List String) : List HiddenField → List Control
  | [] => []
  | field :: rest =>
    match ofHiddenField taken field with
    | none => ofHiddenFields taken rest
    | some control => control :: ofHiddenFields (control.name :: taken) rest

end Questionnaire.Layout

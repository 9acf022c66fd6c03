/-
This file carries a change to the controls that depend on it. The echo of a dropdown takes its
choice, and one derived entry stands for that choice; an exclusive option and the other options of
its group uncheck each other; an amount is shown while its option is checked and emptied when it is
not; and a linked select takes the choice of the select that was changed, but does not pass it on.
The controls to look at wait in a queue.
-/
import Questionnaire.Sheet.Basic

namespace Questionnaire

/-- A choice that a linked select could not take over, because it is none of its options. -/
structure SyncWarning where
  source : String
  target : String
  value : String
  deriving DecidableEq, Repr

/-- The text of a warning. -/
def SyncWarning.message (warning : SyncWarning) : String :=
  "'" ++ warning.value ++ "' is not an option of '" ++ warning.target ++ "' (linked from '" ++
    warning.source ++ "')"

/-- What is kept from change to change: the derived entry of every dropdown that has one, the
channels followed in the change that is being carried, and the warnings not yet taken. -/
structure Sync where
  derived : NameMap String
  inFlight : List Channel
  warnings : List SyncWarning
  deriving DecidableEq

namespace Sync

/-- Nothing derived, followed or warned of. -/
def start : Sync := ⟨NameMap.empty, [], []⟩

/-- A sheet with what is kept beside it, and the controls changed so far. -/
structure State where
  sync : Sync
  sheet : Sheet
  changed : List String

namespace State

/-- Adds a control to the changed ones if it changed. -/
def note (state : State) (name : String) (result : Sheet × Bool) : State :=
  { state with
    sheet := result.1
    changed := if result.2 then state.changed ++ [name] else state.changed }

/-- Writes a text if its control takes it. -/
def setText (state : State) (name text : String) : State :=
  match state.sheet.setText name text with
  | .ok result => state.note name result
  | .error _ => state

/-- Unchecks a checkbox if it is one. -/
def uncheck (state : State) (name : String) : State :=
  match state.sheet.setChecked name false with
  | .ok result => state.note name result
  | .error _ => state

end State

/-! ### Dropdowns -/

/-- The name of the derived entry for a choice; there is none for a choice without a slug. -/
def derivedName (select choice : String) : Option String :=
  let slug := Slug.ofText choice
  if slug.isEmpty then none else some (select ++ "_" ++ slug)

/-- Removes the derived entry of a dropdown. -/
def release (state : State) (select : String) : State :=
  match state.sync.derived.get? select with
  | none => state
  | some previous =>
    { state with sync.derived := state.sync.derived.erase select }.note previous
      (state.sheet.dropDerived previous)

/-- Whether another dropdown has a derived entry of this name. -/
def isOwned (state : State) (select name : String) : Bool :=
  state.sync.derived.entries.any fun entry => entry.1 != select && entry.2 == name

/-- Adds the derived entry of a dropdown, unless another dropdown or the catalog has its name. -/
def acquire (state : State) (select name choice : String) : State :=
  if isOwned state select name then state
  else
    match state.sheet.addDerived name choice with
    | (sheet, true) =>
      { sync := { state.sync with derived := state.sync.derived.insert select name }
        sheet, changed := state.changed ++ [name] }
    | (_, false) => state

/-- Brings the echo and the derived entry of a dropdown up to its choice. -/
def echoChoice (state : State) (select echo : String) : State :=
  let choice := (state.sheet.text? select).getD ""
  let state := state.setText echo choice
  let wanted := derivedName select choice
  if state.sync.derived.get? select == wanted && wanted.any fun name => state.sheet.contains name
  then state
  else
    let state := release state select
    match wanted with
    | some name => acquire state select name choice
    | none => state

/-- Brings the echoes and derived entries of all dropdowns up to their choices, in order, and lists
what changed. -/
def echoAll (catalog : Catalog) (sync : Sync) (sheet : Sheet) : State :=
  catalog.controls.foldl
    (fun state control =>
      match control.kind with
      | .select _ (some echo) => echoChoice state control.name echo
      | _ => state)
    ⟨sync, sheet, []⟩

/-! ### Checkboxes -/

/-- The other options of the group of a checkbox. -/
def siblings (catalog : Catalog) (control : Control) : List String :=
  match control.question.bind catalog.question? with
  | some question => question.answers.filter fun name => name != control.name
  | none => []

/-- Unchecks the options that a checked one excludes: all others if it is exclusive, and otherwise
the exclusive ones. -/
def enforceExclusion (catalog : Catalog) (state : State) (control : Control) : State :=
  if state.sheet.checked? control.name == some true then
    (siblings catalog control).foldl
      (fun state sibling =>
        if control.isExclusive || (catalog.control? sibling).any Control.isExclusive then
          state.uncheck sibling
        else state)
      state
  else state

/-- Shows the amount of a checked box, and hides and empties that of an unchecked one. -/
def followAmount (state : State) (name amount : String) : State :=
  let checked := state.sheet.checked? name == some true
  let sheet := (state.sheet.setHidden amount !checked).1
  let state := { state with sheet }
  if checked then state else state.note amount (sheet.clear amount)

/-! ### Links -/

/-- Follows one channel of a control that was not followed yet in this change. -/
def followChannel (control choice : String) (state : State) (channel : Channel) : State :=
  if state.sync.inFlight.contains channel then state
  else
    let state := { state with sync.inFlight := state.sync.inFlight ++ [channel] }
    if choice.isEmpty then state
    else
      let other := channel.across control
      match state.sheet.chosen? other choice with
      | some option => state.setText other option
      | none =>
        let warning := ⟨control, other, choice⟩
        { state with sync.warnings := state.sync.warnings ++ [warning] }

/-- Follows the channels of a control, in order. -/
def followLinks (catalog : Catalog) (state : State) (control : String) : State :=
  let choice := (state.sheet.text? control).getD ""
  (catalog.channelsOf control).foldl (followChannel control choice) state

/-! ### The queue -/

/-- Carries the change of one control to those next to it. -/
def visit (catalog : Catalog) (origin control : String) (sync : Sync) (sheet : Sheet) : State :=
  let state : State := ⟨sync, sheet, []⟩
  let state := match catalog.control? control with
    | some entry =>
      match entry.kind with
      | .select _ (some echo) => echoChoice state control echo
      | .checkbox _ amount _ =>
        let state := enforceExclusion catalog state entry
        match amount with
        | some amount => followAmount state control amount
        | none => state
      | _ => state
    | none => state
  if control == origin then followLinks catalog state control else state

/-- A change that is being carried: the controls that wait, and those touched so far. -/
structure Wave where
  sync : Sync
  sheet : Sheet
  queue : List String
  touched : List String

/-- The controls with one more, unless it is among them. -/
def touch (touched : List String) (name : String) : List String :=
  if touched.contains name then touched else touched ++ [name]

/-- Takes controls from the queue, at most as many as given, until none waits. -/
def drain (catalog : Catalog) (origin : String) : Nat → Wave → Wave
  | 0, wave => wave
  | bound + 1, wave =>
    match wave.queue with
    | [] => wave
    | control :: rest =>
      let state := visit catalog origin control wave.sync wave.sheet
      drain catalog origin bound
        { sync := state.sync
          sheet := state.sheet
          queue := rest ++ state.changed
          touched := state.changed.foldl touch wave.touched }

/-- How many controls can wait in one change. The changed control brings its linked selects and its
own derived controls into the queue, and each of those at most three more. -/
def bound (catalog : Catalog) : Nat := 1 + 4 * catalog.controls.length

/-- Carries the change of a control, and lists the controls touched, that one first. -/
def propagate (catalog : Catalog) (sync : Sync) (sheet : Sheet) (origin : String) : State :=
  let wave := drain catalog origin (bound catalog) ⟨sync, sheet, [origin], [origin]⟩
  ⟨{ wave.sync with inFlight := [] }, wave.sheet, wave.touched⟩

end Sync

end Questionnaire

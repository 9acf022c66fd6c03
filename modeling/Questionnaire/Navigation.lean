/-
This file moves a filling from section to section. Advancing follows the first jump whose answer
was given, or else goes to the next section; retreating undoes the last advance from the history,
whatever the answers are by then. The end of the form is left only by setting a state.
-/
import Questionnaire.Json.Decode
import Questionnaire.Sheet.Basic

namespace Questionnaire

/-- Where a filling is: in a section, or at the end. -/
inductive Position where
  | section (id : UInt32)
  | finish
  deriving DecidableEq, Repr

/-- What a step did. -/
inductive Transition where
  | moved (source target : Position)
  | unchanged
  deriving DecidableEq, Repr

/-- Whether a step reached the end. -/
def Transition.finishes : Transition → Bool
  | .moved _ .finish => true
  | _ => false

/-- A position and the sections from which it was reached, the last one first. -/
structure Navigation where
  current : Position
  history : List UInt32
  deriving DecidableEq, Repr

namespace Navigation

/-- The first section, reached from nowhere. -/
def start : Navigation := ⟨.section 1, []⟩

/-- The section of a position. -/
def sectionOf : Position → Option UInt32
  | .section id => some id
  | .finish => none

/-- Whether the end is reached. -/
def isFinished (navigation : Navigation) : Bool := navigation.current == .finish

/-- A section number moved into the range from one to the last section. -/
def clamp (last id : UInt32) : UInt32 := max 1 (min id (max last 1))

/-- A state from outside, with its position moved into the range of sections and what lies out of
range dropped from its history. -/
def normalized (navigation : Navigation) (last : UInt32) : Navigation :=
  { current := match navigation.current with
      | .section id => .section (clamp last id)
      | .finish => .finish
    history := navigation.history.filter fun id => 1 ≤ id && id ≤ max last 1 }

/-! ### Jumps -/

/-- Whether the answer to a jump's question is its trigger: of a checkbox group one checked box, of
any other question the answer as one text, if it is not empty. -/
def jumpApplies (catalog : Catalog) (sheet : Sheet) (jump : JumpRule) : Bool :=
  match catalog.question? jump.question with
  | none => false
  | some question =>
    if jump.kind = .checkboxGroup then
      (sheet.checkedValues question).any fun value => Answer.same value jump.trigger
    else
      let answer := sheet.answerText question
      !answer.isEmpty && Answer.same answer jump.trigger

/-- The section after a section; there is none after the greatest number. -/
def successor (id : UInt32) : UInt32 := if id.toNat + 1 = UInt32.size then id else id + 1

/-- Where advancing from a section leads: to the target of the first jump that applies and is
understood, or else to the next section, moved into the range of sections. -/
def nextFrom (catalog : Catalog) (sheet : Sheet) (current : UInt32) : Destination :=
  let jumps := (catalog.jumpsOf current).filter (jumpApplies catalog sheet)
  match (jumps.findSome? fun jump => jump.target.destination).getD
      (.section (successor current)) with
  | .section id => .section (clamp catalog.sectionCount id)
  | .finish => .finish

/-! ### Steps -/

/-- Leaves a section for a position. -/
def leave (navigation : Navigation) (current : UInt32) (target : Position) :
    Navigation × Transition :=
  (⟨target, current :: navigation.history⟩, .moved (.section current) target)

/-- Advances. A destination that is the section itself is no move. -/
def advance (navigation : Navigation) (catalog : Catalog) (sheet : Sheet) :
    Navigation × Transition :=
  match navigation.current with
  | .finish => (navigation, .unchanged)
  | .section current =>
    match nextFrom catalog sheet current with
    | .finish => navigation.leave current .finish
    | .section next =>
      if next = current then (navigation, .unchanged) else navigation.leave current (.section next)

/-- Goes back to where the last advance came from, or without one to the section before. -/
def retreat (navigation : Navigation) : Navigation × Transition :=
  match navigation.current with
  | .finish => (navigation, .unchanged)
  | .section current =>
    match navigation.history with
    | previous :: rest => (⟨.section previous, rest⟩, .moved (.section current) (.section previous))
    | [] =>
      if 1 < current then
        (⟨.section (current - 1), []⟩, .moved (.section current) (.section (current - 1)))
      else (navigation, .unchanged)

/-- Goes to a section, moved into the range of sections, and leaves the history as it is. -/
def goTo (navigation : Navigation) (catalog : Catalog) (id : UInt32) : Navigation × Transition :=
  if navigation.isFinished then (navigation, .unchanged)
  else
    let target : Position := .section (clamp catalog.sectionCount id)
    if target = navigation.current then (navigation, .unchanged)
    else ({ navigation with current := target }, .moved navigation.current target)

/-! ### Texts -/

open Json

/-- The JSON value of a position. -/
def encodePosition : Position → Json
  | .section id => .object [("section", .nat id.toNat)]
  | .finish => .text "end"

/-- The JSON value of a transition. -/
def encodeTransition : Transition → Json
  | .moved source target =>
    .object [("from", encodePosition source), ("kind", .text "moved"),
      ("to", encodePosition target)]
  | .unchanged => .object [("kind", .text "unchanged")]

/-- The JSON value of a state. Its history is written from the first section on. -/
def encode (navigation : Navigation) : Json :=
  .object [("current", encodePosition navigation.current),
    ("history", .array (navigation.history.reverse.map fun id => .nat id.toNat))]

/-- The words for the positions, and whether one of them has a section number with it. -/
def positionWords : List (String × Bool) := [("section", true), ("end", false)]

/-- Reads a position: the word for the end, or a section number after its word. -/
def decodePosition : Decoder Position
  | .text name => do
    if ← variantOf positionWords name then .error (.wrongType .unitVariant "newtype variant")
    else return .finish
  | .object ((name, content) :: rest) => do
    let position ←
      if ← variantOf positionWords name then (asWord32 content).map Position.section
      else match content with
        | .null => .ok .finish
        | other => .error (unfit "unit" other)
    if rest.isEmpty then return position else .error .expectedValue
  | .unreadable => .error .malformed
  | _ => .error .expectedValue

/-- The fields of a state. -/
def slots : List (Slot Navigation) :=
  [.required "current" decodePosition fun value record => { record with current := value },
    .defaulted "history" (asList asWord32) fun value record =>
      { record with history := value.reverse }]

/-- Reads a state. -/
def decode : Decoder Navigation := asRecord "struct NavigationState" slots start

end Navigation

end Questionnaire

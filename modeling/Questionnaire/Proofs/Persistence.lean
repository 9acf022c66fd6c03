/-
This file proves that what a host keeps of a session is read back as it was written. The exported
values are a map, whose names are all different; the history is written from the first section on
and turned around again. The position of every session that can be reached lies in the range of
sections, also where it came from a text of somebody else's making, so that nothing is moved when
the session goes on: the next call starts where the last one left off.
-/
import Questionnaire.Host.Service
import Questionnaire.Proofs.Position
import Questionnaire.Proofs.Record

namespace Questionnaire

open Json

variable {levels : Nat}

/-! ### Exported values -/

/-- Texts under names are all put into the map. -/
theorem decodeEntries_texts (pairs : List (String × String)) (map : NameMap String) :
    decodeEntries asText map (pairs.map fun pair => (pair.1, .text pair.2)) =
      .ok (pairs.foldl (fun map pair => map.insert pair.1 pair.2) map) := by
  induction pairs generalizing map with
  | nil => rfl
  | cons pair pairs inductionHypothesis => exact inductionHypothesis (map.insert pair.1 pair.2)

/-- The entries of a map make the map again. -/
theorem NameMap.ofList_entries {α : Type} (map : NameMap α) : ofList map.entries = map :=
  ext_get? fun name => get?_ofList map.entries map.nodup_names name

theorem Snapshot.decode_encode (snapshot : Snapshot) :
    Snapshot.decode (Snapshot.encode snapshot) = .ok snapshot := by
  show decodeEntries asText NameMap.empty (snapshot.entries.map fun entry =>
    (entry.1, .text entry.2)) = _
  rw [decodeEntries_texts]
  exact congrArg Except.ok snapshot.ofList_entries

theorem Snapshot.printable (snapshot : Snapshot) :
    Printable (levels + 1) (Snapshot.encode snapshot) :=
  .object fun member isMember => by
    obtain ⟨entry, -, rfl⟩ := List.mem_map.mp isMember
    exact .text entry.2

/-! ### Positions -/

namespace Navigation

theorem decodePosition_section {content : Json} {id : UInt32}
    (decodes : asWord32 content = .ok id) :
    decodePosition (.object [("section", content)]) = .ok (.section id) := by
  have isSection : variantOf positionWords "section" = .ok true := rfl
  rw [decodePosition, isSection]
  show ((asWord32 content).map Position.section).bind _ = _
  rw [decodes]
  rfl

theorem decodePosition_encodePosition (position : Position) :
    decodePosition (encodePosition position) = .ok position := by
  cases position with
  | finish => rfl
  | «section» id => exact decodePosition_section (asWord32_nat id)

theorem decode_encode (navigation : Navigation) : decode navigation.encode = .ok navigation := by
  have decodes : asList asWord32 (.array (navigation.history.reverse.map fun id =>
      .nat id.toNat)) = .ok navigation.history.reverse :=
    decodeAll_map fun id _ => asWord32_nat id
  have writes := (Writes.start slots start)
    |>.member "current" ⟨_, rfl⟩ (decodePosition_encodePosition navigation.current)
    |>.member "history" ⟨_, rfl⟩ decodes
  refine asRecord_of_writes _ writes (by decide) (by simp [slots, Slot.required, Slot.defaulted]) ?_
  show Navigation.mk navigation.current navigation.history.reverse.reverse = navigation
  rw [List.reverse_reverse]

theorem printable_position (position : Position) :
    Printable (levels + 1) (encodePosition position) := by
  cases position with
  | finish => exact .text "end"
  | «section» id => exact .object (printable_cons (printable_word id) printable_nil)

theorem printable (navigation : Navigation) : Printable (levels + 2) navigation.encode :=
  .object (printable_cons (printable_position navigation.current)
    (printable_cons (printable_array fun id _ => printable_word id) printable_nil))

end Navigation

/-! ### What is kept -/

/-- A text that starts with something else than a blank is not blank. -/
theorem Text.trim_of_head {text : String} {first : Char} {rest : List Char}
    (head : text.toList = first :: rest) (solid : isBlank first = false) :
    (trim text).isEmpty = false := by
  have kept : trimLeft text.toList = first :: rest := by
    rw [head, trimLeft, List.dropWhile_cons_of_neg (by simp [solid])]
  have some : trimList text.toList ≠ [] := by
    rw [trimList, kept, trimRight]
    intro none
    have blank := List.dropWhile_eq_nil_iff.mp (List.reverse_eq_nil_iff.mp none) first (by simp)
    rw [solid] at blank
    cases blank
  rw [trim, Bool.eq_false_iff]
  intro isEmpty
  exact some (by simpa using String.isEmpty_iff.mp isEmpty)

namespace Host

theorem Saved.decode_encode (saved : Saved) : decode saved.encode = .ok saved := by
  have writes := (Writes.start slots blank)
    |>.member "navigation" ⟨_, rfl⟩ saved.navigation.decode_encode
    |>.member "values" ⟨_, rfl⟩ (Snapshot.decode_encode saved.values)
  exact asRecord_of_writes _ writes (by decide) (by simp [slots, Slot.defaulted]) rfl

theorem Saved.printable (saved : Saved) : Printable (levels + 3) saved.encode :=
  .object (printable_cons saved.navigation.printable
    (printable_cons (Snapshot.printable saved.values) printable_nil))

/-- What is kept is read back from its text. -/
theorem Saved.ofSource_encode (saved : Saved) : ofSource saved.encode.compact = .ok saved := by
  have head : saved.encode.compact.toList = print saved.encode := String.toList_ofList
  have printable : Printable greatestDepth saved.encode := saved.printable
  unfold ofSource decodeSource
  rw [Text.trim_of_head head rfl, read?_compact printable]
  simp only [Bool.false_eq_true, if_false]
  rw [saved.decode_encode]

/-! ### From call to call -/

/-- The sessions that can be reached: new ones, those that go on from a text, and what operations
make of them. -/
inductive Reached (catalog : Catalog) : Session → Prop where
  | start : Reached catalog (Session.start catalog)
  | resumed {state : String} {session : Session} (goesOn : resumed catalog state = .ok session) :
    Reached catalog session
  | performed {session : Session} (reached : Reached catalog session) (operation : Operation) :
    Reached catalog (session.perform operation)

/-- A session that goes on from a text is one that goes on from what the text says. -/
theorem exists_saved_of_resumed {catalog : Catalog} {state : String} {session : Session}
    (goesOn : resumed catalog state = .ok session) :
    ∃ saved, Saved.ofSource state = .ok saved ∧ saved.resume catalog = session := by
  unfold resumed at goesOn
  cases read : Saved.ofSource state with
  | error reason => rw [read] at goesOn; cases goesOn
  | ok saved => rw [read] at goesOn; cases goesOn; exact ⟨saved, rfl, rfl⟩

/-- Every session that can be reached is one of the form, at a position in the range of sections. -/
theorem inRange_of_reached {catalog : Catalog} {session : Session}
    (reached : Reached catalog session) :
    session.catalog = catalog ∧ session.navigation.InRange catalog.sectionCount := by
  induction reached with
  | start => exact ⟨rfl, Navigation.inRange_start _⟩
  | resumed goesOn =>
    obtain ⟨saved, -, rfl⟩ := exists_saved_of_resumed goesOn
    exact ⟨rfl, Navigation.inRange_normalized saved.navigation _⟩
  | performed reached operation inductionHypothesis =>
    obtain ⟨same, inRange⟩ := inductionHypothesis
    subst same
    exact ⟨Session.catalog_perform _ operation, Session.inRange_perform inRange operation⟩

/-- What is kept of a session is read back as its exported values and its position, nothing of the
position is out of range, and the next call goes on from there. -/
theorem state_round_trips {catalog : Catalog} {session : Session}
    (reached : Reached catalog session) :
    Saved.ofSource (Saved.ofSession session).encode.compact =
      .ok ⟨session.snapshot, session.navigation⟩ ∧
    session.navigation.normalized catalog.sectionCount = session.navigation ∧
    ∃ next, resumed catalog (Saved.ofSession session).encode.compact = .ok next ∧
      next.navigation = session.navigation := by
  have read := (Saved.ofSession session).ofSource_encode
  have stays := (inRange_of_reached reached).2.normalized_eq_self
  refine ⟨read, stays, (Saved.ofSession session).resume catalog, ?_, stays⟩
  unfold resumed
  rw [read]
  rfl

/-- A state with a section that the form does not have, in its position and in its history. -/
def strayState : Saved := ⟨NameMap.empty, ⟨.section 9, [9, 2, 0]⟩⟩

/-- The stray state is moved into the form, and what it becomes there is kept up to the end. -/
theorem state_round_trips_of_stray :
    let resumed := strayState.resume Session.journeyCatalog
    let session := ((resumed.perform (.setValue "route" "Stop")).perform (.goTo 1)).perform .advance
    resumed.navigation = ⟨.section 3, [2]⟩ ∧ session.navigation = ⟨.finish, [1, 2]⟩ ∧
    Saved.ofSource (Saved.ofSession session).encode.compact =
      .ok ⟨session.snapshot, ⟨.finish, [1, 2]⟩⟩ := by
  intro stray session
  have goesOn : resumed Session.journeyCatalog strayState.encode.compact = .ok stray := by
    unfold resumed
    rw [strayState.ofSource_encode]
    rfl
  have atEnd : session.navigation = ⟨.finish, [1, 2]⟩ := by decide +kernel
  obtain ⟨read, -⟩ := state_round_trips (((Reached.resumed goesOn).performed
    (.setValue "route" "Stop")).performed (.goTo 1) |>.performed .advance)
  exact ⟨by decide +kernel, atEnd, atEnd ▸ read⟩

end Host

end Questionnaire

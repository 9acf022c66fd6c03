/-
This file proves that the report of an edit loses nothing. An edit that is refused, or that finds
what it would write, leaves the session as it is. Any other edit reports the edited control first
and no control twice among those that it touched, and whatever another control holds afterwards, or
that it came or went, is reported as touched or as recalculated.
-/
import Questionnaire.Proofs.Run

namespace Questionnaire

namespace Sync

variable {catalog : Catalog}

/-! ### The order of touched controls -/

/-- A touched list that grows keeps its first control, and lists no control twice. -/
theorem foldl_touch_keeps {origin : String} {touched : List String} (names : List String)
    (first : touched.head? = some origin) (once : touched.Nodup) :
    (names.foldl touch touched).head? = some origin ∧ (names.foldl touch touched).Nodup := by
  induction names generalizing touched with
  | nil => exact ⟨first, once⟩
  | cons name rest inductionHypothesis =>
    rw [List.foldl_cons]
    unfold touch
    split
    next => exact inductionHypothesis first once
    next absent =>
      refine inductionHypothesis ?_ ?_
      · rw [List.head?_append, first, Option.some_or]
      · rw [List.contains_iff_mem] at absent
        exact once.append (List.nodup_singleton name) (by simpa using absent)

/-- The changed control is the first of those touched, and none is listed twice. -/
theorem touched_propagate (wellFormed : catalog.WellFormed) {sync : Sync} {sheet : Sheet}
    (owned : Owned catalog sync.derived sheet) (origin : String) :
    (propagate catalog sync sheet origin).changed.head? = some origin ∧
      (propagate catalog sync sheet origin).changed.Nodup := by
  refine (propagate_induction wellFormed owned origin
    (fun wave => wave.touched.head? = some origin ∧ wave.touched.Nodup)
    ⟨rfl, List.nodup_singleton origin⟩ ?_).2
  rintro wave control rest - - ⟨first, once⟩
  exact foldl_touch_keeps _ first once

end Sync

namespace Session

variable {catalog : Catalog}

/-! ### Reports -/

/-- What a report has to say of an edit that leads from one session to another. -/
structure Accounts (control : String) (before after : Session) (report : ChangeReport) : Prop where
  unchanged : report.changed = false → after = before
  first : report.changed = true → report.touched.head? = some control
  once : report.touched.Nodup
  listed : ∀ name, before.sheet.content? name ≠ after.sheet.content? name →
    name ∈ report.touched ∨ name ∈ report.recalculated

theorem accounts_nothing (control : String) (session : Session) :
    Accounts control session session .nothing where
  unchanged _ := rfl
  first changed := by cases changed
  once := List.nodup_nil
  listed name different := absurd rfl different

/-- Carrying a change reports everything in which the sheets differ. -/
theorem IsOwned.accounts_carry {session : Session} (owned : session.IsOwned)
    (wellFormed : session.catalog.WellFormed) {control : String} {result : Sheet × Bool}
    (written : Sheet.Write session.sheet control result) :
    Accounts control session (session.carry result.1 control).1
      (session.carry result.1 control).2 := by
  have ownedWritten := owned.refilled written.refilled
  obtain ⟨first, once⟩ := Sync.touched_propagate wellFormed ownedWritten control
  have touched := Sync.agreeOff_propagate_write wellFormed owned written
  unfold Session.carry
  simp only
  split
  next =>
    refine ⟨nofun, fun _ => first, once, fun name different => ?_⟩
    by_contra unlisted
    rw [not_or] at unlisted
    refine different ((touched name unlisted.1).trans ?_)
    exact Sheet.agreeOff_derivation_run _ _ _ name unlisted.2
  next =>
    refine ⟨nofun, fun _ => first, once, fun name different => ?_⟩
    by_contra unlisted
    rw [not_or] at unlisted
    exact different (touched name unlisted.1)

theorem IsOwned.accounts_afterWrite {session : Session} (owned : session.IsOwned)
    (wellFormed : session.catalog.WellFormed) {control : String} {result : Sheet × Bool}
    (written : Sheet.Write session.sheet control result) :
    Accounts control session (session.afterWrite control result).1
      (session.afterWrite control result).2 := by
  unfold afterWrite
  split
  next => exact owned.accounts_carry wellFormed written
  next => exact accounts_nothing control session

/-- Either edit is one write, which is carried if it changed anything. -/
theorem exists_write_of_edit {session : Session} {control : String}
    {result : Except Fault (Session × ChangeReport)}
    (isEdit : (∃ text, result = session.setValue control text) ∨
      ∃ checked, result = session.setChecked control checked) :
    ∃ written : Except Fault (Sheet × Bool), result = written.map (session.afterWrite control) ∧
      ∀ pair, written = .ok pair → Sheet.Write session.sheet control pair := by
  rcases isEdit with ⟨text, rfl⟩ | ⟨checked, rfl⟩
  · exact ⟨session.writeText control text, rfl, fun _ => write_of_writeText⟩
  · exact ⟨session.sheet.setChecked control checked, rfl, fun _ => Sheet.write_of_setChecked⟩

/-- In every session that a run reaches, an edit that is refused leaves the session as it is; and
the report of any other one says whether it changed anything, starts with the edited control, lists
no touched control twice, and lists every control that came, went or holds something else. -/
theorem reports_of_run {form : Form} (built : Catalog.build form = .ok catalog)
    (operations : List Operation) (control : String) :
    let session := run catalog operations
    ∀ result, (∃ text, result = session.setValue control text) ∨
      (∃ checked, result = session.setChecked control checked) →
        (∀ fault, result = .error fault → session.settle result = session) ∧
        ∀ after report, result = .ok (after, report) → Accounts control session after report := by
  have wellFormed := Catalog.wellFormed_of_build built
  obtain ⟨same, owned⟩ := (kept_isOwned wellFormed).run operations
  intro session result isEdit
  have sessionFormed : session.catalog.WellFormed := same ▸ wellFormed
  obtain ⟨written, rfl, isWrite⟩ := exists_write_of_edit isEdit
  cases written with
  | error fault => exact ⟨fun _ _ => rfl, nofun⟩
  | ok pair =>
    refine ⟨nofun, fun after report equal => ?_⟩
    have accounts := IsOwned.accounts_afterWrite owned sessionFormed (isWrite pair rfl)
    rwa [show session.afterWrite control pair = (after, report) from Except.ok.inj equal]
      at accounts

/-- Checking the box that excludes another one touches the other one and its amount, which is
emptied, and recalculates what counts on it. -/
theorem reports_of_exclusion :
    let session := run surveyCatalog [.setChecked "pets_dog" true, .setValue "pets_dog_amount" "5"]
    ∃ after report, session.setChecked "pets_none" true = .ok (after, report) ∧
      report.touched = ["pets_none", "pets_dog", "pets_dog_amount"] ∧
      report.recalculated = ["many"] ∧ Accounts "pets_none" session after report := by
  have isOk : ((run surveyCatalog [.setChecked "pets_dog" true,
      .setValue "pets_dog_amount" "5"]).setChecked "pets_none" true).toOption.isSome = true := by
    decide +kernel
  have edited := Catalog.eq_ok_get isOk
  refine ⟨_, _, edited, by decide +kernel, by decide +kernel, ?_⟩
  exact (reports_of_run build_survey
    [.setChecked "pets_dog" true, .setValue "pets_dog_amount" "5"] "pets_none" _
    (.inr ⟨true, rfl⟩)).2 _ _ edited

end Session

end Questionnaire

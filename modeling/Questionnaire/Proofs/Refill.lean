/-
This file compares sheets before and after writes. Writes refill a sheet: every entry stays where it
is, hidden or not as it was, and holds content of its kind. And they differ at most at the controls
that they report. Both are shown of single writes first, then of exported values and calculations,
which are nothing but writes.
-/
import Questionnaire.Derivation
import Questionnaire.Proofs.Sheet
import Questionnaire.Session

namespace Questionnaire.Sheet

/-! ### Refilled sheets -/

/-- What writes make of a sheet. -/
structure Refilled (before after : Sheet) : Prop where
  entry : ∀ name entry, before.get? name = some entry →
    ∃ content, after.get? name = some { entry with content } ∧ entry.content.Refills content
  absent : ∀ name, before.get? name = none → after.get? name = none

theorem Refilled.refl (sheet : Sheet) : Refilled sheet sheet :=
  ⟨fun _ entry present => ⟨entry.content, present, .refl _⟩, fun _ absent => absent⟩

theorem Refilled.trans {first second third : Sheet} (before : Refilled first second)
    (after : Refilled second third) : Refilled first third where
  entry name entry present := by
    obtain ⟨content, found, refills⟩ := before.entry name entry present
    obtain ⟨last, lastFound, lastRefills⟩ := after.entry name _ found
    exact ⟨last, lastFound, refills.trans lastRefills⟩
  absent name absent := after.absent name (before.absent name absent)

/-- What an entry was before. -/
theorem Refilled.exists_old {before after : Sheet} (refilled : Refilled before after)
    {name : String} {entry : Entry} (found : after.get? name = some entry) :
    ∃ old content, before.get? name = some old ∧ entry = { old with content } ∧
      old.content.Refills content := by
  cases present : before.get? name with
  | none =>
    rw [refilled.absent name present] at found
    cases found
  | some old =>
    obtain ⟨content, refound, refills⟩ := refilled.entry name old present
    rw [found] at refound
    exact ⟨old, content, rfl, Option.some.inj refound, refills⟩

theorem Refilled.contains {before after : Sheet} (refilled : Refilled before after)
    (name : String) : after.contains name = before.contains name := by
  unfold NameMap.contains
  cases present : before.get? name with
  | none => rw [refilled.absent name present]
  | some entry =>
    obtain ⟨content, found, -⟩ := refilled.entry name entry present
    rw [found]
    rfl

theorem Refilled.isHidden {before after : Sheet} (refilled : Refilled before after)
    (name : String) : after.isHidden name = before.isHidden name := by
  unfold Sheet.isHidden
  cases present : before.get? name with
  | none => rw [refilled.absent name present]
  | some entry =>
    obtain ⟨content, found, -⟩ := refilled.entry name entry present
    rw [found]
    rfl

theorem refilled_put {sheet : Sheet} {name : String} {entry : Entry} {content : Content}
    (present : sheet.get? name = some entry) (refills : entry.content.Refills content) :
    Refilled sheet (sheet.put name entry content).1 where
  entry other otherEntry otherPresent := by
    rw [get?_put present]
    split
    next equal =>
      subst equal
      rw [present] at otherPresent
      cases otherPresent
      exact ⟨content, rfl, refills⟩
    next => exact ⟨otherEntry.content, otherPresent, .refl _⟩
  absent other absent := by
    rw [get?_put present]
    split
    next equal => subst equal; rw [present] at absent; cases absent
    next => exact absent

/-! ### Sheets that agree -/

/-- Sheets with the same content under every name that is not listed. -/
def AgreeOff (names : List String) (first second : Sheet) : Prop :=
  ∀ name, name ∉ names → first.content? name = second.content? name

theorem AgreeOff.refl (names : List String) (sheet : Sheet) : AgreeOff names sheet sheet :=
  fun _ _ => rfl

theorem AgreeOff.trans {names more : List String} {first second third : Sheet}
    (before : AgreeOff names first second) (after : AgreeOff more second third) :
    AgreeOff (names ++ more) first third := by
  intro name unlisted
  rw [List.mem_append, not_or] at unlisted
  exact (before name unlisted.1).trans (after name unlisted.2)

theorem AgreeOff.mono {names more : List String} {first second : Sheet}
    (agree : AgreeOff names first second) (subset : names ⊆ more) : AgreeOff more first second :=
  fun name unlisted => agree name fun member => unlisted (subset member)

/-- What a write reports: the control it writes, if that changed. -/
def reported (name : String) (changed : Bool) : List String := if changed then [name] else []

theorem eq_of_mem_reported {name other : String} {changed : Bool}
    (member : other ∈ reported name changed) : other = name := by
  cases changed with
  | false => cases member
  | true => exact List.mem_singleton.mp member

theorem agreeOff_put {sheet : Sheet} {name : String} {entry : Entry} {content : Content}
    (present : sheet.get? name = some entry) :
    AgreeOff (reported name (sheet.put name entry content).2) sheet
      (sheet.put name entry content).1 := by
  intro other unlisted
  cases changed : (sheet.put name entry content).2 with
  | false => rw [put_fst_of_not_snd changed]
  | true =>
    rw [changed] at unlisted
    rw [content?_eq, content?_eq, get?_put present, if_neg]
    exact fun equal => unlisted (List.mem_singleton.mpr equal.symm)

/-! ### Writes -/

/-- A write: it puts content of the same kind into an entry, or does nothing. -/
inductive Write (sheet : Sheet) (name : String) : Sheet × Bool → Prop where
  | put {entry : Entry} {content : Content} (present : sheet.get? name = some entry)
      (refills : entry.content.Refills content) : Write sheet name (sheet.put name entry content)
  | nothing : Write sheet name (sheet, false)

theorem Write.refilled {sheet : Sheet} {name : String} {result : Sheet × Bool}
    (write : Write sheet name result) : Refilled sheet result.1 := by
  cases write with
  | put present refills => exact refilled_put present refills
  | nothing => exact .refl sheet

theorem Write.agreeOff {sheet : Sheet} {name : String} {result : Sheet × Bool}
    (write : Write sheet name result) : AgreeOff (reported name result.2) sheet result.1 := by
  cases write with
  | put present refills => exact agreeOff_put present
  | nothing => exact .refl _ sheet

/-- A write that reports no change makes none. -/
theorem Write.eq_of_not_snd {sheet : Sheet} {name : String} {result : Sheet × Bool}
    (write : Write sheet name result) (unchanged : result.2 = false) : result.1 = sheet := by
  cases write with
  | put present refills => exact put_fst_of_not_snd unchanged
  | nothing => rfl

theorem write_of_setText {sheet : Sheet} {name text : String} {result : Sheet × Bool}
    (written : sheet.setText name text = .ok result) : Write sheet name result := by
  obtain ⟨entry, content, present, takes, rfl⟩ := setText_eq_ok written
  exact .put present (Content.refills_withText? takes)

theorem write_of_setChecked {sheet : Sheet} {name : String} {checked : Bool}
    {result : Sheet × Bool} (written : sheet.setChecked name checked = .ok result) :
    Write sheet name result := by
  obtain ⟨entry, content, present, takes, rfl⟩ := setChecked_eq_ok written
  exact .put present (Content.refills_withCheck? takes)

theorem write_clear (sheet : Sheet) (name : String) : Write sheet name (sheet.clear name) := by
  unfold clear
  split
  next => exact .nothing
  next entry present => exact .put present (Content.refills_cleared _)

theorem write_derivation (sheet : Sheet) (target : String) (outcome : Outcome) (total : Float) :
    Write sheet target (Derivation.write sheet target outcome total) := by
  unfold Derivation.write
  cases sheet.checked? target with
  | none =>
    simp only
    cases written : sheet.setText target (outcome.render total) with
    | error fault => exact .nothing
    | ok result => exact write_of_setText written
  | some checked =>
    simp only
    cases written : sheet.setChecked target (Derivation.flag outcome total) with
    | error fault => exact .nothing
    | ok result => exact write_of_setChecked written

/-! ### Exported values -/

theorem refilled_applyExported (sheet : Sheet) (name value : String) :
    Refilled sheet (sheet.applyExported name value).1 := by
  unfold applyExported
  cases sheet.content? name with
  | none => exact .refl sheet
  | some content =>
    cases content with
    | text words =>
      simp only
      cases written : sheet.setText name value with
      | error fault => exact .refl sheet
      | ok result => exact (write_of_setText written).refilled
    | select choice options =>
      simp only
      cases written : sheet.setText name value with
      | error fault => exact .refl sheet
      | ok result => exact (write_of_setText written).refilled
    | checkbox checked boxValue =>
      simp only
      cases written : sheet.setChecked name (Answer.isYes value) with
      | error fault => exact .refl sheet
      | ok result => exact (write_of_setChecked written).refilled

/-- A sheet, and the names refused so far, after one more exported value. -/
def applyNext (state : Sheet × List String) (entry : String × String) : Sheet × List String :=
  match state.1.applyExported entry.1 entry.2 with
  | (sheet, true) => (sheet, state.2)
  | (sheet, false) => (sheet, state.2 ++ [entry.1])

theorem applyAll_eq (sheet : Sheet) (snapshot : Snapshot) :
    Session.applyAll sheet snapshot = snapshot.entries.foldl applyNext (sheet, []) := rfl

theorem applyNext_fst (state : Sheet × List String) (entry : String × String) :
    (applyNext state entry).1 = (state.1.applyExported entry.1 entry.2).1 := by
  unfold applyNext
  split
  next equal => rw [equal]
  next equal => rw [equal]

theorem refilled_foldl_applyNext (entries : List (String × String))
    (state : Sheet × List String) : Refilled state.1 (entries.foldl applyNext state).1 := by
  induction entries generalizing state with
  | nil => exact .refl state.1
  | cons head rest inductionHypothesis =>
    have applied := refilled_applyExported state.1 head.1 head.2
    rw [← applyNext_fst] at applied
    exact applied.trans (inductionHypothesis _)

theorem refilled_applyAll (sheet : Sheet) (snapshot : Snapshot) :
    Refilled sheet (Session.applyAll sheet snapshot).1 :=
  applyAll_eq sheet snapshot ▸ refilled_foldl_applyNext snapshot.entries (sheet, [])

/-! ### Calculations -/

/-- What computing one target makes of a sheet, and whether that changed it. -/
def attempt (tiers : Tiers) (catalog : Catalog) (sheet : Sheet) (target : CalculationTarget) :
    Sheet × Bool :=
  if !sheet.contains target.target then (sheet, false)
  else
    match Derivation.decide? tiers catalog sheet target with
    | none => (sheet, false)
    | some (outcome, total) => Derivation.write sheet target.target outcome total

theorem write_attempt (tiers : Tiers) (catalog : Catalog) (sheet : Sheet)
    (target : CalculationTarget) :
    Write sheet target.target (attempt tiers catalog sheet target) := by
  unfold attempt
  split
  next => exact .nothing
  next =>
    split
    next => exact .nothing
    next outcome total _ => exact write_derivation sheet target.target outcome total

theorem derivation_step (tiers : Tiers) (catalog : Catalog) (state : Sheet × List String)
    (target : CalculationTarget) :
    Derivation.step tiers catalog state target =
      ((attempt tiers catalog state.1 target).1,
        state.2 ++ reported target.target (attempt tiers catalog state.1 target).2) := by
  obtain ⟨sheet, changed⟩ := state
  unfold Derivation.step attempt
  simp only
  split
  next => simp [reported]
  next =>
    cases Derivation.decide? tiers catalog sheet target with
    | none => simp [reported]
    | some decision =>
      obtain ⟨outcome, total⟩ := decision
      simp only
      split
      next equal => rw [equal]; rfl
      next equal => rw [equal]; simp [reported]

/-- Calculations refill the sheet, and differ from it only at the targets they list. -/
theorem derivation_foldl (tiers : Tiers) (catalog : Catalog) (targets : List CalculationTarget)
    (state : Sheet × List String) :
    Refilled state.1 (targets.foldl (Derivation.step tiers catalog) state).1 ∧
      ∃ more, (targets.foldl (Derivation.step tiers catalog) state).2 = state.2 ++ more ∧
        AgreeOff more state.1 (targets.foldl (Derivation.step tiers catalog) state).1 := by
  induction targets generalizing state with
  | nil => exact ⟨.refl state.1, [], by simp, .refl _ _⟩
  | cons target rest inductionHypothesis =>
    have write := write_attempt tiers catalog state.1 target
    rw [List.foldl_cons, derivation_step]
    obtain ⟨refilled, more, listed, agree⟩ := inductionHypothesis (_, state.2 ++ reported _ _)
    refine ⟨write.refilled.trans refilled, reported _ _ ++ more, ?_, write.agreeOff.trans agree⟩
    rw [listed, List.append_assoc]

theorem refilled_derivation_run (tiers : Tiers) (catalog : Catalog) (sheet : Sheet) :
    Refilled sheet (Derivation.run tiers catalog sheet).1 :=
  (derivation_foldl tiers catalog catalog.calculations (sheet, [])).1

theorem agreeOff_derivation_run (tiers : Tiers) (catalog : Catalog) (sheet : Sheet) :
    AgreeOff (Derivation.run tiers catalog sheet).2 sheet
      (Derivation.run tiers catalog sheet).1 := by
  obtain ⟨more, listed, agree⟩ :=
    (derivation_foldl tiers catalog catalog.calculations (sheet, [])).2
  unfold Derivation.run
  rw [listed, List.nil_append]
  exact agree

end Questionnaire.Sheet

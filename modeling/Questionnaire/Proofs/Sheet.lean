/-
This file says what a write does to a sheet. A write finds an entry and puts content of the same
kind into it; it reports a change exactly when the content is another one, and no other entry is
touched.
-/
import Questionnaire.Proofs.Answer
import Questionnaire.Sheet.Basic

namespace Questionnaire

namespace Content

/-! ### Contents of one kind -/

/-- A select holds nothing or an option that chooses itself. -/
def IsChosen : Content → Prop
  | .select choice options => choice = "" ∨ Answer.option? options choice = some choice
  | _ => True

/-- Content that may take the place of other content: of the same kind with the same options or
value, and chosen from the options. -/
structure Refills (old new : Content) : Prop where
  cleared : new.cleared = old.cleared
  isChosen : old.IsChosen → new.IsChosen

theorem Refills.refl (content : Content) : content.Refills content := ⟨rfl, id⟩

theorem Refills.trans {first second third : Content} (before : first.Refills second)
    (after : second.Refills third) : first.Refills third :=
  ⟨after.cleared.trans before.cleared, after.isChosen ∘ before.isChosen⟩

/-- The content with a text written to it, if it takes the text. -/
def withText? (text : String) : Content → Option Content
  | .text _ => some (.text text)
  | .select _ options =>
    if text.isEmpty then some (.select "" options)
    else (Answer.option? options text).map fun option => .select option options
  | .checkbox _ _ => none

/-- The content of a box checked or unchecked. -/
def withCheck? (checked : Bool) : Content → Option Content
  | .checkbox _ value => some (.checkbox checked value)
  | _ => none

theorem refills_withText? {text : String} {old new : Content}
    (written : old.withText? text = some new) : old.Refills new := by
  cases old with
  | text _ => cases written; exact ⟨rfl, id⟩
  | select choice options =>
    rw [withText?] at written
    split at written
    · cases written; exact ⟨rfl, fun _ => .inl rfl⟩
    · obtain ⟨option, chosen, rfl⟩ := Option.map_eq_some_iff.mp written
      exact ⟨rfl, fun _ => .inr (Answer.option?_self chosen)⟩
  | checkbox _ _ => cases written

theorem refills_withCheck? {checked : Bool} {old new : Content}
    (written : old.withCheck? checked = some new) : old.Refills new := by
  cases old with
  | text _ => cases written
  | select _ _ => cases written
  | checkbox _ value => cases written; exact ⟨rfl, id⟩

theorem refills_cleared (content : Content) : content.Refills content.cleared := by
  cases content with
  | text _ => exact ⟨rfl, id⟩
  | select _ options => exact ⟨rfl, fun _ => .inl rfl⟩
  | checkbox _ value => exact ⟨rfl, id⟩

end Content

namespace Sheet

/-! ### Single writes -/

theorem content?_eq (sheet : Sheet) (name : String) :
    sheet.content? name = (sheet.get? name).map (·.content) := rfl

/-- Whether a box is checked is read off what its entry holds. -/
theorem checked?_congr {first second : Sheet} {name : String}
    (same : first.content? name = second.content? name) :
    first.checked? name = second.checked? name := by
  unfold checked?
  rw [same]

/-- So is the text of a control, and the option of a select that a text chooses. -/
theorem text?_congr {first second : Sheet} {name : String}
    (same : first.content? name = second.content? name) :
    first.text? name = second.text? name := by
  unfold text?
  rw [same]

theorem chosen?_congr {first second : Sheet} {name : String}
    (same : first.content? name = second.content? name) (text : String) :
    first.chosen? name text = second.chosen? name text := by
  unfold chosen? options?
  rw [same]

theorem get?_snapshot (sheet : Sheet) (name : String) :
    sheet.snapshot.get? name = (sheet.content? name).map Content.exported := by
  unfold snapshot
  rw [NameMap.get?_mapValues, content?_eq, Option.map_map]
  rfl

theorem contains_eq_isSome_content? (sheet : Sheet) (name : String) :
    sheet.contains name = (sheet.content? name).isSome := by
  rw [content?_eq, Option.isSome_map]
  rfl

/-- What is found after content was put into an entry. -/
theorem get?_put {sheet : Sheet} {name : String} {entry : Entry}
    (present : sheet.get? name = some entry) (content : Content) (other : String) :
    (sheet.put name entry content).1.get? other =
      if name = other then some { entry with content } else sheet.get? other := by
  unfold put
  split
  next same =>
    split
    next equal => subst equal; rw [present, ← same]
    next => rfl
  next => exact NameMap.get?_insert sheet name other _

theorem put_snd (sheet : Sheet) (name : String) (entry : Entry) (content : Content) :
    (sheet.put name entry content).2 = !decide (entry.content = content) := by
  unfold put
  split
  next same => simp [same]
  next different => simp [different]

/-- Putting in what is there changes nothing. -/
theorem put_eq_self {sheet : Sheet} {name : String} {entry : Entry} {content : Content}
    (same : entry.content = content) : sheet.put name entry content = (sheet, false) :=
  if_pos same

/-- A put that reports no change makes none. -/
theorem put_fst_of_not_snd {sheet : Sheet} {name : String} {entry : Entry} {content : Content}
    (unchanged : (sheet.put name entry content).2 = false) :
    (sheet.put name entry content).1 = sheet := by
  unfold put at unchanged ⊢
  split at unchanged
  next same => rw [if_pos same]
  next => cases unchanged

theorem setText_eq_ok {sheet : Sheet} {name text : String} {result : Sheet × Bool}
    (written : sheet.setText name text = .ok result) :
    ∃ entry content, sheet.get? name = some entry ∧
      entry.content.withText? text = some content ∧ result = sheet.put name entry content := by
  unfold setText at written
  split at written
  next => cases written
  next entry present =>
    split at written
    next old holds =>
      cases written
      exact ⟨entry, .text text, present, by rw [holds]; rfl, rfl⟩
    next choice options holds =>
      split at written
      next empty =>
        cases written
        exact ⟨entry, _, present, by rw [holds, Content.withText?, if_pos empty], rfl⟩
      next notEmpty =>
        split at written
        next option chosen =>
          cases written
          exact ⟨entry, _, present,
            by rw [holds, Content.withText?, if_neg notEmpty, chosen]; rfl, rfl⟩
        next => cases written
    next => cases written

theorem setText_of_withText? {sheet : Sheet} {name text : String} {entry : Entry}
    {content : Content} (present : sheet.get? name = some entry)
    (takes : entry.content.withText? text = some content) :
    sheet.setText name text = .ok (sheet.put name entry content) := by
  unfold setText
  rw [present]
  cases holds : entry.content with
  | text old =>
    rw [holds] at takes
    cases takes
    simp only [holds]
  | select choice options =>
    rw [holds, Content.withText?] at takes
    simp only [holds]
    split at takes
    next empty => rw [if_pos empty]; cases takes; rfl
    next notEmpty =>
      obtain ⟨option, chosen, rfl⟩ := Option.map_eq_some_iff.mp takes
      rw [if_neg notEmpty, chosen]
  | checkbox _ _ => rw [holds] at takes; cases takes

theorem setChecked_eq_ok {sheet : Sheet} {name : String} {checked : Bool}
    {result : Sheet × Bool} (written : sheet.setChecked name checked = .ok result) :
    ∃ entry content, sheet.get? name = some entry ∧
      entry.content.withCheck? checked = some content ∧
        result = sheet.put name entry content := by
  unfold setChecked at written
  split at written
  next => cases written
  next entry present =>
    split at written
    next old value holds =>
      cases written
      exact ⟨entry, _, present, by rw [holds]; rfl, rfl⟩
    next => cases written

theorem setChecked_of_withCheck? {sheet : Sheet} {name : String} {checked : Bool} {entry : Entry}
    {content : Content} (present : sheet.get? name = some entry)
    (takes : entry.content.withCheck? checked = some content) :
    sheet.setChecked name checked = .ok (sheet.put name entry content) := by
  unfold setChecked
  rw [present]
  cases holds : entry.content with
  | text _ => rw [holds] at takes; cases takes
  | select _ _ => rw [holds] at takes; cases takes
  | checkbox old value => rw [holds] at takes; cases takes; simp only [holds]

/-! ### Hiding and emptying -/

/-- What is found after a control was hidden or shown. -/
theorem get?_setHidden (sheet : Sheet) (name other : String) (hidden : Bool) :
    (sheet.setHidden name hidden).1.get? other =
      if name = other then (sheet.get? other).map fun entry => { entry with hidden }
      else sheet.get? other := by
  unfold setHidden
  split
  next absent =>
    split
    next equal => rw [← equal, absent]; rfl
    next => rfl
  next entry present =>
    split
    next same =>
      split
      next equal => rw [← equal, present, Option.map_some, ← same]
      next => rfl
    next =>
      rw [NameMap.get?_insert]
      split
      next equal => rw [← equal, present, Option.map_some]
      next => rfl

/-- What is found after a control was emptied. -/
theorem get?_clear (sheet : Sheet) (name other : String) :
    (sheet.clear name).1.get? other =
      if name = other then
        (sheet.get? other).map fun entry => { entry with content := entry.content.cleared }
      else sheet.get? other := by
  unfold clear
  split
  next absent =>
    split
    next equal => rw [← equal, absent]; rfl
    next => rfl
  next entry present =>
    rw [get?_put present]
    split
    next equal => rw [← equal, present, Option.map_some]
    next => rfl

end Sheet

end Questionnaire

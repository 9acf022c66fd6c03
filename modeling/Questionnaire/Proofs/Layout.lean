/-
This file proves what the layout of a form keeps to. No two controls of a form have the same name,
and the controls that go together name each other: a select with an echo and that echo, a checkbox
with an amount and that amount. The names are shown different from those that are taken already,
step by step, as the layout takes them.
-/
import Questionnaire.Answer
import Questionnaire.Catalog.Build
import Questionnaire.Proofs.FreshName

namespace Questionnaire

/-- The echo of a select that has one. -/
def Control.echo? (control : Control) : Option String :=
  match control.kind with
  | .select _ echo => echo
  | _ => none

theorem Control.echo?_of_kind {control : Control} {options : List String} {echo : String}
    (kind : control.kind = .select options (some echo)) : control.echo? = some echo := by
  unfold echo?
  rw [kind]

namespace Layout

open FreshName (fresh fresh_not_mem)

/-! ### Untaken names -/

/-- Controls whose names differ from each other and from the taken ones. -/
structure Untaken (taken : List String) (controls : List Control) : Prop where
  nodup : (controls.map Control.name).Nodup
  free : ∀ control ∈ controls, control.name ∉ taken

theorem untaken_nil (taken : List String) : Untaken taken [] :=
  ⟨List.nodup_nil, fun _ member => nomatch member⟩

theorem untaken_singleton {taken : List String} {control : Control} (free : control.name ∉ taken) :
    Untaken taken [control] :=
  ⟨List.nodup_singleton _, fun _ member => List.mem_singleton.mp member ▸ free⟩

theorem untaken_pair {taken : List String} {first second : Control}
    (firstFree : first.name ∉ taken) (secondFree : second.name ∉ taken)
    (different : first.name ≠ second.name) : Untaken taken [first, second] := by
  refine ⟨by simpa using different, ?_⟩
  intro control member
  rcases List.mem_pair.mp member with rfl | rfl
  · exact firstFree
  · exact secondFree

/-- What is laid out later keeps clear of what was laid out before. -/
theorem Untaken.append {taken : List String} {first second : List Control}
    (before : Untaken taken first) (after : Untaken (first.map Control.name ++ taken) second) :
    Untaken taken (first ++ second) := by
  refine ⟨?_, fun control member => ?_⟩
  · rw [List.map_append, List.nodup_append]
    refine ⟨before.nodup, after.nodup, ?_⟩
    intro left leftIn right rightIn equal
    obtain ⟨control, member, rfl⟩ := List.mem_map.mp rightIn
    exact after.free control member (List.mem_append_left _ (equal ▸ leftIn))
  · rcases List.mem_append.mp member with inFirst | inSecond
    · exact before.free control inFirst
    · exact fun isTaken => after.free control inSecond (List.mem_append_right _ isTaken)

theorem untaken_dateParts (registry : Slug.Registry) (question : Question) (parts : List String)
    (taken : List String) : Untaken taken (dateParts registry question taken parts) := by
  induction parts generalizing taken with
  | nil => exact untaken_nil taken
  | cons part rest inductionHypothesis =>
    exact (untaken_singleton (fresh_not_mem taken _)).append (inductionHypothesis _)

theorem untaken_textboxes (registry : Slug.Registry) (question : Question)
    (choices : List Choice) (taken : List String) :
    Untaken taken (textboxes registry question taken choices) := by
  induction choices generalizing taken with
  | nil => exact untaken_nil taken
  | cons choice rest inductionHypothesis =>
    exact (untaken_singleton (fresh_not_mem taken _)).append (inductionHypothesis _)

theorem untaken_select (slug : String) (question : Question) (taken : List String) :
    Untaken taken (select slug question taken) := by
  unfold select
  cases question.kind.isDropdown with
  | false => exact untaken_singleton (fresh_not_mem taken slug)
  | true =>
    exact untaken_pair (fresh_not_mem taken slug) (fresh_not_mem taken _)
      (FreshName.fresh_ne_fresh_append taken slug 's' ['e', 'l', 'e', 'c', 't', 'e', 'd'] rfl)

theorem untaken_checkbox (registry : Slug.Registry) (question : Question) (taken : List String)
    (choice : Choice) : Untaken taken (checkbox registry question taken choice) := by
  unfold checkbox
  cases choice.amount with
  | false => exact untaken_singleton (fresh_not_mem taken _)
  | true =>
    exact untaken_pair (fresh_not_mem taken _) (fresh_not_mem taken _)
      (FreshName.fresh_append_ne taken _ '_' ['a', 'm', 'o', 'u', 'n', 't']).symm

theorem untaken_checkboxes (registry : Slug.Registry) (question : Question)
    (choices : List Choice) (taken : List String) :
    Untaken taken (checkboxes registry question taken choices) := by
  induction choices generalizing taken with
  | nil => exact untaken_nil taken
  | cons choice rest inductionHypothesis =>
    exact (untaken_checkbox registry question taken choice).append (inductionHypothesis _)

/-- The controls of a question have names of their own. -/
theorem untaken_ofQuestion (registry : Slug.Registry) (taken : List String)
    (question : Question) : Untaken taken (ofQuestion registry taken question) := by
  unfold ofQuestion
  cases question.kind with
  | shortText | paragraph | money | date | email | phone =>
    exact untaken_singleton (fresh_not_mem taken _)
  | dateRange => exact untaken_dateParts registry question _ taken
  | singleChoice | dropdown | numberedDropdown => exact untaken_select _ question taken
  | checkboxGroup => exact untaken_checkboxes registry question _ taken
  | textboxSet => exact untaken_textboxes registry question _ taken

theorem untaken_layQuestions (registry : Slug.Registry) (questions : List (UInt32 × Question))
    (taken : List String) :
    Untaken taken ((Catalog.layQuestions registry taken questions).flatMap (·.2)) := by
  induction questions generalizing taken with
  | nil => exact untaken_nil taken
  | cons head rest inductionHypothesis =>
    exact (untaken_ofQuestion registry taken head.2).append (inductionHypothesis _)

theorem name_ofHiddenField {taken : List String} {field : HiddenField} {control : Control}
    (laid : ofHiddenField taken field = some control) :
    control.name = field.name ∧ field.name ∉ taken := by
  unfold ofHiddenField at laid
  split at laid
  next => cases laid
  next sensible =>
    cases laid
    refine ⟨rfl, fun isTaken => sensible ?_⟩
    rw [List.contains_iff_mem.mpr isTaken, Bool.or_true]

theorem untaken_ofHiddenFields (fields : List HiddenField) (taken : List String) :
    Untaken taken (ofHiddenFields taken fields) := by
  induction fields generalizing taken with
  | nil => exact untaken_nil taken
  | cons field rest inductionHypothesis =>
    unfold ofHiddenFields
    cases laid : ofHiddenField taken field with
    | none => exact inductionHypothesis taken
    | some control =>
      obtain ⟨named, free⟩ := name_ofHiddenField laid
      exact (untaken_singleton (named ▸ free)).append (inductionHypothesis _)

/-! ### Controls that go together -/

/-- Controls among which a select with an echo and a checkbox with an amount have their other half,
and every echo and amount has its own. An amount starts hidden unless its box starts checked. -/
structure Paired (controls : List Control) : Prop where
  echo : ∀ control ∈ controls, ∀ echo, control.echo? = some echo →
    ∃ twin ∈ controls, twin.name = echo ∧ twin.kind = .echo control.name
  ofEcho : ∀ twin ∈ controls, ∀ select, twin.kind = .echo select →
    ∃ control ∈ controls, control.name = select ∧ control.echo? = some twin.name
  amount : ∀ control ∈ controls, ∀ amount, control.amount? = some amount →
    ∃ part ∈ controls, part.name = amount ∧ part.kind = .amount control.name ∧
      part.hidden = !Answer.isYes (control.preset.getD "")
  ofAmount : ∀ part ∈ controls, ∀ box, part.kind = .amount box →
    ∃ control ∈ controls, control.name = box ∧ control.amount? = some part.name

/-- Controls without a half of anything need no other half. -/
theorem paired_of_single {controls : List Control}
    (single : ∀ control ∈ controls, control.echo? = none ∧ control.amount? = none ∧
      (∀ select, control.kind ≠ .echo select) ∧ ∀ box, control.kind ≠ .amount box) :
    Paired controls where
  echo control member _ echo := by rw [(single control member).1] at echo; cases echo
  ofEcho control member select kind := absurd kind ((single control member).2.2.1 select)
  amount control member _ amount := by rw [(single control member).2.1] at amount; cases amount
  ofAmount control member box kind := absurd kind ((single control member).2.2.2 box)

theorem paired_nil : Paired [] := paired_of_single fun _ member => nomatch member

theorem exists_mem_append {first second : List Control} {control : Control} {fits : Control → Prop}
    (member : control ∈ first ++ second)
    (inFirst : control ∈ first → ∃ other ∈ first, fits other)
    (inSecond : control ∈ second → ∃ other ∈ second, fits other) :
    ∃ other ∈ first ++ second, fits other := by
  rcases List.mem_append.mp member with before | after
  · obtain ⟨other, otherIn, holds⟩ := inFirst before
    exact ⟨other, List.mem_append_left _ otherIn, holds⟩
  · obtain ⟨other, otherIn, holds⟩ := inSecond after
    exact ⟨other, List.mem_append_right _ otherIn, holds⟩

theorem Paired.append {first second : List Control} (before : Paired first)
    (after : Paired second) : Paired (first ++ second) where
  echo control member echo equal := exists_mem_append member
    (fun inFirst => before.echo control inFirst echo equal)
    (fun inSecond => after.echo control inSecond echo equal)
  ofEcho twin member select equal := exists_mem_append member
    (fun inFirst => before.ofEcho twin inFirst select equal)
    (fun inSecond => after.ofEcho twin inSecond select equal)
  amount control member amount equal := exists_mem_append member
    (fun inFirst => before.amount control inFirst amount equal)
    (fun inSecond => after.amount control inSecond amount equal)
  ofAmount part member box equal := exists_mem_append member
    (fun inFirst => before.ofAmount part inFirst box equal)
    (fun inSecond => after.ofAmount part inSecond box equal)

theorem paired_select (slug : String) (question : Question) (taken : List String) :
    Paired (select slug question taken) := by
  unfold select
  cases question.kind.isDropdown with
  | false => exact paired_of_single (by simp [Control.echo?, Control.amount?])
  | true => constructor <;> simp [Control.echo?, Control.amount?]

theorem paired_checkbox (registry : Slug.Registry) (question : Question) (taken : List String)
    (choice : Choice) : Paired (checkbox registry question taken choice) := by
  unfold checkbox
  cases choice.amount with
  | false => exact paired_of_single (by simp [Control.echo?, Control.amount?])
  | true =>
    cases question.preset.any fun preset => Text.sameAscii preset choice.label with
    | false => constructor <;> simp [Control.echo?, Control.amount?]; decide
    | true => constructor <;> simp [Control.echo?, Control.amount?]; decide

theorem paired_checkboxes (registry : Slug.Registry) (question : Question)
    (choices : List Choice) (taken : List String) :
    Paired (checkboxes registry question taken choices) := by
  induction choices generalizing taken with
  | nil => exact paired_nil
  | cons choice rest inductionHypothesis =>
    exact (paired_checkbox registry question taken choice).append (inductionHypothesis _)

/-- What a text control is. -/
theorem paired_of_text {controls : List Control}
    (text : ∀ control ∈ controls, control.kind = .text) : Paired controls := by
  refine paired_of_single fun control member => ?_
  simp [Control.echo?, Control.amount?, text control member]

theorem kind_dateParts (registry : Slug.Registry) (question : Question) (parts : List String)
    (taken : List String) :
    ∀ control ∈ dateParts registry question taken parts, control.kind = .text := by
  induction parts generalizing taken with
  | nil => exact fun _ member => nomatch member
  | cons part rest inductionHypothesis =>
    intro control member
    rcases List.mem_cons.mp member with rfl | inRest
    · rfl
    · exact inductionHypothesis _ control inRest

theorem kind_textboxes (registry : Slug.Registry) (question : Question) (choices : List Choice)
    (taken : List String) :
    ∀ control ∈ textboxes registry question taken choices, control.kind = .text := by
  induction choices generalizing taken with
  | nil => exact fun _ member => nomatch member
  | cons choice rest inductionHypothesis =>
    intro control member
    rcases List.mem_cons.mp member with rfl | inRest
    · rfl
    · exact inductionHypothesis _ control inRest

/-- The halves of a pair belong to one question. -/
theorem paired_ofQuestion (registry : Slug.Registry) (taken : List String)
    (question : Question) : Paired (ofQuestion registry taken question) := by
  unfold ofQuestion
  cases question.kind with
  | shortText | paragraph | money | date | email | phone =>
    exact paired_of_text fun control member => by rw [List.mem_singleton.mp member]
  | dateRange => exact paired_of_text (kind_dateParts registry question _ taken)
  | singleChoice | dropdown | numberedDropdown => exact paired_select _ question taken
  | checkboxGroup => exact paired_checkboxes registry question _ taken
  | textboxSet => exact paired_of_text (kind_textboxes registry question _ taken)

theorem paired_layQuestions (registry : Slug.Registry) (questions : List (UInt32 × Question))
    (taken : List String) :
    Paired ((Catalog.layQuestions registry taken questions).flatMap (·.2)) := by
  induction questions generalizing taken with
  | nil => exact paired_nil
  | cons head rest inductionHypothesis =>
    exact (paired_ofQuestion registry taken head.2).append (inductionHypothesis _)

theorem paired_ofHiddenFields (fields : List HiddenField) (taken : List String) :
    Paired (ofHiddenFields taken fields) := by
  induction fields generalizing taken with
  | nil => exact paired_nil
  | cons field rest inductionHypothesis =>
    unfold ofHiddenFields
    cases laid : ofHiddenField taken field with
    | none => exact inductionHypothesis taken
    | some control =>
      refine (paired_of_single ?_ : Paired [control]).append (inductionHypothesis _)
      intro other member
      rw [List.mem_singleton.mp member]
      unfold ofHiddenField at laid
      split at laid
      · cases laid
      · cases laid
        cases field.kind <;> simp [Control.echo?, Control.amount?]

end Layout

end Questionnaire

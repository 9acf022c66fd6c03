/-
This file holds the table of the controls that a question of each kind has, and of the names they
ask for, and it proves that the layout of a form follows the table. A control is called what it asks
for, or, where an earlier control is called that, by the first numbered form that is free. There is
one exception to the table: the parts of a range of dates are told apart by a word after the slug,
and where the slug is that very word already, it is not put before it again.
-/
import Questionnaire.Proofs.Order
import Questionnaire.Proofs.Partition

namespace Questionnaire

/-! ### Names asked for -/

/-- Whether a control gets a name when it asks for one and some names are taken: the name it asks
for, or the first numbered form of it that is not taken. -/
structure Named (taken : List String) (wanted name : String) : Prop where
  free : name ∉ taken
  form : ∃ count, 1 ≤ count ∧ name = FreshName.numbered wanted count ∧
    ∀ earlier, 1 ≤ earlier → earlier < count → FreshName.numbered wanted earlier ∈ taken

namespace Named

variable {taken others : List String} {wanted name : String}

theorem fresh (taken : List String) (wanted : String) :
    Named taken wanted (FreshName.fresh taken wanted) where
  free := FreshName.fresh_not_mem taken wanted
  form := by
    obtain ⟨step, equal, passed⟩ := FreshName.seek_eq_numbered taken wanted taken.length 1
    refine ⟨1 + step, by omega, equal, fun earlier positive less => ?_⟩
    obtain ⟨before, rfl⟩ := Nat.exists_eq_add_of_le positive
    exact passed before (by omega)

/-- It does not matter in what order names are taken. -/
theorem congr (named : Named taken wanted name) (same : ∀ other, other ∈ taken ↔ other ∈ others) :
    Named others wanted name := by
  obtain ⟨free, count, positive, equal, passed⟩ := named
  exact ⟨fun isTaken => free ((same name).mpr isTaken), count, positive, equal,
    fun earlier earlierPositive less => (same _).mp (passed earlier earlierPositive less)⟩

/-- Neither does one more taken name, if it is not that of the control. -/
theorem cons (named : Named taken wanted name) {other : String} (different : other ≠ name) :
    Named (other :: taken) wanted name := by
  obtain ⟨free, count, positive, equal, passed⟩ := named
  refine ⟨fun isTaken => ?_, count, positive, equal, fun earlier earlierPositive less =>
    List.mem_cons_of_mem _ (passed earlier earlierPositive less)⟩
  rcases List.mem_cons.mp isTaken with same | isOther
  · exact different same.symm
  · exact free isOther

/-- No control is called so when it asks for a word after a name and when it asks for the name. -/
theorem not_append {base : String} (named : Named taken base name) (letter : Char)
    (rest : List Char) (noDigit : letter.isDigit = false) :
    ¬Named others (base ++ String.ofList ('_' :: letter :: rest)) name := by
  rintro ⟨-, second, -, secondEqual, -⟩
  obtain ⟨-, first, -, firstEqual, -⟩ := named
  exact FreshName.numbered_ne_numbered_append base letter rest noDigit first second
    (firstEqual.symm.trans secondEqual)

end Named

namespace Layout

/-! ### The table -/

/-- What name a control asks for: a whole one, or that of the control before it with an ending. -/
inductive Asked where
  | whole (name : String)
  | extended (ending : String)

/-- The name that is asked for after a control of the given name. -/
def Asked.name (previous : String) : Asked → String
  | .whole wanted => wanted
  | .extended ending => previous ++ ending

/-- A row of the table: the word for the kind of a control, and the name it asks for. -/
structure Row where
  kind : String
  asked : Asked

/-- The name that the control of an option asks for. -/
def optionName (registry : Slug.Registry) (question : Question) (choice : Choice) : String :=
  registry.controlName question.id (choice.name.getD "") choice.label

/-- The rows of one option of a checkbox group. -/
def boxRows (registry : Slug.Registry) (question : Question) (choice : Choice) : List Row :=
  ⟨"checkbox", .whole (optionName registry question choice)⟩ ::
    if choice.amount then [⟨"amount", .extended "_amount"⟩] else []

/-- The controls of a question, in order, when the names of the parts of a range of dates are made
of the slug and a word in the given way. -/
def table (partName : String → String → String) (registry : Slug.Registry) (question : Question) :
    List Row :=
  let slug := registry.slugOf question.id
  match question.kind with
  | .shortText | .paragraph | .money | .date | .email | .phone => [⟨"text", .whole slug⟩]
  | .dateRange => [⟨"text", .whole (partName slug "start")⟩, ⟨"text", .whole (partName slug "end")⟩]
  | .singleChoice => [⟨"select", .whole slug⟩]
  | .dropdown | .numberedDropdown =>
    [⟨"select", .whole slug⟩, ⟨"mirror", .whole (slug ++ "_selected")⟩]
  | .checkboxGroup => question.options.flatMap (boxRows registry question)
  | .textboxSet =>
    question.options.map fun choice => ⟨"text", .whole (optionName registry question choice)⟩

/-- A part of a range of dates by its name in the table: the slug with the word after it. -/
def joined (slug part : String) : String := slug ++ "_" ++ part

/-- The same, but for a slug that is that word, which stands alone. -/
def joinedOnce (slug part : String) : String := if part = slug then slug else joined slug part

/-- Whether controls follow rows of the table one by one, when some names are taken by earlier
controls, the last of which has the given name. -/
inductive Follows : List String → String → List Row → List Control → Prop where
  | nil {taken : List String} {previous : String} : Follows taken previous [] []
  | cons {taken : List String} {previous : String} {row : Row} {rows : List Row}
    {control : Control} {controls : List Control} (kind : control.kind.label = row.kind)
    (named : Named taken (row.asked.name previous) control.name)
    (rest : Follows (control.name :: taken) control.name rows controls) :
    Follows taken previous (row :: rows) (control :: controls)

namespace Follows

variable {taken others : List String} {previous : String} {rows more : List Row}
  {controls : List Control}

theorem congr (follows : Follows taken previous rows controls)
    (same : ∀ name, name ∈ taken ↔ name ∈ others) : Follows others previous rows controls := by
  induction follows generalizing others with
  | nil => exact .nil
  | cons kind named _ inductionHypothesis =>
    refine .cons kind (named.congr same) (inductionHypothesis fun name => ?_)
    rw [List.mem_cons, List.mem_cons, same]

theorem append (follows : Follows taken previous rows controls) {after : List Control}
    (rest : ∀ last, Follows (controls.map Control.name ++ taken) last more after) :
    Follows taken previous (rows ++ more) (controls ++ after) := by
  induction follows with
  | nil => exact rest _
  | cons kind named _ inductionHypothesis =>
    refine .cons kind named (inductionHypothesis fun last => (rest last).congr fun name => ?_)
    simp only [List.map_cons, List.cons_append, List.mem_cons, List.mem_append]
    exact or_left_comm

theorem single {row : Row} {control : Control} (kind : control.kind.label = row.kind)
    (named : Named taken (row.asked.name previous) control.name) :
    Follows taken previous [row] [control] := .cons kind named .nil

end Follows

/-! ### Laying out -/

theorem follows_checkbox (registry : Slug.Registry) (question : Question) (taken : List String)
    (previous : String) (choice : Choice) :
    Follows taken previous (boxRows registry question choice)
      (checkbox registry question taken choice) := by
  unfold boxRows checkbox
  cases choice.amount with
  | false => exact .single rfl (.fresh taken _)
  | true =>
    refine .cons rfl (.fresh taken _) (.single rfl ?_)
    exact (Named.fresh taken _).cons (FreshName.fresh_append_ne taken _ '_' _).symm

theorem follows_checkboxes (registry : Slug.Registry) (question : Question)
    (choices : List Choice) (taken : List String) (previous : String) :
    Follows taken previous (choices.flatMap (boxRows registry question))
      (checkboxes registry question taken choices) := by
  induction choices generalizing taken previous with
  | nil => exact .nil
  | cons choice rest inductionHypothesis =>
    exact (follows_checkbox registry question taken previous choice).append
      (inductionHypothesis _)

theorem follows_textboxes (registry : Slug.Registry) (question : Question)
    (choices : List Choice) (taken : List String) (previous : String) :
    Follows taken previous
      (choices.map fun choice => ⟨"text", .whole (optionName registry question choice)⟩)
      (textboxes registry question taken choices) := by
  induction choices generalizing taken previous with
  | nil => exact .nil
  | cons choice rest inductionHypothesis =>
    exact .cons rfl (.fresh taken _) (inductionHypothesis _ _)

theorem follows_select (slug : String) (question : Question) (taken : List String)
    (previous : String) :
    Follows taken previous (⟨"select", .whole slug⟩ ::
      if question.kind.isDropdown then [⟨"mirror", .whole (slug ++ "_selected")⟩] else [])
      (select slug question taken) := by
  unfold select
  cases question.kind.isDropdown with
  | false => exact .single rfl (.fresh taken slug)
  | true =>
    refine .cons rfl (.fresh taken slug) (.single rfl ?_)
    refine (Named.fresh taken _).cons ?_
    exact FreshName.fresh_ne_fresh_append taken slug 's' ['e', 'l', 'e', 'c', 't', 'e', 'd'] rfl

/-- The word of a part is put after the slug, unless it is the slug. -/
theorem controlName_part (registry : Slug.Registry) (id part : String)
    (plain : Slug.untrimmed part = part) (noBar : '_' ∉ part.toList) (notEmpty : part.toList ≠ []) :
    registry.controlName id "" part = joinedOnce (registry.slugOf id) part := by
  have noHint : (Text.trim "").isEmpty = true := by decide +kernel
  have notBars : part.toList.all (· == '_') = false := by
    obtain ⟨letter, isIn⟩ := List.exists_mem_of_ne_nil _ notEmpty
    exact List.all_eq_false.mpr ⟨letter, isIn, fun isBar => noBar (beq_iff_eq.mp isBar ▸ isIn)⟩
  have noStart : ∀ front : List Char, '_' ∈ front → front.isPrefixOf part.toList = false :=
    fun front isIn => Bool.eq_false_iff.mpr fun isFront =>
      noBar ((List.isPrefixOf_iff_prefix.mp isFront).subset isIn)
  unfold Slug.Registry.controlName Slug.Registry.qualify joinedOnce
  simp only [noHint, if_true, plain, notBars, noStart _ (by simp : '_' ∈ ['_']),
    noStart (registry.slugOf id ++ "_").toList (by simp), Bool.or_false, beq_iff_eq,
    Bool.false_eq_true, if_false]
  split
  next same => exact same
  next => rfl

/-- The controls of a question follow the table, with the parts of a range of dates named in the
second way. -/
theorem follows_ofQuestion (registry : Slug.Registry) (taken : List String) (previous : String)
    (question : Question) :
    Follows taken previous (table joinedOnce registry question)
      (ofQuestion registry taken question) := by
  have asSelect := follows_select (registry.slugOf question.id) question taken previous
  unfold table ofQuestion
  cases kind : question.kind with
  | shortText | paragraph | money | date | email | phone =>
    exact .single rfl (.fresh taken _)
  | dateRange =>
    have start := controlName_part registry question.id "start" (by decide +kernel) (by decide)
      (by decide)
    have stop := controlName_part registry question.id "end" (by decide +kernel) (by decide)
      (by decide)
    simp only [dateParts, start, stop]
    exact .cons rfl (.fresh _ _) (.single rfl (.fresh _ _))
  | singleChoice | dropdown | numberedDropdown => rw [kind] at asSelect; exact asSelect
  | checkboxGroup => exact follows_checkboxes registry question _ taken previous
  | textboxSet => exact follows_textboxes registry question _ taken previous

/-! ### Ranges of dates -/

/-- The two ways to name the parts of a range of dates differ for the slugs that are one of the two
words. -/
theorem table_joinedOnce {registry : Slug.Registry} {question : Question}
    (usual : ¬(question.kind = .dateRange ∧
      (registry.slugOf question.id = "start" ∨ registry.slugOf question.id = "end"))) :
    table joinedOnce registry question = table joined registry question := by
  unfold table
  cases kind : question.kind with
  | dateRange =>
    obtain ⟨notStart, notEnd⟩ := not_or.mp fun isWord => usual ⟨kind, isWord⟩
    simp only [joinedOnce, if_neg (Ne.symm notStart), if_neg (Ne.symm notEnd)]
  | _ => rfl

/-- For these slugs, controls that follow the one table do not follow the other. -/
theorem not_follows_joined {registry : Slug.Registry} {question : Question} {taken : List String}
    {previous : String} {controls : List Control} (kind : question.kind = .dateRange)
    (isWord : registry.slugOf question.id = "start" ∨ registry.slugOf question.id = "end")
    (follows : Follows taken previous (table joinedOnce registry question) controls) :
    ¬Follows taken previous (table joined registry question) controls := by
  intro documented
  unfold table at follows documented
  simp only [kind] at follows documented
  rcases isWord with isStart | isEnd
  · rw [isStart] at follows documented
    cases follows with
    | cons _ named _ =>
      cases documented with
      | cons _ other _ => exact named.not_append 's' ['t', 'a', 'r', 't'] rfl other
  · rw [isEnd] at follows documented
    cases follows with
    | cons _ _ rest =>
      cases rest with
      | cons _ named _ =>
        cases documented with
        | cons _ _ rest =>
          cases rest with
          | cons _ other _ => exact named.not_append 'e' ['n', 'd'] rfl other

end Layout

namespace Catalog

/-- The controls of a question are those of the table, one by one and in its order. Each is called
what it asks for, or by the first numbered form of that which no earlier control has. There is one
exception: in a range of dates whose slug is the word of one of its parts, that part asks for the
slug alone, and the documented table is not followed. -/
theorem tabled_of_build {form : Form} {catalog : Catalog} (built : build form = .ok catalog)
    {before after : List QuestionEntry} {entry : QuestionEntry}
    (split : catalog.questions = before ++ entry :: after) :
    let earlier := before.flatMap QuestionEntry.controls
    let controls := catalog.controls.filter fun control => control.question == some entry.id
    entry.controls = controls.map Control.name ∧
    ∃ question, (entry.sectionId, question) ∈ form.questions ∧ question.id = entry.id ∧
      question.kind = entry.kind ∧ catalog.slugs.slugOf question.id = entry.slug ∧
      Layout.Follows earlier "" (Layout.table Layout.joinedOnce catalog.slugs question) controls ∧
      (Layout.Follows earlier "" (Layout.table Layout.joined catalog.slugs question) controls ↔
        ¬(entry.kind = .dateRange ∧ (entry.slug = "start" ∨ entry.slug = "end"))) := by
  intro earlier controls
  have wellFormed := wellFormed_of_build built
  obtain ⟨registry, laid, hidden, laidOut⟩ := exists_laidOut_of_build built
  obtain ⟨first, others, rfl, rfl, isRest⟩ :=
    List.map_eq_append_iff.mp (laidOut.questions.symm.trans split)
  obtain ⟨each, rest, rfl, rfl, rfl⟩ := List.map_eq_cons_iff.mp isRest
  have eachIn : each ∈ first ++ each :: rest := List.mem_append_right _ List.mem_cons_self
  have isControls : controls = each.2 := laidOut.filter_controls wellFormed eachIn
  obtain ⟨asked, askedIn, taken, same, isOf, isEntry⟩ :=
    exists_of_layQuestions_split laidOut.byQuestion.symm
  have isEarlier : earlier = first.flatMap fun each => each.1.controls := List.flatMap_map _ _ _
  have follows : Layout.Follows earlier "" (Layout.table Layout.joinedOnce registry asked.2)
      each.2 := by
    rw [isOf]
    refine (Layout.follows_ofQuestion registry taken "" asked.2).congr fun name => ?_
    rw [same, isEarlier, List.append_nil]
  have kind : asked.2.kind = each.1.kind := by rw [isEntry]; rfl
  have slug : registry.slugOf asked.2.id = each.1.slug := by rw [isEntry]; rfl
  rw [isControls, laidOut.slugs]
  refine ⟨(laidOut.fits each eachIn).controls, asked.2, ?_, by rw [isEntry]; rfl, kind, slug,
    follows, ?_⟩
  · have sectionId : each.1.sectionId = asked.1 := by rw [isEntry]; rfl
    rw [sectionId]
    exact (perm_questions form).mem_iff.mp askedIn
  · rw [← kind, ← slug]
    constructor
    · exact fun documented special =>
        Layout.not_follows_joined special.1 special.2 follows documented
    · exact fun usual => Layout.table_joinedOnce usual ▸ follows

/-- The group of the form with crowded names. -/
def crowdedTags : QuestionEntry :=
  { id := "tags", slug := "tags", kind := .checkboxGroup, sectionId := 1
    answers := ["tags_a", "tags_a_2", "tags_a_amount_2"]
    controls := ["tags_a", "tags_a_amount", "tags_a_2", "tags_a_2_amount", "tags_a_amount_2"] }

/-- The second option of the same label gets a number, its amount follows it, and the hint that asks
for the name of the first amount gets a number as well. -/
theorem tabled_of_crowd :
    let before := crowdCatalog.questions.take 2
    crowdCatalog.questions = before ++ crowdedTags :: [] ∧
      ∃ question, (1, question) ∈ crowd.questions ∧ question.id = "tags" ∧
        Layout.Follows (before.flatMap QuestionEntry.controls) ""
          (Layout.table Layout.joined crowdCatalog.slugs question)
          (crowdCatalog.controls.filter fun control => control.question == some "tags") := by
  intro before
  have split : crowdCatalog.questions = before ++ crowdedTags :: [] := by decide +kernel
  obtain ⟨-, question, member, id, -, -, -, documented⟩ := tabled_of_build build_crowd split
  exact ⟨split, question, member, id, documented.mpr (by decide)⟩

/-- A range of dates that is called after its first part. -/
def trip : Question := Session.plain "trip" .dateRange "Start" []

/-- A form with that question alone. -/
def outing : Form :=
  { id := "outing", title := "Outing", description := none
    sections := [⟨1, "One", [trip]⟩]
    hiddenFields := []
    links := [] }

theorem outing_isSome : (build outing).toOption.isSome = true := by decide +kernel

/-- The catalog of that form. -/
def outingCatalog : Catalog := (build outing).toOption.get outing_isSome

theorem build_outing : build outing = .ok outingCatalog := eq_ok_get outing_isSome

/-- The first part has the slug for a name, though no other control asks for one, and the second
part has its word after it. -/
theorem start_stands_alone :
    build outing = .ok outingCatalog ∧ outingCatalog.slugs.slugOf "trip" = "start" ∧
      outingCatalog.controls.map Control.name = ["start", "start_end"] ∧
      ¬Layout.Follows [] "" (Layout.table Layout.joined outingCatalog.slugs trip)
        outingCatalog.controls := by
  have slug : outingCatalog.slugs.slugOf trip.id = "start" := by decide +kernel
  have controls : outingCatalog.controls = Layout.ofQuestion outingCatalog.slugs [] trip := by
    decide +kernel
  refine ⟨build_outing, slug, by decide +kernel, ?_⟩
  rw [controls]
  exact Layout.not_follows_joined rfl (.inl slug) (Layout.follows_ofQuestion _ [] "" trip)

end Catalog

end Questionnaire

/-
This file proves that the layout of a form is a partition of its controls. The controls stand in the
order of the questions, each question's together, and the hidden fields come after them; what a
question says of its controls is what the controls say of themselves; and a control and the one that
goes with it name each other and belong to one question.
-/
import Questionnaire.Proofs.Run

namespace Questionnaire

namespace Layout

/-! ### Questions of controls -/

theorem question_dateParts (registry : Slug.Registry) (question : Question)
    (parts : List String) (taken : List String) :
    ∀ control ∈ dateParts registry question taken parts,
      control.question = some question.id := by
  induction parts generalizing taken with
  | nil => exact fun _ member => nomatch member
  | cons part rest inductionHypothesis =>
    intro control member
    rcases List.mem_cons.mp member with rfl | inRest
    · rfl
    · exact inductionHypothesis _ control inRest

theorem question_select (slug : String) (question : Question) (taken : List String) :
    ∀ control ∈ select slug question taken, control.question = some question.id := by
  unfold select
  cases question.kind.isDropdown <;> simp

theorem question_checkbox (registry : Slug.Registry) (question : Question) (taken : List String)
    (choice : Choice) :
    ∀ control ∈ checkbox registry question taken choice,
      control.question = some question.id := by
  unfold checkbox
  cases choice.amount <;> simp

theorem question_checkboxes (registry : Slug.Registry) (question : Question)
    (choices : List Choice) (taken : List String) :
    ∀ control ∈ checkboxes registry question taken choices,
      control.question = some question.id := by
  induction choices generalizing taken with
  | nil => exact fun _ member => nomatch member
  | cons choice rest inductionHypothesis =>
    intro control member
    rcases List.mem_append.mp member with ofChoice | inRest
    · exact question_checkbox registry question taken choice control ofChoice
    · exact inductionHypothesis _ control inRest

theorem question_textboxes (registry : Slug.Registry) (question : Question)
    (choices : List Choice) (taken : List String) :
    ∀ control ∈ textboxes registry question taken choices,
      control.question = some question.id := by
  induction choices generalizing taken with
  | nil => exact fun _ member => nomatch member
  | cons choice rest inductionHypothesis =>
    intro control member
    rcases List.mem_cons.mp member with rfl | inRest
    · rfl
    · exact inductionHypothesis _ control inRest

/-- The controls of a question belong to it. -/
theorem question_ofQuestion (registry : Slug.Registry) (taken : List String)
    (question : Question) :
    ∀ control ∈ ofQuestion registry taken question, control.question = some question.id := by
  unfold ofQuestion
  cases question.kind with
  | shortText | paragraph | money | date | email | phone =>
    exact fun control member => by rw [List.mem_singleton.mp member]
  | dateRange => exact question_dateParts registry question _ taken
  | singleChoice | dropdown | numberedDropdown => exact question_select _ question taken
  | checkboxGroup => exact question_checkboxes registry question _ taken
  | textboxSet => exact question_textboxes registry question _ taken

/-! ### Hidden fields -/

/-- Whether a hidden field can have a name. -/
def isFree (taken : List String) (name : String) : Bool :=
  !(Text.trim name).isEmpty && !taken.contains name

/-- The names that hidden fields can have, each of them once. -/
def freeNames (taken : List String) (fields : List HiddenField) : List String :=
  ((fields.map HiddenField.name).filter (isFree taken)).eraseDups

theorem freeNames_of_free {taken : List String} {field : HiddenField} (fields : List HiddenField)
    (free : isFree taken field.name = true) :
    freeNames taken (field :: fields) = field.name :: freeNames (field.name :: taken) fields := by
  unfold freeNames
  rw [List.map_cons, List.filter_cons_of_pos free, List.eraseDups_cons, List.filter_filter]
  congr 2
  refine List.filter_congr fun name _ => ?_
  unfold isFree
  rw [List.contains_cons, Bool.not_or, Bool.and_left_comm]

theorem freeNames_of_not_free {taken : List String} {field : HiddenField}
    (fields : List HiddenField) (refused : isFree taken field.name = false) :
    freeNames taken (field :: fields) = freeNames taken fields := by
  unfold freeNames
  rw [List.map_cons, List.filter_cons_of_neg (by simp [refused])]

/-- Hidden fields get controls of their own names, in their order. None of them belongs to a
question or to another control. -/
theorem names_ofHiddenFields (fields : List HiddenField) (taken : List String) :
    (ofHiddenFields taken fields).map Control.name = freeNames taken fields ∧
      ∀ control ∈ ofHiddenFields taken fields, control.question = none ∧
        ∀ name, control.kind ≠ .amount name ∧ control.kind ≠ .echo name := by
  induction fields generalizing taken with
  | nil => exact ⟨rfl, fun _ member => nomatch member⟩
  | cons field rest inductionHypothesis =>
    have isRefused : ((Text.trim field.name).isEmpty || taken.contains field.name) =
        !isFree taken field.name := by
      rw [isFree, Bool.not_and, Bool.not_not, Bool.not_not]
    unfold ofHiddenFields ofHiddenField
    rw [isRefused]
    cases free : isFree taken field.name with
    | true =>
      obtain ⟨names, owners⟩ := inductionHypothesis (field.name :: taken)
      rw [freeNames_of_free rest free, ← names]
      refine ⟨rfl, List.forall_mem_cons.mpr ⟨⟨rfl, fun name => ?_⟩, owners⟩⟩
      cases field.kind <;> simp
    | false =>
      rw [freeNames_of_not_free rest free]
      exact inductionHypothesis taken

end Layout

namespace Catalog

/-! ### Questions and their controls -/

/-- What is laid out of a question: its entry, and its controls. -/
abbrev Laid := QuestionEntry × List Control

/-- Whether the entry of a question says of its controls what they say of themselves, and no control
goes together with one of another question. -/
structure Laid.Fits (laid : Laid) : Prop where
  controls : laid.1.controls = laid.2.map Control.name
  answers : laid.1.answers = (laid.2.filter Control.isAnswer).map Control.name
  paired : Layout.Paired laid.2
  owned : ∀ control ∈ laid.2, control.question = some laid.1.id

/-- What is laid out after some questions is laid out of a question, when the names of the controls
before it are taken. -/
theorem exists_of_layQuestions_split {registry : Slug.Registry}
    {questions : List (UInt32 × Question)} {taken : List String} {first rest : List Laid}
    {laid : Laid} (split : layQuestions registry taken questions = first ++ laid :: rest) :
    ∃ entry ∈ questions, ∃ others,
      (∀ name, name ∈ others ↔
        name ∈ (first.flatMap fun each => each.1.controls) ++ taken) ∧
      laid.2 = Layout.ofQuestion registry others entry.2 ∧
        laid.1 = entryOf registry entry.1 entry.2 laid.2 := by
  induction first generalizing questions taken with
  | nil =>
    cases questions with
    | nil => cases split
    | cons head tail =>
      obtain ⟨rfl, -⟩ := List.cons.inj split
      exact ⟨head, List.mem_cons_self, taken, fun _ => Iff.rfl, rfl, rfl⟩
  | cons before first inductionHypothesis =>
    cases questions with
    | nil => cases split
    | cons head tail =>
      obtain ⟨rfl, splitRest⟩ := List.cons.inj split
      obtain ⟨entry, entryIn, others, same, facts⟩ := inductionHypothesis splitRest
      refine ⟨entry, List.mem_cons_of_mem _ entryIn, others, fun name => ?_, facts⟩
      rw [same]
      simp only [List.flatMap_cons, List.mem_append, entryOf]
      tauto

theorem exists_of_mem_layQuestions {registry : Slug.Registry}
    {questions : List (UInt32 × Question)} {taken : List String} {laid : Laid}
    (member : laid ∈ layQuestions registry taken questions) :
    ∃ entry ∈ questions, ∃ others, laid.2 = Layout.ofQuestion registry others entry.2 ∧
      laid.1 = entryOf registry entry.1 entry.2 laid.2 := by
  obtain ⟨first, rest, split⟩ := List.append_of_mem member
  obtain ⟨entry, entryIn, others, -, facts⟩ := exists_of_layQuestions_split split
  exact ⟨entry, entryIn, others, facts⟩

theorem fits_of_mem_layQuestions {registry : Slug.Registry}
    {questions : List (UInt32 × Question)} {taken : List String} {laid : Laid}
    (member : laid ∈ layQuestions registry taken questions) : laid.Fits := by
  obtain ⟨entry, -, others, isOf, isEntry⟩ := exists_of_mem_layQuestions member
  constructor
  case controls => rw [isEntry]; rfl
  case answers => rw [isEntry]; rfl
  case paired => rw [isOf]; exact Layout.paired_ofQuestion registry others entry.2
  case owned => rw [isEntry, isOf]; exact Layout.question_ofQuestion registry others entry.2

/-- The controls of one question are found among those of all by their question. -/
theorem filter_question {all : List Laid} (different : (all.map fun laid => laid.1.id).Nodup)
    (fits : ∀ laid ∈ all, Laid.Fits laid) {laid : Laid} (member : laid ∈ all) :
    (all.flatMap (·.2)).filter (fun control => control.question == some laid.1.id) = laid.2 := by
  induction all with
  | nil => cases member
  | cons head rest inductionHypothesis =>
    obtain ⟨absent, differentRest⟩ := List.nodup_cons.mp different
    obtain ⟨fitsHead, fitsRest⟩ := List.forall_mem_cons.mp fits
    rw [List.flatMap_cons, List.filter_append]
    rcases List.mem_cons.mp member with rfl | inRest
    · have own : laid.2.filter (fun control => control.question == some laid.1.id) = laid.2 :=
        List.filter_eq_self.mpr fun control isOwn => by simp [fitsHead.owned control isOwn]
      have none : (rest.flatMap (·.2)).filter
          (fun control => control.question == some laid.1.id) = [] := by
        refine List.filter_eq_nil_iff.mpr fun control isOther same => absent ?_
        obtain ⟨other, otherIn, isControl⟩ := List.mem_flatMap.mp isOther
        rw [(fitsRest other otherIn).owned control isControl, beq_iff_eq, Option.some.injEq] at same
        exact List.mem_map.mpr ⟨other, otherIn, same⟩
      rw [own, none, List.append_nil]
    · have none : head.2.filter (fun control => control.question == some laid.1.id) = [] := by
        refine List.filter_eq_nil_iff.mpr fun control isControl same => absent ?_
        rw [fitsHead.owned control isControl, beq_iff_eq, Option.some.injEq] at same
        exact List.mem_map.mpr ⟨laid, inRest, same.symm⟩
      rw [none, List.nil_append]
      exact inductionHypothesis differentRest fitsRest inRest

/-- What a catalog is laid out to: its questions with their controls, and the controls of its hidden
fields. -/
structure LaidOut (form : Form) (catalog : Catalog) (registry : Slug.Registry) (laid : List Laid)
    (hidden : List Control) : Prop where
  byQuestion : laid = layQuestions registry [] (inOrder form).questions
  slugs : catalog.slugs = registry
  questions : catalog.questions = laid.map (·.1)
  controls : catalog.controls = laid.flatMap (·.2) ++ hidden
  byField : hidden = Layout.ofHiddenFields ((laid.flatMap (·.2)).map Control.name) form.hiddenFields

theorem exists_laidOut_of_build {form : Form} {catalog : Catalog}
    (built : build form = .ok catalog) :
    ∃ registry laid hidden, LaidOut form catalog registry laid hidden := by
  obtain ⟨count, registry, -, -, rfl⟩ := build_ok built
  exact ⟨registry, _, _, rfl, rfl, rfl, rfl, rfl⟩

namespace LaidOut

variable {form : Form} {catalog : Catalog} {registry : Slug.Registry} {laid : List Laid}
  {hidden : List Control}

theorem fits (laidOut : LaidOut form catalog registry laid hidden) :
    ∀ each ∈ laid, Laid.Fits each :=
  fun _ member => fits_of_mem_layQuestions (laidOut.byQuestion ▸ member)

theorem ids (laidOut : LaidOut form catalog registry laid hidden) :
    catalog.questions.map QuestionEntry.id =
      (inOrder form).questions.map fun entry => entry.2.id := by
  rw [laidOut.questions, List.map_map, laidOut.byQuestion]
  exact ids_layQuestions registry _ []

theorem mem_controls (laidOut : LaidOut form catalog registry laid hidden) {each : Laid}
    (member : each ∈ laid) {control : Control} (isOwn : control ∈ each.2) :
    control ∈ catalog.controls := by
  rw [laidOut.controls]
  exact List.mem_append_left _ (List.mem_flatMap.mpr ⟨each, member, isOwn⟩)

/-- A control that belongs to a question is one of its controls. -/
theorem exists_of_question (laidOut : LaidOut form catalog registry laid hidden) {control : Control}
    (member : control ∈ catalog.controls) {id : String} (isOf : control.question = some id) :
    ∃ each ∈ laid, control ∈ each.2 ∧ each.1.id = id := by
  rw [laidOut.controls, List.mem_append, List.mem_flatMap] at member
  rcases member with ⟨each, eachIn, isOwn⟩ | isHidden
  · refine ⟨each, eachIn, isOwn, ?_⟩
    rw [(laidOut.fits each eachIn).owned control isOwn] at isOf
    exact Option.some.inj isOf
  · rw [laidOut.byField] at isHidden
    rw [((Layout.names_ofHiddenFields _ _).2 control isHidden).1] at isOf
    cases isOf

/-- The names of the questions' controls are those that the questions list. -/
theorem flatMap_controls (laidOut : LaidOut form catalog registry laid hidden) :
    catalog.questions.flatMap QuestionEntry.controls =
      (laid.flatMap (·.2)).map Control.name := by
  rw [laidOut.questions, List.flatMap_map, List.map_flatMap]
  exact List.flatMap_congr fun each member => (laidOut.fits each member).controls

/-- The controls of a question are those that belong to it. -/
theorem filter_controls (laidOut : LaidOut form catalog registry laid hidden)
    (wellFormed : catalog.WellFormed) {each : Laid} (member : each ∈ laid) :
    catalog.controls.filter (fun control => control.question == some each.1.id) = each.2 := by
  have different : (laid.map fun each => each.1.id).Nodup := by
    have nodup := wellFormed.ids
    rwa [laidOut.questions, List.map_map] at nodup
  have apart : hidden.filter (fun control => control.question == some each.1.id) = [] := by
    refine List.filter_eq_nil_iff.mpr fun control isHidden => ?_
    rw [laidOut.byField] at isHidden
    simp [((Layout.names_ofHiddenFields _ _).2 control isHidden).1]
  rw [laidOut.controls, List.filter_append, apart, List.append_nil,
    filter_question different laidOut.fits member]

/-- A control that goes with another one stands with it among the controls of one question. -/
theorem exists_together (laidOut : LaidOut form catalog registry laid hidden) {part : Control}
    (member : part ∈ catalog.controls) {name : String}
    (kind : part.kind = .amount name ∨ part.kind = .echo name) :
    ∃ each ∈ laid, part ∈ each.2 ∧ ∃ control ∈ each.2, control.name = name := by
  rw [laidOut.controls, List.mem_append, List.mem_flatMap] at member
  rcases member with ⟨each, eachIn, partIn⟩ | isHidden
  · have paired := (laidOut.fits each eachIn).paired
    refine ⟨each, eachIn, partIn, ?_⟩
    rcases kind with isAmount | isEcho
    · obtain ⟨control, controlIn, same, -⟩ := paired.ofAmount part partIn name isAmount
      exact ⟨control, controlIn, same⟩
    · obtain ⟨control, controlIn, same, -⟩ := paired.ofEcho part partIn name isEcho
      exact ⟨control, controlIn, same⟩
  · rw [laidOut.byField] at isHidden
    have none := ((Layout.names_ofHiddenFields _ _).2 part isHidden).2 name
    exact (kind.elim none.1 none.2).elim

end LaidOut

/-! ### The partition -/

/-- The words for the kinds of controls that carry an answer. -/
def answerKinds : List String := ["text", "select", "checkbox"]

/-- A control of a question carries its answer exactly if its kind does. -/
theorem isAnswer_eq {control : Control} {id : String} (owned : control.question = some id) :
    control.isAnswer = answerKinds.contains control.kind.label := by
  unfold Control.isAnswer
  rw [owned, Option.isSome_some, Bool.true_and]
  cases control.kind <;> rfl

/-- Whether the controls of a catalog are laid out question by question, with the hidden fields of
the form after them, and controls that go together are of one question. -/
structure Partitioned (form : Form) (catalog : Catalog) : Prop where
  nodup : (catalog.controls.map Control.name).Nodup
  questions : catalog.questions.map QuestionEntry.id =
    (inOrder form).questions.map fun entry => entry.2.id
  order : catalog.controls.map Control.name =
    catalog.questions.flatMap QuestionEntry.controls ++
      Layout.freeNames (catalog.questions.flatMap QuestionEntry.controls) form.hiddenFields
  controls : ∀ entry ∈ catalog.questions, entry.controls =
    (catalog.controls.filter fun control => control.question == some entry.id).map Control.name
  answers : ∀ entry ∈ catalog.questions, entry.answers =
    entry.controls.filter fun name =>
      (catalog.control? name).any fun control => answerKinds.contains control.kind.label
  amount : ∀ box ∈ catalog.controls, ∀ name, box.amount? = some name ↔
    ∃ part ∈ catalog.controls, part.name = name ∧ part.kind = .amount box.name
  echo : ∀ select ∈ catalog.controls, ∀ name, select.echo? = some name ↔
    ∃ twin ∈ catalog.controls, twin.name = name ∧ twin.kind = .echo select.name
  together : ∀ part ∈ catalog.controls, ∀ name,
    part.kind = .amount name ∨ part.kind = .echo name →
      ∃ control ∈ catalog.controls, control.name = name ∧
        ∃ entry ∈ catalog.questions, control.name ∈ entry.controls ∧ part.name ∈ entry.controls

/-- No name is given to two controls. The controls stand in the order of the questions that list
them, and after them the hidden fields whose names are neither blank nor taken. The answer of a
question is made of its texts, selects and checkboxes. A box and its amount, or a select and its
echo, name each other and belong to one question. -/
theorem partitioned_of_build {form : Form} {catalog : Catalog}
    (built : build form = .ok catalog) : catalog.Partitioned form := by
  have wellFormed := wellFormed_of_build built
  obtain ⟨registry, laid, hidden, laidOut⟩ := exists_laidOut_of_build built
  have isLaid : ∀ entry ∈ catalog.questions, ∃ each ∈ laid, each.1 = entry := fun entry member =>
    List.mem_map.mp (laidOut.questions ▸ member)
  constructor
  case nodup => exact wellFormed.nodup
  case questions => exact laidOut.ids
  case order =>
    rw [laidOut.controls, List.map_append, laidOut.flatMap_controls, laidOut.byField,
      (Layout.names_ofHiddenFields _ _).1]
  case controls =>
    intro entry member
    obtain ⟨each, eachIn, rfl⟩ := isLaid entry member
    rw [laidOut.filter_controls wellFormed eachIn]
    exact (laidOut.fits each eachIn).controls
  case answers =>
    intro entry member
    obtain ⟨each, eachIn, rfl⟩ := isLaid entry member
    have fits := laidOut.fits each eachIn
    rw [fits.answers, fits.controls, List.filter_map]
    refine congrArg (List.map Control.name) (List.filter_congr fun control isOwn => ?_)
    rw [Function.comp, wellFormed.control?_of_mem (laidOut.mem_controls eachIn isOwn),
      Option.any_some]
    exact isAnswer_eq (fits.owned control isOwn)
  case amount =>
    refine fun box member name => ⟨fun has => ?_, ?_⟩
    · obtain ⟨part, partIn, named, kind, -⟩ := wellFormed.paired.amount box member name has
      exact ⟨part, partIn, named, kind⟩
    · rintro ⟨part, partIn, rfl, kind⟩
      obtain ⟨other, otherIn, same, has⟩ := wellFormed.paired.ofAmount part partIn _ kind
      rwa [wellFormed.eq_of_name_eq otherIn member same] at has
  case echo =>
    refine fun select member name => ⟨wellFormed.paired.echo select member name, ?_⟩
    rintro ⟨twin, twinIn, rfl, kind⟩
    obtain ⟨other, otherIn, same, echoes⟩ := wellFormed.paired.ofEcho twin twinIn _ kind
    rwa [wellFormed.eq_of_name_eq otherIn member same] at echoes
  case together =>
    intro part member name kind
    obtain ⟨each, eachIn, partIn, control, controlIn, same⟩ := laidOut.exists_together member kind
    have lists := (laidOut.fits each eachIn).controls
    refine ⟨control, laidOut.mem_controls eachIn controlIn, same, each.1, ?_, ?_, ?_⟩
    · rw [laidOut.questions]
      exact List.mem_map_of_mem eachIn
    · exact lists ▸ List.mem_map_of_mem controlIn
    · exact lists ▸ List.mem_map_of_mem partIn

/-! ### A form with crowded names -/

/-- A form in which names collide: that of an echo with a slug, those of two options and of an
amount with a hint, and those of hidden fields with controls and with each other. -/
def crowd : Form :=
  { id := "crowd", title := "Crowd", description := none
    sections :=
      [⟨1, "One",
        [Session.plain "pet" .dropdown "Pet" [⟨"Dog", none, false, false⟩],
         Session.plain "choice" .shortText "Pet selected" [],
         Session.plain "tags" .checkboxGroup "Tags"
           [⟨"A", none, false, true⟩, ⟨"A", none, false, true⟩,
            ⟨"B", some "a_amount", true, false⟩]]⟩]
    hiddenFields :=
      [⟨"pet", .text, none, []⟩, ⟨"sum", .text, none, []⟩, ⟨" ", .text, none, []⟩,
       ⟨"sum", .checkbox, none, []⟩, ⟨"flag", .checkbox, none, []⟩]
    links := [] }

theorem crowd_isSome : (build crowd).toOption.isSome = true := by decide +kernel

/-- The catalog of that form. -/
def crowdCatalog : Catalog := (build crowd).toOption.get crowd_isSome

theorem build_crowd : build crowd = .ok crowdCatalog := eq_ok_get crowd_isSome

/-- Whoever comes later gets a number, and a hidden field gets nothing. -/
theorem partitioned_of_crowd :
    crowdCatalog.controls.map Control.name =
      ["pet", "pet_selected", "pet_selected_2", "tags_a", "tags_a_amount", "tags_a_2",
        "tags_a_2_amount", "tags_a_amount_2", "sum", "flag"] ∧
      crowdCatalog.Partitioned crowd :=
  ⟨by decide +kernel, partitioned_of_build build_crowd⟩

end Catalog

end Questionnaire

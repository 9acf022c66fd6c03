/-
This file says where a section leads, by the form as it was written. The jumps of the section are
gone through in the order of its questions, and of each question in the order of its jumps. The
first one whose trigger was given and whose target is understood decides, and without one the next
section comes. So jumps that do not count may be left out, and so may all jumps after the one that
decides; and the jumps of other sections make no difference at all.
-/
import Mathlib.Algebra.Group.Nat.Defs
import Questionnaire.Proofs.Order
import Questionnaire.Proofs.Position

namespace Questionnaire

/-! ### What targets mean -/

/-- Where a target leads: to the section of a number or of a numeral, or to the end, if it is the
word for it in whatever case. Blanks around a marker do not count. A numeral may have a plus before
it, and is a 32-bit word like the numbers of sections. -/
inductive JumpTarget.Means : JumpTarget → Destination → Prop where
  | section (id : UInt32) : Means (.section id) (.section id)
  | finish {text : String} (isEnd : Text.sameAscii (Text.trim text) "end" = true) :
    Means (.marker text) .finish
  | numeral {text : String} {sign digits : List Char}
    (isText : (Text.trim text).toList = sign ++ digits) (signed : sign = [] ∨ sign = ['+'])
    (filled : digits ≠ []) (areDigits : ∀ digit ∈ digits, digit.isDigit = true)
    (isWord : Text.digitsValue digits < 2 ^ 32) :
    Means (.marker text) (.section (.ofNat (Text.digitsValue digits)))

/-- A numeral is not the word for the end. -/
theorem Text.not_sameAscii_end {word : String} {sign digits : List Char}
    (isWord : word.toList = sign ++ digits) (filled : digits ≠ [])
    (areDigits : ∀ digit ∈ digits, digit.isDigit = true) : ¬sameAscii word "end" = true := by
  intro same
  have letters : word.toList.map Char.toLower = ['e', 'n', 'd'] := eq_of_beq same
  obtain ⟨digit, member⟩ := List.exists_mem_of_ne_nil digits filled
  have isLetter : digit.toLower ∈ ['e', 'n', 'd'] := by
    rw [← letters, isWord]
    exact List.mem_map_of_mem (List.mem_append_right sign member)
  have isDigit : 48 ≤ digit.toNat ∧ digit.toNat ≤ 57 :=
    Char.isDigit_iff_toNat.mp (areDigits digit member)
  have same : digit.toLower = digit := by
    refine Char.toNat_inj.mp ?_
    rw [toNat_toLower, if_neg (by omega)]
  rw [same] at isLetter
  simp only [List.mem_cons, List.not_mem_nil, or_false] at isLetter
  obtain rfl | rfl | rfl := isLetter <;> exact absurd isDigit (by decide)

/-- A target is understood as what it means, and not understood if it means nothing. -/
theorem JumpTarget.destination_eq_some_iff {target : JumpTarget} {destination : Destination} :
    target.destination = some destination ↔ target.Means destination := by
  cases target with
  | «section» id =>
    constructor
    · intro understood
      cases understood
      exact .section id
    · rintro ⟨⟩
      rfl
  | marker text =>
    unfold JumpTarget.destination
    simp only
    split
    next isEnd =>
      constructor
      · intro understood
        cases understood
        exact .finish isEnd
      · rintro (_ | _ | ⟨isText, -, filled, areDigits, -⟩)
        · rfl
        · exact absurd isEnd (Text.not_sameAscii_end isText filled areDigits)
    next notEnd =>
      have size : UInt32.size = 2 ^ 32 := rfl
      rw [Option.map_eq_some_iff]
      constructor
      · rintro ⟨number, read, rfl⟩
        obtain ⟨sign, digits, isText, signed, filled, areDigits, isWord, rfl⟩ :=
          Text.readNatural_eq_some_iff.mp read
        exact .numeral isText signed filled areDigits (by omega)
      · rintro (_ | isEnd | ⟨isText, signed, filled, areDigits, isWord⟩)
        · exact absurd isEnd notEnd
        · exact ⟨_, Text.readNatural_eq_some_iff.mpr
            ⟨_, _, isText, signed, filled, areDigits, by omega, rfl⟩, rfl⟩

/-! ### Which jump decides -/

/-- Whether the answer to a question is a trigger: of a checkbox group the value of a checked box,
of any other question its texts as one, if that is not empty. -/
def Question.Triggers (question : Question) (catalog : Catalog) (sheet : Sheet)
    (trigger : String) : Prop :=
  ∃ entry ∈ catalog.questions, entry.id = question.id ∧
    if question.kind = .checkboxGroup then
      ∃ name ∈ entry.answers, ∃ value, sheet.content? name = some (.checkbox true value) ∧
        Answer.same value trigger = true
    else
      sheet.answerText entry ≠ "" ∧ Answer.same (sheet.answerText entry) trigger = true

/-- Whether a jump of a question counts, and leads to a destination. -/
def Counts (catalog : Catalog) (sheet : Sheet) (authored : Question × Jump)
    (destination : Destination) : Prop :=
  authored.1.Triggers catalog sheet authored.2.trigger ∧ authored.2.target.Means destination

/-- The jumps of a section with their questions, in order, when every question has the given
ones. -/
def FormSection.authored (jumps : Question → List Jump) (part : FormSection) :
    List (Question × Jump) :=
  part.questions.flatMap fun question => (jumps question).map fun jump => (question, jump)

/-- A destination moved into the range from one to the last section. -/
def Destination.within (last : Nat) : Destination → Destination
  | .section id => .section (.ofNat (max 1 (min id.toNat last)))
  | .finish => .finish

/-- Where a section leads by the jumps in it: to the destination of the first one that counts, or
to the next section if none does, in both within the range of sections. -/
inductive Leads (catalog : Catalog) (sheet : Sheet) (last : Nat) (id : UInt32)
    (jumps : List (Question × Jump)) : Destination → Prop where
  | jump {before after : List (Question × Jump)} {decisive : Question × Jump}
    {destination : Destination} (listed : jumps = before ++ decisive :: after)
    (passed : ∀ earlier ∈ before, ∀ other, ¬Counts catalog sheet earlier other)
    (counts : Counts catalog sheet decisive destination) :
    Leads catalog sheet last id jumps (destination.within last)
  | onward (none : ∀ authored ∈ jumps, ∀ other, ¬Counts catalog sheet authored other) :
    Leads catalog sheet last id jumps (.section (.ofNat (min (id.toNat + 1) last)))

/-- Whether a list of jumps is another one without some jumps that do not matter: jumps that do not
count, and any jumps after one that does. -/
inductive Pruned (counts : Question × Jump → Prop) :
    List (Question × Jump) → List (Question × Jump) → Prop where
  | done : Pruned counts [] []
  | keep {all kept : List (Question × Jump)} (authored : Question × Jump)
    (rest : Pruned counts all kept) : Pruned counts (authored :: all) (authored :: kept)
  | drop {all kept : List (Question × Jump)} {authored : Question × Jump} (idle : ¬counts authored)
    (rest : Pruned counts all kept) : Pruned counts (authored :: all) kept
  | settle {all kept : List (Question × Jump)} {authored : Question × Jump}
    (decides : counts authored) (fewer : kept.Sublist all) :
    Pruned counts (authored :: all) (authored :: kept)

namespace Navigation

/-- The rule of a jump. -/
def ruleOf (id : UInt32) (authored : Question × Jump) : JumpRule :=
  ⟨id, authored.1.id, authored.1.kind, authored.2.trigger, authored.2.target⟩

/-- Where a jump leads on a sheet, if it counts. -/
def decision (catalog : Catalog) (sheet : Sheet) (authored : Question × Jump) :
    Option Destination :=
  if jumpApplies catalog sheet (ruleOf 0 authored) then authored.2.target.destination else none

variable {catalog : Catalog} {sheet : Sheet}

theorem mem_checkedValues_iff {entry : QuestionEntry} {value : String} :
    value ∈ sheet.checkedValues entry ↔
      ∃ name ∈ entry.answers, sheet.content? name = some (.checkbox true value) := by
  unfold Sheet.checkedValues Sheet.checked? Sheet.text?
  simp only [List.mem_filterMap, List.mem_filter, beq_iff_eq]
  constructor
  · rintro ⟨name, ⟨answer, checked⟩, text⟩
    refine ⟨name, answer, ?_⟩
    obtain ⟨content, held, isChecked⟩ := Option.bind_eq_some_iff.mp checked
    rw [held] at text ⊢
    cases content with
    | checkbox _ _ => cases isChecked; cases text; rfl
    | text _ | select _ _ => cases isChecked
  · rintro ⟨name, answer, held⟩
    exact ⟨name, ⟨answer, by rw [held]; rfl⟩, by rw [held]; rfl⟩

/-- Whether a jump applies is decided by the answer to its question. -/
theorem jumpApplies_iff_of_question? {id : UInt32} {authored : Question × Jump}
    {entry : QuestionEntry} (found : catalog.question? authored.1.id = some entry) :
    jumpApplies catalog sheet (ruleOf id authored) = true ↔
      if authored.1.kind = .checkboxGroup then
        ∃ name ∈ entry.answers, ∃ value, sheet.content? name = some (.checkbox true value) ∧
          Answer.same value authored.2.trigger = true
      else
        sheet.answerText entry ≠ "" ∧
          Answer.same (sheet.answerText entry) authored.2.trigger = true := by
  unfold jumpApplies ruleOf
  simp only [found]
  split
  next =>
    simp only [List.any_eq_true, mem_checkedValues_iff]
    constructor
    · rintro ⟨value, ⟨name, answer, held⟩, same⟩
      exact ⟨name, answer, value, held, same⟩
    · rintro ⟨name, answer, value, held, same⟩
      exact ⟨value, ⟨name, answer, held⟩, same⟩
  next => simp

/-- A jump applies exactly if the answer to its question is its trigger. -/
theorem jumpApplies_iff (wellFormed : catalog.WellFormed) (id : UInt32)
    (authored : Question × Jump) :
    jumpApplies catalog sheet (ruleOf id authored) = true ↔
      authored.1.Triggers catalog sheet authored.2.trigger := by
  constructor
  · intro isGiven
    cases found : catalog.question? authored.1.id with
    | none =>
      unfold jumpApplies ruleOf at isGiven
      simp only [found, Bool.false_eq_true] at isGiven
    | some entry =>
      have named := List.find?_some found
      exact ⟨entry, List.mem_of_find?_eq_some found, eq_of_beq named,
        (jumpApplies_iff_of_question? found).mp isGiven⟩
  · rintro ⟨entry, member, named, triggers⟩
    have found : catalog.question? authored.1.id = some entry :=
      named ▸ Catalog.find?_of_mem wellFormed.ids member
    exact (jumpApplies_iff_of_question? found).mpr triggers

theorem decision_eq_some_iff (wellFormed : catalog.WellFormed) {authored : Question × Jump}
    {destination : Destination} :
    decision catalog sheet authored = some destination ↔
      Counts catalog sheet authored destination := by
  unfold decision Counts
  rw [← jumpApplies_iff wellFormed 0, ← JumpTarget.destination_eq_some_iff,
    Option.ite_none_right_eq_some]

theorem decision_eq_none_iff (wellFormed : catalog.WellFormed) {authored : Question × Jump} :
    decision catalog sheet authored = none ↔
      ∀ destination, ¬Counts catalog sheet authored destination := by
  simp only [Option.eq_none_iff_forall_ne_some, ne_eq, decision_eq_some_iff wellFormed]

end Navigation

/-! ### The jumps of a section -/

namespace Catalog

/-- In a list in which no two items have one key, the items of a key are the one item of it. -/
theorem filter_eq_singleton {Item : Type} {key : Item → UInt32} {items : List Item} {item : Item}
    (different : (items.map key).Nodup) (member : item ∈ items) :
    items.filter (fun other => key other == key item) = [item] := by
  induction items with
  | nil => cases member
  | cons head rest inductionHypothesis =>
    obtain ⟨absent, differentRest⟩ := List.nodup_cons.mp different
    rcases List.mem_cons.mp member with rfl | inRest
    · have none : rest.filter (fun other => key other == key item) = [] :=
        List.filter_eq_nil_iff.mpr fun other isOther same =>
          absent (eq_of_beq same ▸ List.mem_map_of_mem isOther)
      rw [List.filter_cons_of_pos (by simp), none]
    · have other : key head ≠ key item := fun same =>
        absent (same ▸ List.mem_map_of_mem inRest)
      rw [List.filter_cons_of_neg (by simpa using other), inductionHypothesis differentRest inRest]

theorem filter_jumpRules (id : UInt32) (questions : List (UInt32 × Question)) :
    (questions.flatMap fun entry => jumpRules entry.1 entry.2).filter
        (fun jump => jump.sectionId == id) =
      (questions.filter fun entry => entry.1 == id).flatMap fun entry =>
        jumpRules entry.1 entry.2 := by
  induction questions with
  | nil => rfl
  | cons head rest inductionHypothesis =>
    have own : (jumpRules head.1 head.2).filter (fun jump => jump.sectionId == id) =
        if head.1 == id then jumpRules head.1 head.2 else [] := by
      unfold jumpRules
      rw [List.filter_map]
      by_cases isHere : head.1 == id <;> simp [Function.comp_def, isHere]
    rw [List.flatMap_cons, List.filter_append, inductionHypothesis, own, List.filter_cons]
    split <;> rfl

/-- Every number from one to the last is the one of exactly one section. -/
theorem exists_section {form : Form} {count : UInt32} (counted : countSections form = .ok count) :
    (form.sections.map FormSection.id).Nodup ∧
      ∀ id : UInt32, 1 ≤ id.toNat → id.toNat ≤ form.sections.length →
        ∃ part ∈ form.sections, part.id = id := by
  obtain ⟨-, perm⟩ := (countSections_isOk_iff form).mp ⟨count, counted⟩
  refine ⟨?_, fun id least greatest => ?_⟩
  · have different := perm.nodup_iff.mpr List.nodup_range'
    rw [show (fun part : FormSection => part.id.toNat) = UInt32.toNat ∘ FormSection.id from rfl,
      ← List.map_map] at different
    exact different.of_map
  · have listed : id.toNat ∈ form.sections.map fun part => part.id.toNat :=
      perm.mem_iff.mpr (List.mem_range'_1.mpr ⟨least, by omega⟩)
    obtain ⟨part, member, same⟩ := List.mem_map.mp listed
    exact ⟨part, member, UInt32.toNat_inj.mp same⟩

/-- The jumps of a section are those of its questions, as they were written. -/
theorem jumpsOf_of_build {form : Form} {catalog : Catalog} (built : build form = .ok catalog)
    {part : FormSection} (member : part ∈ form.sections) :
    catalog.jumpsOf part.id = (part.authored Question.jumps).map (Navigation.ruleOf part.id) := by
  obtain ⟨count, registry, counted, -, rfl⟩ := build_ok built
  have perm := perm_inOrder form
  have alone : (inOrder form).sections.filter (fun other => other.id == part.id) = [part] :=
    filter_eq_singleton
      ((perm.map FormSection.id).nodup_iff.mpr (exists_section counted).1) (perm.mem_iff.mpr member)
  show ((inOrder form).questions.flatMap fun entry => jumpRules entry.1 entry.2).filter _ = _
  rw [filter_jumpRules, filter_questions, alone]
  simp only [List.flatMap_cons, List.flatMap_nil, List.append_nil]
  unfold FormSection.authored
  rw [List.flatMap_map, List.map_flatMap]
  simp only [List.map_map]
  rfl

end Catalog

namespace Navigation

variable {catalog : Catalog} {sheet : Sheet}

/-- The first jump that applies and is understood is the first one that leads anywhere. -/
theorem findSome?_destination (id : UInt32) (jumps : List (Question × Jump)) :
    ((jumps.map (ruleOf id)).filter (jumpApplies catalog sheet)).findSome?
        (fun jump => jump.target.destination) = jumps.findSome? (decision catalog sheet) := by
  induction jumps with
  | nil => rfl
  | cons head rest inductionHypothesis =>
    rw [List.map_cons, List.filter_cons, List.findSome?_cons]
    unfold decision
    have sameRule : jumpApplies catalog sheet (ruleOf 0 head) =
      jumpApplies catalog sheet (ruleOf id head) := rfl
    rw [sameRule]
    split
    next =>
      rw [List.findSome?_cons, inductionHypothesis]
      rfl
    next => exact inductionHypothesis

/-- Moving into the range of sections gives the nearest section. -/
theorem clamp_eq {form : Form} (built : Catalog.build form = .ok catalog) (id : UInt32) :
    clamp catalog.sectionCount id = .ofNat (max 1 (min id.toNat form.sections.length)) := by
  obtain ⟨hasSection, counted⟩ := Catalog.sectionCount_of_build built
  have word := catalog.sectionCount.toNat_lt
  have size : UInt32.size = 2 ^ 32 := rfl
  refine UInt32.toNat_inj.mp ?_
  rw [toNat_clamp, counted, UInt32.toNat_ofNat_of_lt' (by omega)]
  omega

/-- The section after a section of the form is the next one, or the section itself if it is the
last one. -/
theorem clamp_successor {form : Form} (built : Catalog.build form = .ok catalog) {id : UInt32}
    (inForm : id.toNat ≤ form.sections.length) :
    clamp catalog.sectionCount (successor id) =
      .ofNat (min (id.toNat + 1) form.sections.length) := by
  obtain ⟨hasSection, counted⟩ := Catalog.sectionCount_of_build built
  have word := catalog.sectionCount.toNat_lt
  have one : (1 : UInt32).toNat = 1 := rfl
  have size : UInt32.size = 2 ^ 32 := rfl
  rw [clamp_eq built]
  unfold successor
  split
  next greatest =>
    congr 1
    omega
  next =>
    rw [UInt32.toNat_add, one]
    congr 1
    omega

/-- The number of a section is not greater than the number of sections. -/
theorem id_le_length {form : Form} (built : Catalog.build form = .ok catalog) {part : FormSection}
    (member : part ∈ form.sections) :
    1 ≤ part.id.toNat ∧ part.id.toNat ≤ form.sections.length := by
  obtain ⟨count, -, counted, -, -⟩ := Catalog.build_ok built
  obtain ⟨-, perm⟩ := (Catalog.countSections_isOk_iff form).mp ⟨count, counted⟩
  have inRange := perm.mem_iff.mp (List.mem_map_of_mem member)
  rw [List.mem_range'_1] at inRange
  omega

/-- Where advancing from a section leads, by the destination of the jump that decides. -/
theorem nextFrom_eq {form : Form} (built : Catalog.build form = .ok catalog) {part : FormSection}
    (member : part ∈ form.sections) :
    nextFrom catalog sheet part.id =
      (((part.authored Question.jumps).findSome? (decision catalog sheet)).map
        (Destination.within form.sections.length)).getD
          (.section (.ofNat (min (part.id.toNat + 1) form.sections.length))) := by
  unfold nextFrom
  simp only
  rw [Catalog.jumpsOf_of_build built member, findSome?_destination]
  cases (part.authored Question.jumps).findSome? (decision catalog sheet) with
  | none => exact congrArg _ (clamp_successor built (id_le_length built member).2)
  | some destination =>
    cases destination with
    | «section» id => exact congrArg _ (clamp_eq built id)
    | finish => rfl

/-- Jumps lead to where the first one that decides does, or onward if none does. -/
theorem leads_iff (wellFormed : catalog.WellFormed) {last : Nat} {id : UInt32}
    {jumps : List (Question × Jump)} {destination : Destination} :
    ((jumps.findSome? (decision catalog sheet)).map (Destination.within last)).getD
        (.section (.ofNat (min (id.toNat + 1) last))) = destination ↔
      Leads catalog sheet last id jumps destination := by
  have idle : ∀ authored : Question × Jump, decision catalog sheet authored = none ↔
      ∀ other, ¬Counts catalog sheet authored other := fun _ => decision_eq_none_iff wellFormed
  constructor
  · rintro rfl
    cases found : jumps.findSome? (decision catalog sheet) with
    | none =>
      exact .onward fun authored member =>
        (idle authored).mp (List.findSome?_eq_none_iff.mp found authored member)
    | some destination =>
      obtain ⟨before, decisive, after, listed, decides, passed⟩ :=
        List.findSome?_eq_some_iff.mp found
      exact .jump listed (fun earlier member => (idle earlier).mp (passed earlier member))
        ((decision_eq_some_iff wellFormed).mp decides)
  · rintro (⟨listed, passed, counts⟩ | ⟨none⟩)
    · have decides := (decision_eq_some_iff wellFormed).mpr counts
      rw [List.findSome?_eq_some_iff.mpr ⟨_, _, _, listed, decides,
        fun earlier member => (idle earlier).mpr (passed earlier member)⟩]
      rfl
    · rw [List.findSome?_eq_none_iff.mpr fun authored member =>
        (idle authored).mpr (none authored member)]
      rfl

end Navigation

/-! ### Other jumps in a form -/

/-- The question with the given jumps. -/
def Question.withJumps (jumps : Question → List Jump) (question : Question) : Question :=
  { question with jumps := jumps question }

/-- The section with the given jumps in its questions. -/
def FormSection.withJumps (jumps : Question → List Jump) (part : FormSection) : FormSection :=
  { part with questions := part.questions.map (Question.withJumps jumps) }

/-- The form with the given jumps in its questions. -/
def Form.withJumps (jumps : Question → List Jump) (form : Form) : Form :=
  { form with sections := form.sections.map (FormSection.withJumps jumps) }

section WithJumps

variable (jumps : Question → List Jump)

theorem Form.questions_withJumps (form : Form) :
    (form.withJumps jumps).questions =
      form.questions.map fun entry => (entry.1, entry.2.withJumps jumps) := by
  unfold withJumps questions
  rw [List.flatMap_map, List.map_flatMap]
  simp only [List.map_map, FormSection.withJumps, Function.comp_def]

namespace Layout

theorem checkboxes_withJumps (registry : Slug.Registry) (question : Question)
    (choices : List Choice) (taken : List String) :
    checkboxes registry (question.withJumps jumps) taken choices =
      checkboxes registry question taken choices := by
  induction choices generalizing taken with
  | nil => rfl
  | cons choice rest inductionHypothesis =>
    unfold checkboxes
    simp only [inductionHypothesis]
    rfl

theorem textboxes_withJumps (registry : Slug.Registry) (question : Question)
    (choices : List Choice) (taken : List String) :
    textboxes registry (question.withJumps jumps) taken choices =
      textboxes registry question taken choices := by
  induction choices generalizing taken with
  | nil => rfl
  | cons choice rest inductionHypothesis =>
    unfold textboxes
    simp only [inductionHypothesis]
    rfl

theorem ofQuestion_withJumps (registry : Slug.Registry) (taken : List String)
    (question : Question) :
    ofQuestion registry taken (question.withJumps jumps) = ofQuestion registry taken question := by
  have kind : (question.withJumps jumps).kind = question.kind := rfl
  unfold ofQuestion
  simp only [kind]
  cases question.kind with
  | checkboxGroup => exact checkboxes_withJumps jumps registry question question.options taken
  | textboxSet => exact textboxes_withJumps jumps registry question question.options taken
  | _ => rfl

end Layout

namespace Catalog

theorem placeSection_withJumps (part : FormSection) (sections : List FormSection) :
    placeSection (part.withJumps jumps) (sections.map (FormSection.withJumps jumps)) =
      (placeSection part sections).map (FormSection.withJumps jumps) := by
  induction sections with
  | nil => rfl
  | cons head rest inductionHypothesis =>
    rw [List.map_cons, placeSection, placeSection, inductionHypothesis]
    have sameOrder : (part.withJumps jumps).id ≤ (head.withJumps jumps).id ↔ part.id ≤ head.id :=
      Iff.rfl
    simp only [sameOrder]
    split <;> rfl

theorem inOrder_withJumps (form : Form) :
    inOrder (form.withJumps jumps) = (inOrder form).withJumps jumps := by
  unfold inOrder Form.withJumps
  simp only [Form.mk.injEq, true_and, and_true]
  induction form.sections with
  | nil => rfl
  | cons head rest inductionHypothesis =>
    rw [List.map_cons, List.foldr_cons, inductionHypothesis, placeSection_withJumps]
    rfl

theorem countSections_withJumps (form : Form) :
    countSections (form.withJumps jumps) = countSections form := by
  unfold countSections
  rw [inOrder_withJumps]
  unfold Form.withJumps
  simp only [List.length_map, List.map_map]
  rfl

theorem assignSlugs_withJumps (questions : List Question) (seen : List String)
    (registry : Slug.Registry) :
    assignSlugs seen registry (questions.map (Question.withJumps jumps)) =
      assignSlugs seen registry questions := by
  induction questions generalizing seen registry with
  | nil => rfl
  | cons question rest inductionHypothesis =>
    rw [List.map_cons, assignSlugs, assignSlugs, inductionHypothesis]
    rfl

theorem layQuestions_withJumps (registry : Slug.Registry) (questions : List (UInt32 × Question))
    (taken : List String) :
    layQuestions registry taken
        (questions.map fun entry => (entry.1, entry.2.withJumps jumps)) =
      layQuestions registry taken questions := by
  induction questions generalizing taken with
  | nil => rfl
  | cons entry rest inductionHypothesis =>
    obtain ⟨sectionId, question⟩ := entry
    rw [List.map_cons, layQuestions, layQuestions]
    simp only [Layout.ofQuestion_withJumps, inductionHypothesis]
    rfl

/-- Other jumps leave the questions and controls of a form as they are. -/
theorem build_withJumps {form : Form} {catalog : Catalog} (built : build form = .ok catalog) :
    ∃ changed, build (form.withJumps jumps) = .ok changed ∧
      changed.questions = catalog.questions ∧ changed.controls = catalog.controls := by
  obtain ⟨count, registry, counted, assigned, rfl⟩ := build_ok built
  have sameQuestions : ((inOrder form).withJumps jumps).questions.map (·.2) =
      ((inOrder form).questions.map (·.2)).map (Question.withJumps jumps) := by
    rw [Form.questions_withJumps, List.map_map, List.map_map]
    rfl
  have laid : layQuestions registry [] ((inOrder form).withJumps jumps).questions =
      layQuestions registry [] (inOrder form).questions := by
    rw [Form.questions_withJumps, layQuestions_withJumps]
  unfold build
  rw [countSections_withJumps, counted, inOrder_withJumps]
  show ∃ changed, (assignSlugs _ _ _ >>= _) = _ ∧ _
  rw [sameQuestions, assignSlugs_withJumps, assigned]
  refine ⟨_, rfl, ?_, ?_⟩
  · show (layQuestions registry [] _).map (·.1) = _
    rw [laid]
    rfl
  · show (layQuestions registry [] _).flatMap (·.2) ++ _ = _
    rw [laid]
    rfl

end Catalog

theorem FormSection.authored_withJumps (part : FormSection) :
    (part.withJumps jumps).authored Question.jumps =
      (part.authored jumps).map fun authored => (authored.1.withJumps jumps, authored.2) := by
  unfold authored withJumps
  rw [List.flatMap_map, List.map_flatMap]
  simp only [List.map_map, Function.comp_def]
  rfl

end WithJumps

namespace Navigation

variable {catalog : Catalog} {sheet : Sheet}

/-- Jumps that do not matter make no difference to where jumps lead. -/
theorem findSome?_of_pruned {all kept : List (Question × Jump)}
    (pruned : Pruned (fun authored => (decision catalog sheet authored).isSome = true) all kept) :
    kept.findSome? (decision catalog sheet) = all.findSome? (decision catalog sheet) := by
  induction pruned with
  | done => rfl
  | keep authored _ inductionHypothesis =>
    rw [List.findSome?_cons, List.findSome?_cons, inductionHypothesis]
  | drop idle _ inductionHypothesis =>
    rw [List.findSome?_cons, Option.not_isSome_iff_eq_none.mp idle, inductionHypothesis]
  | settle decides _ =>
    obtain ⟨destination, leads⟩ := Option.isSome_iff_exists.mp decides
    rw [List.findSome?_cons, List.findSome?_cons, leads]

/-- Where a section leads once the form has other jumps, by the jumps that it has then. -/
theorem nextFrom_withJumps {form : Form} {changed : Catalog} {jumps : Question → List Jump}
    (built : Catalog.build (form.withJumps jumps) = .ok changed)
    (questions : changed.questions = catalog.questions) {part : FormSection}
    (member : part ∈ form.sections) :
    nextFrom changed sheet part.id =
      (((part.authored jumps).findSome? (decision catalog sheet)).map
        (Destination.within form.sections.length)).getD
          (.section (.ofNat (min (part.id.toNat + 1) form.sections.length))) := by
  have sameDecision : (fun authored : Question × Jump =>
      decision changed sheet (authored.1.withJumps jumps, authored.2)) =
        decision catalog sheet := by
    funext authored
    unfold decision jumpApplies Catalog.question?
    rw [questions]
    rfl
  have sameLength : (form.withJumps jumps).sections.length = form.sections.length :=
    List.length_map _
  have inChanged : part.withJumps jumps ∈ (form.withJumps jumps).sections :=
    List.mem_map_of_mem member
  have leads : nextFrom changed sheet (part.withJumps jumps).id = _ := nextFrom_eq built inChanged
  rw [FormSection.authored_withJumps, List.findSome?_map, sameLength] at leads
  rw [← sameDecision]
  exact leads

/-- Every number from one to the number of sections is the one of a section, and that section leads
where its jumps do, as they were written. It leads there too in any form with other jumps in which
the section has all of its jumps that matter, whatever jumps the other sections have. -/
theorem nextFrom_of_build {form : Form} (built : Catalog.build form = .ok catalog)
    (sheet : Sheet) :
    (∀ id : UInt32, 1 ≤ id.toNat → id.toNat ≤ form.sections.length →
      ∃! part, part ∈ form.sections ∧ part.id = id) ∧
    ∀ part ∈ form.sections,
      (∀ destination, nextFrom catalog sheet part.id = destination ↔
        Leads catalog sheet form.sections.length part.id (part.authored Question.jumps)
          destination) ∧
      ∀ jumps : Question → List Jump, ∃ changed,
        Catalog.build (form.withJumps jumps) = .ok changed ∧
        changed.questions = catalog.questions ∧ changed.controls = catalog.controls ∧
        (Pruned (fun authored => ∃ destination, Counts catalog sheet authored destination)
            (part.authored Question.jumps) (part.authored jumps) →
          nextFrom changed sheet part.id = nextFrom catalog sheet part.id) := by
  have wellFormed := Catalog.wellFormed_of_build built
  obtain ⟨count, -, counted, -, -⟩ := Catalog.build_ok built
  obtain ⟨different, numbered⟩ := Catalog.exists_section counted
  refine ⟨fun id least greatest => ?_, fun part member => ⟨fun destination => ?_, fun jumps => ?_⟩⟩
  · obtain ⟨part, member, isNumber⟩ := numbered id least greatest
    refine ⟨part, ⟨member, isNumber⟩, fun other ⟨isOther, same⟩ => ?_⟩
    exact List.inj_on_of_nodup_map different isOther member (same.trans isNumber.symm)
  · rw [nextFrom_eq built member, leads_iff wellFormed]
  · obtain ⟨changed, builtChanged, questions, controls⟩ := Catalog.build_withJumps jumps built
    refine ⟨changed, builtChanged, questions, controls, fun pruned => ?_⟩
    have counts : (fun authored => ∃ destination, Counts catalog sheet authored destination) =
        fun authored => (decision catalog sheet authored).isSome = true := by
      funext authored
      simp only [Option.isSome_iff_exists, decision_eq_some_iff wellFormed]
    rw [counts] at pruned
    rw [nextFrom_withJumps builtChanged questions member, findSome?_of_pruned pruned,
      nextFrom_eq built member]

/-! ### A form whose sections are not in order -/

/-- A section in which the jumps of one answer mean nothing, and those of the other lead beyond all
sections and to the end. -/
def tourStart : FormSection :=
  ⟨1, "First",
    [{ Session.plain "likes" .checkboxGroup "Likes"
        [⟨"Art", none, false, false⟩, ⟨"Food", none, false, false⟩] with
        jumps := [⟨"Food", .section 2⟩, ⟨"Art", .marker "nowhere"⟩] },
      { Session.plain "name" .shortText "Name" [] with
        jumps := [⟨"ann", .marker " +99 "⟩, ⟨"Ann", .marker "end"⟩] }]⟩

/-- A form with that section in its midst. -/
def tour : Form :=
  { id := "tour", title := "Tour", description := none
    sections :=
      [⟨3, "Third", [Session.plain "wishes" .shortText "Wishes" []]⟩, tourStart,
        ⟨2, "Second",
          [{ Session.plain "back" .shortText "Back" [] with jumps := [⟨"Yes", .section 1⟩] }]⟩]
    hiddenFields := []
    links := [] }

theorem tour_isSome : (Catalog.build tour).toOption.isSome = true := by decide +kernel

/-- The catalog of that form. -/
def tourCatalog : Catalog := (Catalog.build tour).toOption.get tour_isSome

theorem build_tour : Catalog.build tour = .ok tourCatalog := Catalog.eq_ok_get tour_isSome

/-- One who likes art and is called Ann gets from the first section to the last one, and so she does
if that is the only jump of the form. -/
theorem nextFrom_of_tour :
    let sheet := (Session.run tourCatalog
      [.rehydrate (NameMap.ofList [("likes_art", "true"), ("name", "Ann")])]).sheet
    let only : Question → List Jump := fun question =>
      if question.id = "name" then [⟨"ann", .marker " +99 "⟩] else []
    Leads tourCatalog sheet 3 1 (tourStart.authored Question.jumps) (.section 3) ∧
      ∃ changed, Catalog.build (tour.withJumps only) = .ok changed ∧
        nextFrom changed sheet 1 = .section 3 := by
  intro sheet only
  have wellFormed := Catalog.wellFormed_of_build build_tour
  have arrives : nextFrom tourCatalog sheet tourStart.id = .section 3 := by decide +kernel
  have member : tourStart ∈ tour.sections := .tail _ (.head _)
  obtain ⟨leads, others⟩ := (nextFrom_of_build build_tour sheet).2 tourStart member
  refine ⟨(leads _).mp arrives, ?_⟩
  obtain ⟨changed, built, -, -, same⟩ := others only
  refine ⟨changed, built, (same ?_).trans arrives⟩
  -- The jumps of the first question do not count, and the last jump comes after one that does.
  refine .drop ?_ (.drop ?_ (.settle ⟨.section 99, ?_⟩ (List.nil_sublist _)))
  · exact not_exists.mpr ((decision_eq_none_iff wellFormed).mp (by decide +kernel))
  · exact not_exists.mpr ((decision_eq_none_iff wellFormed).mp (by decide +kernel))
  · exact (decision_eq_some_iff wellFormed).mp (by decide +kernel)

end Navigation

end Questionnaire

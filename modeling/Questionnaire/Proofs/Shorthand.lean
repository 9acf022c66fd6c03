/-
This file says which control a shorthand counts out. It is read part by part: the word for a
question with an id or slug, and the words for an entry and for a field, each with its digits. A
part that is left out counts as one. So does a numeral that is no 64-bit word, though it is written;
therefore a shorthand selects the control that its numbers say exactly if both are words, or if
nothing is selected for what they are counted as.
-/
import Mathlib.Algebra.Group.Nat.Defs
import Questionnaire.Proofs.Meaning
import Questionnaire.Proofs.Run

namespace Questionnaire.Reference

/-! ### Shorthands as they are written -/

/-- Whether a text is a decimal numeral, of whatever length. -/
def IsNumeral (digits : String) : Prop :=
  digits ≠ "" ∧ ∀ digit ∈ digits.toList, digit.isDigit = true

/-- A part of a shorthand: the word and the digits after a divider, or nothing where it is left
out. -/
def written (word : String) : Option String → String
  | some digits => "_" ++ word ++ digits
  | none => ""

/-- The shorthand for a question, with the digits of an entry and of a field. -/
def shorthand (question : String) (entry field : Option String) : String :=
  "question" ++ question ++ written "entry" entry ++ written "field" field

/-- The number that a part says. -/
def stated : Option String → Nat
  | some digits => Text.digitsValue digits.toList
  | none => 1

/-- The number that a part is counted as. -/
def taken (part : Option String) : Nat := if stated part < 2 ^ 64 then stated part else 1

/-- Whether a name is the one that numbers select: of the entry of that number among the answer
controls of a question, its first field is the control itself, and its second field is its
amount. -/
def Selects (catalog : Catalog) (question : QuestionEntry) (entry field : Nat) (name : String) :
    Prop :=
  1 ≤ entry ∧ ∃ control, question.answers[entry - 1]? = some control ∧
    (field = 1 ∧ name = control ∨
      field = 2 ∧ ∃ box ∈ catalog.controls, box.name = control ∧ box.amount? = some name)

/-! ### Single characters -/

theorem isAlphanum_iff (character : Char) :
    character.isAlphanum = true ↔
      ((65 ≤ character.toNat ∧ character.toNat ≤ 90) ∨
        (97 ≤ character.toNat ∧ character.toNat ≤ 122)) ∨
      (48 ≤ character.toNat ∧ character.toNat ≤ 57) := by
  have upper : character.isUpper = true ↔ 65 ≤ character.toNat ∧ character.toNat ≤ 90 :=
    decide_eq_true_iff
  have lower : character.isLower = true ↔ 97 ≤ character.toNat ∧ character.toNat ≤ 122 :=
    Bool.and_eq_true_iff.trans (and_congr decide_eq_true_iff decide_eq_true_iff)
  have digit : character.isDigit = true ↔ 48 ≤ character.toNat ∧ character.toNat ≤ 57 :=
    Char.isDigit_iff_toNat
  rw [← upper, ← lower, ← digit, ← Bool.or_eq_true, ← Bool.or_eq_true]
  exact Iff.rfl

theorem isWordCharacter_of_isAlphanum {character : Char}
    (alphanum : character.isAlphanum = true) : isWordCharacter character = true := by
  unfold isWordCharacter foldCase
  split
  next => decide
  next =>
    split
    next => decide
    next =>
      have lowered := Text.toNat_toLower character
      rw [isAlphanum_iff] at alphanum ⊢
      split at lowered <;> omega

theorem isAnyDigit_of_isDigit {character : Char} (isDigit : character.isDigit = true) :
    Text.isAnyDigit character = true := by
  obtain ⟨least, greatest⟩ : 48 ≤ character.toNat ∧ character.toNat ≤ 57 :=
    Char.isDigit_iff_toNat.mp isDigit
  unfold Text.isAnyDigit Text.inRanges Text.digitRanges
  rw [List.any_cons, decide_eq_true least, decide_eq_true greatest]
  rfl

theorem not_isDivider_of_isAlphanum {character : Char} (alphanum : character.isAlphanum = true) :
    isDivider character = false := by
  unfold isDivider
  rw [Bool.or_eq_false_iff, beq_eq_false_iff_ne, beq_eq_false_iff_ne]
  constructor <;>
  · rintro rfl
    exact absurd alphanum (by decide)

theorem isAlphanum_of_isDigit {character : Char} (isDigit : character.isDigit = true) :
    character.isAlphanum = true := by
  rw [Char.isAlphanum, isDigit, Bool.or_true]

/-! ### Reading parts -/

/-- Characters of a kind are taken from the start up to the first one that is not of it. -/
theorem span_append {kind : Char → Bool} {first rest : List Char}
    (all : ∀ character ∈ first, kind character = true)
    (ends : ∀ character ∈ rest.head?, kind character = false) :
    (first ++ rest).takeWhile kind = first ∧ (first ++ rest).dropWhile kind = rest := by
  have nothing : rest.takeWhile kind = [] ∧ rest.dropWhile kind = rest := by
    cases rest with
    | nil => exact ⟨rfl, rfl⟩
    | cons character rest =>
      have other : ¬kind character = true := by simp [ends character rfl]
      exact ⟨List.takeWhile_cons_of_neg other, List.dropWhile_cons_of_neg other⟩
  rw [List.takeWhile_append_of_pos all, List.dropWhile_append_of_pos all, nothing.1, nothing.2,
    List.append_nil]
  exact ⟨rfl, rfl⟩

theorem afterWord_append {word : List Char} (small : word.map foldCase = word)
    (rest : List Char) : afterWord word (word ++ rest) = some rest := by
  induction word with
  | nil => rfl
  | cons letter word inductionHypothesis =>
    obtain ⟨head, tail⟩ := List.cons.inj small
    rw [List.cons_append, afterWord, if_pos (by simp [head])]
    exact inductionHypothesis tail

theorem skipDivider_append {characters : List Char} (some : characters ≠ [])
    (alphanum : ∀ character ∈ characters, character.isAlphanum = true) (rest : List Char) :
    skipDivider (characters ++ rest) = characters ++ rest := by
  cases characters with
  | nil => exact absurd rfl some
  | cons first others =>
    have noDivider := not_isDivider_of_isAlphanum (alphanum first List.mem_cons_self)
    rw [List.cons_append, skipDivider, if_neg (by simp [noDivider])]

/-- Digits count as the number that they say if it is a word, and as one otherwise. -/
theorem partNumber_toList {digits : String} (numeral : IsNumeral digits) :
    partNumber digits.toList = taken (some digits) := by
  obtain ⟨some, areDigits⟩ := numeral
  have filled : digits.toList ≠ [] := fun empty => some (String.toList_eq_nil_iff.mp empty)
  have size : UInt64.size = 2 ^ 64 := rfl
  unfold partNumber taken stated
  rw [Text.readNatural_digits filled areDigits]
  by_cases isWord : Text.digitsValue digits.toList < 2 ^ 64
  · rw [if_pos isWord, if_pos (by omega), Option.getD_some]
  · rw [if_neg isWord, if_neg (by omega), Option.getD_none]

/-- A part is read as the number that it counts as, and what follows it is left. -/
theorem takePart_written {word : String} {part : Option String} {rest : List Char}
    (small : word.toList.map foldCase = word.toList)
    (numeral : ∀ digits ∈ part, IsNumeral digits)
    (ends : ∀ character ∈ rest.head?, Text.isAnyDigit character = false)
    (apart : takePart word.toList rest = (1, rest)) :
    takePart word.toList ((written word part).toList ++ rest) = (taken part, rest) := by
  cases part with
  | none => exact apart
  | some digits =>
    have isNumeral := numeral digits rfl
    have areDigits := isNumeral.2
    have filled : digits.toList ≠ [] := fun empty => isNumeral.1 (String.toList_eq_nil_iff.mp empty)
    have spelled : (written word (some digits)).toList ++ rest =
        '_' :: (word.toList ++ (digits.toList ++ rest)) := by
      simp [written]
    obtain ⟨digitsFirst, restAfter⟩ :=
      span_append (fun digit member => isAnyDigit_of_isDigit (areDigits digit member)) ends
    rw [spelled]
    unfold takePart
    simp only [afterWord_append small]
    rw [if_neg (by decide), skipDivider_append filled fun digit member =>
      isAlphanum_of_isDigit (areDigits digit member), digitsFirst, restAfter,
      if_neg (by simpa using filled), partNumber_toList isNumeral]

/-- A shorthand is read as the numbers that its parts count as. -/
theorem readShorthand_shorthand {id : String} {entry field : Option String} (named : id ≠ "")
    (alphanum : ∀ character ∈ id.toList, character.isAlphanum = true)
    (entryNumeral : ∀ digits ∈ entry, IsNumeral digits)
    (fieldNumeral : ∀ digits ∈ field, IsNumeral digits) :
    readShorthand (shorthand id entry field) = some ⟨id, taken entry, taken field⟩ := by
  have startsWith : ∀ (word : String) (part : Option String) (rest : List Char),
      (∀ character ∈ rest.head?, character = '_') →
      ∀ character ∈ ((written word part).toList ++ rest).head?, character = '_' := by
    intro word part rest restStarts
    cases part with
    | none => exact restStarts
    | some digits => simp [written]
  have fieldStarts := startsWith "field" field [] nofun
  have entryStarts := startsWith "entry" entry _ fieldStarts
  have filled : id.toList ≠ [] := fun empty => named (String.toList_eq_nil_iff.mp empty)
  have spelled : (shorthand id entry field).toList = ['q', 'u', 'e', 's', 't', 'i', 'o', 'n'] ++
      (id.toList ++
        ((written "entry" entry).toList ++ ((written "field" field).toList ++ []))) := by
    simp [shorthand]
  have idEnds : ∀ character ∈ ((written "entry" entry).toList ++
      ((written "field" field).toList ++ [])).head?, isWordCharacter character = false := by
    intro character member
    rw [entryStarts character member]
    decide
  obtain ⟨idFirst, partsAfter⟩ := span_append
    (fun character member => isWordCharacter_of_isAlphanum (alphanum character member)) idEnds
  -- The word for an entry is not taken for the one for a field, so no entry is read where none is.
  have noEntry : takePart "entry".toList ((written "field" field).toList ++ []) =
      (1, (written "field" field).toList ++ []) := by
    cases field with
    | none => rfl
    | some digits => simp [written, takePart, afterWord, isDivider, foldCase]
  have entryRead := takePart_written (by decide) entryNumeral (fun character member => by
    rw [fieldStarts character member]; decide) noEntry
  have fieldRead : takePart "field".toList ((written "field" field).toList ++ []) =
      (taken field, []) := takePart_written (by decide) fieldNumeral nofun rfl
  unfold readShorthand
  rw [spelled, afterWord_append (by decide), Option.bind_some]
  simp only [skipDivider_append filled alphanum, idFirst, partsAfter]
  rw [show ['e', 'n', 't', 'r', 'y'] = "entry".toList from by decide, entryRead]
  simp only
  rw [show ['f', 'i', 'e', 'l', 'd'] = "field".toList from by decide, fieldRead]
  simp [filled]

/-! ### What is selected -/

variable {catalog : Catalog} {sheet : Sheet} {question : QuestionEntry} {name : String}

theorem fieldOf_eq_some_iff (wellFormed : catalog.WellFormed) {control : String} {field : Nat} :
    fieldOf catalog control field = some name ↔ field = 1 ∧ name = control ∨
      field = 2 ∧ ∃ box ∈ catalog.controls, box.name = control ∧ box.amount? = some name := by
  match field with
  | 0 => simp [fieldOf]
  | 1 => simp [fieldOf, eq_comm]
  | 2 =>
    have second : fieldOf catalog control 2 = (catalog.control? control).bind Control.amount? := rfl
    rw [second, Option.bind_eq_some_iff]
    constructor
    · rintro ⟨box, found, amount⟩
      obtain ⟨member, named⟩ := Catalog.mem_of_control?_eq_some found
      exact .inr ⟨rfl, box, member, named, amount⟩
    · rintro (⟨notFirst, -⟩ | ⟨-, box, member, rfl, amount⟩)
      · cases notFirst
      · exact ⟨box, wellFormed.control?_of_mem member, amount⟩
  | field + 3 => simp [fieldOf]

/-- On a sheet with all controls, a shorthand finds what the numbers it is read as select. -/
theorem byShorthand_eq_some_iff (wellFormed : catalog.WellFormed)
    (live : ∀ control ∈ catalog.controls, sheet.contains control.name = true)
    {reference id : String} {entry field : Nat}
    (read : readShorthand reference = some ⟨id, entry, field⟩)
    (resolved : catalog.resolve? id = some question) :
    byShorthand catalog sheet reference = some name ↔
      Selects catalog question entry field name := by
  have counts : counted? catalog reference = some name ↔
      Selects catalog question entry field name := by
    unfold counted? Selects
    rw [read, Option.bind_some, resolved, Option.bind_some]
    split
    next zero =>
      change entry = 0 at zero
      simp [zero]
    next notZero =>
      simp only [Option.bind_eq_some_iff, fieldOf_eq_some_iff wellFormed]
      exact ⟨fun found => ⟨Nat.one_le_iff_ne_zero.mpr notZero, found⟩, fun found => found.2⟩
  rw [byShorthand_eq, Option.filter_eq_some_iff, counts]
  refine ⟨fun found => found.1, fun selects => ⟨selects, ?_⟩⟩
  obtain ⟨control, member, named⟩ :=
    List.mem_map.mp (isControl_of_counted? wellFormed (counts.mpr selects))
  exact named ▸ live control member

/-- Numbers of which one is no word select nothing. -/
theorem not_selects_of_large (short : question.answers.length < 2 ^ 64) {entry field : Nat}
    (large : ¬(entry < 2 ^ 64 ∧ field < 2 ^ 64)) (name : String) :
    ¬Selects catalog question entry field name := by
  rintro ⟨-, control, answer, field⟩
  have counted : entry - 1 < question.answers.length := (List.getElem?_eq_some_iff.mp answer).1
  omega

/-- The sheets of every run have all controls. On a sheet that has them, a shorthand finds what is
selected by the numbers that its parts are counted as. So it finds what is selected by the numbers
that they say exactly if both are words, or nothing is selected by what they are counted as. -/
theorem shorthands_of_build {form : Form} (built : Catalog.build form = .ok catalog) :
    (∀ operations, ∀ control ∈ catalog.controls,
      (Session.run catalog operations).sheet.contains control.name = true) ∧
    ∀ sheet : Sheet, (∀ control ∈ catalog.controls, sheet.contains control.name = true) →
      ∀ (id : String) (question : QuestionEntry) (entry field : Option String),
        id ≠ "" → (∀ character ∈ id.toList, character.isAlphanum = true) →
        catalog.resolve? id = some question →
        (∀ digits ∈ entry, IsNumeral digits) → (∀ digits ∈ field, IsNumeral digits) →
        (∀ name, byShorthand catalog sheet (shorthand id entry field) = some name ↔
          Selects catalog question (taken entry) (taken field) name) ∧
        (question.answers.length < 2 ^ 64 →
          ((∀ name, byShorthand catalog sheet (shorthand id entry field) = some name ↔
              Selects catalog question (stated entry) (stated field) name) ↔
            (stated entry < 2 ^ 64 ∧ stated field < 2 ^ 64) ∨
              ∀ name, ¬Selects catalog question (taken entry) (taken field) name)) := by
  have wellFormed := Catalog.wellFormed_of_build built
  refine ⟨fun operations control member =>
    (Session.owned_run wellFormed operations).contains_control member, ?_⟩
  intro sheet live id question entry field named alphanum resolved entryNumeral fieldNumeral
  have read := readShorthand_shorthand named alphanum entryNumeral fieldNumeral
  have finds : ∀ name, byShorthand catalog sheet (shorthand id entry field) = some name ↔
      Selects catalog question (taken entry) (taken field) name :=
    fun _ => byShorthand_eq_some_iff wellFormed live read resolved
  refine ⟨finds, fun short => ?_⟩
  by_cases words : stated entry < 2 ^ 64 ∧ stated field < 2 ^ 64
  · have asStated : taken entry = stated entry ∧ taken field = stated field :=
      ⟨if_pos words.1, if_pos words.2⟩
    rw [asStated.1, asStated.2] at finds
    exact ⟨fun _ => .inl words, fun _ => finds⟩
  · have never : ∀ name, ¬Selects catalog question (stated entry) (stated field) name :=
      not_selects_of_large short words
    simp only [finds, never, words, iff_false, false_or]

/-- Zeros before a numeral do not count, and the second field of a box is its amount. -/
theorem shorthands_of_pets :
    let sheet := (Session.run Session.surveyCatalog [.setChecked "pets_dog" true]).sheet
    let reference := shorthand "pets" (some "0000000000000000000000001") (some "2")
    reference = "questionpets_entry0000000000000000000000001_field2" ∧
      byShorthand Session.surveyCatalog sheet reference = some "pets_dog_amount" := by
  intro sheet reference
  obtain ⟨live, finds⟩ := shorthands_of_build Session.build_survey
  obtain ⟨question, resolved, answers⟩ : ∃ question,
      Session.surveyCatalog.resolve? "pets" = some question ∧
        question.answers = ["pets_dog", "pets_none"] :=
    ⟨⟨"pets", "pets", .checkboxGroup, 1, ["pets_dog", "pets_none"],
      ["pets_dog", "pets_dog_amount", "pets_none"]⟩, by decide +kernel, rfl⟩
  have alphanum : ∀ character ∈ "pets".toList, character.isAlphanum = true :=
    List.all_eq_true.mp (by decide)
  have first : IsNumeral "0000000000000000000000001" :=
    ⟨by decide, List.all_eq_true.mp (by decide)⟩
  have second : IsNumeral "2" := ⟨by decide, List.all_eq_true.mp (by decide)⟩
  have selects := (finds sheet (live _) "pets" question _ _ (by decide) alphanum resolved
    (fun _ isEntry => Option.some.inj isEntry ▸ first)
    (fun _ isField => Option.some.inj isField ▸ second)).1
  have entry : taken (some "0000000000000000000000001") = 1 := by decide +kernel
  have field : taken (some "2") = 2 := by decide +kernel
  refine ⟨by decide +kernel, (selects _).mpr ?_⟩
  rw [entry, field]
  refine ⟨Nat.le_refl 1, "pets_dog", by rw [answers]; rfl, .inr ⟨rfl, ?_⟩⟩
  have found : (Session.surveyCatalog.control? "pets_dog").bind Control.amount? =
      some "pets_dog_amount" := by decide +kernel
  obtain ⟨box, isBox, amount⟩ := Option.bind_eq_some_iff.mp found
  obtain ⟨member, named⟩ := Catalog.mem_of_control?_eq_some isBox
  exact ⟨box, member, named, amount⟩

/-- The numeral after the greatest word selects nothing, since there are two boxes; but the first
one is found for it. -/
theorem entry_counts_as_one :
    let sheet := (Session.start Session.surveyCatalog).sheet
    let reference := "questionpets_entry18446744073709551616"
    let entry := some "18446744073709551616"
    reference = shorthand "pets" entry none ∧ stated entry = 2 ^ 64 ∧
      ∃ question, Session.surveyCatalog.resolve? "pets" = some question ∧
        question.answers = ["pets_dog", "pets_none"] ∧
        byShorthand Session.surveyCatalog sheet reference = some "pets_dog" ∧
        ∀ name, ¬Selects Session.surveyCatalog question (stated entry) (stated none) name := by
  intro sheet reference entry
  refine ⟨by decide +kernel, by decide +kernel, ⟨"pets", "pets", .checkboxGroup, 1,
    ["pets_dog", "pets_none"], ["pets_dog", "pets_dog_amount", "pets_none"]⟩, by decide +kernel,
    rfl, by decide +kernel, not_selects_of_large (by decide) (by decide +kernel)⟩

end Questionnaire.Reference

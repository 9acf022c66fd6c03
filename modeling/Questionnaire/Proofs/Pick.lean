/-
This file compares the option that the wizard reads from a line with the option that a sheet takes
over for a text. The wizard passes over blanks around the options and over the case of letters,
takes the first option that fits, and then the one of that number; a sheet does not pass over blanks
around an option, and prefers the option that is equal. The two agree on a line exactly if the
option that is read has no blanks around it and is the line itself wherever the line is an option;
and so they agree on every line exactly if no option has blanks around it, and every option that is
no command is the first one of its letters.
-/
import Mathlib.Algebra.Order.BigOperators.Group.List
import Mathlib.Algebra.Order.Group.Nat
import Mathlib.Data.List.Find
import Mathlib.Data.List.TakeWhile
import Questionnaire.Proofs.Catalog
import Questionnaire.Proofs.Sheet
import Questionnaire.Session
import Questionnaire.Wizard.Input

namespace Questionnaire

/-! ### Blanks and case -/

namespace Text

theorem trim_trim (text : String) : trim (trim text) = trim text := by
  show String.ofList (trimList (trim text).toList) = trim text
  rw [toList_trim, trimList_trimList]
  rfl

theorem sameAscii_iff {first second : String} :
    sameAscii first second = true ↔
      first.toList.map Char.toLower = second.toList.map Char.toLower := by
  rw [sameAscii, beq_iff_eq]

theorem sameAscii_self (text : String) : sameAscii text text = true := sameAscii_iff.mpr rfl

/-- Where nothing is blank, nothing is removed. -/
theorem trim_of_solid {characters : List Char}
    (solid : ∀ character ∈ characters, isBlank character = false) :
    trim (String.ofList characters) = String.ofList characters := by
  have kept : ∀ {some : List Char}, (∀ character ∈ some, isBlank character = false) →
      some.dropWhile isBlank = some := fun solid =>
    List.dropWhile_eq_self_iff.mpr fun _ => by simp [solid _ (List.getElem_mem _)]
  have reversed : characters.reverse.dropWhile isBlank = characters.reverse :=
    kept fun character member => solid character (List.mem_reverse.mp member)
  rw [trim, String.toList_ofList, trimList, trimLeft, kept solid, trimRight, reversed,
    List.reverse_reverse]

/-- What differs from a trimmed text only in case is trimmed. -/
theorem trim_of_sameAscii {option word : String} (same : sameAscii option word = true)
    (trimmed : trim word = word) : trim option = option := by
  have isTrimmed : trimList word.toList = word.toList := by rw [← toList_trim, trimmed]
  unfold trim
  rw [trimList_eq_self_of_map_toLower_eq (sameAscii_iff.mp same) isTrimmed, String.ofList_toList]

end Text

/-! ### First ones of a list -/

section

variable {α : Type} {values : List α} {value : α}

theorem find?_of_imp {narrow wide : α → Bool}
    (imp : ∀ value, narrow value = true → wide value = true)
    (found : values.find? wide = some value) (holds : narrow value = true) :
    values.find? narrow = some value := by
  obtain ⟨-, before, after, rfl, earlier⟩ := List.find?_eq_some_iff_append.mp found
  refine List.find?_eq_some_iff_append.mpr ⟨holds, before, after, rfl, fun other member => ?_⟩
  have notWide := earlier other member
  cases isNarrow : narrow other with
  | false => rfl
  | true => rw [imp other isNarrow] at notWide; cases notWide

theorem find?_beq_self [BEq α] [LawfulBEq α] (member : value ∈ values) :
    values.find? (· == value) = some value := by
  obtain ⟨other, found⟩ : ∃ other, values.find? (· == value) = some other :=
    Option.isSome_iff_exists.mp (List.find?_isSome.mpr ⟨value, member, BEq.rfl⟩)
  have equal := List.find?_some found
  rw [found, eq_of_beq equal]

end

/-! ### What a sheet takes over -/

/-- The option that a trimmed text chooses. -/
theorem Answer.option?_trimmed {options : List String} {word : String}
    (trimmed : Text.trim word = word) (notEmpty : word.isEmpty = false) :
    option? options word =
      (options.find? (· == word)).or (options.find? fun option => Text.sameAscii option word) := by
  unfold option?
  simp only [trimmed, notEmpty, Bool.false_eq_true, if_false]
  cases options.find? (· == word) <;> rfl

/-- The choice that a select takes over for a text: none for an empty one, or else the chosen
option. -/
def Sheet.takes? (options : List String) (text : String) : Option String :=
  if text.isEmpty then some "" else Answer.option? options text

theorem Sheet.takes?_eq_option? {options : List String} {text : String}
    (notEmpty : text.isEmpty = false) : takes? options text = Answer.option? options text :=
  if_neg (by simp [notEmpty])

section

variable {sheet : Sheet} {name choice text : String} {options : List String}

theorem Sheet.text?_put {entry : Entry} (present : sheet.get? name = some entry)
    (content : Content) : (sheet.put name entry content).1.text? name = some content.value := by
  rw [text?, content?, get?_put present, if_pos rfl]
  rfl

/-- A select that takes over a text holds what the text means. -/
theorem Sheet.takes?_of_setText (holds : sheet.content? name = some (.select choice options))
    {after : Sheet × Bool} (written : sheet.setText name text = .ok after) :
    ∃ stored, takes? options text = some stored ∧ after.1.text? name = some stored := by
  obtain ⟨entry, content, present, takes, rfl⟩ := setText_eq_ok written
  obtain ⟨other, alsoPresent, isSelect⟩ := Option.map_eq_some_iff.mp holds
  cases present.symm.trans alsoPresent
  rw [isSelect, Content.withText?] at takes
  refine ⟨content.value, ?_, text?_put present content⟩
  unfold takes?
  split at takes
  next isEmpty => cases takes; rw [if_pos isEmpty]; rfl
  next notEmpty =>
    obtain ⟨option, chosen, rfl⟩ := Option.map_eq_some_iff.mp takes
    rw [if_neg notEmpty, chosen]
    rfl

/-- A select takes over every text that means a choice. -/
theorem Sheet.exists_setText (holds : sheet.content? name = some (.select choice options))
    {stored : String} (takes : takes? options text = some stored) :
    ∃ after, sheet.setText name text = .ok after ∧ after.1.text? name = some stored := by
  obtain ⟨entry, present, content⟩ := Option.map_eq_some_iff.mp holds
  have written : entry.content.withText? text = some (.select stored options) := by
    rw [content, Content.withText?]
    unfold takes? at takes
    split at takes
    next isEmpty => cases takes; rw [if_pos isEmpty]
    next notEmpty => rw [if_neg notEmpty, takes]; rfl
  exact ⟨_, setText_of_withText? present written, text?_put present _⟩

end

namespace Wizard

/-! ### What a line is read as -/

/-- A line that a select reads as a value is no command, and picks the value. -/
theorem readInput_select {field : Field} {line value : String} (select : field.kind = .select)
    (read : readInput field line = .ok (.write value)) :
    command? (Text.lower (Text.trim line)) = none ∧
      pick? (field.options.getD []) (Text.trim line) = some value := by
  unfold readInput at read
  simp only [select] at read
  split at read
  next input isCommand =>
    cases read
    unfold command? at isCommand
    repeat' split at isCommand
    all_goals cases isCommand
  next noCommand =>
    refine ⟨noCommand, ?_⟩
    unfold readChoice at read
    split at read
    next option picked => cases read; exact picked
    next => cases read

theorem readInput_of_pick {field : Field} {line value : String} (select : field.kind = .select)
    (noCommand : command? (Text.lower (Text.trim line)) = none)
    (picked : pick? (field.options.getD []) (Text.trim line) = some value) :
    readInput field line = .ok (.write value) := by
  unfold readInput
  simp only [noCommand, select, readChoice, picked]

theorem isEmpty_of_noCommand {word : String} (noCommand : command? (Text.lower word) = none) :
    word.isEmpty = false := by
  rw [Bool.eq_false_iff]
  intro isEmpty
  rw [String.isEmpty_iff.mp isEmpty] at noCommand
  exact absurd noCommand (by decide)

/-! ### Agreement on a line -/

/-- Whether a sheet takes over the value that a line was read as just as it is, and takes it over
for the line itself too, if it takes the line at all. -/
structure Agrees (sheet : Sheet) (name line value : String) : Prop where
  stores : ∃ after, sheet.setText name value = .ok after ∧ after.1.text? name = some value
  chooses : ∀ after, sheet.setText name (Text.trim line) = .ok after →
    after.1.text? name = some value

variable {sheet : Sheet} {name choice : String} {options : List String} {field : Field}

theorem mem_of_pick? {word value : String} (picked : pick? options word = some value) :
    value ∈ options := by
  unfold pick? at picked
  split at picked
  next found => cases picked; exact List.mem_of_find?_eq_some found
  next =>
    obtain ⟨position, -, picked⟩ := Option.bind_eq_some_iff.mp picked
    split at picked
    next => cases picked
    next => exact List.mem_of_getElem? picked

/-- An option is taken over as it is exactly if it has no blanks around it. -/
theorem takes?_self_iff {value : String} (isOption : value ∈ options) :
    Sheet.takes? options value = some value ↔ Text.trim value = value := by
  unfold Sheet.takes?
  split
  next isEmpty =>
    rw [String.isEmpty_iff.mp isEmpty]
    exact ⟨fun _ => by decide, fun _ => rfl⟩
  next notEmpty =>
    refine ⟨fun chosen => (Answer.trim_option chosen).1, fun trimmed => ?_⟩
    rw [Answer.option?_trimmed trimmed (by simpa using notEmpty), find?_beq_self isOption]
    rfl

/-- The option that a sheet chooses for a word is the picked one exactly if that has no blanks
around it and is the word wherever the word is an option. -/
theorem pick?_eq_option? {word option value : String} (trimmed : Text.trim word = word)
    (notEmpty : word.isEmpty = false) (chosen : Answer.option? options word = some option)
    (picked : pick? options word = some value) :
    value = option ↔ Text.trim value = value ∧ (word ∈ options → value = word) := by
  have trimmedOption := (Answer.trim_option chosen).1
  rw [Answer.option?_trimmed trimmed notEmpty] at chosen
  by_cases member : word ∈ options
  · rw [find?_beq_self member, Option.some_or] at chosen
    cases chosen
    exact ⟨fun equal => ⟨equal ▸ trimmed, fun _ => equal⟩, fun agrees => agrees.2 member⟩
  · have noExact : options.find? (· == word) = none :=
      List.find?_eq_none.mpr fun other isOther equal => member (eq_of_beq equal ▸ isOther)
    rw [noExact, Option.none_or] at chosen
    have sameOption := List.find?_some chosen
    refine ⟨fun equal => ⟨equal ▸ trimmedOption, fun isOption => absurd isOption member⟩, ?_⟩
    rintro ⟨trimmedValue, -⟩
    -- Only what has no blanks around it can differ from the word in case alone, so that the wider
    -- search comes upon every such option too.
    have imp : ∀ other, Text.sameAscii other word = true →
        Text.sameAscii (Text.trim other) word = true := fun other same => by
      rw [Text.trim_of_sameAscii same trimmed]
      exact same
    have first : options.find? (fun other => Text.sameAscii (Text.trim other) word) =
        some value := by
      unfold pick? at picked
      split at picked
      next found => cases picked; exact found
      next missing =>
        have isOption := List.mem_of_find?_eq_some chosen
        exact absurd (imp option sameOption) (List.find?_eq_none.mp missing option isOption)
    have same := List.find?_some first
    rw [trimmedValue] at same
    rw [find?_of_imp imp first same] at chosen
    exact Option.some.inj chosen

/-- The sheet agrees with what a line was read as exactly if that has no blanks around it and is the
line wherever the line is an option. -/
theorem agrees_iff (holds : sheet.content? name = some (.select choice options))
    (select : field.kind = .select) (same : field.options.getD [] = options)
    {line value : String} (read : readInput field line = .ok (.write value)) :
    Agrees sheet name line value ↔
      Text.trim value = value ∧ (Text.trim line ∈ options → value = Text.trim line) := by
  obtain ⟨noCommand, picked⟩ := readInput_select select read
  rw [same] at picked
  have notEmpty := isEmpty_of_noCommand noCommand
  have trimmedLine := Text.trim_trim line
  constructor
  · rintro ⟨⟨after, written, held⟩, chooses⟩
    obtain ⟨stored, takes, holdsStored⟩ := Sheet.takes?_of_setText holds written
    cases held.symm.trans holdsStored
    refine ⟨(takes?_self_iff (mem_of_pick? picked)).mp takes, fun member => ?_⟩
    have exact : Sheet.takes? options (Text.trim line) = some (Text.trim line) := by
      rw [Sheet.takes?_eq_option? notEmpty, Answer.option?_trimmed trimmedLine notEmpty,
        find?_beq_self member]
      rfl
    obtain ⟨after, writtenLine, heldLine⟩ := Sheet.exists_setText holds exact
    exact Option.some.inj ((chooses after writtenLine).symm.trans heldLine)
  · rintro ⟨trimmed, isLine⟩
    refine ⟨Sheet.exists_setText holds ((takes?_self_iff (mem_of_pick? picked)).mpr trimmed), ?_⟩
    intro after writtenLine
    obtain ⟨stored, takes, held⟩ := Sheet.takes?_of_setText holds writtenLine
    rw [Sheet.takes?_eq_option? notEmpty] at takes
    rw [held, (pick?_eq_option? trimmedLine notEmpty takes picked).mpr ⟨trimmed, isLine⟩]

/-! ### Agreement on every line -/

/-- The digits of a number after zeros. -/
def padded (zeros number : Nat) : List Char :=
  List.replicate zeros '0' ++ Nat.toDigits 10 number

theorem isDigit_of_mem_padded {zeros number : Nat} {character : Char}
    (member : character ∈ padded zeros number) : character.isDigit = true := by
  rcases List.mem_append.mp member with isZero | isDigit
  · rw [List.eq_of_mem_replicate isZero]
    rfl
  · exact Nat.isDigit_of_mem_toDigits (by decide) (by decide) isDigit

theorem digitsValue_padded (zeros number : Nat) :
    Text.digitsValue (padded zeros number) = number := by
  induction zeros with
  | zero => exact Nat.ofDigitChars_ten_toDigits
  | succ zeros inductionHypothesis => exact inductionHypothesis

/-- Digits have no blanks around them and no case. -/
theorem plain_of_digits {digits : List Char}
    (areDigits : ∀ digit ∈ digits, digit.isDigit = true) :
    Text.trim (String.ofList digits) = String.ofList digits ∧
      Text.lower (String.ofList digits) = String.ofList digits := by
  have codes : ∀ digit ∈ digits, 48 ≤ digit.toNat ∧ digit.toNat ≤ 57 := fun digit member =>
    Char.isDigit_iff_toNat.mp (areDigits digit member)
  constructor
  · refine Text.trim_of_solid fun digit member => ?_
    have range := codes digit member
    simp only [Text.isBlank, Bool.or_eq_false_iff, Bool.and_eq_false_iff, beq_eq_false_iff_ne,
      decide_eq_false_iff_not]
    omega
  · have lowered : ∀ before, Text.lowerAfter before digits = digits := by
      clear areDigits
      induction digits with
      | nil => exact fun _ => rfl
      | cons digit digits inductionHypothesis =>
        intro before
        obtain ⟨range, rest⟩ := List.forall_mem_cons.mp codes
        have small : digit.toNat < 128 := by omega
        have noCapital : digit.toLower = digit := by
          refine Char.toNat_inj.mp ?_
          rw [Text.toNat_toLower, if_neg (by omega)]
        rw [Text.lowerAfter, inductionHypothesis rest, Text.lowerAt, if_pos small, noCapital]
        rfl
    rw [Text.lower, String.toList_ofList, Text.lowerList, lowered]

/-- Digits are no command. -/
theorem command?_of_digits {digit : Char} {digits : List Char} (isDigit : digit.isDigit = true) :
    command? (String.ofList (digit :: digits)) = none := by
  have different : ∀ word : String, word.toList.head?.any Char.isDigit = false →
      String.ofList (digit :: digits) ≠ word := by
    rintro _ noDigit rfl
    rw [String.toList_ofList] at noDigit
    have contrary : digit.isDigit = false := noDigit
    rw [isDigit] at contrary
    cases contrary
  simp only [command?, Bool.or_eq_true, beq_iff_eq]
  rw [if_neg (different "" (by decide)), if_neg (different "back" (by decide)), if_neg]
  exact not_or.mpr ⟨different "exit" (by decide), different "quit" (by decide)⟩

/-- Every option can be picked by its number, with so many zeros before it that it is no label. -/
theorem exists_line_of_option {option : String} (isOption : option ∈ options)
    (short : options.length < 2 ^ 64) :
    ∃ line, command? (Text.lower (Text.trim line)) = none ∧
      pick? options (Text.trim line) = some option := by
  obtain ⟨index, inside, rfl⟩ := List.mem_iff_getElem.mp isOption
  let zeros := (options.map fun option => (Text.trim option).toList.length).sum + 1
  have areDigits : ∀ digit ∈ padded zeros (index + 1), digit.isDigit = true := fun _ =>
    isDigit_of_mem_padded
  obtain ⟨trimmed, lowered⟩ := plain_of_digits areDigits
  refine ⟨String.ofList (padded zeros (index + 1)), ?_, ?_⟩
  · rw [trimmed, lowered]
    exact command?_of_digits rfl
  · have noLabel : options.find? (fun option =>
        Text.sameAscii (Text.trim option) (String.ofList (padded zeros (index + 1)))) = none := by
      refine List.find?_eq_none.mpr fun option member same => ?_
      have lengths := congrArg List.length (Text.sameAscii_iff.mp same)
      rw [List.length_map, List.length_map, String.toList_ofList, padded, List.length_append,
        List.length_replicate] at lengths
      have bound := List.single_le_sum (fun _ _ => Nat.zero_le _) _
        (List.mem_map_of_mem (f := fun option => (Text.trim option).toList.length) member)
      omega
    have number : Text.readNatural (UInt64.size - 1) (padded zeros (index + 1)) =
        some (index + 1) := by
      have word : index + 1 ≤ UInt64.size - 1 := by
        show index + 1 ≤ 2 ^ 64 - 1
        omega
      have filled : padded zeros (index + 1) ≠ [] := List.cons_ne_nil '0' _
      rw [Text.readNatural_digits filled areDigits, digitsValue_padded, if_pos word]
    rw [trimmed, pick?, noLabel, String.toList_ofList, number]
    simp [inside]

/-- The prompt agrees with the sheet on every line exactly if no option has blanks around it and
every option that is no command is the first one of its letters. -/
theorem agrees_always_iff (holds : sheet.content? name = some (.select choice options))
    (select : field.kind = .select) (same : field.options.getD [] = options)
    (short : options.length < 2 ^ 64) :
    (∀ line value, readInput field line = .ok (.write value) → Agrees sheet name line value) ↔
      (∀ option ∈ options, Text.trim option = option) ∧
      ∀ option ∈ options, command? (Text.lower option) = none →
        options.find? (fun other => Text.sameAscii other option) = some option := by
  -- Where no option has blanks around it, passing over them makes no difference.
  have untouched : (∀ option ∈ options, Text.trim option = option) → ∀ word,
      options.find? (fun other => Text.sameAscii (Text.trim other) word) =
        options.find? fun other => Text.sameAscii other word := fun trimmed word =>
    List.find?_congr fun option isOption => by rw [trimmed option isOption]
  constructor
  · intro always
    have agrees : ∀ {line value}, command? (Text.lower (Text.trim line)) = none →
        pick? options (Text.trim line) = some value →
        Text.trim value = value ∧ (Text.trim line ∈ options → value = Text.trim line) := by
      intro line value noCommand picked
      have read := readInput_of_pick select noCommand (same ▸ picked)
      exact (agrees_iff holds select same read).mp (always line value read)
    have trimmed : ∀ option ∈ options, Text.trim option = option := fun option isOption => by
      obtain ⟨line, noCommand, picked⟩ := exists_line_of_option isOption short
      exact (agrees noCommand picked).1
    refine ⟨trimmed, fun option isOption noCommand => ?_⟩
    obtain ⟨first, found⟩ : ∃ first,
        options.find? (fun other => Text.sameAscii other option) = some first :=
      Option.isSome_iff_exists.mp
        (List.find?_isSome.mpr ⟨option, isOption, Text.sameAscii_self option⟩)
    have picked : pick? options option = some first := by
      rw [pick?, untouched trimmed, found]
    have isLine := trimmed option isOption
    rw [← isLine] at noCommand picked
    rw [found, (agrees noCommand picked).2 (isLine.symm ▸ isOption), isLine]
  · rintro ⟨trimmed, first⟩ line value read
    obtain ⟨noCommand, picked⟩ := readInput_select select read
    rw [same] at picked
    refine (agrees_iff holds select same read).mpr
      ⟨trimmed value (mem_of_pick? picked), fun isOption => ?_⟩
    rw [pick?, untouched trimmed, first _ isOption noCommand] at picked
    exact (Option.some.inj picked).symm

/-- What the prompt of a select reads as a value is one of the options. The sheet takes it over
as it is exactly if it has no blanks around it; it agrees on what the line itself means exactly
if besides the value is the line wherever the line is an option; and it agrees on all lines
exactly if no option has blanks around it and every option that is no command is the first one of
its letters. -/
theorem selections_agree (holds : sheet.content? name = some (.select choice options))
    (select : field.kind = .select) (same : field.options.getD [] = options) :
    (∀ line value, readInput field line = .ok (.write value) →
      value ∈ options ∧
      ((∃ after, sheet.setText name value = .ok after ∧ after.1.text? name = some value) ↔
        Text.trim value = value) ∧
      (Agrees sheet name line value ↔
        Text.trim value = value ∧ (Text.trim line ∈ options → value = Text.trim line))) ∧
    (options.length < 2 ^ 64 →
      ((∀ line value, readInput field line = .ok (.write value) → Agrees sheet name line value) ↔
        (∀ option ∈ options, Text.trim option = option) ∧
        ∀ option ∈ options, command? (Text.lower option) = none →
          options.find? (fun other => Text.sameAscii other option) = some option)) := by
  refine ⟨fun line value read => ?_, agrees_always_iff holds select same⟩
  have isOption : value ∈ options := mem_of_pick? (same ▸ (readInput_select select read).2)
  refine ⟨isOption, ?_, agrees_iff holds select same read⟩
  rw [← takes?_self_iff isOption]
  constructor
  · rintro ⟨after, written, held⟩
    obtain ⟨stored, takes, holdsStored⟩ := Sheet.takes?_of_setText holds written
    cases held.symm.trans holdsStored
    exact takes
  · exact Sheet.exists_setText holds

/-- A form with an option that has blanks around it, and with two options of the same letters. -/
def labels : Form :=
  let ask (id : String) (options : List String) : Question :=
    { Question.blank with
      id, kind := .singleChoice, text := id
      options := options.map fun label => ⟨label, none, false, false⟩ }
  { id := "labels"
    title := "Labels"
    description := none
    sections := [⟨1, "First", [ask "padded" [" Red ", "Blue"], ask "twins" ["red", "Red"]]⟩]
    hiddenFields := []
    links := [] }

theorem labels_isSome : (Catalog.build labels).toOption.isSome = true := by decide +kernel

/-- The first sheet of that form. -/
def labelsSheet : Sheet :=
  (Session.start ((Catalog.build labels).toOption.get labels_isSome)).sheet

/-- The field of a select with the given options. -/
def selectField (name : String) (options : List String) : Field :=
  ⟨name, name, .select, false, "", some options⟩

theorem selections_agree_of_twins :
    readInput (selectField "twins" ["red", "Red"]) "RED" = .ok (.write "red") ∧
    Agrees labelsSheet "twins" "RED" "red" := by
  have holds : labelsSheet.content? "twins" = some (.select "" ["red", "Red"]) := by
    decide +kernel
  have read : readInput (selectField "twins" ["red", "Red"]) "RED" = .ok (.write "red") := by
    decide +kernel
  have select : (selectField "twins" ["red", "Red"]).kind = .select := rfl
  obtain ⟨each, -⟩ := selections_agree holds select rfl
  exact ⟨read, (each "RED" "red" read).2.2.mpr (by decide +kernel)⟩

/-- The padded option is read from its letters, but the sheet refuses it; and of the two options of
the same letters the first is read from a line that is the second. -/
theorem selections_disagree :
    labelsSheet.content? "padded" = some (.select "" [" Red ", "Blue"]) ∧
    readInput (selectField "padded" [" Red ", "Blue"]) "red" = .ok (.write " Red ") ∧
    labelsSheet.setText "padded" " Red " = .error (.unknownOption "padded" " Red ") ∧
    ¬Agrees labelsSheet "padded" "red" " Red " ∧
    labelsSheet.content? "twins" = some (.select "" ["red", "Red"]) ∧
    readInput (selectField "twins" ["red", "Red"]) "Red" = .ok (.write "red") ∧
    (labelsSheet.setText "twins" "Red").toOption.bind (fun after => after.1.text? "twins") =
      some "Red" ∧
    ¬Agrees labelsSheet "twins" "Red" "red" := by
  have refused : labelsSheet.setText "padded" " Red " =
      .error (.unknownOption "padded" " Red ") := rfl
  have stored : (labelsSheet.setText "twins" "Red").toOption.bind
      (fun after => after.1.text? "twins") = some "Red" := by decide +kernel
  refine ⟨by decide +kernel, by decide +kernel, refused, fun agrees => ?_, by decide +kernel,
    by decide +kernel, stored, fun agrees => ?_⟩
  · obtain ⟨after, written, -⟩ := agrees.stores
    rw [refused] at written
    cases written
  · have trimmed : Text.trim "Red" = "Red" := by decide +kernel
    have chooses := agrees.chooses
    rw [trimmed] at chooses
    cases written : labelsSheet.setText "twins" "Red" with
    | error fault => rw [written] at stored; cases stored
    | ok after =>
      rw [written] at stored
      have held := chooses after written
      rw [show after.1.text? "twins" = some "Red" from stored] at held
      exact absurd held (by decide)

end Wizard

end Questionnaire

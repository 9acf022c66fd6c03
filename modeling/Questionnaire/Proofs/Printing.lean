/-
This file proves that a printed value is read back. What a number is read as does not depend on what
comes after it, as long as that does not go on with the number; the escapes of a text are read as
its characters; and a text is long enough for all the steps that reading it takes. Of the numbers it
is asked that each is read back by itself, which every whole number within the 64-bit ranges is.
-/
import Mathlib.Algebra.Group.Int.Defs
import Mathlib.Algebra.Group.Nat.Defs
import Mathlib.Data.List.TakeWhile
import Questionnaire.Json.Printer
import Questionnaire.Json.Reader

namespace Questionnaire

/-- Whether the text of a number is read as the number. -/
def Number.IsExact (number : Number) : Prop :=
  Json.readNumber (Json.printNumber number) = some (.number number, [])

namespace Json

/-! ### What comes after a number -/

/-- Whether characters do not go on with a number. -/
def EndsNumber (rest : List Char) : Prop :=
  ∀ character ∈ rest.head?,
    character.isDigit = false ∧ character ≠ '.' ∧ character ≠ 'e' ∧ character ≠ 'E'

theorem endsNumber_nil : EndsNumber [] := nofun

theorem endsNumber_cons {character : Char} {rest : List Char}
    (divides : character = ',' ∨ character = ']' ∨ character = '\x7d') :
    EndsNumber (character :: rest) := by
  rintro _ ⟨⟩
  rcases divides with rfl | rfl | rfl <;> decide

/-- Digits end where they end without what comes after them. -/
theorem spanDigits_append (characters : List Char) {rest : List Char} (ends : EndsNumber rest) :
    spanDigits (characters ++ rest) =
      ((spanDigits characters).1, (spanDigits characters).2 ++ rest) := by
  induction characters with
  | nil =>
    cases rest with
    | nil => rfl
    | cons character _ =>
      have noDigit := (ends character rfl).1
      simp [spanDigits, noDigit]
  | cons character characters inductionHypothesis =>
    have equal := Prod.mk.inj inductionHypothesis
    by_cases isDigit : character.isDigit = true
    · simp [spanDigits, isDigit, equal.1, equal.2] at equal ⊢
    · simp [spanDigits, isDigit]

/-- So does a fraction. -/
theorem readFraction_append {characters fraction after : List Char}
    (read : readFraction characters = some (fraction, after)) {rest : List Char}
    (ends : EndsNumber rest) :
    readFraction (characters ++ rest) = some (fraction, after ++ rest) := by
  have atPoint : ∀ tail, readFraction ('.' :: tail) =
      if (spanDigits tail).1.isEmpty then none else some (spanDigits tail) := fun _ => rfl
  have elsewhere : ∀ all : List Char, (∀ tail, all ≠ '.' :: tail) →
      readFraction all = some ([], all) := fun all noPoint => by
    rw [readFraction]
    exact noPoint
  by_cases point : ∃ tail, characters = '.' :: tail
  · obtain ⟨tail, rfl⟩ := point
    rw [atPoint] at read
    rw [List.cons_append, atPoint, spanDigits_append tail ends]
    split at read
    next => cases read
    next some => cases read; exact if_neg some
  · have noPoint : ∀ tail, characters ++ rest ≠ '.' :: tail := by
      intro tail equal
      cases characters with
      | nil =>
        cases rest with
        | nil => cases equal
        | cons character more => cases equal; exact (ends '.' rfl).2.1 rfl
      | cons character more => cases equal; exact point ⟨more, rfl⟩
    rw [elsewhere characters fun tail equal => point ⟨tail, equal⟩] at read
    cases read
    exact elsewhere _ noPoint

/-- An exponent after its mark and its sign. -/
def powerAfter (negative : Bool) (unsigned : List Char) : Option (Option Int × List Char) :=
  if (spanDigits unsigned).1.isEmpty then none
  else
    let magnitude : Int := Text.digitsValue (spanDigits unsigned).1
    some (some (if negative then -magnitude else magnitude), (spanDigits unsigned).2)

theorem readPower_mark {mark : Char} (isMark : (mark == 'e' || mark == 'E') = true) :
    (∀ tail, readPower (mark :: '-' :: tail) = powerAfter true tail) ∧
    (∀ tail, readPower (mark :: '+' :: tail) = powerAfter false tail) ∧
    (∀ sign tail, sign ≠ '-' → sign ≠ '+' →
      readPower (mark :: sign :: tail) = powerAfter false (sign :: tail)) := by
  refine ⟨fun tail => ?_, fun tail => ?_, fun sign tail noMinus noPlus => ?_⟩
  · rw [readPower, if_pos isMark]
    rfl
  · rw [readPower, if_pos isMark]
    rfl
  · rw [readPower, if_pos isMark]
    · rfl
    · rintro _ ⟨⟩
      exact noMinus rfl
    · rintro _ ⟨⟩
      exact noPlus rfl

theorem powerAfter_append {negative : Bool} {unsigned after : List Char} {power : Option Int}
    (read : powerAfter negative unsigned = some (power, after)) {rest : List Char}
    (ends : EndsNumber rest) :
    powerAfter negative (unsigned ++ rest) = some (power, after ++ rest) := by
  unfold powerAfter at read ⊢
  rw [spanDigits_append unsigned ends]
  split at read
  next => cases read
  next some => cases read; exact if_neg some

/-- So does an exponent. -/
theorem readPower_append {characters after : List Char} {power : Option Int}
    (read : readPower characters = some (power, after)) {rest : List Char}
    (ends : EndsNumber rest) :
    readPower (characters ++ rest) = some (power, after ++ rest) := by
  cases characters with
  | nil =>
    cases read
    cases rest with
    | nil => rfl
    | cons character tail =>
      obtain ⟨-, -, notSmall, notCapital⟩ := ends character rfl
      simp [readPower, notSmall, notCapital]
  | cons mark tail =>
    by_cases isMark : (mark == 'e' || mark == 'E') = true
    · obtain ⟨minus, plus, unsigned⟩ := readPower_mark isMark
      cases tail with
      | nil => simp [readPower, isMark, spanDigits] at read
      | cons sign tail =>
        rw [List.cons_append, List.cons_append]
        by_cases isMinus : sign = '-'
        · subst isMinus
          rw [minus] at read ⊢
          exact powerAfter_append read ends
        · by_cases isPlus : sign = '+'
          · subst isPlus
            rw [plus] at read ⊢
            exact powerAfter_append read ends
          · rw [unsigned _ _ isMinus isPlus] at read ⊢
            exact powerAfter_append read ends
    · simp only [readPower, List.cons_append, isMark, Bool.false_eq_true, if_false] at read ⊢
      cases read
      rfl

/-- A number after its sign. -/
def numberAfter (negative : Bool) (unsigned : List Char) : Option (Json × List Char) :=
  let (whole, rest) := spanDigits unsigned
  if whole.isEmpty || (whole.head? == some '0' && 1 < whole.length) then none
  else
    (readFraction rest).bind fun (fraction, rest) =>
      (readPower rest).map fun (exponent, rest) =>
        ((Literal.mk negative whole fraction exponent).value, rest)

theorem readNumber_minus (unsigned : List Char) :
    readNumber ('-' :: unsigned) = numberAfter true unsigned := rfl

theorem readNumber_unsigned {characters : List Char} (noMinus : characters.head? ≠ some '-') :
    readNumber characters = numberAfter false characters := by
  rw [readNumber]
  · rfl
  · rintro _ rfl
    exact noMinus rfl

theorem numberAfter_append {negative : Bool} {unsigned after : List Char} {value : Json}
    (read : numberAfter negative unsigned = some (value, after)) {rest : List Char}
    (ends : EndsNumber rest) :
    numberAfter negative (unsigned ++ rest) = some (value, after ++ rest) := by
  unfold numberAfter at read ⊢
  rw [spanDigits_append unsigned ends]
  simp only at read ⊢
  split at read
  next => cases read
  next isWhole =>
    rw [if_neg isWhole]
    obtain ⟨⟨fraction, beyond⟩, readsFraction, read⟩ := Option.bind_eq_some_iff.mp read
    obtain ⟨⟨power, last⟩, readsPower, equal⟩ := Option.map_eq_some_iff.mp read
    rw [readFraction_append readsFraction ends, Option.bind_some,
      readPower_append readsPower ends, Option.map_some]
    cases equal
    rfl

/-- A number is read as it is without what comes after it. -/
theorem readNumber_append {characters after : List Char} {value : Json}
    (read : readNumber characters = some (value, after)) {rest : List Char}
    (ends : EndsNumber rest) :
    readNumber (characters ++ rest) = some (value, after ++ rest) := by
  by_cases minus : characters.head? = some '-'
  · obtain ⟨unsigned, rfl⟩ := List.head?_eq_some_iff.mp minus
    rw [readNumber_minus] at read
    rw [List.cons_append, readNumber_minus]
    exact numberAfter_append read ends
  · rw [readNumber_unsigned minus] at read
    rw [readNumber_unsigned]
    · exact numberAfter_append read ends
    · cases characters with
      | nil => cases read
      | cons character tail => exact minus

/-- A number starts with a minus or a digit. -/
theorem head_of_readNumber {characters : List Char} {result : Json × List Char}
    (read : readNumber characters = some result) :
    ∃ first tail, characters = first :: tail ∧ (first = '-' ∨ first.isDigit = true) := by
  cases characters with
  | nil => cases read
  | cons first tail =>
    refine ⟨first, tail, rfl, ?_⟩
    by_cases minus : first = '-'
    · exact .inl minus
    · refine .inr (by_contra fun noDigit => ?_)
      rw [readNumber_unsigned (by simpa using minus)] at read
      simp [numberAfter, spanDigits, noDigit] at read

/-! ### Whole numbers -/

theorem digitsValue_toDigits (value : Nat) : Text.digitsValue (Nat.toDigits 10 value) = value :=
  Nat.ofDigitChars_ten_toDigits

theorem le_foldl_digits (digits : List Char) (start : Nat) :
    start ≤ digits.foldl (fun value digit => 10 * value + Text.digitValue digit) start := by
  induction digits generalizing start with
  | nil => exact Nat.le_refl start
  | cons digit digits inductionHypothesis =>
    have more : start ≤ 10 * start + Text.digitValue digit := by omega
    exact Nat.le_trans more (inductionHypothesis _)

/-- Digits whose number fits a word are all taken. -/
theorem takeDigits_eq {digits : List Char} {start count : Nat}
    (fits : digits.foldl (fun value digit => 10 * value + Text.digitValue digit) start ≤
      greatestWord) :
    takeDigits start count digits =
      (digits.foldl (fun value digit => 10 * value + Text.digitValue digit) start,
        count + digits.length) := by
  induction digits generalizing start count with
  | nil => rfl
  | cons digit digits inductionHypothesis =>
    rw [List.foldl_cons] at fits ⊢
    rw [takeDigits, if_pos (Nat.le_trans (le_foldl_digits digits _) fits),
      inductionHypothesis fits, List.length_cons]
    congr 1
    omega

theorem spanDigits_toDigits (value : Nat) :
    spanDigits (Nat.toDigits 10 value) = (Nat.toDigits 10 value, []) := by
  have areDigits : ∀ digit ∈ Nat.toDigits 10 value, digit.isDigit = true := fun digit member =>
    Nat.isDigit_of_mem_toDigits (by decide) (by decide) member
  rw [spanDigits, List.takeWhile_eq_self_iff.mpr areDigits, List.dropWhile_eq_nil_iff.mpr areDigits]

/-- Only the numeral of zero starts with a zero. -/
theorem head_toDigits (value : Nat) :
    (Nat.toDigits 10 value).head? = some '0' → (Nat.toDigits 10 value).length = 1 := by
  have one : ∀ digit < 10, (Nat.toDigits 10 digit).length = 1 := by decide
  have nonzero : ∀ value, 0 < value → (Nat.toDigits 10 value).head? ≠ some '0' := by
    intro value
    induction value using Nat.strongRecOn with
    | ind value inductionHypothesis =>
      intro positive
      by_cases short : value < 10
      · have digits : ∀ digit < 10, 0 < digit → (Nat.toDigits 10 digit).head? ≠ some '0' := by
          decide
        exact digits value short positive
      · have part := inductionHypothesis (value / 10) (by omega) (by omega)
        rw [Nat.toDigits_of_base_le (by decide) (by omega)]
        cases digits : Nat.toDigits 10 (value / 10) with
        | nil => exact absurd digits Nat.toDigits_ne_nil
        | cons digit rest => rwa [digits] at part
  intro head
  by_cases positive : 0 < value
  · exact absurd head (nonzero value positive)
  · exact one value (by omega)

theorem numberAfter_toDigits (negative : Bool) (value : Nat) :
    numberAfter negative (Nat.toDigits 10 value) =
      some ((Literal.mk negative (Nat.toDigits 10 value) [] none).value, []) := by
  unfold numberAfter
  rw [spanDigits_toDigits]
  simp only
  rw [if_neg, readFraction, Option.bind_some]
  · rfl
  · nofun
  · have short := head_toDigits value
    simp only [Bool.or_eq_true, List.isEmpty_iff, Bool.and_eq_true, beq_iff_eq,
      decide_eq_true_eq, not_or, not_and, Nat.not_lt]
    exact ⟨Nat.toDigits_ne_nil, fun head => Nat.le_of_eq (short head)⟩

theorem takeDigits_toDigits {value : Nat} (fits : value ≤ greatestWord) :
    takeDigits 0 0 (Nat.toDigits 10 value) = (value, (Nat.toDigits 10 value).length) := by
  have equal : (Nat.toDigits 10 value).foldl
      (fun value digit => 10 * value + Text.digitValue digit) 0 = value :=
    digitsValue_toDigits value
  rw [takeDigits_eq (by rw [equal]; exact fits), equal, Nat.zero_add]

/-- A whole number within the 64-bit ranges is read back. -/
theorem isExact_integer {value : Int} (low : -(2 ^ 63) ≤ value) (high : value < 2 ^ 64) :
    (Number.integer value).IsExact := by
  cases value with
  | ofNat value =>
    have fits : value ≤ greatestWord := by
      have below : (value : Int) < 2 ^ 64 := high
      show value ≤ 2 ^ 64 - 1
      omega
    have digits : printNumber (.integer (.ofNat value)) = Nat.toDigits 10 value :=
      String.toList_ofList
    have noMinus : (Nat.toDigits 10 value).head? ≠ some '-' := fun head =>
      absurd (Nat.isDigit_of_mem_toDigits (by decide) (by decide) (List.mem_of_head? head))
        (by decide)
    unfold Number.IsExact
    rw [digits, readNumber_unsigned noMinus, numberAfter_toDigits, Literal.value,
      takeDigits_toDigits fits]
    simp
  | negSucc value =>
    have fits : value + 1 ≤ greatestWord := by
      show value + 1 ≤ 2 ^ 64 - 1
      omega
    have digits : printNumber (.integer (.negSucc value)) = '-' :: Nat.toDigits 10 (value + 1) := by
      show (Text.signedNumeral (.negSucc value)).toList = _
      rw [Text.signedNumeral, String.toList_append, Text.numeral]
      rw [String.toList_ofList, String.toList_ofList, List.singleton_append]
    have small : value + 1 ≤ Int64.minValue.toInt.natAbs := by
      show value + 1 ≤ 9223372036854775808
      omega
    unfold Number.IsExact
    rw [digits, readNumber_minus, numberAfter_toDigits, Literal.value, takeDigits_toDigits fits]
    simp only [BEq.rfl, Bool.not_true, Bool.and_false, Bool.true_and, Nat.zero_lt_succ, decide_true,
      decide_eq_true small]
    rfl

/-! ### Texts -/

theorem hexUnit?_hexNumeral : ∀ code < 32,
    (match Text.hexNumeral 4 code with
      | [first, second, third, fourth] => hexUnit? first second third fourth
      | _ => none) = some code := by
  decide

/-- A unit of an escape that is no half of a surrogate pair is its character, whatever follows. -/
theorem joinPieces_unit {code : Nat} (low : code < 32) (pieces : List Piece) :
    joinPieces (.unit code :: pieces) = (joinPieces pieces).map (Char.ofNat code :: ·) := by
  have noHigh : isHighHalf code = false := by simp [isHighHalf]; omega
  have noLow : isLowHalf code = false := by simp [isLowHalf]; omega
  cases pieces with
  | nil => simp [joinPieces, noHigh, noLow]
  | cons piece rest => cases piece <;> simp [joinPieces, noHigh, noLow]

/-- A character is escaped by a letter or, if it is a control character, by its number; all others
stand for themselves. -/
theorem escapeCharacter_cases (character : Char) :
    (∃ letter, escapeCharacter character = ['\\', letter] ∧
      simpleEscape? letter = some character) ∨
    (character.toNat < 32 ∧
      escapeCharacter character = ['\\', 'u'] ++ Text.hexNumeral 4 character.toNat) ∨
    (character ≠ '"' ∧ character ≠ '\\' ∧ 32 ≤ character.toNat ∧
      escapeCharacter character = [character]) := by
  unfold escapeCharacter
  simp only [beq_iff_eq]
  split
  next equal => exact .inl ⟨'"', rfl, by rw [equal]; rfl⟩
  next noQuote =>
    split
    next equal => exact .inl ⟨'\\', rfl, by rw [equal]; rfl⟩
    next noBackslash =>
      split
      next equal => exact .inl ⟨'n', rfl, by rw [equal]; rfl⟩
      split
      next equal => exact .inl ⟨'r', rfl, by rw [equal]; rfl⟩
      split
      next equal => exact .inl ⟨'t', rfl, by rw [equal]; rfl⟩
      split
      next equal => exact .inl ⟨'b', rfl, by rw [equal]; rfl⟩
      split
      next equal => exact .inl ⟨'f', rfl, by rw [equal]; rfl⟩
      split
      next control => exact .inr (.inl ⟨control, rfl⟩)
      next noControl => exact .inr (.inr ⟨noQuote, noBackslash, Nat.le_of_not_lt noControl, rfl⟩)

theorem readPieces_escape {letter value : Char} (known : simpleEscape? letter = some value)
    (rest : List Char) :
    readPieces ('\\' :: letter :: rest) =
      (readPieces rest).map fun (pieces, rest) => (.character value :: pieces, rest) := by
  rw [readPieces, known, Option.bind_some]
  rintro _ _ _ _ _ rfl _
  cases known

theorem readPieces_code {code : Nat} (control : code < 32) (rest : List Char) :
    readPieces (['\\', 'u'] ++ Text.hexNumeral 4 code ++ rest) =
      (readPieces rest).map fun (pieces, rest) => (.unit code :: pieces, rest) := by
  have read := hexUnit?_hexNumeral code control
  split at read
  next first second third fourth digits =>
    rw [digits]
    show readPieces ('\\' :: 'u' :: first :: second :: third :: fourth :: rest) = _
    rw [readPieces, read, Option.bind_some]
  next => cases read

theorem readPieces_self {character : Char} (noQuote : character ≠ '"')
    (noBackslash : character ≠ '\\') (noControl : 32 ≤ character.toNat) (rest : List Char) :
    readPieces (character :: rest) =
      (readPieces rest).map fun (pieces, rest) => (.character character :: pieces, rest) := by
  have plain : ¬(character == '\\' || decide (character.toNat < 32)) = true := by
    simp [noBackslash, noControl]
  rw [readPieces]
  · exact if_neg plain
  · exact noQuote
  · exact fun _ _ _ _ _ equal _ => noBackslash equal
  · exact fun _ _ equal _ => noBackslash equal

/-- What stands for a character in a text is read as one piece, and that is joined to the
character. -/
theorem exists_piece (character : Char) :
    ∃ piece,
      (∀ rest, readPieces (escapeCharacter character ++ rest) =
        (readPieces rest).map fun (pieces, rest) => (piece :: pieces, rest)) ∧
      ∀ pieces, joinPieces (piece :: pieces) = (joinPieces pieces).map (character :: ·) := by
  have joined : ∀ pieces, joinPieces (.character character :: pieces) =
      (joinPieces pieces).map (character :: ·) := fun pieces => by rw [joinPieces]
  rcases escapeCharacter_cases character with
    ⟨letter, escaped, known⟩ | ⟨control, escaped⟩ | ⟨noQuote, noBackslash, noControl, escaped⟩
  · rw [escaped]
    exact ⟨.character character, readPieces_escape known, joined⟩
  · rw [escaped]
    refine ⟨.unit character.toNat, readPieces_code control, fun pieces => ?_⟩
    rw [joinPieces_unit control, Char.ofNat_toNat]
  · rw [escaped]
    exact ⟨.character character, readPieces_self noQuote noBackslash noControl, joined⟩

/-- The text of a text is read back. -/
theorem readText_printed (characters rest : List Char) :
    readText (characters.flatMap escapeCharacter ++ '"' :: rest) =
      some (some characters, rest) := by
  have read : ∃ pieces, readPieces (characters.flatMap escapeCharacter ++ '"' :: rest) =
      some (pieces, rest) ∧ joinPieces pieces = some characters := by
    induction characters with
    | nil => exact ⟨[], by rw [List.flatMap_nil, List.nil_append, readPieces], rfl⟩
    | cons character characters inductionHypothesis =>
      obtain ⟨pieces, read, joined⟩ := inductionHypothesis
      obtain ⟨piece, reads, joins⟩ := exists_piece character
      refine ⟨piece :: pieces, ?_, ?_⟩
      · rw [List.flatMap_cons, List.append_assoc, reads, read, Option.map_some]
      · rw [joins, joined, Option.map_some]
  obtain ⟨pieces, read, joined⟩ := read
  rw [readText, read, Option.map_some]
  exact congrArg (fun held => some (held, rest)) joined

/-! ### Values -/

/-- Values whose numbers are exact and that are no deeper than the given number of levels. -/
inductive Printable : Nat → Json → Prop where
  | null {levels : Nat} : Printable levels .null
  | boolean {levels : Nat} (value : Bool) : Printable levels (.boolean value)
  | number {levels : Nat} {value : Number} (exact : value.IsExact) :
    Printable levels (.number value)
  | text {levels : Nat} (value : String) : Printable levels (.text value)
  | array {levels : Nat} {elements : List Json}
    (each : ∀ element ∈ elements, Printable levels element) :
    Printable (levels + 1) (.array elements)
  | object {levels : Nat} {members : List (String × Json)}
    (each : ∀ member ∈ members, Printable levels member.2) :
    Printable (levels + 1) (.object members)

theorem Printable.nat {levels value : Nat} (word : value < 2 ^ 64) :
    Printable levels (.nat value) :=
  .number (isExact_integer (by omega) (by omega))

/-- What a number is read as is a value. -/
theorem readValue_of_readNumber {characters : List Char} {result : Json × List Char}
    (read : readNumber characters = some result) (steps room : Nat) :
    readValue (steps + 1) room characters = some result := by
  obtain ⟨first, tail, rfl, head⟩ := head_of_readNumber read
  have different : ∀ letter, letter = 'n' ∨ letter = 't' ∨ letter = 'f' ∨ letter = '"' ∨
      letter = '[' ∨ letter = '\x7b' → first ≠ letter := by
    rintro _ (rfl | rfl | rfl | rfl | rfl | rfl) rfl <;> (revert head; decide)
  rw [readValue]
  · exact read
  all_goals
    intros
    rename_i equal
    exact different _ (by decide) (List.cons.inj equal).1

/-- A printed value starts with neither a blank nor a closing bracket. -/
theorem head_of_printable {levels : Nat} {value : Json} (printable : Printable levels value) :
    ∃ first tail, print value = first :: tail ∧ isGap first = false ∧ first ≠ ']' := by
  cases printable with
  | null => exact ⟨'n', _, rfl, rfl, by decide⟩
  | boolean value => cases value <;> exact ⟨_, _, rfl, rfl, by decide⟩
  | number exact =>
    obtain ⟨first, tail, equal, head⟩ := head_of_readNumber exact
    refine ⟨first, tail, equal, Bool.eq_false_iff.mpr fun gap => ?_, ?_⟩
    · simp only [isGap, Bool.or_eq_true, beq_iff_eq] at gap
      rcases gap with ((rfl | rfl) | rfl) | rfl <;> (revert head; decide)
    · rintro rfl
      revert head
      decide
  | text value => exact ⟨'"', _, rfl, rfl, by decide⟩
  | array each => exact ⟨'[', _, rfl, rfl, by decide⟩
  | object each => exact ⟨'\x7b', _, rfl, rfl, by decide⟩

theorem skipGap_of_head (first : Char) (noGap : isGap first = false) (tail : List Char) :
    skipGap (first :: tail) = first :: tail := by
  rw [skipGap, List.dropWhile_cons_of_neg (by simp [noGap])]

theorem skipGap_printed {levels : Nat} {value : Json} (printable : Printable levels value)
    (rest : List Char) : skipGap (print value ++ rest) = print value ++ rest := by
  obtain ⟨first, tail, head, noGap, -⟩ := head_of_printable printable
  rw [head, List.cons_append, skipGap_of_head first noGap]

/-- Whether a value is read back wherever it stands, given two steps for each of its characters. -/
def ReadsBack (levels : Nat) (value : Json) : Prop :=
  ∀ steps rest, 2 * (print value).length ≤ steps → EndsNumber rest →
    readValue steps levels (print value ++ rest) = some (value, rest)

theorem printElements_cons_cons (element next : Json) (more : List Json) :
    printElements (element :: next :: more) =
      print element ++ ',' :: printElements (next :: more) := by
  rw [printElements]
  nofun

theorem printMembers_cons_cons (member next : String × Json) (more : List (String × Json)) :
    printMembers (member :: next :: more) =
      printText member.1 ++ ':' :: (print member.2 ++ ',' :: printMembers (next :: more)) := by
  rw [printMembers]
  nofun

/-- The elements of an array that has some are read back if each of them is. -/
theorem readElements_printed {levels : Nat} {elements : List Json}
    (each : ∀ element ∈ elements, Printable levels element ∧ ReadsBack levels element)
    (any : elements ≠ []) (steps : Nat) (rest : List Char)
    (enough : 2 * (printElements elements).length + 1 ≤ steps) :
    readElements steps levels (printElements elements ++ ']' :: rest) = some (elements, rest) := by
  induction elements generalizing steps with
  | nil => exact absurd rfl any
  | cons element elements inductionHypothesis =>
    obtain ⟨⟨printable, reads⟩, eachRest⟩ := List.forall_mem_cons.mp each
    obtain ⟨steps, rfl⟩ : ∃ fewer, steps = fewer + 1 := ⟨steps - 1, by omega⟩
    cases elements with
    | nil =>
      rw [printElements] at enough ⊢
      rw [readElements, skipGap_printed printable, reads steps _ (by omega)
        (endsNumber_cons (.inr (.inl rfl))), Option.bind_some]
      simp only [skipGap_of_head ']' rfl]
    | cons next more =>
      rw [printElements_cons_cons, List.length_append, List.length_cons] at enough
      rw [printElements_cons_cons, List.append_assoc, List.cons_append, readElements,
        skipGap_printed printable, reads steps _ (by omega) (endsNumber_cons (.inl rfl)),
        Option.bind_some]
      simp only [skipGap_of_head ',' rfl]
      rw [inductionHypothesis eachRest nofun steps (by omega), Option.map_some]

/-- The members of an object that has some are read back if their values are. -/
theorem readMembers_printed {levels : Nat} {members : List (String × Json)}
    (each : ∀ member ∈ members, Printable levels member.2 ∧ ReadsBack levels member.2)
    (any : members ≠ []) (steps : Nat) (rest : List Char)
    (enough : 2 * (printMembers members).length + 1 ≤ steps) :
    readMembers steps levels (printMembers members ++ '\x7d' :: rest) =
      some (members.map fun member => (some member.1.toList, member.2), rest) := by
  induction members generalizing steps with
  | nil => exact absurd rfl any
  | cons member members inductionHypothesis =>
    obtain ⟨⟨printable, reads⟩, eachRest⟩ := List.forall_mem_cons.mp each
    obtain ⟨steps, rfl⟩ : ∃ fewer, steps = fewer + 1 := ⟨steps - 1, by omega⟩
    cases members with
    | nil =>
      simp only [printMembers, List.length_append, List.length_cons] at enough
      simp only [printMembers, printText, List.append_assoc, List.cons_append, List.nil_append,
        readMembers, skipGap_of_head '"' rfl, readText_printed, Option.bind_some,
        skipGap_of_head ':' rfl, skipGap_printed printable]
      rw [reads steps _ (by omega) (endsNumber_cons (.inr (.inr rfl))), Option.bind_some]
      simp only [skipGap_of_head '\x7d' rfl]
      rfl
    | cons next more =>
      simp only [printMembers_cons_cons, List.length_append, List.length_cons] at enough
      simp only [printMembers_cons_cons, printText, List.append_assoc, List.cons_append,
        List.nil_append, readMembers, skipGap_of_head '"' rfl, readText_printed,
        Option.bind_some, skipGap_of_head ':' rfl, skipGap_printed printable]
      rw [reads steps _ (by omega) (endsNumber_cons (.inl rfl)), Option.bind_some]
      simp only [skipGap_of_head ',' rfl]
      rw [inductionHypothesis eachRest nofun steps (by omega), Option.map_some]
      rfl

/-- So do the printed elements of an array that has some. -/
theorem head_of_elements {levels : Nat} {element : Json} (printable : Printable levels element)
    (elements : List Json) :
    ∃ first tail, printElements (element :: elements) = first :: tail ∧ isGap first = false ∧
      first ≠ ']' := by
  obtain ⟨first, tail, equal, noGap, noBracket⟩ := head_of_printable printable
  cases elements with
  | nil => exact ⟨first, tail, by rw [printElements, equal], noGap, noBracket⟩
  | cons next more =>
    exact ⟨first, _, by rw [printElements_cons_cons, equal, List.cons_append], noGap, noBracket⟩

/-- An object whose names were all read and that is not too deep is one. -/
theorem objectValue_of_names (room : Nat) (members : List (String × Json)) :
    objectValue (room + 1) (members.map fun member => (some member.1.toList, member.2)) =
      .object members := by
  have readable : (members.map fun member => (some member.1.toList, member.2)).any
      (fun member : Held × Json => member.1.isNone) = false := by simp
  have names : (members.map fun member => (some member.1.toList, member.2)).map
      (fun member : Held × Json => (String.ofList (member.1.getD []), member.2)) = members := by
    simp [Function.comp_def]
  rw [objectValue, readable, names]
  rfl

/-- The printed members of an object that has some start with a quote. -/
theorem head_of_members (member : String × Json) (members : List (String × Json)) :
    ∃ tail, printMembers (member :: members) = '"' :: tail := by
  cases members with
  | nil => exact ⟨_, rfl⟩
  | cons next more => exact ⟨_, by rw [printMembers_cons_cons, printText, List.cons_append]⟩

theorem readsBack_array {levels : Nat} {elements : List Json}
    (each : ∀ element ∈ elements, Printable levels element)
    (reads : ∀ element ∈ elements, ReadsBack levels element) :
    ReadsBack (levels + 1) (.array elements) := by
  rintro (_ | steps) rest enough -
  · cases enough
  · rw [print, List.length_cons, List.length_append, List.length_singleton] at enough
    rw [print, List.cons_append, List.append_assoc, List.singleton_append, readValue]
    cases elements with
    | nil =>
      simp only [printElements, List.nil_append, skipGap_of_head ']' rfl]
      rfl
    | cons element elements =>
      obtain ⟨first, tail, head, noGap, noBracket⟩ :=
        head_of_elements (each element List.mem_cons_self) elements
      have both := fun other member => And.intro (each other member) (reads other member)
      have read := readElements_printed both nofun steps rest (by omega)
      rw [head, List.cons_append] at read ⊢
      rw [skipGap_of_head first noGap]
      split
      next bracket => exact absurd (List.cons.inj bracket).1 noBracket
      next =>
        rw [Nat.add_sub_cancel, read, Option.map_some]
        rfl

theorem readsBack_object {levels : Nat} {members : List (String × Json)}
    (each : ∀ member ∈ members, Printable levels member.2)
    (reads : ∀ member ∈ members, ReadsBack levels member.2) :
    ReadsBack (levels + 1) (.object members) := by
  rintro (_ | steps) rest enough -
  · cases enough
  · rw [print, List.length_cons, List.length_append, List.length_singleton] at enough
    rw [print, List.cons_append, List.append_assoc, List.singleton_append, readValue]
    cases members with
    | nil =>
      simp only [printMembers, List.nil_append, skipGap_of_head '\x7d' rfl]
      rfl
    | cons member members =>
      obtain ⟨tail, head⟩ := head_of_members member members
      have both := fun other isMember => And.intro (each other isMember) (reads other isMember)
      have read := readMembers_printed both nofun steps rest (by omega)
      rw [head, List.cons_append] at read ⊢
      rw [skipGap_of_head '"' rfl]
      split
      next brace => cases brace
      next =>
        rw [Nat.add_sub_cancel, read, Option.map_some]
        exact congrArg (fun value => some (value, rest)) (objectValue_of_names levels _)

/-- A printed value is read back, whatever comes after it. -/
theorem readsBack_of_printable {levels : Nat} {value : Json} (printable : Printable levels value) :
    ReadsBack levels value := by
  induction printable with
  | null =>
    rintro (_ | steps) rest enough -
    · cases enough
    · rfl
  | boolean value =>
    rintro (_ | steps) rest enough -
    · cases value <;> cases enough
    · cases value <;> rfl
  | number exact =>
    rintro (_ | steps) rest enough ends
    · obtain ⟨first, tail, equal, -⟩ := head_of_readNumber exact
      rw [print, equal] at enough
      cases enough
    · exact readValue_of_readNumber (readNumber_append exact ends) steps _
  | text value =>
    rintro (_ | steps) rest enough -
    · cases enough
    · simp only [print, printText, List.cons_append, List.append_assoc, List.nil_append, readValue,
        readText_printed, Option.map_some, String.ofList_toList]
  | array each inductionHypothesis => exact readsBack_array each inductionHypothesis
  | object each inductionHypothesis => exact readsBack_object each inductionHypothesis

/-- A text that a value was printed as is read as the value. -/
theorem read?_compact {value : Json} (printable : Printable greatestDepth value) :
    read? value.compact = some value := by
  obtain ⟨first, tail, head, noGap, -⟩ := head_of_printable printable
  have characters : value.compact.toList = print value := String.toList_ofList
  have read := readsBack_of_printable printable (2 * (print value).length + 2) [] (by omega)
    endsNumber_nil
  rw [List.append_nil] at read
  unfold read?
  simp only [characters]
  rw [show skipGap (print value) = print value by rw [head, skipGap_of_head first noGap], read]
  rfl

end Json

end Questionnaire

/-
This file is about the texts that numbers are written as. A finite number is written in digits, with
a minus before them or a point among them; the words for what is no number are left for others. No
other number leaves the arithmetic, so wherever a total or the number of an expression is put into a
text, digits are put into it, and how other numbers would be written makes no difference.
-/
import Questionnaire.Expression.Placeholder
import Questionnaire.Proofs.Arithmetic

namespace Questionnaire

namespace Decimal

/-! ### Plain numerals -/

/-- Whether characters are digits, one at least. -/
structure AreDigits (characters : List Char) : Prop where
  filled : characters ≠ []
  each : ∀ character ∈ characters, character.isDigit = true

/-- Whether characters are digits, or digits with a point between two of them. -/
def IsUnsigned (characters : List Char) : Prop :=
  AreDigits characters ∨ ∃ whole fraction, AreDigits whole ∧ AreDigits fraction ∧
    characters = whole ++ '.' :: fraction

/-- Whether characters are digits, perhaps with a point among them and a minus before them. -/
def IsPlain (characters : List Char) : Prop :=
  IsUnsigned characters ∨ ∃ unsigned, IsUnsigned unsigned ∧ characters = '-' :: unsigned

theorem areDigits_toDigits (value : Nat) : AreDigits (Nat.toDigits 10 value) :=
  ⟨Nat.toDigits_ne_nil, fun _ member => Nat.isDigit_of_mem_toDigits (by decide) (by decide) member⟩

theorem areDigits_zero : AreDigits ['0'] := ⟨nofun, List.forall_mem_singleton.mpr rfl⟩

theorem isDigit_of_mem_replicate {count : Nat} {character : Char}
    (member : character ∈ List.replicate count '0') : character.isDigit = true := by
  rw [List.eq_of_mem_replicate member]
  rfl

theorem AreDigits.append_zeros {digits : List Char} (areDigits : AreDigits digits) (count : Nat) :
    AreDigits (digits ++ List.replicate count '0') where
  filled := List.append_ne_nil_of_left_ne_nil areDigits.filled _
  each := List.forall_mem_append.mpr ⟨areDigits.each, fun _ => isDigit_of_mem_replicate⟩

theorem AreDigits.zeros_append {digits : List Char} (areDigits : AreDigits digits) (count : Nat) :
    AreDigits (List.replicate count '0' ++ digits) where
  filled := List.append_ne_nil_of_right_ne_nil _ areDigits.filled
  each := List.forall_mem_append.mpr ⟨fun _ => isDigit_of_mem_replicate, areDigits.each⟩

/-- A point that stands before some of the digits and after others leaves digits on both sides. -/
theorem AreDigits.isUnsigned_split {digits : List Char} (areDigits : AreDigits digits)
    {place : Nat} (positive : 0 < place) (inside : place < digits.length) :
    IsUnsigned (digits.take place ++ '.' :: digits.drop place) := by
  refine .inr ⟨digits.take place, digits.drop place, ⟨?_, ?_⟩, ⟨?_, ?_⟩, rfl⟩
  · rw [← List.length_pos_iff, List.length_take]
    omega
  · exact fun character member => areDigits.each character (List.mem_of_mem_take member)
  · rw [← List.length_pos_iff, List.length_drop]
    omega
  · exact fun character member => areDigits.each character (List.mem_of_mem_drop member)

theorem isUnsigned_positional (scaled : Scaled) : IsUnsigned scaled.positional.toList := by
  have areDigits := areDigits_toDigits scaled.digits
  unfold Scaled.positional
  simp only
  rw [String.toList_ofList]
  split
  next => exact .inl (areDigits.append_zeros _)
  next negative =>
    split
    next positive => exact areDigits.isUnsigned_split (by omega) (by omega)
    next => exact .inr ⟨['0'], _, areDigits_zero, areDigits.zeros_append _, rfl⟩

theorem isPlain_sign {unsigned : List Char} (isUnsigned : IsUnsigned unsigned) (value : Float) :
    IsPlain ((sign value).toList ++ unsigned) := by
  unfold sign
  split
  next => exact .inr ⟨unsigned, isUnsigned, rfl⟩
  next => exact .inl isUnsigned

/-- A finite number is written in digits. -/
theorem isPlain_plain {value : Float} (finite : value.isFinite = true) :
    IsPlain (plain value).toList := by
  unfold plain
  rw [finite, Bool.not_true, if_neg Bool.false_ne_true]
  split
  next =>
    rw [String.toList_append]
    exact isPlain_sign (.inl areDigits_zero) value
  next =>
    rw [String.toList_append]
    exact isPlain_sign (isUnsigned_positional _) value

/-- So it is with a set number of places. -/
theorem isPlain_fixed {value : Float} (finite : value.isFinite = true) {places : Nat}
    (some : 0 < places) : IsPlain (fixed places value).toList := by
  unfold fixed
  rw [finite, Bool.not_true, if_neg Bool.false_ne_true]
  simp only
  generalize isRounded : roundQuotient .toEven _ _ = rounded
  have areDigits := (areDigits_toDigits rounded).zeros_append
    (places + 1 - (Nat.toDigits 10 rounded).length)
  rw [String.toList_append, String.toList_ofList]
  refine isPlain_sign (areDigits.isUnsigned_split ?_ ?_) value <;>
    rw [List.length_append, List.length_replicate] <;> omega

theorem AreDigits.ne_dollar {characters : List Char} (areDigits : AreDigits characters) :
    '$' ∉ characters := fun member => absurd (areDigits.each '$' member) (by decide)

theorem IsPlain.ne_dollar {characters : List Char} (isPlain : IsPlain characters) :
    '$' ∉ characters := by
  have ofUnsigned : ∀ {characters}, IsUnsigned characters → '$' ∉ characters := by
    rintro _ (areDigits | ⟨whole, fraction, isWhole, isFraction, rfl⟩)
    · exact areDigits.ne_dollar
    · simp [isWhole.ne_dollar, isFraction.ne_dollar]
  rcases isPlain with isUnsigned | ⟨unsigned, isUnsigned, rfl⟩
  · exact ofUnsigned isUnsigned
  · simp [ofUnsigned isUnsigned]

end Decimal

namespace Expression

/-- What stands in a text for a number is written in digits. -/
theorem isPlain_numberText (value : Float) : Decimal.IsPlain (numberText value).toList := by
  unfold numberText
  split
  next => exact .inl (.inl Decimal.areDigits_zero)
  next written =>
    refine Decimal.isPlain_plain ?_
    simpa using (not_or.mp (fun other => written (Bool.or_eq_true_iff.mpr other))).2

/-! ### Numbers in texts -/

/-- The characters that a piece becomes when numbers are written in the given way. -/
def Piece.fillWith (write : Float → String) (lookup : String → Float) : Piece → List Char
  | .plain characters => characters
  | .hole content => (write (evaluate lookup (String.ofList content))).toList

/-- The text with its placeholders replaced by numbers that are written in the given way. -/
def substituteWith (write : Float → String) (lookup : String → Float) (text : String) : String :=
  String.ofList ((pieces text.toList).flatMap (Piece.fillWith write lookup))

/-- How numbers that are not finite are written makes no difference to a substitution. -/
theorem substituteWith_eq {write : Float → String}
    (same : ∀ number : Float, number.isFinite = true → write number = numberText number)
    (lookup : String → Float) (text : String) :
    substituteWith write lookup text = substitute lookup text := by
  have each : Piece.fillWith write lookup = Piece.fill lookup := by
    funext piece
    cases piece with
    | plain characters => rfl
    | hole content =>
      exact congrArg String.toList (same _ (isFinite_evaluate lookup (String.ofList content)))
  rw [substituteWith, each, substitute]

end Expression

/-- The numbers of references, the totals of terms and the numbers of expressions are finite. So
what is put into a text for a total is written in digits, as is what is put into it for an
expression; and a substitution does not depend on how other numbers would be written. -/
theorem finite_of_arithmetic (tiers : Tiers) (catalog : Catalog) (sheet : Sheet) :
    let lookup := Reference.value tiers catalog sheet
    let total := Derivation.total tiers catalog sheet
    (∀ reference, (lookup reference).isFinite = true) ∧
    (∀ terms, (total terms).isFinite = true) ∧
    (∀ expression, (Expression.evaluate lookup expression).isFinite = true) ∧
    (∀ terms, ∃ numeral : String, Decimal.IsPlain numeral.toList ∧ ∀ text,
      (Outcome.text text).render (total terms) =
        Text.replaceMarker Outcome.totalMarker numeral text) ∧
    (∀ expression, Decimal.IsPlain
      (Expression.numberText (Expression.evaluate lookup expression)).toList) ∧
    ∀ (otherwise : Float → String) (text : String),
      Expression.substituteWith
        (fun number => if number.isFinite then Expression.numberText number else otherwise number)
        lookup text = Expression.substitute lookup text := by
  intro lookup total
  have finite := Derivation.isFinite_total tiers catalog sheet
  refine ⟨Reference.isFinite_value tiers catalog sheet, finite,
    Expression.isFinite_evaluate lookup, fun terms => ?_,
    fun expression => Expression.isPlain_numberText _, fun otherwise text => ?_⟩
  · exact ⟨_, Decimal.isPlain_fixed (finite terms) (by decide), fun _ => rfl⟩
  · exact Expression.substituteWith_eq (fun number isFinite => if_pos isFinite) lookup text

end Questionnaire

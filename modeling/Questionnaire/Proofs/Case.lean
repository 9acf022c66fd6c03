/-
This file relates the two ways to compare texts without regard to case. Texts that differ only in
the case of ASCII letters have one lower case, also where a letter takes its final form, since what
decides that does not tell such letters apart; and among ASCII texts the two ways agree. So the
comparison of ASCII letters is the narrower one, and narrower only by letters beyond ASCII.
-/
import Questionnaire.Proofs.Answer

namespace Questionnaire.Text

/-! ### ASCII letters -/

/-- An ASCII letter has its case in every range that has the capitals as the small letters. -/
theorem inRanges_toLower (ranges : List (Nat × Nat))
    (alike : ∀ step < 26, inRanges ranges (65 + step + 32) = inRanges ranges (65 + step))
    (character : Char) :
    inRanges ranges character.toLower.toNat = inRanges ranges character.toNat := by
  rw [toNat_toLower]
  split
  next capital =>
    obtain ⟨step, equal⟩ := Nat.exists_eq_add_of_le capital.1
    rw [equal]
    exact alike step (by omega)
  next => rfl

/-- What comes after a stretch is cased or not whatever the case of its ASCII letters. -/
theorem nextIsCased_map_toLower (characters : List Char) :
    nextIsCased (characters.map Char.toLower) = nextIsCased characters := by
  have ignorable := inRanges_toLower caseIgnorableRanges (by decide +kernel)
  have cased := inRanges_toLower casedRanges (by decide +kernel)
  unfold nextIsCased
  rw [List.dropWhile_map]
  simp only [Function.comp_def, ignorable]
  cases characters.dropWhile fun character => inRanges caseIgnorableRanges character.toNat with
  | nil => rfl
  | cons character rest => exact cased character

theorem lowerAt_map_toLower (before : List Char) (character : Char) (after : List Char) :
    lowerAt (before.map Char.toLower) character.toLower (after.map Char.toLower) =
      lowerAt before character after := by
  by_cases isAscii : character.toNat < 128
  · have stillAscii : character.toLower.toNat < 128 := by
      rw [toNat_toLower]
      split <;> omega
    have twice : character.toLower.toLower = character.toLower := by
      refine Char.toNat_inj.mp ?_
      rw [toNat_toLower character.toLower, if_neg]
      rw [toNat_toLower]
      split <;> omega
    rw [lowerAt, if_pos stillAscii, lowerAt, if_pos isAscii, twice]
  · have same : character.toLower = character := by
      refine Char.toNat_inj.mp ?_
      rw [toNat_toLower, if_neg (by omega)]
    rw [same]
    unfold lowerAt
    rw [nextIsCased_map_toLower, nextIsCased_map_toLower]

theorem lowerAfter_map_toLower (before characters : List Char) :
    lowerAfter (before.map Char.toLower) (characters.map Char.toLower) =
      lowerAfter before characters := by
  induction characters generalizing before with
  | nil => rfl
  | cons character rest inductionHypothesis =>
    rw [List.map_cons, lowerAfter, lowerAfter, lowerAt_map_toLower, ← List.map_cons,
      inductionHypothesis]

/-- Texts that differ at most in the case of ASCII letters have one lower case. -/
theorem lower_eq_of_sameAscii {first second : String} (same : sameAscii first second = true) :
    lower first = lower second := by
  have letters : first.toList.map Char.toLower = second.toList.map Char.toLower := eq_of_beq same
  unfold lower lowerList
  rw [← lowerAfter_map_toLower [] first.toList, letters, lowerAfter_map_toLower]

/-! ### ASCII texts -/

/-- Whether all characters of a text are ASCII characters. -/
def isAscii (text : String) : Bool := text.toList.all fun character => character.toNat < 128

theorem lowerAfter_of_ascii {characters : List Char}
    (areAscii : ∀ character ∈ characters, character.toNat < 128) (before : List Char) :
    lowerAfter before characters = characters.map Char.toLower := by
  induction characters generalizing before with
  | nil => rfl
  | cons character rest inductionHypothesis =>
    obtain ⟨isAscii, restAscii⟩ := List.forall_mem_cons.mp areAscii
    rw [lowerAfter, inductionHypothesis restAscii, lowerAt, if_pos isAscii]
    rfl

/-- ASCII texts of one lower case differ at most in the case of ASCII letters. -/
theorem sameAscii_of_lower_eq {first second : String} (firstAscii : isAscii first = true)
    (secondAscii : isAscii second = true) (same : lower first = lower second) :
    sameAscii first second = true := by
  have lowered : ∀ {text : String}, isAscii text = true →
      lowerList text.toList = text.toList.map Char.toLower := by
    intro text areAscii
    refine lowerAfter_of_ascii (fun character member => ?_) []
    simpa using List.all_eq_true.mp areAscii character member
  have lists := String.ofList_injective same
  rw [lowered firstAscii, lowered secondAscii] at lists
  exact beq_iff_eq.mpr lists

/-! ### Empty texts -/

theorem lowerAt_ne_nil (before : List Char) (character : Char) (after : List Char) :
    lowerAt before character after ≠ [] := by
  unfold lowerAt
  split
  next => simp
  next =>
    split
    next => simp
    next =>
      split
      next => split <;> simp
      next => simp

/-- Only the empty text is empty in lower case. -/
theorem eq_empty_of_lower_eq {text : String} (isEmpty : lower text = lower "") : text = "" := by
  have none : lowerList text.toList = [] := String.ofList_injective isEmpty
  refine String.toList_eq_nil_iff.mp ?_
  cases characters : text.toList with
  | nil => rfl
  | cons character rest =>
    rw [characters, lowerList, lowerAfter] at none
    exact absurd (List.append_eq_nil_iff.mp none).1 (lowerAt_ne_nil [] character rest)

end Questionnaire.Text

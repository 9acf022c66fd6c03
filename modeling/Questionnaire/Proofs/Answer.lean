/-
This file proves that the option which a text chooses chooses itself. Blanks around a text do not
count and neither does the case of its letters, so an option can only be chosen by a text that it
equals up to these; such an option has no blanks around it, and is the first one equal to itself.
-/
import Mathlib.Data.List.DropRight
import Questionnaire.Answer

namespace Questionnaire

namespace Text

/-! ### Blanks and case -/

/-- A trimmed text has nothing more to trim. -/
theorem trimList_trimList (characters : List Char) :
    trimList (trimList characters) = trimList characters := by
  have kept : trimLeft (trimRight (trimLeft characters)) = trimRight (trimLeft characters) := by
    have shorter : trimRight (trimLeft characters) <+: trimLeft characters :=
      List.rdropWhile_prefix isBlank _
    cases trimmed : trimRight (trimLeft characters) with
    | nil => rfl
    | cons first rest =>
      rw [trimmed] at shorter
      obtain ⟨more, equal⟩ := shorter
      have notBlank : isBlank first = false := by
        have head := List.head?_dropWhile_not isBlank characters
        unfold trimLeft at equal
        rw [← equal] at head
        simpa using head
      exact List.dropWhile_cons_of_neg (by simp [notBlank])
  show trimRight (trimLeft (trimRight (trimLeft characters))) = _
  rw [kept]
  exact List.rdropWhile_idempotent isBlank _

theorem toList_trim (text : String) : (trim text).toList = trimList text.toList :=
  String.toList_ofList

theorem toNat_toLower (character : Char) :
    character.toLower.toNat =
      if 65 ≤ character.toNat ∧ character.toNat ≤ 90 then character.toNat + 32
      else character.toNat := by
  unfold Char.toLower
  split
  next capital =>
    have inRange : 65 ≤ character.toNat ∧ character.toNat ≤ 90 := capital
    rw [if_pos inRange]
    show (character.val + 32).toNat = character.val.toNat + 32
    have small : character.val.toNat ≤ 90 := inRange.2
    rw [UInt32.toNat_add, show (32 : UInt32).toNat = 32 from rfl]
    omega
  next noCapital =>
    have outOfRange : ¬(65 ≤ character.toNat ∧ character.toNat ≤ 90) := noCapital
    rw [if_neg outOfRange]

/-- Letters are not blank in either case. -/
theorem isBlank_toLower (character : Char) : isBlank character.toLower = isBlank character := by
  rw [Bool.eq_iff_iff]
  simp only [isBlank, toNat_toLower, Bool.or_eq_true, Bool.and_eq_true, decide_eq_true_eq,
    beq_iff_eq]
  split <;> omega

theorem trimList_map_toLower (characters : List Char) :
    trimList (characters.map Char.toLower) = (trimList characters).map Char.toLower := by
  have same : isBlank ∘ Char.toLower = isBlank := funext isBlank_toLower
  unfold trimList trimRight trimLeft
  rw [List.dropWhile_map, same, ← List.map_reverse, List.dropWhile_map, same, List.map_reverse]

/-- A text that differs from a trimmed one only in case is trimmed itself. -/
theorem trimList_eq_self_of_map_toLower_eq {characters trimmed : List Char}
    (same : characters.map Char.toLower = trimmed.map Char.toLower)
    (isTrimmed : trimList trimmed = trimmed) : trimList characters = characters := by
  have lengths : (trimList characters).length = characters.length := by
    have lowered := congrArg List.length (trimList_map_toLower characters)
    rw [same, trimList_map_toLower, isTrimmed, ← same] at lowered
    simpa using lowered.symm
  have part : (trimList characters).Sublist characters := by
    have left : (trimLeft characters).Sublist characters := (List.dropWhile_suffix _).sublist
    exact ((List.rdropWhile_prefix isBlank (trimLeft characters)).sublist).trans left
  exact part.eq_of_length lengths

end Text

namespace Answer

/-! ### Options -/

theorem option?_mem {options : List String} {text option : String}
    (chosen : option? options text = some option) : option ∈ options := by
  unfold option? at chosen
  simp only at chosen
  split at chosen
  next => cases chosen
  next =>
    split at chosen
    next found => cases chosen; exact List.mem_of_find?_eq_some found
    next => exact List.mem_of_find?_eq_some chosen

/-- A chosen option has letters or the like in it, no blanks around it, and is the text up to
blanks around that and the case of letters. -/
theorem trim_option {options : List String} {text option : String}
    (chosen : option? options text = some option) :
    Text.trim option = option ∧ option.isEmpty = false := by
  unfold option? at chosen
  simp only at chosen
  split at chosen
  next => cases chosen
  next notEmpty =>
    have trimmed : Text.trimList (Text.trim text).toList = (Text.trim text).toList := by
      rw [Text.toList_trim, Text.trimList_trimList]
    have same : option.toList.map Char.toLower = (Text.trim text).toList.map Char.toLower := by
      split at chosen
      next found =>
        cases chosen
        have equal := List.find?_some found
        rw [beq_iff_eq] at equal
        rw [equal]
      next =>
        have equal := List.find?_some chosen
        simpa [Text.sameAscii] using equal
    refine ⟨?_, ?_⟩
    · unfold Text.trim
      rw [Text.trimList_eq_self_of_map_toLower_eq same trimmed, String.ofList_toList]
    · rw [Bool.eq_false_iff]
      intro empty
      refine notEmpty ?_
      rw [String.isEmpty_iff] at empty ⊢
      rw [empty] at same
      exact String.toList_eq_nil_iff.mp (List.map_eq_nil_iff.mp same.symm)

/-- A chosen option chooses itself. -/
theorem option?_self {options : List String} {text option : String}
    (chosen : option? options text = some option) : option? options option = some option := by
  obtain ⟨trimmed, notEmpty⟩ := trim_option chosen
  have found : options.find? (· == option) = some option := by
    obtain ⟨other, isFound⟩ : ∃ other, options.find? (· == option) = some other :=
      Option.isSome_iff_exists.mp (List.find?_isSome.mpr ⟨option, option?_mem chosen, by simp⟩)
    have equal := List.find?_some isFound
    rw [beq_iff_eq] at equal
    rw [isFound, equal]
  unfold option?
  simp only [trimmed, notEmpty, found]
  rfl

end Answer

end Questionnaire

/-
This file says what locating a reference comes to. The ways are tried in the order of their list,
and the first one that finds a control is told with it; so ways that are added behind change nothing
where a control was found. Whatever the usual ways find is live: every branch of them asks the sheet
for the name before it is handed out, and nothing else is asked of the sheet. Blanks around a
reference do not count.
-/
import Questionnaire.Proofs.Calculation
import Questionnaire.Proofs.Meaning
import Questionnaire.Proofs.Run

namespace Questionnaire

/-! ### Blanks around a text -/

namespace Text

theorem trimRight_append {characters after : List Char}
    (blank : ∀ character ∈ after, isBlank character = true) :
    trimRight (characters ++ after) = trimRight characters := by
  unfold trimRight
  rw [List.reverse_append, List.dropWhile_append_of_pos fun character member =>
    blank character (List.mem_reverse.mp member)]

/-- Blanks that are put around characters are removed with those that are there. -/
theorem trimList_append {before characters after : List Char}
    (blankBefore : ∀ character ∈ before, isBlank character = true)
    (blankAfter : ∀ character ∈ after, isBlank character = true) :
    trimList (before ++ characters ++ after) = trimList characters := by
  unfold trimList trimLeft
  rw [List.append_assoc, List.dropWhile_append_of_pos blankBefore, List.dropWhile_append]
  split
  next nothing =>
    rw [List.dropWhile_eq_nil_iff.mpr blankAfter, List.isEmpty_iff.mp nothing]
  next => exact trimRight_append blankAfter

theorem trim_append {before text after : String}
    (blankBefore : ∀ character ∈ before.toList, isBlank character = true)
    (blankAfter : ∀ character ∈ after.toList, isBlank character = true) :
    trim (before ++ text ++ after) = trim text := by
  unfold trim
  rw [String.toList_append, String.toList_append, trimList_append blankBefore blankAfter]

end Text

/-! ### Single ways -/

/-- Whether a way finds nothing but live controls. -/
def Tier.FindsLive (tier : Tier) : Prop :=
  ∀ catalog sheet reference name, tier.find catalog sheet reference = some name →
    sheet.contains name = true

theorem findsLive_usual : ∀ tier ∈ Tiers.usual, tier.FindsLive := by
  refine List.forall_mem_cons.mpr ⟨?direct, List.forall_mem_cons.mpr
    ⟨?name, List.forall_mem_singleton.mpr ?shorthand⟩⟩
  case direct =>
    intro catalog sheet reference name found
    simp only [Tier.direct, Reference.byDirectName] at found
    split at found
    next live => cases found; exact live
    next => cases found
  case name =>
    intro catalog sheet reference name found
    simp only [Tier.name, Reference.byName_eq, Option.or_eq_some_iff] at found
    obtain spelled | ⟨-, answers | ⟨-, listed⟩⟩ := found
    · exact (Option.filter_eq_some_iff.mp spelled).2
    · exact (Option.filter_eq_some_iff.mp answers).2
    · exact NameMap.mem_names.mp (List.mem_of_find?_eq_some listed)
  case shorthand =>
    intro catalog sheet reference name found
    simp only [Tier.shorthand, Reference.byShorthand_eq] at found
    exact (Option.filter_eq_some_iff.mp found).2

namespace Reference

variable {tiers : Tiers} {catalog : Catalog} {sheet : Sheet} {reference : String}

/-! ### Lists of ways -/

/-- A reference is located by the first way that finds a control for it, unless it is blank. -/
theorem locate_eq_some_iff {tier : Tier} {name : String} :
    locate tiers catalog sheet reference = some (tier, name) ↔
      (Text.trim reference).isEmpty = false ∧ ∃ before after, tiers = before ++ tier :: after ∧
        (∀ earlier ∈ before, earlier.find catalog sheet (Text.trim reference) = none) ∧
        tier.find catalog sheet (Text.trim reference) = some name := by
  have found : ∀ other : Tier,
      (byTier catalog sheet (Text.trim reference) other).map (fun name => (other, name)) =
        some (tier, name) ↔
      other = tier ∧ tier.find catalog sheet (Text.trim reference) = some name := by
    intro other
    rw [Option.map_eq_some_iff]
    constructor
    · rintro ⟨_, finds, equal⟩
      cases equal
      exact ⟨rfl, finds⟩
    · rintro ⟨rfl, finds⟩
      exact ⟨name, finds, rfl⟩
  unfold locate
  simp only
  split
  next blank => simp [blank]
  next solid =>
    rw [List.findSome?_eq_some_iff]
    simp only [solid, found, Option.map_eq_none_iff, true_and]
    constructor
    · rintro ⟨before, _, after, isList, ⟨rfl, finds⟩, passed⟩
      exact ⟨before, after, isList, passed, finds⟩
    · rintro ⟨before, after, isList, passed, finds⟩
      exact ⟨before, tier, after, isList, ⟨rfl, finds⟩, passed⟩

/-- Ways that are added behind are not tried where a control was found. -/
theorem locate_append {found : Tier × String}
    (located : locate tiers catalog sheet reference = some found) (more : Tiers) :
    locate (tiers ++ more) catalog sheet reference = some found := by
  obtain ⟨solid, before, after, isList, passed, finds⟩ := locate_eq_some_iff.mp located
  refine locate_eq_some_iff.mpr ⟨solid, before, after ++ more, ?_, passed, finds⟩
  rw [isList, List.append_assoc, List.cons_append]

theorem locate_trim_congr {other : String} (same : Text.trim other = Text.trim reference) :
    locate tiers catalog sheet other = locate tiers catalog sheet reference := by
  unfold locate
  rw [same]

/-- With any list of the usual ways, a reference that is not blank is located by the first way in
the list that finds anything for it, and by no way if none does; and the control that is found is
live. Ways added behind change nothing where a control was found, and neither do blanks put around
the reference, or another sheet with the same names. -/
theorem located_of_usual (usual : ∀ tier ∈ tiers, tier ∈ Tiers.usual) (catalog : Catalog)
    (sheet : Sheet) (reference : String) :
    (∀ tier name, locate tiers catalog sheet reference = some (tier, name) →
      sheet.contains name = true) ∧
    (∀ tier name, locate tiers catalog sheet reference = some (tier, name) ↔
      (Text.trim reference).isEmpty = false ∧ ∃ before after, tiers = before ++ tier :: after ∧
        (∀ earlier ∈ before, earlier.find catalog sheet (Text.trim reference) = none) ∧
        tier.find catalog sheet (Text.trim reference) = some name) ∧
    (∀ more found, locate tiers catalog sheet reference = some found →
      locate (tiers ++ more) catalog sheet reference = some found) ∧
    (∀ before after : String, (∀ character ∈ before.toList, Text.isBlank character = true) →
      (∀ character ∈ after.toList, Text.isBlank character = true) →
      locate tiers catalog sheet (before ++ reference ++ after) =
        locate tiers catalog sheet reference) ∧
    ∀ other : Sheet, (∀ name, sheet.contains name = other.contains name) →
      locate tiers catalog sheet reference = locate tiers catalog other reference := by
  refine ⟨fun tier name located => ?_, fun tier name => locate_eq_some_iff,
    fun more found located => locate_append located more, fun before after blankBefore blankAfter =>
      locate_trim_congr (Text.trim_append blankBefore blankAfter), fun other same => ?_⟩
  · obtain ⟨-, before, after, rfl, -, finds⟩ := locate_eq_some_iff.mp located
    have isUsual := usual tier (List.mem_append_right before List.mem_cons_self)
    exact findsLive_usual tier isUsual catalog sheet (Text.trim reference) name finds
  · have look : ∀ tier ∈ tiers, tier.LooksAtNames := fun tier member =>
      looksAtNames_usual tier (usual tier member)
    exact congrFun (locate_congr look same) reference

/-- The derived entry for a choice is found by its slug, where it is not counted out, and a further
way does not find another control. -/
theorem located_of_choice :
    let sheet := (Session.run Session.surveyCatalog [.setValue "a" "B c"]).sheet
    let located := locate [.shorthand, .name] Session.surveyCatalog sheet
    located "A: b c" = some (.name, "a_b_c") ∧ sheet.contains "a_b_c" = true ∧
      locate ([.shorthand, .name] ++ [.direct]) Session.surveyCatalog sheet "A: b c" =
        some (.name, "a_b_c") ∧
      located ("\t" ++ "A: b c" ++ "\u00a0 ") = some (.name, "a_b_c") := by
  intro sheet located
  have usual : ∀ tier ∈ [Tier.shorthand, Tier.name], tier ∈ Tiers.usual := by simp [Tiers.usual]
  obtain ⟨live, first, more, blanks, -⟩ :=
    located_of_usual usual Session.surveyCatalog sheet "A: b c"
  have found : located "A: b c" = some (.name, "a_b_c") :=
    (first _ _).mpr ⟨by decide +kernel, [.shorthand], [], rfl,
      List.forall_mem_singleton.mpr (by decide +kernel), by decide +kernel⟩
  refine ⟨found, live _ _ found, more [.direct] _ found, ?_⟩
  have tab : ∀ character ∈ "\t".toList, Text.isBlank character = true :=
    List.all_eq_true.mp (by decide +kernel)
  have spaces : ∀ character ∈ "\u00a0 ".toList, Text.isBlank character = true :=
    List.all_eq_true.mp (by decide +kernel)
  exact (blanks "\t" "\u00a0 " tab spaces).trans found

end Reference

end Questionnaire

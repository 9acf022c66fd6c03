/-
This file proves that the name of a control carries the slug of its question, and only once. A name
that is the slug or goes on from it with an underscore is taken as it is. Every name that is made is
of that kind, and survives as a hint because it has no blanks at its ends: a slug and a label hold
none at all, and a hint was trimmed before.
-/
import Questionnaire.Proofs.Registry

namespace Questionnaire

/-! ### Blanks around joined texts -/

namespace Text

theorem trimList_eq_peel (characters : List Char) : trimList characters = peel isBlank characters :=
  rfl

/-- Trimmed texts that are not empty are one trimmed text. -/
theorem trimList_append_eq_self {front rest : List Char} (isFront : trimList front = front)
    (isRest : trimList rest = rest) (frontFilled : front ≠ []) (restFilled : rest ≠ []) :
    trimList (front ++ rest) = front ++ rest := by
  rw [trimList_eq_peel] at isFront isRest
  refine peel_eq_self (fun character first => ?_) (fun character last => ?_)
  · rw [List.head?_append_of_ne_nil _ frontFilled, ← isFront] at first
    exact head?_peel first
  · rw [List.getLast?_append_of_ne_nil _ restFilled, ← isRest] at last
    exact getLast?_peel last

theorem trim_eq_self {text : String} (trimmed : trimList text.toList = text.toList) :
    trim text = text := by
  rw [trim, trimmed, String.ofList_toList]

end Text

namespace Slug

theorem isBlank_of_plain {character : Char} (plain : isKept character = true ∨ character = '_') :
    Text.isBlank character = false := by
  rcases plain with kept | rfl
  · have codes := isKept_iff.mp kept
    simp only [Text.isBlank, Bool.or_eq_false_iff, Bool.and_eq_false_iff, beq_eq_false_iff_ne,
      decide_eq_false_iff_not]
    omega
  · decide

/-- Slugs and untrimmed forms have no blanks around them. -/
theorem Squashed.trimList_eq_self {characters : List Char} (squashed : Squashed characters) :
    Text.trimList characters = characters :=
  peel_eq_self
    (fun _ first => isBlank_of_plain (squashed.plain _ (List.mem_of_mem_head? first)))
    (fun _ last => isBlank_of_plain (squashed.plain _ (List.mem_of_mem_getLast? last)))

namespace Registry

/-! ### Names with a slug -/

/-- Whether a name carries a slug: it is the slug, or goes on from it with an underscore. -/
def Carries (slug name : String) : Prop := name = slug ∨ (slug ++ "_").toList <+: name.toList

variable {slug name rest : String}

theorem carries_qualify (slug rest : String) : Carries slug (qualify slug rest) := by
  unfold qualify
  split
  next => exact .inl rfl
  next =>
    split
    next carries =>
      rcases Bool.or_eq_true_iff.mp carries with same | goesOn
      · exact .inl (eq_of_beq same)
      · exact .inr (List.isPrefixOf_iff_prefix.mp goesOn)
    next =>
      split
      next starts =>
        obtain ⟨more, equal⟩ := List.isPrefixOf_iff_prefix.mp starts
        refine .inr ⟨more, ?_⟩
        rw [String.toList_append, String.toList_append, ← equal, List.append_assoc]
        rfl
      next => exact .inr ⟨rest.toList, String.toList_append.symm⟩

/-- What carries a slug with a kept character in it is more than underscores. -/
theorem Carries.not_all_bars (carries : Carries slug name)
    (solid : ∃ character ∈ slug.toList, isKept character = true) :
    name.toList.all (· == '_') = false := by
  obtain ⟨character, isIn, kept⟩ := solid
  have inName : character ∈ name.toList := by
    rcases carries with rfl | goesOn
    · exact isIn
    · refine goesOn.subset ?_
      rw [String.toList_append]
      exact List.mem_append_left _ isIn
  exact List.all_eq_false.mpr
    ⟨character, inName, fun isBar => ne_bar_of_isKept kept (eq_of_beq isBar)⟩

theorem qualify_of_carries (carries : Carries slug name)
    (solid : ∃ character ∈ slug.toList, isKept character = true) : qualify slug name = name := by
  have known : (name == slug || (slug ++ "_").toList.isPrefixOf name.toList) = true := by
    rcases carries with rfl | goesOn
    · rw [BEq.rfl, Bool.true_or]
    · rw [List.isPrefixOf_iff_prefix.mpr goesOn, Bool.or_true]
  rw [qualify, carries.not_all_bars solid, known]
  rfl

/-- A trimmed name stays trimmed with a slug before it. -/
theorem trimList_qualify (isSlug : IsSlug slug.toList) (filled : slug.toList ≠ [])
    (trimmed : Text.trimList rest.toList = rest.toList) :
    Text.trimList (qualify slug rest).toList = (qualify slug rest).toList := by
  have alone := isSlug.squashed.trimList_eq_self
  unfold qualify
  split
  next => exact alone
  next notBars =>
    have restFilled : rest.toList ≠ [] := by
      intro isNil
      rw [isNil] at notBars
      exact notBars rfl
    split
    next => exact trimmed
    next =>
      split
      next =>
        rw [String.toList_append]
        exact Text.trimList_append_eq_self alone trimmed filled restFilled
      next =>
        have bar : Text.trimList ("_").toList = ("_").toList := by decide
        have marked := Text.trimList_append_eq_self alone bar filled (by decide)
        rw [← String.toList_append] at marked
        rw [String.toList_append]
        refine Text.trimList_append_eq_self marked trimmed ?_ restFilled
        rw [String.toList_append]
        exact List.append_ne_nil_of_left_ne_nil filled _

/-! ### Names of controls -/

theorem Sound.isSlug_slugOf {registry : Registry} (sound : registry.Sound) (id : String) :
    IsSlug (registry.slugOf id).toList ∧ registry.slugOf id ≠ "" := by
  unfold slugOf
  cases known : registry.get? id with
  | some slug =>
    rw [Option.getD_some]
    exact sound.slug id slug known
  | none =>
    rw [Option.getD_none]
    exact isSlug_fallback id

/-- The part of the name of a control that comes from its hint or label has no blanks around it. -/
theorem exists_rest (registry : Registry) (id hint label : String) :
    ∃ rest, registry.controlName id hint label = qualify (registry.slugOf id) rest ∧
      Text.trimList rest.toList = rest.toList := by
  refine ⟨if (Text.trim hint).isEmpty then untrimmed label else Text.trim hint, rfl, ?_⟩
  split
  next => exact (squashed_untrimmed label).trimList_eq_self
  next => rw [Text.toList_trim, Text.trimList_trimList]

/-- The name of a control carries the slug of its question, and as a hint it is taken as it is. -/
theorem Sound.carries_controlName {registry : Registry} (sound : registry.Sound)
    (id hint label other : String) :
    Carries (registry.slugOf id) (registry.controlName id hint label) ∧
      registry.controlName id (registry.controlName id hint label) other =
        registry.controlName id hint label := by
  obtain ⟨isSlug, filled⟩ := sound.isSlug_slugOf id
  have notNil : (registry.slugOf id).toList ≠ [] :=
    fun isNil => filled (String.toList_eq_nil_iff.mp isNil)
  have solid := exists_isKept isSlug notNil
  obtain ⟨rest, equal, trimmed⟩ := exists_rest registry id hint label
  rw [equal]
  have carries := carries_qualify (registry.slugOf id) rest
  have isTrimmed := Text.trim_eq_self (trimList_qualify isSlug notNil trimmed)
  generalize qualify (registry.slugOf id) rest = name at carries isTrimmed
  have nameFilled : name.isEmpty = false := by
    refine Bool.eq_false_iff.mpr fun isEmpty => ?_
    have bars := carries.not_all_bars solid
    rw [String.isEmpty_iff.mp isEmpty] at bars
    cases bars
  refine ⟨carries, ?_⟩
  rw [controlName, isTrimmed, nameFilled]
  exact qualify_of_carries carries solid

/-- In the registry that a sequence of calls makes, the name of a control is the slug of its
question, or the one made from its id, or goes on from that slug with an underscore; and as a hint
it gives itself again, whatever the label. -/
theorem controlName_settles (calls : List (String × String)) (id hint label other : String) :
    let registry : Registry := ofCalls calls
    let name := registry.controlName id hint label
    Carries (registry.slugOf id) name ∧ registry.controlName id name other = name :=
  (sound_ofCalls calls).carries_controlName id hint label other

end Registry

end Slug

end Questionnaire

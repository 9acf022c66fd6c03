/-
This file says what the registry of slugs keeps to, whatever slugs it was asked for and in whatever
order. Every slug is one that stays as it is when it is made a slug again, no two questions have the
same one, and the set of taken names is the set of these slugs. All this is kept by giving one more
question a slug, because the fresh name that it gets is not taken and goes on from a slug with a
number, which makes a slug again.
-/
import Questionnaire.Proofs.FreshName
import Questionnaire.Proofs.Slug
import Questionnaire.Slug.Registry

namespace Questionnaire.Slug

/-! ### Names asked for -/

theorem isRun_numeral (count : Nat) : IsRun (Nat.toDigits 10 count) where
  filled := Nat.toDigits_ne_nil
  kept digit isIn := by
    unfold isKept
    rw [Nat.isDigit_of_mem_toDigits (by decide) (by decide) isIn, Bool.or_true]

/-- The numbered forms of a slug are slugs. -/
theorem isSlug_numbered {base : String} (isSlug : IsSlug base.toList) (filled : base ≠ "")
    (count : Nat) : IsSlug (FreshName.numbered base count).toList ∧
      FreshName.numbered base count ≠ "" := by
  have notNil : base.toList ≠ [] := fun isNil => filled (String.toList_eq_nil_iff.mp isNil)
  unfold FreshName.numbered
  split
  next => exact ⟨isSlug, filled⟩
  next =>
    have toList : (base ++ "_" ++ Text.numeral count).toList =
        base.toList ++ '_' :: Nat.toDigits 10 count := by simp [Text.numeral]
    have isRun := isRun_numeral count
    refine ⟨toList ▸ isSlug.append isRun.isSlug notNil isRun.filled, fun isEmpty => ?_⟩
    rw [isEmpty] at toList
    exact notNil (List.append_eq_nil_iff.mp toList.symm).1

theorem isRun_question : IsRun "question".toList where
  filled := by decide
  kept := List.all_eq_true.mp rfl

/-- The slug made from an id is a slug, and never empty. -/
theorem isSlug_fallback (id : String) : IsSlug (fallback id).toList ∧ fallback id ≠ "" := by
  unfold fallback
  simp only
  split
  next => exact ⟨isRun_question.isSlug, by decide⟩
  next filled =>
    have toList : ("question_" ++ ofText id).toList =
        "question".toList ++ '_' :: (ofText id).toList := by
      rw [String.toList_append]
      rfl
    have notNil : (ofText id).toList ≠ [] := fun isNil =>
      filled (String.isEmpty_iff.mpr (String.toList_eq_nil_iff.mp isNil))
    refine ⟨toList ▸ isRun_question.isSlug.append (isSlug_ofText id) isRun_question.filled notNil,
      fun isEmpty => ?_⟩
    rw [isEmpty] at toList
    cases toList

namespace Registry

theorem isSlug_wanted (id text : String) :
    IsSlug (wanted id text).toList ∧ wanted id text ≠ "" := by
  unfold wanted
  simp only
  split
  next => exact isSlug_fallback id
  next filled =>
    exact ⟨isSlug_ofText text, fun isEmpty => filled (String.isEmpty_iff.mpr isEmpty)⟩

/-! ### One more question -/

variable {registry first second third : Registry} {id slug : String}

/-- A question that has a slug keeps it, whatever its text is now. -/
theorem assign_of_known (known : registry.get? id = some slug) (text : String) :
    registry.assign id text = (registry, slug) := by
  unfold assign
  rw [known]

theorem assign_of_unknown (unknown : registry.get? id = none) (text : String) :
    registry.assign id text =
      let slug := FreshName.fresh registry.taken.names (wanted id text)
      (⟨registry.assigned.insert id slug, registry.taken.add slug⟩, slug) := by
  unfold assign
  rw [unknown]

/-- The question has the slug that it is given, and every other question the one it had. -/
theorem get?_assign (registry : Registry) (id text other : String) :
    (registry.assign id text).1.get? other =
      if id = other then some (registry.assign id text).2 else registry.get? other := by
  cases known : registry.get? id with
  | some slug =>
    rw [assign_of_known known]
    split
    next equal => rw [← equal, known]
    next => rfl
  | none =>
    rw [assign_of_unknown known]
    exact NameMap.get?_insert _ _ _ _

/-- Whether a registry has all slugs of another one. -/
def Keeps (first second : Registry) : Prop :=
  ∀ id slug, first.get? id = some slug → second.get? id = some slug

theorem Keeps.refl (registry : Registry) : registry.Keeps registry := fun _ _ known => known

theorem Keeps.trans (before : first.Keeps second) (after : second.Keeps third) :
    first.Keeps third := fun id slug known => after id slug (before id slug known)

theorem Keeps.slugOf_eq (keeps : first.Keeps second) (known : first.get? id = some slug) :
    second.slugOf id = first.slugOf id := by
  unfold slugOf
  rw [known, keeps id slug known]

/-- Giving a question a slug takes none from another question. -/
theorem keeps_assign (registry : Registry) (id text : String) :
    registry.Keeps (registry.assign id text).1 := by
  intro other slug known
  rw [get?_assign]
  split
  next equal => rw [assign_of_known (equal ▸ known)]
  next => exact known

/-! ### What is kept -/

/-- What every registry keeps to. -/
structure Sound (registry : Registry) : Prop where
  slug : ∀ id slug, registry.get? id = some slug → IsSlug slug.toList ∧ slug ≠ ""
  apart : ∀ first second slug, registry.get? first = some slug →
    registry.get? second = some slug → first = second
  taken : ∀ slug, registry.taken.contains slug = true ↔ ∃ id, registry.get? id = some slug

theorem sound_empty : Sound empty where
  slug _ _ known := by cases known
  apart _ _ _ known := by cases known
  taken slug := by
    constructor
    · intro isTaken
      cases isTaken
    · rintro ⟨id, known⟩
      cases known

theorem Sound.assign (sound : registry.Sound) (id text : String) :
    (registry.assign id text).1.Sound := by
  cases known : registry.get? id with
  | some slug => rw [assign_of_known known]; exact sound
  | none =>
    have given := get?_assign registry id text
    rw [assign_of_unknown known] at given ⊢
    -- Nobody has the slug that the question gets.
    have free : ∀ other,
        registry.get? other ≠ some (FreshName.fresh registry.taken.names (wanted id text)) :=
      fun other has => FreshName.fresh_not_mem registry.taken.names (wanted id text)
        (NameMap.mem_names.mpr ((sound.taken _).mpr ⟨other, has⟩))
    constructor
    case slug =>
      intro other slug has
      rw [given] at has
      split at has
      next =>
        obtain ⟨step, equal, -⟩ :=
          FreshName.seek_eq_numbered registry.taken.names (wanted id text) _ 1
        obtain ⟨isSlug, filled⟩ := isSlug_wanted id text
        have isForm : slug = FreshName.numbered (wanted id text) (1 + step) :=
          (Option.some.inj has).symm.trans equal
        rw [isForm]
        exact isSlug_numbered isSlug filled _
      next => exact sound.slug other slug has
    case apart =>
      intro one other slug oneHas otherHas
      rw [given] at oneHas otherHas
      split at oneHas
      next isOne =>
        split at otherHas
        next isOther => exact isOne.symm.trans isOther
        next => exact absurd (otherHas.trans oneHas.symm) (free other)
      next =>
        split at otherHas
        next => exact absurd (oneHas.trans otherHas.symm) (free one)
        next => exact sound.apart one other slug oneHas otherHas
    case taken =>
      intro slug
      show (registry.taken.insert _ ()).contains slug = true ↔ _
      rw [NameMap.contains_insert, Bool.or_eq_true, decide_eq_true_eq, sound.taken]
      constructor
      · rintro (rfl | ⟨other, has⟩)
        · exact ⟨id, by rw [given, if_pos rfl]⟩
        · refine ⟨other, ?_⟩
          rw [given, if_neg]
          · exact has
          · rintro rfl
            cases known.symm.trans has
      · rintro ⟨other, has⟩
        rw [given] at has
        split at has
        next => exact .inl (Option.some.inj has)
        next => exact .inr ⟨other, has⟩

/-- The question of a slug is found by it. -/
theorem Sound.questionFor (sound : registry.Sound) (known : registry.get? id = some slug) :
    registry.questionFor slug = some id := by
  have listed : (id, slug) ∈ registry.assigned.entries :=
    (NameMap.mem_entries_iff _ id slug).mpr known
  unfold Registry.questionFor
  obtain ⟨⟨other, its⟩, found⟩ := Option.isSome_iff_exists.mp
    (List.find?_isSome.mpr ⟨(id, slug), listed, by simp⟩ :
      (registry.assigned.entries.find? fun entry => entry.2 == slug).isSome)
  have same : its = slug := by simpa using List.find?_some found
  have otherHas := (NameMap.mem_entries_iff _ other its).mp (List.mem_of_find?_eq_some found)
  rw [found, Option.map_some, sound.apart id other slug known (same ▸ otherHas)]

/-! ### Sequences of questions -/

/-- The registry after questions have been given slugs one after the other, by their ids and texts.
-/
def assignEach (registry : Registry) (calls : List (String × String)) : Registry :=
  calls.foldl (fun registry call => (registry.assign call.1 call.2).1) registry

/-- The registry that starts empty. -/
def ofCalls (calls : List (String × String)) : Registry := empty.assignEach calls

theorem ofCalls_append (calls more : List (String × String)) :
    ofCalls (calls ++ more) = (ofCalls calls).assignEach more := List.foldl_append

theorem keeps_assignEach (registry : Registry) (calls : List (String × String)) :
    registry.Keeps (registry.assignEach calls) := by
  induction calls generalizing registry with
  | nil => exact .refl registry
  | cons call rest inductionHypothesis =>
    exact (keeps_assign registry call.1 call.2).trans (inductionHypothesis _)

theorem Sound.assignEach (sound : registry.Sound) (calls : List (String × String)) :
    (registry.assignEach calls).Sound := by
  induction calls generalizing registry with
  | nil => exact sound
  | cons call rest inductionHypothesis => exact inductionHypothesis (sound.assign call.1 call.2)

theorem sound_ofCalls (calls : List (String × String)) : (ofCalls calls).Sound :=
  sound_empty.assignEach calls

/-- Those questions have a slug that had one before or were given one. -/
theorem isSome_get?_assignEach (registry : Registry) (calls : List (String × String))
    (id : String) : ((registry.assignEach calls).get? id).isSome = true ↔
      (registry.get? id).isSome = true ∨ id ∈ calls.map Prod.fst := by
  induction calls generalizing registry with
  | nil => simp [assignEach]
  | cons call rest inductionHypothesis =>
    refine (inductionHypothesis _).trans ?_
    rw [get?_assign, List.map_cons, List.mem_cons]
    split
    next equal => simp [equal]
    next different => simp [Ne.symm different]

/-- There are no more taken names than questions were given slugs. -/
theorem length_names_ofCalls_le (calls : List (String × String)) :
    (ofCalls calls).taken.names.length ≤ calls.length := by
  have sound := sound_ofCalls calls
  have covered : (ofCalls calls).taken.names ⊆
      (calls.map Prod.fst).map (ofCalls calls).slugOf := by
    intro slug isTaken
    obtain ⟨id, known⟩ := (sound.taken slug).mp (NameMap.mem_names.mp isTaken)
    have given := (isSome_get?_assignEach empty calls id).mp (Option.isSome_of_eq_some known)
    have isIn : id ∈ calls.map Prod.fst := given.resolve_left Bool.false_ne_true
    refine List.mem_map.mpr ⟨id, isIn, ?_⟩
    rw [slugOf, known]
    rfl
  have short := (NameMap.nodup_names _).length_le_of_subset covered
  rwa [List.length_map, List.length_map] at short

/-- In the registry that a sequence of calls makes, those questions have slugs that were given one;
every slug is filled and its own slug, and finds its question; it stays with the question when this
is given a slug again, which changes nothing, and after any further calls. No two questions have one
slug, and the taken names are the slugs. A question without a slug gets the one that the search for
a free name ends with; its counter is a word as long as there are less than `2 ^ 31` calls. -/
theorem slugs_of_calls (calls : List (String × String)) :
    let registry : Registry := ofCalls calls
    (∀ id, (registry.get? id).isSome = true ↔ id ∈ calls.map Prod.fst) ∧
    (∀ id slug, registry.get? id = some slug →
      slug ≠ "" ∧ ofText slug = slug ∧ registry.questionFor slug = some id ∧
      (∀ text, registry.assign id text = (registry, slug)) ∧
      ∀ more, (ofCalls (calls ++ more)).get? id = some slug) ∧
    (∀ first second slug, registry.get? first = some slug → registry.get? second = some slug →
      first = second) ∧
    (∀ slug, registry.taken.contains slug = true ↔ ∃ id, registry.get? id = some slug) ∧
    (∀ id text, (registry.assign id text).1.get? id = some (registry.assign id text).2) ∧
    (calls.length + 1 < 2 ^ 31 → ∀ id text, registry.get? id = none → ∀ found,
      FreshName.Search registry.taken.names (wanted id text) (wanted id text) 2 found ↔
        found = (registry.assign id text).2) := by
  intro registry
  have sound : registry.Sound := sound_ofCalls calls
  refine ⟨fun id => ?_, fun id slug known => ?_, sound.apart, sound.taken, fun id text => ?_,
    fun few id text unknown found => ?_⟩
  · refine (isSome_get?_assignEach empty calls id).trans (or_iff_right ?_)
    exact Bool.false_ne_true
  · obtain ⟨isSlug, filled⟩ := sound.slug id slug known
    refine ⟨filled, ofText_eq_self isSlug, sound.questionFor known, assign_of_known known,
      fun more => ?_⟩
    rw [ofCalls_append]
    exact keeps_assignEach registry more id slug known
  · rw [get?_assign, if_pos rfl]
  · have short := length_names_ofCalls_le calls
    rw [assign_of_unknown unknown]
    exact FreshName.search_iff (Nat.lt_of_le_of_lt (Nat.succ_le_succ short) few) _ found

/-- Questions whose texts ask for numbered forms of each other's slugs, and for slugs that are made
from ids. -/
def rivals : List (String × String) :=
  [("1", "Income"), ("2", "income!"), ("3", "Income 2"), ("4", "???"), ("5", "Question 4")]

/-- The third question does not get the numbered form that it asks for, as the second one has it;
a sixth one would get the next form of the first slug. -/
theorem slugs_of_rivals :
    let registry := ofCalls rivals
    registry.assigned.entries = [("1", "income"), ("2", "income_2"), ("3", "income_2_2"),
      ("4", "question_4"), ("5", "question_4_2")] ∧
    registry.questionFor "income_2_2" = some "3" ∧
    (∀ text, registry.assign "3" text = (registry, "income_2_2")) ∧
    (∀ id, registry.get? id = some "question_4" → id = "4") ∧
    registry.get? "6" = none ∧ rivals.length + 1 < 2 ^ 31 ∧
    ∀ found, FreshName.Search registry.taken.names "income" "income" 2 found ↔
      found = "income_3" := by
  intro registry
  have third : registry.get? "3" = some "income_2_2" := by decide +kernel
  have fourth : registry.get? "4" = some "question_4" := by decide +kernel
  have sixth : registry.get? "6" = none := by decide +kernel
  have wanted : wanted "6" "INCOME" = "income" := by decide +kernel
  have given : (registry.assign "6" "INCOME").2 = "income_3" := by decide +kernel
  obtain ⟨-, each, apart, -, -, search⟩ := slugs_of_calls rivals
  obtain ⟨-, -, question, again, -⟩ := each "3" _ third
  have ends := search (by decide) "6" "INCOME" sixth
  rw [wanted, given] at ends
  exact ⟨by decide +kernel, question, again, fun id has => apart id "4" _ has fourth, sixth,
    by decide, ends⟩

end Registry

end Questionnaire.Slug

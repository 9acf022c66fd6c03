/-
This file says what a reference means in the usual ways. The controls that it can mean are tried in
a fixed order, and the first live one decides; so it means the same on two sheets if what it means
on either is live on both. On the sheets of a filling the controls are always live, and only options
come and go: a reference that no option can take over means the same control on all of them, or an
option of its very name.
-/
import Questionnaire.Proofs.Agreement

namespace Questionnaire

/-! ### Listings of names -/

namespace NameMap

variable {Value Other : Type}

/-- The names of a map, picked from the names of a map that has them all. -/
theorem names_eq_filter {map : NameMap Value} {all : NameMap Other}
    (covers : ∀ name, map.contains name = true → all.contains name = true) :
    map.names = all.names.filter map.contains := by
  have ascending : ∀ {Any : Type} (map : NameMap Any), map.names.Pairwise (· < ·) :=
    fun map => List.pairwise_map.mpr map.ascending
  have same : map.names.Perm (all.names.filter map.contains) := by
    rw [List.perm_ext_iff_of_nodup map.nodup_names (all.nodup_names.filter _)]
    intro name
    rw [List.mem_filter, mem_names, mem_names]
    exact ⟨fun present => ⟨covers name present, present⟩, fun present => present.2⟩
  exact same.eq_of_pairwise (fun _ _ _ _ less greater => absurd greater (String.lt_asymm less))
    (ascending map) ((ascending all).filter _)

/-- Two maps have a map that has the names of both. -/
theorem exists_covering (first second : NameMap Value) :
    ∃ all : NameMap Value, (∀ name, first.contains name = true → all.contains name = true) ∧
      ∀ name, second.contains name = true → all.contains name = true := by
  refine ⟨first.entries.foldl (fun map entry => map.insert entry.1 entry.2) second, ?_, ?_⟩ <;>
  · intro name present
    obtain ⟨value, found⟩ := contains_iff.mp present
    unfold contains
    rw [get?_foldl_insert _ _ first.nodup_names, Option.isSome_or]
    simp only [get?] at found
    simp [get?, found]

end NameMap

/-! ### What a reference means -/

namespace Reference

variable {catalog : Catalog}

/-- The control that a reference means in the usual ways. -/
def means? (catalog : Catalog) (sheet : Sheet) (reference : String) : Option String :=
  (locate Tiers.usual catalog sheet reference).map (·.2)

/-- The slug of a reference, if it has one. -/
def spelled? (reference : String) : Option String :=
  if (Slug.ofText reference).isEmpty then none else some (Slug.ofText reference)

/-- The first control of the answer to the question that a reference names. -/
def answered? (catalog : Catalog) (reference : String) : Option String :=
  let question := match catalog.resolve? reference with
    | some entry => some entry
    | none => catalog.resolve? (Slug.ofText reference)
  question.bind fun entry => entry.answers.head?

/-- The control that a shorthand counts out. -/
def counted? (catalog : Catalog) (reference : String) : Option String :=
  (readShorthand reference).bind fun shorthand =>
    (catalog.resolve? shorthand.question).bind fun question =>
      if shorthand.entry = 0 then none
      else (question.answers[shorthand.entry - 1]?).bind fun control =>
        fieldOf catalog control shorthand.field

/-- The controls that a reference can mean, in the order in which they are tried, where the names
are those that it may differ from in the case of letters alone. -/
def candidates (catalog : Catalog) (names : List String) (reference : String) : List String :=
  [reference] ++ (spelled? reference).toList ++ (answered? catalog reference).toList ++
    names.filter (Text.sameAscii · reference) ++ (counted? catalog reference).toList

theorem find?_toList (name : Option String) (accepts : String → Bool) :
    name.toList.find? accepts = name.filter accepts := by
  cases name with
  | none => rfl
  | some name => rw [Option.toList_some, List.find?_singleton, Option.filter_some]

theorem byShorthand_eq (sheet : Sheet) (reference : String) :
    byShorthand catalog sheet reference = (counted? catalog reference).filter sheet.contains := by
  unfold byShorthand counted?
  cases readShorthand reference with
  | none => rfl
  | some shorthand =>
    rw [Option.bind_some, Option.bind_some]
    cases catalog.resolve? shorthand.question with
    | none => rfl
    | some question =>
      rw [Option.bind_some, Option.bind_some]
      split
      · rfl
      · cases question.answers[shorthand.entry - 1]? <;> rfl

theorem byName_eq (sheet : Sheet) (reference : String) :
    byName catalog sheet reference = ((spelled? reference).filter sheet.contains).or
      (((answered? catalog reference).filter sheet.contains).or
        (sheet.names.find? (Text.sameAscii · reference))) := by
  have question : byQuestion catalog sheet reference (Slug.ofText reference) =
      (answered? catalog reference).filter sheet.contains := rfl
  unfold byName
  simp only
  rw [question]
  split
  next found =>
    have filled : ¬(Slug.ofText reference).isEmpty = true ∧
        sheet.contains (Slug.ofText reference) = true := by simpa using found
    rw [spelled?, if_neg filled.1, Option.filter_some, if_pos filled.2, Option.some_or]
  next missing =>
    have unspelled : (spelled? reference).filter sheet.contains = none := by
      unfold spelled?
      split
      next => rfl
      next filled => simpa [filled] using missing
    rw [unspelled, Option.none_or]
    cases (answered? catalog reference).filter sheet.contains <;> rfl

/-- The usual ways are tried one after the other. -/
theorem means?_eq_or (sheet : Sheet) (reference : String) :
    means? catalog sheet reference =
      if (Text.trim reference).isEmpty then none
      else (byDirectName sheet (Text.trim reference)).or
        ((byName catalog sheet (Text.trim reference)).or
          (byShorthand catalog sheet (Text.trim reference))) := by
  unfold means? locate
  simp only
  split
  · rfl
  · generalize Text.trim reference = trimmed
    simp only [Tiers.usual, List.findSome?_cons, List.findSome?_nil, byTier, Tier.direct, Tier.name,
      Tier.shorthand]
    cases byDirectName sheet trimmed with
    | some name => rw [Option.map_some, Option.map_some, Option.some_or]
    | none =>
      rw [Option.map_none, Option.none_or]
      cases byName catalog sheet trimmed with
      | some name => rw [Option.map_some, Option.map_some, Option.some_or]
      | none =>
        rw [Option.map_none, Option.none_or]
        cases byShorthand catalog sheet trimmed <;> rfl

/-- A reference means the first live control of those it can mean. -/
theorem means?_eq {sheet all : Sheet}
    (covers : ∀ name, sheet.contains name = true → all.contains name = true)
    (reference : String) :
    means? catalog sheet reference =
      if (Text.trim reference).isEmpty then none
      else (candidates catalog all.names (Text.trim reference)).find? sheet.contains := by
  rw [means?_eq_or]
  generalize Text.trim reference = trimmed
  have sameCase : sheet.names.find? (Text.sameAscii · trimmed) =
      (all.names.filter (Text.sameAscii · trimmed)).find? sheet.contains := by
    rw [NameMap.names_eq_filter covers, List.find?_filter, List.find?_filter]
    congr
    funext name
    rw [decide_eq_decide]
    exact And.comm
  have direct : byDirectName sheet trimmed = [trimmed].find? sheet.contains := by
    rw [List.find?_singleton]
    rfl
  unfold candidates
  simp only [direct, byName_eq, byShorthand_eq, sameCase, List.find?_append, find?_toList,
    Option.or_assoc]

/-! ### The same meaning on two sheets -/

/-- Two searches find the same if each accepts what the other finds. -/
theorem find?_eq_of_accepts {names : List String} {first second : String → Bool}
    (inSecond : ∀ name, names.find? first = some name → second name = true)
    (inFirst : ∀ name, names.find? second = some name → first name = true) :
    names.find? first = names.find? second := by
  induction names with
  | nil => rfl
  | cons head rest inductionHypothesis =>
    by_cases accepted : first head = true
    · have also := inSecond head (List.find?_cons_of_pos accepted)
      rw [List.find?_cons_of_pos accepted, List.find?_cons_of_pos also]
    · have neither : ¬second head = true := fun also =>
        accepted (inFirst head (List.find?_cons_of_pos also))
      rw [List.find?_cons_of_neg accepted] at inSecond ⊢
      rw [List.find?_cons_of_neg neither] at inFirst ⊢
      exact inductionHypothesis inSecond inFirst

/-- A reference means the same on two sheets if what it means on either is live on both. -/
theorem means?_eq_of_live {first second : Sheet} {reference : String}
    (inSecond : ∀ name, means? catalog first reference = some name → second.contains name = true)
    (inFirst : ∀ name, means? catalog second reference = some name → first.contains name = true) :
    means? catalog first reference = means? catalog second reference := by
  obtain ⟨all, coversFirst, coversSecond⟩ := NameMap.exists_covering first second
  rw [means?_eq coversFirst] at inSecond ⊢
  rw [means?_eq coversSecond] at inFirst ⊢
  split
  · rfl
  next named =>
    simp only [if_neg named] at inSecond inFirst
    exact find?_eq_of_accepts inSecond inFirst

/-- The controls that are read for the number of a control: itself, and its amount. -/
def read (catalog : Catalog) (name : String) : List String :=
  name :: ((catalog.control? name).bind Control.amount?).toList

theorem numberOf_congr {first second : Sheet} {name : String}
    (same : first.content? name = second.content? name) :
    numberOf first name = numberOf second name := by
  unfold numberOf Sheet.text?
  rw [same]

/-- The number of a control depends on nothing but what is read for it. -/
theorem number_congr {first second : Sheet} {name : String}
    (same : ∀ other ∈ read catalog name, first.content? other = second.content? other) :
    number catalog first name = number catalog second name := by
  have itself := same name List.mem_cons_self
  unfold number
  rw [Sheet.checked?_congr itself, numberOf_congr itself]
  cases second.checked? name with
  | none => rfl
  | some checked =>
    cases checked with
    | false => rfl
    | true =>
      cases part : (catalog.control? name).bind Control.amount? with
      | none => rfl
      | some amount =>
        exact numberOf_congr (same amount (List.mem_cons_of_mem _ (by rw [part]; simp)))

theorem value_usual (sheet : Sheet) (reference : String) :
    value Tiers.usual catalog sheet reference =
      match means? catalog sheet reference with
      | some name => number catalog sheet name
      | none => 0.0 := by
  unfold value means?
  cases locate Tiers.usual catalog sheet reference <;> rfl

/-- A reference keeps its number if nothing is changed that is read for what it means. -/
theorem value_eq_of_agreeOff {touched : List String} {first second : Sheet} {reference : String}
    (agree : Sheet.AgreeOff touched first second)
    (unread : ∀ name, means? catalog first reference = some name ∨
      means? catalog second reference = some name → ∀ other ∈ read catalog name,
        other ∉ touched) :
    value Tiers.usual catalog first reference = value Tiers.usual catalog second reference := by
  have live : ∀ name, name ∉ touched → first.contains name = second.contains name := by
    intro name untouched
    rw [Sheet.contains_eq_isSome_content?, Sheet.contains_eq_isSome_content?, agree name untouched]
  have isLive : ∀ {sheet : Sheet} {name : String}, means? catalog sheet reference = some name →
      sheet.contains name = true := by
    intro sheet name meant
    rw [means?_eq fun _ present => present] at meant
    split at meant
    next => cases meant
    next => exact List.find?_some meant
  have same : means? catalog first reference = means? catalog second reference := by
    refine means?_eq_of_live (fun name meant => ?_) fun name meant => ?_
    · exact live name (unread name (.inl meant) name List.mem_cons_self) ▸ isLive meant
    · exact live name (unread name (.inr meant) name List.mem_cons_self) ▸ isLive meant
  rw [value_usual, value_usual, same]
  cases meant : means? catalog second reference with
  | none => rfl
  | some name =>
    exact number_congr fun other isRead => agree other (unread name (.inr meant) other isRead)

end Reference

/-! ### References that no option takes over -/

/-- Whether no option can appear under a name that a reference would then mean: none under its slug
or the like, and one of the very name only if the reference means no control. -/
def Catalog.Steady (catalog : Catalog) (reference : String) : Prop :=
  ∀ dropdown ∈ catalog.controls, ∀ name ∈ dropdown.derivedNames,
    name ∉ catalog.controls.map Control.name →
    name = Slug.ofText (Text.trim reference) ∨ Text.sameAscii name (Text.trim reference) = true →
      name = Text.trim reference ∧
        Reference.means? catalog (Sheet.ofCatalog catalog) reference = none

instance (catalog : Catalog) (reference : String) : Decidable (catalog.Steady reference) :=
  inferInstanceAs (Decidable (∀ dropdown ∈ catalog.controls, ∀ name ∈ dropdown.derivedNames,
    name ∉ catalog.controls.map Control.name →
    name = Slug.ofText (Text.trim reference) ∨ Text.sameAscii name (Text.trim reference) = true →
      name = Text.trim reference ∧
        Reference.means? catalog (Sheet.ofCatalog catalog) reference = none))

namespace Reference

variable {catalog : Catalog} {derived : NameMap String} {sheet : Sheet} {reference : String}

/-- A live control of the very name is what a reference means. -/
theorem means?_of_contains (named : (Text.trim reference).isEmpty = false)
    (live : sheet.contains (Text.trim reference) = true) :
    means? catalog sheet reference = some (Text.trim reference) := by
  rw [means?_eq_or, if_neg (by simp [named]), byDirectName, if_pos live, Option.some_or]

theorem mem_of_resolve? {question : String} {entry : QuestionEntry}
    (found : catalog.resolve? question = some entry) : entry ∈ catalog.questions := by
  unfold Catalog.resolve? at found
  split at found
  next other byId => cases found; exact List.mem_of_find?_eq_some byId
  next =>
    obtain ⟨id, -, byId⟩ := Option.bind_eq_some_iff.mp found
    exact List.mem_of_find?_eq_some byId

/-- The answer to a question that a reference names is a control. -/
theorem isControl_of_answered? (wellFormed : catalog.WellFormed) {name : String}
    (answers : answered? catalog reference = some name) :
    name ∈ catalog.controls.map Control.name := by
  obtain ⟨entry, found, first⟩ := Option.bind_eq_some_iff.mp answers
  have member : entry ∈ catalog.questions := by
    split at found
    next other resolved => cases found; exact mem_of_resolve? resolved
    next => exact mem_of_resolve? found
  exact (wellFormed.answers entry member).subset (List.mem_of_head? first)

/-- What a shorthand counts out is a control. -/
theorem isControl_of_counted? (wellFormed : catalog.WellFormed) {name : String}
    (counts : counted? catalog reference = some name) :
    name ∈ catalog.controls.map Control.name := by
  obtain ⟨shorthand, -, counts⟩ := Option.bind_eq_some_iff.mp counts
  obtain ⟨entry, resolved, counts⟩ := Option.bind_eq_some_iff.mp counts
  split at counts
  next => cases counts
  next =>
    obtain ⟨control, answer, counts⟩ := Option.bind_eq_some_iff.mp counts
    have isControl := (wellFormed.answers entry (mem_of_resolve? resolved)).subset
      (List.mem_of_getElem? answer)
    unfold fieldOf at counts
    split at counts
    next => cases counts; exact isControl
    next =>
      obtain ⟨box, found, amount⟩ := Option.bind_eq_some_iff.mp counts
      obtain ⟨part, member, rfl, -⟩ :=
        wellFormed.paired.amount box (Catalog.mem_of_control?_eq_some found).1 name amount
      exact List.mem_map_of_mem member
    next => cases counts

theorem sameAscii_self (text : String) : Text.sameAscii text text = true :=
  beq_self_eq_true _

/-- What is tried for a reference and is no control has the slug of the reference for a name, or
differs from it in the case of letters alone. -/
theorem names_of_mem_candidates (wellFormed : catalog.WellFormed) {names : List String}
    {name : String} (isTried : name ∈ candidates catalog names reference)
    (foreign : name ∉ catalog.controls.map Control.name) :
    name = Slug.ofText reference ∨ Text.sameAscii name reference = true := by
  simp only [candidates, List.mem_append, List.mem_singleton, Option.mem_toList,
    List.mem_filter] at isTried
  obtain (((rfl | spelled) | answers) | ⟨-, same⟩) | counts := isTried
  · exact .inr (sameAscii_self name)
  · unfold spelled? at spelled
    split at spelled
    next => cases spelled
    next => cases spelled; exact .inl rfl
  · exact absurd (isControl_of_answered? wellFormed answers) foreign
  · exact .inr same
  · exact absurd (isControl_of_counted? wellFormed counts) foreign

theorem contains_of_isControl (owned : Owned catalog derived sheet) {name : String}
    (isControl : name ∈ catalog.controls.map Control.name) : sheet.contains name = true := by
  obtain ⟨control, member, rfl⟩ := List.mem_map.mp isControl
  exact owned.contains_control member

/-- An entry without a control of its name is there because a dropdown has derived it. -/
theorem exists_derives (owned : Owned catalog derived sheet) {name : String}
    (foreign : name ∉ catalog.controls.map Control.name) (live : sheet.contains name = true) :
    ∃ dropdown ∈ catalog.controls, name ∈ dropdown.derivedNames := by
  obtain ⟨owner, owns⟩ := (owned.contains_iff foreign).mp live
  obtain ⟨-, dropdown, member, -, derives⟩ := owned.owner owner name owns
  exact ⟨dropdown, member, Control.mem_derivedNames.mpr derives⟩

/-- Unless there is an entry of the very name, a steady reference means what it means on the first
sheet. -/
theorem means?_of_steady (wellFormed : catalog.WellFormed) (owned : Owned catalog derived sheet)
    (steady : catalog.Steady reference)
    (absent : ¬sheet.contains (Text.trim reference) = true) :
    means? catalog sheet reference = means? catalog (Sheet.ofCatalog catalog) reference := by
  have ownedFirst := owned_ofCatalog wellFormed
  obtain ⟨all, covers, coversFirst⟩ := NameMap.exists_covering sheet (Sheet.ofCatalog catalog)
  rw [means?_eq covers, means?_eq coversFirst]
  split
  next => rfl
  next =>
    -- On either sheet only controls are found, and those are live on both.
    refine find?_eq_of_accepts (fun name found => ?_) fun name found => ?_
    · by_cases isControl : name ∈ catalog.controls.map Control.name
      · exact contains_of_isControl ownedFirst isControl
      · have live := List.find?_some found
        obtain ⟨dropdown, member, derives⟩ := exists_derives owned isControl live
        have named :=
          names_of_mem_candidates wellFormed (List.mem_of_find?_eq_some found) isControl
        have equal := (steady dropdown member name derives isControl named).1
        exact absurd (equal ▸ live) absent
    · by_cases isControl : name ∈ catalog.controls.map Control.name
      · exact contains_of_isControl owned isControl
      · obtain ⟨owner, owns⟩ := (ownedFirst.contains_iff isControl).mp (List.find?_some found)
        cases owns

/-- What a reference means is watched, with what is read for it. -/
theorem mem_watched {name other : String} (meant : means? catalog sheet reference = some name)
    (isRead : other ∈ read catalog name) : other ∈ watched Tiers.usual catalog sheet reference := by
  obtain ⟨⟨tier, located⟩, found, rfl⟩ := Option.map_eq_some_iff.mp meant
  unfold watched
  rw [found]
  rcases List.mem_cons.mp isRead with rfl | isAmount
  · simp
  · simp [Option.mem_toList.mp isAmount]

/-- Whatever a steady reference means on any sheet is watched from any sheet on. -/
theorem mem_watched_of_steady (wellFormed : catalog.WellFormed) {before : Sheet}
    {derivedBefore : NameMap String} (ownedBefore : Owned catalog derivedBefore before)
    (owned : Owned catalog derived sheet) (steady : catalog.Steady reference) {name other : String}
    (meant : means? catalog sheet reference = some name) (isRead : other ∈ read catalog name) :
    other ∈ watched Tiers.usual catalog before reference := by
  have named : (Text.trim reference).isEmpty = false := by
    rw [means?_eq_or] at meant
    split at meant
    next => cases meant
    next named => simpa using named
  by_cases live : sheet.contains (Text.trim reference) = true
  · rw [means?_of_contains named live] at meant
    cases meant
    by_cases isControl : Text.trim reference ∈ catalog.controls.map Control.name
    · exact mem_watched
        (means?_of_contains named (contains_of_isControl ownedBefore isControl)) isRead
    · -- An option of the very name has no amount, and its name is always watched.
      rw [read, Catalog.control?_eq_none.mpr isControl] at isRead
      exact List.mem_singleton.mp isRead ▸ List.mem_cons_self
  · have meantFirst := means?_of_steady wellFormed owned steady live ▸ meant
    by_cases liveBefore : before.contains (Text.trim reference) = true
    · have foreign : Text.trim reference ∉ catalog.controls.map Control.name :=
        fun isControl => live (contains_of_isControl owned isControl)
      obtain ⟨dropdown, member, derives⟩ := exists_derives ownedBefore foreign liveBefore
      have never := (steady dropdown member _ derives foreign (.inr (sameAscii_self _))).2
      rw [never] at meantFirst
      cases meantFirst
    · rw [← means?_of_steady wellFormed ownedBefore steady liveBefore] at meantFirst
      exact mem_watched meantFirst isRead

end Reference

end Questionnaire

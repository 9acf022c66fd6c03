/-
This file holds finite maps keyed by names. A map is its list of entries in strictly ascending
code-point order of the names, and the order is part of the type, so that two maps with the same
lookups are equal and every listing of a map is already sorted.
-/

namespace Questionnaire

universe u v

/-- A finite map from names to values, listed in strictly ascending order of the names. -/
structure NameMap (α : Type u) where
  entries : List (String × α)
  ascending : entries.Pairwise fun left right => left.1 < right.1

/-- A finite set of names, as the map that gives each of them the unit value. -/
abbrev NameSet := NameMap Unit

namespace NameMap

variable {α : Type u} {β : Type v}

/-! ### Lists of entries -/

/-- The value under a name in a list of entries, if the name is there. -/
def find (name : String) : List (String × α) → Option α
  | [] => none
  | (key, value) :: rest => if key = name then some value else find name rest

/-- Puts a value under a name: an entry of that name is replaced, a new entry goes before the
first larger name. -/
def place (name : String) (value : α) : List (String × α) → List (String × α)
  | [] => [(name, value)]
  | (key, old) :: rest =>
    if name < key then (name, value) :: (key, old) :: rest
    else if key = name then (name, value) :: rest
    else (key, old) :: place name value rest

/-- Drops the entries of a name. -/
def drop (name : String) (entries : List (String × α)) : List (String × α) :=
  entries.filter fun entry => !decide (entry.1 = name)

theorem mem_place {name : String} {value : α} {entries : List (String × α)}
    {entry : String × α} (member : entry ∈ place name value entries) :
    entry = (name, value) ∨ entry ∈ entries := by
  induction entries with
  | nil => simpa [place] using member
  | cons head rest inductionHypothesis =>
    obtain ⟨key, old⟩ := head
    unfold place at member
    split at member
    · simpa using member
    · split at member
      · rcases List.mem_cons.mp member with equal | inRest
        · exact .inl equal
        · exact .inr (List.mem_cons_of_mem _ inRest)
      · rcases List.mem_cons.mp member with equal | inRest
        · exact .inr (by rw [equal]; exact List.mem_cons_self)
        · rcases inductionHypothesis inRest with equal | inOld
          · exact .inl equal
          · exact .inr (List.mem_cons_of_mem _ inOld)

theorem lt_of_not_lt_of_ne {left right : String} (notLess : ¬left < right)
    (different : ¬right = left) : right < left :=
  Classical.byContradiction fun notGreater =>
    different (String.le_antisymm (String.not_lt.mp notLess) (String.not_lt.mp notGreater))

/-- Placing keeps the names strictly ascending. -/
theorem ascending_place (name : String) (value : α) {entries : List (String × α)}
    (ascending : entries.Pairwise fun left right => left.1 < right.1) :
    (place name value entries).Pairwise fun left right => left.1 < right.1 := by
  induction entries with
  | nil => simp [place]
  | cons head rest inductionHypothesis =>
    obtain ⟨key, old⟩ := head
    have later := (List.pairwise_cons.mp ascending).1
    have tail := (List.pairwise_cons.mp ascending).2
    unfold place
    split
    next less =>
      refine List.pairwise_cons.mpr ⟨fun entry member => ?_, ascending⟩
      rcases List.mem_cons.mp member with rfl | inRest
      · exact less
      · exact String.lt_trans less (later entry inRest)
    next notLess =>
      split
      next equal => subst equal; exact List.pairwise_cons.mpr ⟨later, tail⟩
      next different =>
        refine List.pairwise_cons.mpr ⟨fun entry member => ?_, inductionHypothesis tail⟩
        rcases mem_place member with rfl | inRest
        · exact lt_of_not_lt_of_ne notLess different
        · exact later entry inRest

/-! ### Operations -/

/-- The map without entries. -/
def empty : NameMap α := ⟨[], List.Pairwise.nil⟩

instance : Inhabited (NameMap α) := ⟨empty⟩

/-- The value under a name. -/
def get? (map : NameMap α) (name : String) : Option α := find name map.entries

/-- Whether the map has an entry under a name. -/
def contains (map : NameMap α) (name : String) : Bool := (map.get? name).isSome

/-- The map with a value put under a name. -/
def insert (map : NameMap α) (name : String) (value : α) : NameMap α :=
  ⟨place name value map.entries, ascending_place name value map.ascending⟩

/-- The map without the entry of a name. -/
def erase (map : NameMap α) (name : String) : NameMap α :=
  ⟨drop name map.entries, map.ascending.filter _⟩

/-- The map whose values are the images of this map's values under a function of name and value. -/
def mapValues (change : String → α → β) (map : NameMap α) : NameMap β :=
  ⟨map.entries.map fun entry => (entry.1, change entry.1 entry.2),
    List.pairwise_map.mpr map.ascending⟩

/-- The names, ascending. -/
def names (map : NameMap α) : List String := map.entries.map (·.1)

/-- The number of entries. -/
def size (map : NameMap α) : Nat := map.entries.length

/-- The map of a list of pairs; of several pairs with one name the last one counts. -/
def ofList (pairs : List (String × α)) : NameMap α :=
  pairs.foldl (fun map pair => map.insert pair.1 pair.2) empty

/-- The set with one more name. -/
def add (names : NameSet) (name : String) : NameSet := names.insert name ()

instance [BEq α] : BEq (NameMap α) := ⟨fun left right => left.entries == right.entries⟩

instance [DecidableEq α] : DecidableEq (NameMap α) := fun left right =>
  decidable_of_iff (left.entries = right.entries) (by cases left; cases right; simp)

/-! ### Lookups after an operation -/

theorem mem_of_find_eq_some {entries : List (String × α)} {name : String} {value : α}
    (found : find name entries = some value) : (name, value) ∈ entries := by
  induction entries with
  | nil => simp [find] at found
  | cons head rest inductionHypothesis =>
    obtain ⟨key, old⟩ := head
    unfold find at found
    split at found
    next equal => cases found; subst equal; exact List.mem_cons_self
    next => exact List.mem_cons_of_mem _ (inductionHypothesis found)

theorem find_place (name other : String) (value : α) (entries : List (String × α)) :
    find other (place name value entries) =
      if name = other then some value else find other entries := by
  induction entries with
  | nil => simp [place, find]
  | cons head rest inductionHypothesis =>
    obtain ⟨key, old⟩ := head
    unfold place
    split
    · simp [find]
    · split
      next equal => subst equal; simp only [find]; split <;> rfl
      next different =>
        simp only [find, inductionHypothesis]
        by_cases same : key = other
        · subst same
          simp [if_neg fun equal : name = key => different equal.symm]
        · simp [same]

theorem find_drop (name other : String) (entries : List (String × α)) :
    find other (drop name entries) = if name = other then none else find other entries := by
  induction entries with
  | nil => simp [drop, find]
  | cons head rest inductionHypothesis =>
    obtain ⟨key, old⟩ := head
    unfold drop at inductionHypothesis ⊢
    by_cases same : key = name
    · subst same
      rw [List.filter_cons_of_neg (by simp), inductionHypothesis]
      by_cases equal : key = other <;> simp [find, equal]
    · rw [List.filter_cons_of_pos (by simp [same])]
      simp only [find, inductionHypothesis]
      by_cases equal : key = other
      · subst equal
        simp [if_neg fun reversed : name = key => same reversed.symm]
      · simp [equal]

@[simp] theorem get?_empty (name : String) : (empty : NameMap α).get? name = none := rfl

/-- A placed value is found under its name, and every other name keeps its value. -/
theorem get?_insert (map : NameMap α) (name other : String) (value : α) :
    (map.insert name value).get? other = if name = other then some value else map.get? other :=
  find_place name other value map.entries

@[simp] theorem get?_insert_self (map : NameMap α) (name : String) (value : α) :
    (map.insert name value).get? name = some value := by
  rw [get?_insert, if_pos rfl]

/-- An erased name is no longer found, and every other name keeps its value. -/
theorem get?_erase (map : NameMap α) (name other : String) :
    (map.erase name).get? other = if name = other then none else map.get? other :=
  find_drop name other map.entries

/-- The values of a mapped map are the images of the values. -/
theorem get?_mapValues (change : String → α → β) (map : NameMap α) (name : String) :
    (map.mapValues change).get? name = (map.get? name).map (change name) := by
  show find name (map.entries.map fun entry => (entry.1, change entry.1 entry.2)) = _
  unfold get?
  induction map.entries with
  | nil => rfl
  | cons head rest inductionHypothesis =>
    obtain ⟨key, value⟩ := head
    rw [List.map_cons, find, find, inductionHypothesis]
    split
    next equal => rw [equal]; rfl
    next => rfl

theorem contains_iff {map : NameMap α} {name : String} :
    map.contains name = true ↔ ∃ value, map.get? name = some value :=
  Option.isSome_iff_exists

theorem contains_insert (map : NameMap α) (name other : String) (value : α) :
    (map.insert name value).contains other = (decide (name = other) || map.contains other) := by
  unfold contains
  rw [get?_insert]
  by_cases equal : name = other <;> simp [equal]

theorem contains_erase (map : NameMap α) (name other : String) :
    (map.erase name).contains other = (!decide (name = other) && map.contains other) := by
  unfold contains
  rw [get?_erase]
  by_cases equal : name = other <;> simp [equal]

/-! ### Lists of pairs -/

/-- A map made of pairs with different names gives back each of them. -/
theorem get?_foldl_insert (pairs : List (String × α)) (map : NameMap α)
    (different : (pairs.map (·.1)).Nodup) (name : String) :
    (pairs.foldl (fun map pair => map.insert pair.1 pair.2) map).get? name =
      (find name pairs).or (map.get? name) := by
  induction pairs generalizing map with
  | nil => rfl
  | cons head rest inductionHypothesis =>
    obtain ⟨key, value⟩ := head
    obtain ⟨absent, differentRest⟩ := List.nodup_cons.mp different
    rw [List.foldl_cons, inductionHypothesis _ differentRest, get?_insert, find]
    by_cases equal : key = name
    · subst equal
      have unlisted : find key rest = none := by
        cases found : find key rest with
        | none => rfl
        | some other => exact absurd (List.mem_map.mpr ⟨_, mem_of_find_eq_some found, rfl⟩) absent
      simp [unlisted]
    · simp [equal]

theorem get?_ofList (pairs : List (String × α)) (different : (pairs.map (·.1)).Nodup)
    (name : String) : (ofList pairs).get? name = find name pairs := by
  unfold ofList
  rw [get?_foldl_insert pairs empty different, get?_empty, Option.or_none]

/-- What is found after insertions is one of the pairs, or was there before. -/
theorem of_foldl_insert {pairs : List (String × α)} {map : NameMap α} {name : String} {value : α}
    (found : (pairs.foldl (fun map pair => map.insert pair.1 pair.2) map).get? name = some value) :
    (name, value) ∈ pairs ∨ map.get? name = some value := by
  induction pairs generalizing map with
  | nil => exact .inr found
  | cons head rest inductionHypothesis =>
    rcases inductionHypothesis found with inRest | before
    · exact .inl (List.mem_cons_of_mem _ inRest)
    · rw [get?_insert] at before
      split at before
      next equal => cases before; exact .inl (equal ▸ List.mem_cons_self)
      next => exact .inr before

/-- What is found in the map of a list of pairs is one of them, whether or not their names differ.
-/
theorem mem_of_get?_ofList {pairs : List (String × α)} {name : String} {value : α}
    (found : (ofList pairs).get? name = some value) : (name, value) ∈ pairs :=
  (of_foldl_insert found).resolve_right nofun

theorem contains_foldl_insert {pairs : List (String × α)} {map : NameMap α} {name : String}
    (kept : map.contains name = true) :
    (pairs.foldl (fun map pair => map.insert pair.1 pair.2) map).contains name = true := by
  induction pairs generalizing map with
  | nil => exact kept
  | cons head rest inductionHypothesis =>
    exact inductionHypothesis (by rw [contains_insert, kept, Bool.or_true])

/-- All names of the pairs are in their map. -/
theorem contains_ofList {pairs : List (String × α)} {name : String} {value : α}
    (member : (name, value) ∈ pairs) : (ofList pairs).contains name = true := by
  obtain ⟨before, after, rfl⟩ := List.append_of_mem member
  rw [ofList, List.foldl_append, List.foldl_cons]
  exact contains_foldl_insert (by rw [contains_insert, decide_eq_true rfl, Bool.true_or])

/-- In a list of pairs with different names, each value is found under its name. -/
theorem find_eq_some_iff {pairs : List (String × α)} (different : (pairs.map (·.1)).Nodup)
    {name : String} {value : α} : find name pairs = some value ↔ (name, value) ∈ pairs := by
  refine ⟨mem_of_find_eq_some, fun isIn => ?_⟩
  induction pairs with
  | nil => cases isIn
  | cons head rest inductionHypothesis =>
    obtain ⟨absent, differentRest⟩ := List.nodup_cons.mp different
    rcases List.mem_cons.mp isIn with rfl | inRest
    · rw [find, if_pos rfl]
    · rw [find, if_neg]
      · exact inductionHypothesis differentRest inRest
      · rintro rfl
        exact absent (List.mem_map.mpr ⟨_, inRest, rfl⟩)

/-- What is found does not depend on the order of the pairs. -/
theorem find_perm {pairs others : List (String × α)} (perm : pairs.Perm others)
    (different : (others.map (·.1)).Nodup) (name : String) :
    find name pairs = find name others := by
  refine Option.ext fun value => ?_
  rw [find_eq_some_iff different, find_eq_some_iff ((perm.map _).nodup_iff.mpr different),
    perm.mem_iff]

/-- No name is listed twice. -/
theorem nodup_names (map : NameMap α) : map.names.Nodup := by
  refine List.pairwise_map.mpr (map.ascending.imp ?_)
  intro first second less equal
  exact String.lt_irrefl second.1 (equal ▸ less)

/-- An entry is listed exactly when its value is found under its name. -/
theorem mem_entries_iff (map : NameMap α) (name : String) (value : α) :
    (name, value) ∈ map.entries ↔ map.get? name = some value :=
  (find_eq_some_iff map.nodup_names).symm

/-! ### Extensionality -/

theorem entries_eq_of_find_eq : ∀ {left right : List (String × α)},
    left.Pairwise (fun first second => first.1 < second.1) →
    right.Pairwise (fun first second => first.1 < second.1) →
    (∀ name, find name left = find name right) → left = right
  | [], [], _, _, _ => rfl
  | [], (key, value) :: _, _, _, same => by
    have := same key; simp [find] at this
  | (key, value) :: _, [], _, _, same => by
    have := same key; simp [find] at this
  | (firstKey, firstValue) :: first, (secondKey, secondValue) :: second,
      firstAscending, secondAscending, same => by
    have firstLater := (List.pairwise_cons.mp firstAscending).1
    have secondLater := (List.pairwise_cons.mp secondAscending).1
    have firstIn : (firstKey, firstValue) ∈ (secondKey, secondValue) :: second :=
      mem_of_find_eq_some (by rw [← same]; simp [find])
    have secondIn : (secondKey, secondValue) ∈ (firstKey, firstValue) :: first :=
      mem_of_find_eq_some (by rw [same]; simp [find])
    have heads : (firstKey, firstValue) = (secondKey, secondValue) := by
      rcases List.mem_cons.mp firstIn with equal | inSecond
      · exact equal
      · rcases List.mem_cons.mp secondIn with equal | inFirst
        · exact equal.symm
        · exact absurd (secondLater _ inSecond) (String.lt_asymm (firstLater _ inFirst))
    cases heads
    have firstTail := (List.pairwise_cons.mp firstAscending).2
    have secondTail := (List.pairwise_cons.mp secondAscending).2
    have tails : ∀ name, find name first = find name second := fun name => by
      by_cases equal : firstKey = name
      · subst equal
        have absent : ∀ {rest : List (String × α)}, (∀ entry ∈ rest, firstKey < entry.1) →
            find firstKey rest = none := fun {rest} later =>
          match found : find firstKey rest with
          | none => rfl
          | some _ => absurd (later _ (mem_of_find_eq_some found)) (String.lt_irrefl _)
        rw [absent firstLater, absent secondLater]
      · have := same name
        simpa [find, equal] using this
    rw [entries_eq_of_find_eq firstTail secondTail tails]

/-- Two maps with the same lookups are equal. -/
theorem ext_get? {left right : NameMap α} (same : ∀ name, left.get? name = right.get? name) :
    left = right := by
  cases left with
  | mk leftEntries leftAscending =>
    cases right with
    | mk rightEntries rightAscending =>
      have := entries_eq_of_find_eq leftAscending rightAscending same
      subst this
      rfl

/-- Putting a value where it is already changes nothing. -/
theorem insert_eq_self {map : NameMap α} {name : String} {value : α}
    (present : map.get? name = some value) : map.insert name value = map :=
  ext_get? fun other => by
    rw [get?_insert]
    split
    next equal => rw [← equal, present]
    next => rfl

/-- The listed names are those under which there is a value. -/
theorem mem_names {map : NameMap α} {name : String} :
    name ∈ map.names ↔ map.contains name = true := by
  unfold names
  rw [List.mem_map, contains_iff]
  constructor
  · rintro ⟨entry, member, rfl⟩
    exact ⟨entry.2, (mem_entries_iff map _ _).mp member⟩
  · rintro ⟨value, found⟩
    exact ⟨(name, value), (mem_entries_iff map _ _).mpr found, rfl⟩

end NameMap

end Questionnaire

/-
This file says when it is safe not to run the calculations after an edit. An edit that touches no
watched control leaves a term its number if all that is read for what the term means, before and
after, is watched; and so it is in every session if no option can appear under a name that the term
would mean instead. Where one can, the number of a term changes unnoticed: the names to watch are
listed once, and an option that appears later is not among them.
-/
import Questionnaire.Proofs.Meaning
import Questionnaire.Proofs.Report

namespace Questionnaire

/-- The names added to a set are in it. -/
theorem NameMap.contains_foldl_add (names : List String) (set : NameSet) (name : String) :
    (names.foldl NameMap.add set).contains name = true ↔
      name ∈ names ∨ set.contains name = true := by
  induction names generalizing set with
  | nil => simp
  | cons head rest inductionHypothesis =>
    rw [List.foldl_cons, inductionHypothesis, add, contains_insert, List.mem_cons,
      Bool.or_eq_true, decide_eq_true_eq]
    constructor
    · rintro (inRest | rfl | inSet)
      · exact .inl (.inr inRest)
      · exact .inl (.inl rfl)
      · exact .inr inSet
    · rintro ((rfl | inRest) | inSet)
      · exact .inr (.inl rfl)
      · exact .inl inRest
      · exact .inr (.inr inSet)

/-- What the terms of the calculations refer to. -/
def Catalog.references (catalog : Catalog) : List String :=
  catalog.calculations.flatMap fun target => target.rules.flatMap fun rule =>
    rule.terms.map Term.field

namespace Session

variable {catalog : Catalog}

/-! ### Watched names along a run -/

/-- The watched names are those watched for the references. -/
theorem contains_watchedNames {tiers : Tiers} {sheet : Sheet} {name : String} :
    (watchedNames tiers catalog sheet).contains name = true ↔
      ∃ reference ∈ catalog.references, name ∈ Reference.watched tiers catalog sheet reference := by
  unfold watchedNames Catalog.references
  rw [NameMap.contains_foldl_add]
  simp only [List.mem_flatMap, List.mem_map]
  constructor
  · rintro (⟨target, isTarget, rule, isRule, term, isTerm, isWatched⟩ | never)
    · exact ⟨term.field, ⟨target, isTarget, rule, isRule, term, isTerm, rfl⟩, isWatched⟩
    · cases never
  · rintro ⟨-, ⟨target, isTarget, rule, isRule, term, isTerm, rfl⟩, isWatched⟩
    exact .inl ⟨target, isTarget, rule, isRule, term, isTerm, isWatched⟩

/-- Whether the watched names are those of a sheet with its owners in order. -/
def IsWatching (session : Session) : Prop :=
  ∃ derived sheet, Owned session.catalog derived sheet ∧
    session.watched = watchedNames session.tiers session.catalog sheet

theorem kept_isWatching (wellFormed : catalog.WellFormed) :
    Kept catalog fun session => session.IsOwned ∧ session.IsWatching := by
  have owners := kept_isOwned wellFormed
  constructor
  case start =>
    exact ⟨owners.start, _, _, Sync.owned_echoAll wellFormed (owned_ofCatalog wellFormed), rfl⟩
  case carry =>
    rintro session control result same ⟨owned, derived, sheet, ownedThen, watched⟩ written
    refine ⟨owners.carry same owned written, derived, sheet, ?_, ?_⟩
    · rw [catalog_carry]; exact ownedThen
    · unfold Session.carry
      simp only
      split <;> exact watched
  case recalculate =>
    rintro session same ⟨owned, derived, sheet, ownedThen, watched⟩
    exact ⟨owners.recalculate same owned, derived, sheet, ownedThen, watched⟩
  case rehydrate =>
    rintro session snapshot same ⟨owned, derived, sheet, ownedThen, watched⟩
    exact ⟨owners.rehydrate snapshot same owned, derived, sheet, ownedThen, watched⟩
  case withTiers =>
    rintro session tiers same ⟨owned, -⟩
    exact ⟨owners.withTiers tiers same owned, session.sync.derived, session.sheet, owned, rfl⟩
  case beside =>
    rintro session navigation warnings finalized same ⟨owned, isWatching⟩
    exact ⟨owners.beside navigation warnings finalized same owned, isWatching⟩

/-! ### Edits that touch nothing watched -/

/-- Whether all is watched that is read for what a reference means on a sheet. -/
def Watches (session : Session) (sheet : Sheet) (reference : String) : Prop :=
  ∀ name, Reference.means? session.catalog sheet reference = some name →
    ∀ other ∈ Reference.read session.catalog name, session.watched.contains other = true

/-- What a steady term means on any sheet is watched. -/
theorem watches_of_steady {session : Session} (wellFormed : session.catalog.WellFormed)
    (isWatching : session.IsWatching) (usual : session.tiers = Tiers.usual)
    {derived : NameMap String} {sheet : Sheet} (owned : Owned session.catalog derived sheet)
    {reference : String} (isRead : reference ∈ session.catalog.references)
    (steady : session.catalog.Steady reference) : session.Watches sheet reference := by
  obtain ⟨derivedThen, before, ownedThen, watched⟩ := isWatching
  intro name meant other ofMeant
  rw [watched, contains_watchedNames, usual]
  exact ⟨reference, isRead,
    Reference.mem_watched_of_steady wellFormed ownedThen owned steady meant ofMeant⟩

/-- An edit that touches nothing watched runs no calculation. -/
theorem recalculated_afterWrite {session : Session} {control : String} {written : Sheet × Bool}
    (untouched : ∀ name ∈ (session.afterWrite control written).2.touched,
      session.watched.contains name = false) :
    (session.afterWrite control written).2.recalculated = [] := by
  unfold afterWrite at untouched ⊢
  split
  next changed =>
    rw [if_pos changed] at untouched
    unfold carry at untouched ⊢
    simp only at untouched ⊢
    split
    next isWatched =>
      obtain ⟨name, isTouched, watched⟩ := List.any_eq_true.mp isWatched
      rw [if_pos isWatched] at untouched
      rw [untouched name isTouched] at watched
      cases watched
    next => rfl
  next => rfl

theorem tiers_carry (session : Session) (sheet : Sheet) (control : String) :
    (session.carry sheet control).1.tiers = session.tiers := by
  unfold carry
  simp only
  split <;> rfl

theorem tiers_afterWrite (session : Session) (control : String) (written : Sheet × Bool) :
    (session.afterWrite control written).1.tiers = session.tiers ∧
      (session.afterWrite control written).1.catalog = session.catalog := by
  unfold afterWrite
  split
  next => exact ⟨tiers_carry session written.1 control, catalog_carry session written.1 control⟩
  next => exact ⟨rfl, rfl⟩

theorem IsOwned.afterWrite {session : Session} (owned : session.IsOwned)
    (wellFormed : session.catalog.WellFormed) {control : String} {written : Sheet × Bool}
    (isWrite : Sheet.Write session.sheet control written) :
    (session.afterWrite control written).1.IsOwned := by
  unfold Session.afterWrite
  split
  next => exact owned.carry wellFormed isWrite
  next => exact owned

/-- An edit that touches nothing watched leaves a reference its number if all is watched that is
read for what it means before and after the edit. -/
theorem IsOwned.lookup_afterWrite {session : Session} (owned : session.IsOwned)
    (wellFormed : session.catalog.WellFormed) (usual : session.tiers = Tiers.usual)
    {control : String} {written : Sheet × Bool}
    (isWrite : Sheet.Write session.sheet control written)
    (untouched : ∀ name ∈ (session.afterWrite control written).2.touched,
      session.watched.contains name = false)
    {reference : String} (before : session.Watches session.sheet reference)
    (afterwards : session.Watches (session.afterWrite control written).1.sheet reference) :
    (session.afterWrite control written).1.lookup reference = session.lookup reference := by
  have idle := recalculated_afterWrite untouched
  have accounts := owned.accounts_afterWrite wellFormed isWrite
  obtain ⟨sameTiers, sameCatalog⟩ := tiers_afterWrite session control written
  have agree : Sheet.AgreeOff (session.afterWrite control written).2.touched session.sheet
      (session.afterWrite control written).1.sheet := by
    intro name unlisted
    by_contra different
    rcases accounts.listed name different with isTouched | isRecalculated
    · exact unlisted isTouched
    · rw [idle] at isRecalculated
      cases isRecalculated
  unfold lookup
  rw [sameTiers, sameCatalog, usual]
  refine (Reference.value_eq_of_agreeOff agree fun name meant other isRead isTouched => ?_).symm
  have isWatched : session.watched.contains other = true := by
    rcases meant with meantBefore | meantAfterwards
    · exact before name meantBefore other isRead
    · exact afterwards name meantAfterwards other isRead
  rw [untouched other isTouched] at isWatched
  cases isWatched

/-- In every session that a run reaches and that finds what terms mean in the usual ways, an edit
that touches nothing watched runs no calculation. It leaves a term of a calculation its number if no
option can take the term over, and also if all is watched that is read for what the term means
before and after the edit. -/
theorem terms_of_run {form : Form} (built : Catalog.build form = .ok catalog)
    (operations : List Operation) (control : String) :
    let session := run catalog operations
    session.tiers = Tiers.usual →
    ∀ result, (∃ text, result = session.setValue control text) ∨
      (∃ checked, result = session.setChecked control checked) →
    ∀ after report, result = .ok (after, report) →
      (∀ name ∈ report.touched, session.watched.contains name = false) →
        report.recalculated = [] ∧
        ∀ reference ∈ catalog.references,
          catalog.Steady reference ∨
              session.Watches session.sheet reference ∧ session.Watches after.sheet reference →
            after.lookup reference = session.lookup reference := by
  have wellFormed := Catalog.wellFormed_of_build built
  have reached := (kept_isWatching wellFormed).run operations
  generalize run catalog operations = session at reached
  obtain ⟨rfl, owned, isWatching⟩ := reached
  intro session usual result isEdit after report returned untouched
  obtain ⟨written, rfl, isWrite⟩ := exists_write_of_edit isEdit
  cases written with
  | error fault => cases returned
  | ok pair =>
    have edited : session.afterWrite control pair = (after, report) := Except.ok.inj returned
    have same : (session.afterWrite control pair).1 = after := by rw [edited]
    have sameReport : (session.afterWrite control pair).2 = report := by rw [edited]
    subst same sameReport
    refine ⟨recalculated_afterWrite untouched, fun reference isRead safe => ?_⟩
    have watches : session.Watches session.sheet reference ∧
        session.Watches (session.afterWrite control pair).1.sheet reference := by
      rcases safe with steady | watches
      · have ofOwned : ∀ {derived sheet}, Owned session.catalog derived sheet →
            session.Watches sheet reference := fun owned =>
          watches_of_steady wellFormed isWatching usual owned isRead steady
        have ownedAfter := IsOwned.afterWrite owned wellFormed (isWrite pair rfl)
        rw [IsOwned, (tiers_afterWrite session control pair).2] at ownedAfter
        exact ⟨ofOwned owned, ofOwned ownedAfter⟩
      · exact watches
    exact IsOwned.lookup_afterWrite owned wellFormed usual (isWrite pair rfl) untouched watches.1
      watches.2

/-- A form whose only calculation refers to an option of a dropdown by its text. -/
def pick : Form :=
  { id := "pick", title := "Pick", description := none
    sections := [⟨1, "One",
      [plain "first" .dropdown "A" [⟨"B c", none, false, false⟩, ⟨"Other", none, false, false⟩]]⟩]
    hiddenFields := [⟨"picked", .text, none,
      [⟨none, .text, [⟨none, "A: B c"⟩], .greater, 0.0, .text "##total##"⟩]⟩]
    links := [] }

theorem pick_isSome : (Catalog.build pick).toOption.isSome = true := by decide +kernel

/-- The catalog of that form. -/
def pickCatalog : Catalog := (Catalog.build pick).toOption.get pick_isSome

/-- Choosing the option brings an entry of the name that the term has for a slug. The number of the
term becomes one, but nothing is watched of what the choice touches, and nothing is calculated. -/
theorem term_changes_unwatched :
    ∃ after report, (run pickCatalog []).setValue "a" "B c" = .ok (after, report) ∧
      (run pickCatalog []).tiers = Tiers.usual ∧
      (∀ name ∈ report.touched, (run pickCatalog []).watched.contains name = false) ∧
      report.recalculated = [] ∧ ∃ reference ∈ pickCatalog.references,
        after.lookup reference ≠ (run pickCatalog []).lookup reference := by
  have isOk : ((run pickCatalog []).setValue "a" "B c").toOption.isSome = true := by
    decide +kernel
  refine ⟨_, _, Catalog.eq_ok_get isOk, rfl, by decide +kernel, by decide +kernel, "A: B c",
    by decide +kernel, fun same => ?_⟩
  exact absurd (congrArg (· == 0.0) same) (by decide +kernel)

/-- A choice that no term can mean touches nothing watched, and the terms keep their numbers. -/
theorem terms_of_choice :
    let session := run surveyCatalog [.setChecked "pets_dog" true, .setValue "pets_dog_amount" "5"]
    ∃ after report, session.setValue "a" "B c" = .ok (after, report) ∧
      report.touched = ["a", "a_selected", "a_b_c"] ∧ report.recalculated = [] ∧
      after.lookup "pets_dog" = session.lookup "pets_dog" := by
  have isOk : ((run surveyCatalog [.setChecked "pets_dog" true,
      .setValue "pets_dog_amount" "5"]).setValue "a" "B c").toOption.isSome = true := by
    decide +kernel
  have edited := Catalog.eq_ok_get isOk
  obtain ⟨idle, kept⟩ := terms_of_run build_survey
    [.setChecked "pets_dog" true, .setValue "pets_dog_amount" "5"] "a" rfl _
    (.inl ⟨"B c", rfl⟩) _ _ edited (by decide +kernel)
  exact ⟨_, _, edited, by decide +kernel, idle,
    kept "pets_dog" (by decide +kernel) (.inl (by decide +kernel))⟩

end Session

end Questionnaire

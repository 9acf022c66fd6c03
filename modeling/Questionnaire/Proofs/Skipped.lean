/-
This file accounts for the entries of a snapshot that is taken over. An entry has no effect if its
control is not there in the end, or if the control is a select that offers nothing its value could
choose. Of these, only the entries are counted whose control was not there before either: the check
that lets pass what is derived later lets a refusing select pass too, and a derived entry that took
its value is not looked at again when its dropdown gives it up. Nothing else is left out, and what
has its effect is never counted.
-/
import Questionnaire.Proofs.Rehydration
import Questionnaire.Proofs.Run

namespace Questionnaire

variable {α : Type}

/-- Of two kinds of elements that have none in common, there are as many as of both together. -/
theorem countP_eq_add {whole first second : α → Bool} {values : List α}
    (split : ∀ value ∈ values,
      (whole value).toNat = (first value).toNat + (second value).toNat) :
    values.countP whole = values.countP first + values.countP second := by
  induction values with
  | nil => rfl
  | cons head rest inductionHypothesis =>
    have here := split head List.mem_cons_self
    have there := inductionHypothesis fun value isIn => split value (List.mem_cons_of_mem _ isIn)
    have unit : ∀ holds : Bool, (if holds = true then 1 else 0) = holds.toNat := by decide
    simp only [List.countP_cons, unit]
    omega

/-! ### Single entries -/

/-- Whether content takes over an exported value: a select takes the empty one, and those that
choose an option. -/
def Content.fits (value : String) : Content → Bool
  | .select _ options => value.isEmpty || (Answer.option? options value).isSome
  | .text _ | .checkbox _ _ => true

/-- What content takes over does not depend on what it holds. -/
theorem Content.Refills.fits_eq {old new : Content} (refills : old.Refills new) (value : String) :
    new.fits value = old.fits value := by
  have cleared := refills.cleared
  cases old with
  | text _ => cases new <;> cases cleared; rfl
  | select _ options => cases new <;> cases cleared; rfl
  | checkbox _ _ => cases new <;> cases cleared; rfl

namespace Sheet

variable {sheet before after : Sheet} {name value : String}

theorem applyExported_snd (sheet : Sheet) (name value : String) :
    (sheet.applyExported name value).2 = (sheet.content? name).any (·.fits value) := by
  unfold applyExported
  rw [content?_eq]
  cases present : sheet.get? name with
  | none => rfl
  | some entry =>
    cases holds : entry.content with
    | text words =>
      unfold setText
      simp only [present, holds, Option.map_some]
      rfl
    | checkbox checked boxValue =>
      unfold setChecked
      simp only [present, holds, Option.map_some]
      rfl
    | select choice options =>
      unfold setText
      simp only [present, holds, Option.map_some, Option.any_some, Content.fits]
      cases value.isEmpty with
      | true => rfl
      | false => cases Answer.option? options value <;> rfl

/-- Whether the control of a name is there and does not take over an exported value. -/
def refuses (sheet : Sheet) (name value : String) : Bool :=
  sheet.contains name && !(sheet.applyExported name value).2

/-- Only a select refuses a value: one that is not empty and chooses none of its options. -/
theorem refuses_iff : sheet.refuses name value = true ↔
    ∃ choice options, sheet.content? name = some (.select choice options) ∧
      value.isEmpty = false ∧ Answer.option? options value = none := by
  unfold refuses
  rw [applyExported_snd, contains_eq_isSome_content?]
  cases sheet.content? name with
  | none => simp
  | some content => cases content <;> simp [Content.fits]

theorem applyExported_snd_eq (sheet : Sheet) (name value : String) :
    (sheet.applyExported name value).2 = (sheet.contains name && !sheet.refuses name value) := by
  unfold refuses
  rw [applyExported_snd, contains_eq_isSome_content?]
  cases sheet.content? name with
  | none => rfl
  | some content => exact (Bool.not_not _).symm

/-- Whether a value is taken over does not depend on the other entries taken over before it. -/
theorem Refilled.applyExported_snd (refilled : Refilled before after) (name value : String) :
    (after.applyExported name value).2 = (before.applyExported name value).2 := by
  rw [Sheet.applyExported_snd, Sheet.applyExported_snd, content?_eq, content?_eq]
  cases present : before.get? name with
  | none => rw [refilled.absent name present]
  | some entry =>
    obtain ⟨content, found, refills⟩ := refilled.entry name entry present
    rw [found]
    exact refills.fits_eq value

theorem Refilled.refuses_eq (refilled : Refilled before after) (name value : String) :
    after.refuses name value = before.refuses name value := by
  unfold refuses
  rw [refilled.contains, refilled.applyExported_snd]

theorem applyNext_snd (state : Sheet × List String) (entry : String × String) :
    (applyNext state entry).2 =
      state.2 ++ if (state.1.applyExported entry.1 entry.2).2 then [] else [entry.1] := by
  unfold applyNext
  split
  next equal => rw [equal]; exact (List.append_nil _).symm
  next equal => rw [equal]; rfl

theorem foldl_applyNext_snd (entries : List (String × String)) (state : Sheet × List String) :
    (entries.foldl applyNext state).2 = state.2 ++
      (entries.filter fun entry => !(state.1.applyExported entry.1 entry.2).2).map Prod.fst := by
  induction entries generalizing state with
  | nil => exact (List.append_nil _).symm
  | cons head rest inductionHypothesis =>
    have refilled : Refilled state.1 (applyNext state head).1 :=
      applyNext_fst state head ▸ refilled_applyExported state.1 head.1 head.2
    rw [List.foldl_cons, inductionHypothesis, applyNext_snd, List.append_assoc]
    simp only [refilled.applyExported_snd]
    cases fits : (state.1.applyExported head.1 head.2).2 with
    | true => simp [fits]
    | false => simp [fits]

/-- The names that taking over a snapshot lists are those of the entries that do not fit. -/
theorem applyAll_snd (sheet : Sheet) (snapshot : Snapshot) :
    (Session.applyAll sheet snapshot).2 =
      (snapshot.entries.filter fun entry => !(sheet.applyExported entry.1 entry.2).2).map
        Prod.fst := by
  rw [applyAll_eq, foldl_applyNext_snd]
  rfl

/-- In a sheet of a catalog, what refuses a value is one of the selects of the catalog. -/
theorem refuses_iff_select {catalog : Catalog} {derived : NameMap String}
    (owned : Owned catalog derived sheet) : sheet.refuses name value = true ↔
      ∃ control ∈ catalog.controls, control.name = name ∧ value.isEmpty = false ∧
        ∃ options echo, control.kind = .select options echo ∧
          Answer.option? options value = none := by
  rw [refuses_iff]
  constructor
  · rintro ⟨choice, options, holds, filled, none⟩
    obtain ⟨entry, present, content⟩ := Option.map_eq_some_iff.mp holds
    have notDerived : entry.derived = false := by
      cases isDerived : entry.derived with
      | false => rfl
      | true =>
        obtain ⟨-, ⟨checked, boxValue, isBox⟩, -⟩ := owned.option name entry present isDerived
        cases content.symm.trans isBox
    obtain ⟨control, member, rfl⟩ := owned.entry name entry present notDerived
    obtain ⟨other, otherPresent, -, blank, -⟩ := owned.control control member
    cases present.symm.trans otherPresent
    rw [content] at blank
    cases kind : control.kind with
    | select others echo =>
      rw [kind] at blank
      cases blank
      exact ⟨control, member, rfl, filled, options, echo, kind, none⟩
    | text | checkbox _ _ _ | amount _ | echo _ => rw [kind] at blank; cases blank
  · rintro ⟨control, member, rfl, filled, options, echo, kind, none⟩
    obtain ⟨choice, holds, -⟩ := owned.select member kind
    exact ⟨choice, options, holds, filled, none⟩

end Sheet

namespace Session

variable {session : Session} {snapshot : Snapshot} {name value : String}

/-! ### What is counted -/

/-- Whether a control is there before a snapshot is taken over, and no longer afterwards. -/
def withdraws (session : Session) (snapshot : Snapshot) (name : String) : Bool :=
  session.sheet.contains name && !(session.rehydrate snapshot).1.sheet.contains name

/-- Whether an entry of a snapshot has no effect: its control is not there in the end, or it is
there and refuses the value. -/
def loses (session : Session) (snapshot : Snapshot) (name value : String) : Bool :=
  !(session.rehydrate snapshot).1.sheet.contains name || session.sheet.refuses name value

/-- How many entries of a snapshot have no effect. -/
def lost (session : Session) (snapshot : Snapshot) : Nat :=
  snapshot.entries.countP fun entry => session.loses snapshot entry.1 entry.2

theorem contains_rehydrate (session : Session) (snapshot : Snapshot) (name : String) :
    (session.rehydrate snapshot).1.sheet.contains name =
      (Sync.echoAll session.catalog session.sync
        (applyAll session.sheet snapshot).1).sheet.contains name := by
  rw [sheet_rehydrate]
  exact (Sheet.refilled_derivation_run _ _ _).contains name

/-- Counted are the entries that do not fit and whose control is not there in the end. -/
theorem rehydrate_snd (session : Session) (snapshot : Snapshot) :
    (session.rehydrate snapshot).2 = snapshot.entries.countP fun entry =>
      !(session.rehydrate snapshot).1.sheet.contains entry.1 &&
        !(session.sheet.applyExported entry.1 entry.2).2 := by
  have listed : (session.rehydrate snapshot).2 =
      ((applyAll session.sheet snapshot).2.filter fun name =>
        !(session.rehydrate snapshot).1.sheet.contains name).length := by
    simp only [contains_rehydrate]
    rfl
  rw [listed, Sheet.applyAll_snd, List.filter_map, List.length_map, List.filter_filter,
    ← List.countP_eq_length_filter]
  rfl

/-! ### Selects and derived entries -/

/-- A control that refuses a value stays. -/
theorem contains_of_refuses (owned : session.IsOwned) (wellFormed : session.catalog.WellFormed)
    (snapshot : Snapshot) (refuses : session.sheet.refuses name value = true) :
    (session.rehydrate snapshot).1.sheet.contains name = true := by
  obtain ⟨control, member, rfl, -⟩ := (Sheet.refuses_iff_select owned).mp refuses
  exact (owned.rehydrate wellFormed snapshot).contains_control member

/-- Withdrawn is what a dropdown has derived that asks for something else after the snapshot. -/
theorem owner_of_withdraws (owned : session.IsOwned) (wellFormed : session.catalog.WellFormed)
    (withdraws : session.withdraws snapshot name = true) :
    ∃ dropdown ∈ session.catalog.controls,
      session.sync.derived.get? dropdown.name = some name ∧
        Sync.wanted (applyAll session.sheet snapshot).1 dropdown.name ≠ some name := by
  obtain ⟨present, absent⟩ := Bool.and_eq_true_iff.mp withdraws
  rw [Bool.not_eq_true'] at absent
  have foreign : name ∉ session.catalog.controls.map Control.name := by
    intro isControl
    obtain ⟨control, member, rfl⟩ := List.mem_map.mp isControl
    rw [(owned.rehydrate wellFormed snapshot).contains_control member] at absent
    cases absent
  obtain ⟨owner, owns⟩ := (owned.contains_iff foreign).mp present
  obtain ⟨-, dropdown, member, rfl, derives⟩ := owned.owner owner name owns
  refine ⟨dropdown, member, owns, fun asked => ?_⟩
  -- No other dropdown has the name, so nothing would keep its owner from deriving it again.
  obtain ⟨earlier, later, equal⟩ := List.append_of_mem member
  obtain ⟨-, alone, -⟩ := Sync.split_controls wellFormed equal
  obtain ⟨echo, echoes⟩ := Sync.echo?_of_derives derives
  have rederives : Sync.Rederives session.catalog session.sync.derived
      (applyAll session.sheet snapshot).1 name := by
    refine ⟨foreign, earlier, dropdown, later, equal, by rw [echoes]; rfl, asked, ?_⟩
    intro other otherIn otherOwns
    have same := owned.apart other.name dropdown.name name otherOwns owns
    exact absurd (List.mem_map.mpr ⟨other, otherIn, same⟩) alone
  have applied := owned.refilled (Sheet.refilled_applyAll session.sheet snapshot)
  rw [contains_rehydrate, (Sync.contains_echoAll wellFormed applied foreign).mpr rederives]
    at absent
  cases absent

/-! ### The account -/

/-- Counted are just the entries whose control is there neither before nor afterwards. -/
theorem rehydrate_snd_of_isOwned (owned : session.IsOwned)
    (wellFormed : session.catalog.WellFormed) (snapshot : Snapshot) :
    (session.rehydrate snapshot).2 = snapshot.entries.countP fun entry =>
      !(session.rehydrate snapshot).1.sheet.contains entry.1 &&
        !session.sheet.contains entry.1 := by
  rw [rehydrate_snd]
  refine List.countP_congr fun entry _ => ?_
  have stays : session.sheet.refuses entry.1 entry.2 = true →
      (session.rehydrate snapshot).1.sheet.contains entry.1 = true :=
    contains_of_refuses owned wellFormed snapshot
  rw [Sheet.applyExported_snd_eq]
  cases refuses : session.sheet.refuses entry.1 entry.2 with
  | true => simp [stays refuses]
  | false => simp

/-- Every entry without effect is counted, or withdrawn, or refused, and no entry is two of these.
-/
theorem lost_eq (owned : session.IsOwned) (wellFormed : session.catalog.WellFormed)
    (snapshot : Snapshot) :
    session.lost snapshot = (session.rehydrate snapshot).2 +
      (snapshot.entries.countP fun entry => session.withdraws snapshot entry.1) +
      snapshot.entries.countP fun entry => session.sheet.refuses entry.1 entry.2 := by
  have gone : (snapshot.entries.countP fun entry =>
      !(session.rehydrate snapshot).1.sheet.contains entry.1) = (session.rehydrate snapshot).2 +
        snapshot.entries.countP fun entry => session.withdraws snapshot entry.1 := by
    rw [rehydrate_snd_of_isOwned owned wellFormed]
    refine countP_eq_add fun entry _ => ?_
    unfold withdraws
    cases session.sheet.contains entry.1 <;> simp
  rw [← gone]
  refine countP_eq_add fun entry _ => ?_
  have stays : session.sheet.refuses entry.1 entry.2 = true →
      (session.rehydrate snapshot).1.sheet.contains entry.1 = true :=
    contains_of_refuses owned wellFormed snapshot
  unfold loses
  cases refuses : session.sheet.refuses entry.1 entry.2 with
  | true => rw [stays refuses]; rfl
  | false => simp

/-- In every session that a run reaches, the count of the entries skipped leaves out of those
without effect just the withdrawn and the refused ones, so it is right if there is none of them and
only then. A value is refused, whatever entries were taken over before it, by the selects of the
catalog that offer nothing it could choose; and withdrawn is what a dropdown had derived that asks
for something else after the snapshot. -/
theorem skipped_of_run {form : Form} {catalog : Catalog} (built : Catalog.build form = .ok catalog)
    (operations : List Operation) (snapshot : Snapshot) :
    let session := run catalog operations
    let skipped := (session.rehydrate snapshot).2
    session.lost snapshot = skipped +
      (snapshot.entries.countP fun entry => session.withdraws snapshot entry.1) +
      (snapshot.entries.countP fun entry => session.sheet.refuses entry.1 entry.2) ∧
    (skipped = session.lost snapshot ↔ ∀ entry ∈ snapshot.entries,
      session.withdraws snapshot entry.1 = false ∧
        session.sheet.refuses entry.1 entry.2 = false) ∧
    (∀ name value, session.sheet.refuses name value = true ↔
      ∃ control ∈ catalog.controls, control.name = name ∧ value.isEmpty = false ∧
        ∃ options echo, control.kind = .select options echo ∧
          Answer.option? options value = none) ∧
    (∀ (earlier : List (String × String)) (name value : String),
      (earlier.foldl Sheet.applyNext (session.sheet, [])).1.refuses name value =
        session.sheet.refuses name value) ∧
    ∀ name, session.withdraws snapshot name = true → ∃ dropdown ∈ catalog.controls,
      session.sync.derived.get? dropdown.name = some name ∧
        Sync.wanted (applyAll session.sheet snapshot).1 dropdown.name ≠ some name := by
  intro session skipped
  have wellFormed := Catalog.wellFormed_of_build built
  have same : session.catalog = catalog := catalog_run catalog operations
  have owned : session.IsOwned := ((kept_isOwned wellFormed).run operations).2
  have account := lost_eq owned (same ▸ wellFormed) snapshot
  refine ⟨account, ?_, fun name value => ?_, fun earlier name value => ?_, fun name withdraws => ?_⟩
  · have none : (skipped = session.lost snapshot) ↔
        (snapshot.entries.countP fun entry => session.withdraws snapshot entry.1) = 0 ∧
          (snapshot.entries.countP fun entry => session.sheet.refuses entry.1 entry.2) = 0 := by
      omega
    rw [none, List.countP_eq_zero, List.countP_eq_zero, ← forall₂_and]
    simp only [Bool.not_eq_true]
  · exact same ▸ Sheet.refuses_iff_select owned
  · exact (Sheet.refilled_foldl_applyNext earlier (session.sheet, [])).refuses_eq name value
  · exact same ▸ owner_of_withdraws owned (same ▸ wellFormed) withdraws

/-- What the choice in the snapshot derives is not there when its entry comes, but it is in the end,
so that only the unknown name is counted. -/
theorem skipped_of_choice :
    let session := run surveyCatalog [.setValue "a" "b c"]
    let snapshot := NameMap.ofList [("a", "other"), ("a_other", "true"), ("nobody", "Ann")]
    (session.rehydrate snapshot).2 = session.lost snapshot ∧ session.lost snapshot = 1 := by
  intro session snapshot
  obtain ⟨-, right, -⟩ := skipped_of_run build_survey [.setValue "a" "b c"] snapshot
  exact ⟨right.mpr (by decide +kernel), by decide +kernel⟩

/-- Neither a value that its select refuses is counted, nor the derived entry of a choice that the
snapshot itself replaces, though both are lost. -/
theorem skips_without_count :
    let session := run surveyCatalog [.setValue "a" "b c"]
    let refused := NameMap.ofList [("a", "Cat")]
    let withdrawn := NameMap.ofList [("a", "other"), ("a_b_c", "true")]
    (session.rehydrate refused).1.sheet.text? "a" = some "B c" ∧
      (session.rehydrate refused).2 = 0 ∧ session.lost refused = 1 ∧
      (session.rehydrate withdrawn).1.sheet.contains "a_b_c" = false ∧
      (session.rehydrate withdrawn).2 = 0 ∧ session.lost withdrawn = 1 := by
  decide +kernel

end Session

end Questionnaire

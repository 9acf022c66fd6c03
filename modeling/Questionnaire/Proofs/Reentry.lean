/-
This file proves that the values which one filling of a form exported can be entered into any other
one, value by value and in any order. Edits leave every entry of its kind, with the options and the
value of that kind, and every select with nothing or an option that chooses itself; and entries of
one kind take over each other's values, none of which concerns another entry.
-/
import Questionnaire.Proofs.Skipped

namespace Questionnaire

/-! ### Fillings -/

/-- What stays of an entry: the content without its value, and whether the entry is derived. -/
def Entry.frame (entry : Entry) : Content × Bool := (entry.content.cleared, entry.derived)

/-- Content fits what content of its kind was exported as. -/
theorem Content.fits_exported {old new : Content} (kind : new.cleared = old.cleared)
    (chosen : new.IsChosen) : old.fits new.exported = true := by
  cases old with
  | text _ => rfl
  | checkbox _ _ => rfl
  | select _ options =>
    cases new with
    | text _ => cases kind
    | checkbox _ _ => cases kind
    | select choice _ =>
      cases kind
      show (choice.isEmpty || (Answer.option? options choice).isSome) = true
      rcases chosen with rfl | chosen
      · rfl
      · rw [chosen, Option.isSome_some, Bool.or_true]

namespace Sheet

/-- The edits of a sheet by hand. -/
inductive Edit where
  | setText (name text : String)
  | setChecked (name : String) (checked : Bool)
  | setHidden (name : String) (hidden : Bool)
  | clear (name : String)

/-- The sheet after an edit. One that is refused changes nothing. -/
def edit (sheet : Sheet) : Edit → Sheet
  | .setText name text =>
    match sheet.setText name text with
    | .ok result => result.1
    | .error _ => sheet
  | .setChecked name checked =>
    match sheet.setChecked name checked with
    | .ok result => result.1
    | .error _ => sheet
  | .setHidden name hidden => (sheet.setHidden name hidden).1
  | .clear name => (sheet.clear name).1

/-- The first sheet of a catalog after a sequence of edits. -/
def edited (catalog : Catalog) (edits : List Edit) : Sheet := edits.foldl edit (ofCatalog catalog)

/-- A filling of a sheet: it has the same entries but for their values and for what is hidden, and
every select holds nothing or an option that chooses itself. -/
structure Fills (blank sheet : Sheet) : Prop where
  frame : ∀ name, (sheet.get? name).map Entry.frame = (blank.get? name).map Entry.frame
  chosen : ∀ name entry, sheet.get? name = some entry → entry.content.IsChosen

namespace Fills

variable {blank sheet first second : Sheet}

theorem refilled (fills : Fills blank sheet) {after : Sheet} (refilled : Refilled sheet after) :
    Fills blank after where
  frame name := by
    rw [← fills.frame name]
    cases present : sheet.get? name with
    | none => rw [refilled.absent name present]
    | some entry =>
      obtain ⟨content, found, refills⟩ := refilled.entry name entry present
      rw [found]
      exact congrArg some (Prod.ext refills.cleared rfl)
  chosen name entry found := by
    obtain ⟨old, content, before, rfl, refills⟩ := refilled.exists_old found
    exact refills.isChosen (fills.chosen name old before)

theorem setHidden (fills : Fills blank sheet) (name : String) (hidden : Bool) :
    Fills blank (sheet.setHidden name hidden).1 where
  frame other := by
    rw [← fills.frame other, get?_setHidden]
    split
    next => rw [Option.map_map]; rfl
    next => rfl
  chosen other entry found := by
    rw [get?_setHidden] at found
    split at found
    next =>
      obtain ⟨old, present, rfl⟩ := Option.map_eq_some_iff.mp found
      exact fills.chosen other old present
    next => exact fills.chosen other entry found

theorem edit (fills : Fills blank sheet) (edit : Edit) : Fills blank (sheet.edit edit) := by
  cases edit with
  | setText name text =>
    rw [Sheet.edit]
    split
    next result written => exact fills.refilled (write_of_setText written).refilled
    next => exact fills
  | setChecked name checked =>
    rw [Sheet.edit]
    split
    next result written => exact fills.refilled (write_of_setChecked written).refilled
    next => exact fills
  | setHidden name hidden => exact fills.setHidden name hidden
  | clear name => exact fills.refilled (write_clear sheet name).refilled

theorem edits (fills : Fills blank sheet) (edits : List Edit) :
    Fills blank (edits.foldl Sheet.edit sheet) := by
  induction edits generalizing sheet with
  | nil => exact fills
  | cons edit rest inductionHypothesis => exact inductionHypothesis (fills.edit edit)

theorem ofCatalog (catalog : Catalog) : Fills (ofCatalog catalog) (Sheet.ofCatalog catalog) where
  frame _ := rfl
  chosen name entry found := by
    obtain ⟨control, -, isEntry⟩ := List.mem_map.mp (NameMap.mem_of_get?_ofList found)
    cases isEntry
    exact isChosen_initialContent control

theorem edited (catalog : Catalog) (edits : List Edit) :
    Fills (Sheet.ofCatalog catalog) (edited catalog edits) := (ofCatalog catalog).edits edits

theorem contains_eq (fills : Fills blank sheet) (name : String) :
    sheet.contains name = blank.contains name := by
  have frames := congrArg Option.isSome (fills.frame name)
  rwa [Option.isSome_map, Option.isSome_map] at frames

/-- Two fillings have entries of one kind under each name. -/
theorem exists_other (isFirst : Fills blank first) (isSecond : Fills blank second) {name : String}
    {entry : Entry} (found : first.get? name = some entry) :
    ∃ other, second.get? name = some other ∧ other.content.cleared = entry.content.cleared := by
  have frames := (isSecond.frame name).trans (isFirst.frame name).symm
  rw [found] at frames
  obtain ⟨other, present, same⟩ := Option.map_eq_some_iff.mp frames
  exact ⟨other, present, congrArg Prod.fst same⟩

/-! ### Entering exported values -/

/-- An exported value of one filling is taken over by another one. -/
theorem applyExported_snd (isFirst : Fills blank first) (isSecond : Fills blank second)
    {name value : String} (exported : (name, value) ∈ first.snapshot.entries) :
    (second.applyExported name value).2 = true := by
  have found := (NameMap.mem_entries_iff _ _ _).mp exported
  rw [get?_snapshot, content?_eq, Option.map_map] at found
  obtain ⟨entry, present, rfl⟩ := Option.map_eq_some_iff.mp found
  obtain ⟨other, otherPresent, kind⟩ := isFirst.exists_other isSecond present
  rw [Sheet.applyExported_snd, content?_eq, otherPresent]
  exact Content.fits_exported kind.symm (isFirst.chosen name entry present)

/-- Once all exported values of one filling are entered into another, in any order, every entry of
this one holds what it holds in the first. -/
theorem content?_foldl_applyNext (isFirst : Fills blank first) (isSecond : Fills blank second)
    {order : List (String × String)} (perm : order.Perm first.snapshot.entries) (name : String) :
    (order.foldl applyNext (second, [])).1.content? name = first.content? name := by
  have different := NameMap.nodup_names first.snapshot
  have exported : NameMap.find name order = (first.content? name).map Content.exported := by
    rw [NameMap.find_perm perm different, ← get?_snapshot]
    rfl
  rw [Sheet.content?_foldl_applyNext ((perm.map Prod.fst).nodup_iff.mpr different), exported]
  cases present : first.get? name with
  | none =>
    have absent : second.get? name = none := by
      have same := (isSecond.contains_eq name).trans (isFirst.contains_eq name).symm
      unfold NameMap.contains at same
      rw [present] at same
      exact Option.isNone_iff_eq_none.mp (Option.isSome_eq_false_iff.mp same)
    rw [content?_eq, content?_eq, present, absent]
    rfl
  | some entry =>
    obtain ⟨other, otherPresent, kind⟩ := isFirst.exists_other isSecond present
    rw [content?_eq, content?_eq, present, otherPresent]
    exact congrArg some
      (Content.takeExported_exported kind.symm (isFirst.chosen name entry present))

end Fills

/-- Take two fillings of one catalog by hand. When the exported values of the first are entered into
the second, in any order, none is refused. Every entry of the second then holds what it holds in
the first and is as it was otherwise, hidden or not; among them are all controls of the catalog. So
the second exports what the first did. -/
theorem reentered_of_edits (catalog : Catalog) (edits others : List Edit)
    {order : List (String × String)} (perm : order.Perm (edited catalog edits).snapshot.entries) :
    let source := edited catalog edits
    let target := edited catalog others
    let result := order.foldl applyNext (target, [])
    result.2 = [] ∧
    (∀ name entry, target.get? name = some entry → ∃ given, source.get? name = some given ∧
      result.1.get? name = some { entry with content := given.content }) ∧
    (∀ control ∈ catalog.controls, target.contains control.name = true) ∧
    (∀ name, result.1.isHidden name = target.isHidden name) ∧
    result.1.snapshot = source.snapshot := by
  intro source target result
  have isSource : Fills (ofCatalog catalog) source := .edited catalog edits
  have isTarget : Fills (ofCatalog catalog) target := .edited catalog others
  have refilled : Refilled target result.1 := refilled_foldl_applyNext order (target, [])
  have content := isSource.content?_foldl_applyNext isTarget perm
  refine ⟨?_, fun name entry present => ?_, fun control member => ?_, refilled.isHidden,
    NameMap.ext_get? fun name => ?_⟩
  · have none : (order.filter fun entry => !(target.applyExported entry.1 entry.2).2) = [] := by
      refine List.filter_eq_nil_iff.mpr fun entry isIn => ?_
      rw [isSource.applyExported_snd isTarget (perm.mem_iff.mp isIn)]
      exact Bool.false_ne_true
    exact (foldl_applyNext_snd order (target, [])).trans (by rw [none]; rfl)
  · obtain ⟨held, found, -⟩ := refilled.entry name entry present
    have same := content name
    rw [content?_eq, content?_eq, found] at same
    obtain ⟨given, isGiven, rfl⟩ := Option.map_eq_some_iff.mp same.symm
    exact ⟨given, isGiven, found⟩
  · rw [isTarget.contains_eq]
    exact NameMap.contains_ofList (List.mem_map.mpr ⟨control, member, rfl⟩)
  · rw [get?_snapshot, get?_snapshot, content]

/-- A form with a select whose options differ in case and in the blanks around them. -/
def palette : Form :=
  { id := "palette", title := "Palette", description := none
    sections :=
      [⟨1, "One",
        [{ Session.plain "tone" .singleChoice "Tone"
            [⟨"Red", none, false, false⟩, ⟨"red", none, false, false⟩,
             ⟨" Blue ", none, false, false⟩, ⟨"BLUE", none, false, false⟩] with
            preset := some "RED" },
         Session.plain "extras" .checkboxGroup "Extras" [⟨"Frame", none, false, false⟩],
         Session.plain "note" .shortText "Note" []]⟩]
    hiddenFields := []
    links := [] }

theorem palette_isSome : (Catalog.build palette).toOption.isSome = true := by decide +kernel

/-- The catalog of that form. -/
def paletteCatalog : Catalog := (Catalog.build palette).toOption.get palette_isSome

/-- The second of two options that differ only in case is entered as it is, whatever was chosen
before, and a control that is hidden stays so. -/
theorem reentered_of_palette :
    let edits : List Edit := [.setText "tone" " red ", .setChecked "extras_frame" true,
      .setText "extras_frame" "no", .setText "note" " true"]
    let others : List Edit := [.setText "tone" "green", .setText "tone" " blue",
      .setHidden "note" true, .clear "extras_frame"]
    let source := edited paletteCatalog edits
    let target := edited paletteCatalog others
    let order := source.snapshot.entries.reverse
    let result := order.foldl applyNext (target, [])
    order = [("tone", "red"), ("note", " true"), ("extras_frame", "true")] ∧
    target.text? "tone" = some "BLUE" ∧ order.Perm source.snapshot.entries ∧ result.2 = [] ∧
    (∃ given, source.get? "tone" = some given ∧
      result.1.get? "tone" = some ⟨given.content, false, false⟩) ∧
    result.1.isHidden "note" = true ∧ result.1.snapshot = source.snapshot := by
  intro edits others source target order result
  have perm : order.Perm source.snapshot.entries := List.reverse_perm _
  have held : target.get? "tone" =
      some ⟨.select "BLUE" ["Red", "red", " Blue ", "BLUE"], false, false⟩ := by decide +kernel
  have hidden : target.isHidden "note" = true := by decide +kernel
  obtain ⟨accepted, entered, -, stays, same⟩ :=
    reentered_of_edits paletteCatalog edits others perm
  exact ⟨by decide +kernel, by decide +kernel, perm, accepted, entered "tone" _ held,
    (stays "note").trans hidden, same⟩

end Sheet

end Questionnaire

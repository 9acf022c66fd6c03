/-
This file says when one pass of the calculations is enough. A row of the table reads controls: those
that the fields of its terms mean, with their amounts. If no row reads its own target or that of a
later row, every row finds in the end what it found when it was computed; so it comes to the same
outcome, and that is there already. A way to find controls may look at more of a sheet than names,
and then a row must not read a target in this manner either: there are a form and a way for which a
second pass writes again, though no row ever finds a target. The usual ways look at names only.
-/
import Questionnaire.Proofs.Meaning
import Questionnaire.Proofs.Pass

namespace Questionnaire

/-! ### What is read -/

namespace Reference

variable {tiers : Tiers} {catalog : Catalog} {first second : Sheet} {reference : String}

/-- The control that a reference means. -/
def located? (tiers : Tiers) (catalog : Catalog) (sheet : Sheet) (reference : String) :
    Option String :=
  (locate tiers catalog sheet reference).map (·.2)

/-- Ways that look at names find the same control on sheets with the same names. -/
theorem located?_congr (look : ∀ tier ∈ tiers, tier.LooksAtNames)
    (same : ∀ name, first.contains name = second.contains name) :
    located? tiers catalog first = located? tiers catalog second := by
  funext reference
  unfold located?
  rw [locate_congr look same]

/-- One way alone finds what it finds for the reference without the blanks around it. -/
theorem located?_singleton (tier : Tier) (catalog : Catalog) (sheet : Sheet) (reference : String) :
    located? [tier] catalog sheet reference =
      if (Text.trim reference).isEmpty then none
      else tier.find catalog sheet (Text.trim reference) := by
  unfold located? locate byTier
  simp only
  split
  next => rfl
  next => cases found : tier.find catalog sheet (Text.trim reference) <;> simp [found]

/-- The controls that are read for the number of a reference: the one it means, and its amount. -/
def reads (tiers : Tiers) (catalog : Catalog) (sheet : Sheet) (reference : String) :
    List String :=
  ((located? tiers catalog sheet reference).map (read catalog)).getD []

/-- A reference keeps its number if it means the same and what is read for it is the same. -/
theorem value_congr
    (means : located? tiers catalog first reference = located? tiers catalog second reference)
    (same : ∀ name ∈ reads tiers catalog first reference,
      first.content? name = second.content? name) :
    value tiers catalog first reference = value tiers catalog second reference := by
  have value_eq : ∀ sheet, value tiers catalog sheet reference =
      ((located? tiers catalog sheet reference).map (number catalog sheet)).getD 0.0 := by
    intro sheet
    unfold value located?
    cases locate tiers catalog sheet reference <;> rfl
  rw [value_eq, value_eq, ← means]
  unfold reads at same
  cases meant : located? tiers catalog first reference with
  | none => rfl
  | some name =>
    rw [meant] at same
    exact number_congr same

/-- Whether a reference reads none of some controls: what it means and the amount of that are not
among them, and what it means does not depend on what they hold. -/
structure Spares (tiers : Tiers) (catalog : Catalog) (sheet : Sheet) (names : List String)
    (reference : String) : Prop where
  unread : ∀ name ∈ reads tiers catalog sheet reference, name ∉ names
  located : ∀ other, Sheet.Refilled sheet other → Sheet.AgreeOff names sheet other →
    located? tiers catalog other reference = located? tiers catalog sheet reference

end Reference

/-- The fields that the terms of a row name. -/
def CalculationTarget.fields (row : CalculationTarget) : List String :=
  row.rules.flatMap fun rule => rule.terms.map Term.field

/-- The controls that a row reads. -/
def CalculationTarget.reads (tiers : Tiers) (catalog : Catalog) (sheet : Sheet)
    (row : CalculationTarget) : List String :=
  row.fields.flatMap (Reference.reads tiers catalog sheet)

namespace Catalog

/-- Whether no row of the table reads its own target or that of a later row, where each row is
taken on the sheet on which it is computed. -/
def Cascades (catalog : Catalog) (tiers : Tiers) (sheet : Sheet) : Prop :=
  ∀ earlier row later, catalog.calculations = earlier ++ row :: later →
    ∀ field ∈ row.fields, Reference.Spares tiers catalog
      (earlier.foldl (Derivation.step tiers catalog) (sheet, [])).1
      ((row :: later).map CalculationTarget.target) field

/-- Whether the controls that a row of the table reads on a sheet are never its own target or that
of a later row. -/
structure ReadsEarlier (catalog : Catalog) (tiers : Tiers) (sheet : Sheet) : Prop where
  own : ∀ row ∈ catalog.calculations, row.target ∉ row.reads tiers catalog sheet
  later : catalog.calculations.Pairwise fun row later =>
    later.target ∉ row.reads tiers catalog sheet

/-- For ways that look at names it makes no difference on which sheet the rows are taken. -/
theorem cascades_of_readsEarlier {catalog : Catalog} {tiers : Tiers} {sheet : Sheet}
    (look : ∀ tier ∈ tiers, tier.LooksAtNames) (readsEarlier : catalog.ReadsEarlier tiers sheet) :
    catalog.Cascades tiers sheet := by
  intro earlier row later listed field isField
  have refilled := (Sheet.derivation_foldl tiers catalog earlier (sheet, [])).1
  constructor
  case unread =>
    intro name isRead isTarget
    have readBefore : name ∈ row.reads tiers catalog sheet := by
      refine List.mem_flatMap.mpr ⟨field, isField, ?_⟩
      unfold Reference.reads at isRead ⊢
      rwa [Reference.located?_congr look refilled.contains] at isRead
    obtain ⟨own, ofLater⟩ := readsEarlier
    rw [listed] at own ofLater
    have ofRow := (List.pairwise_cons.mp (List.pairwise_append.mp ofLater).2.1).1
    obtain ⟨other, member, rfl⟩ := List.mem_map.mp isTarget
    rcases List.mem_cons.mp member with rfl | isLater
    · exact own other (List.mem_append_right _ List.mem_cons_self) readBefore
    · exact ofRow other isLater readBefore
  case located =>
    intro other refilled _
    rw [Reference.located?_congr look refilled.contains]

end Catalog

/-! ### Outcomes that are there already -/

namespace Derivation

variable {tiers : Tiers} {catalog : Catalog}

/-- What is decided for a row depends on nothing but the numbers of its fields. -/
theorem decide?_congr {first second : Sheet} {row : CalculationTarget}
    (same : ∀ field ∈ row.fields,
      Reference.value tiers catalog first field = Reference.value tiers catalog second field) :
    decide? tiers catalog first row = decide? tiers catalog second row := by
  have total_eq : ∀ rule ∈ row.rules,
      total tiers catalog first rule.terms = total tiers catalog second rule.terms := by
    intro rule listed
    have ofTerm : ∀ term ∈ rule.terms, Reference.value tiers catalog first term.field =
        Reference.value tiers catalog second term.field := fun term isTerm =>
      same term.field (List.mem_flatMap.mpr ⟨rule, listed, List.mem_map_of_mem isTerm⟩)
    cases terms : rule.terms with
    | nil => rfl
    | cons head rest =>
      rw [terms, List.forall_mem_cons] at ofTerm
      unfold total
      simp only [ofTerm.1]
      exact congrArg _ (List.map_congr_left fun term isTerm => by rw [ofTerm.2 term isTerm])
  unfold decide?
  refine congrArg List.getLast? (List.filterMap_congr fun rule listed => ?_)
  unfold holds?
  rw [total_eq rule listed]

end Derivation

namespace Sheet

variable {tiers : Tiers} {catalog : Catalog} {sheet : Sheet}

/-- A row changes nothing where its target holds what the row made of it on a sheet on which the
same was decided. -/
theorem attempt_snd_of_decide? {stage after : Sheet} {row : CalculationTarget}
    (refilled : Refilled stage after)
    (same : Derivation.decide? tiers catalog after row =
      Derivation.decide? tiers catalog stage row)
    (written : after.content? row.target =
      (attempt tiers catalog stage row).1.content? row.target) :
    (attempt tiers catalog after row).2 = false := by
  unfold attempt at written ⊢
  rw [same, refilled.contains]
  cases present : stage.contains row.target with
  | false => rfl
  | true =>
    rw [present] at written
    cases decision : Derivation.decide? tiers catalog stage row with
    | none => rfl
    | some decided =>
      rw [decision] at written
      obtain ⟨outcome, total⟩ := decided
      obtain ⟨entry, found⟩ := NameMap.contains_iff.mp present
      obtain ⟨content, foundAfter, -⟩ := refilled.entry row.target entry found
      have taken : content = entry.content.taking outcome total := by
        have written := written.trans (content?_write stage row.target outcome total)
        rw [content?_eq, content?_eq, found, foundAfter] at written
        exact Option.some.inj written
      show (Derivation.write after row.target outcome total).2 = false
      rw [write_eq_put foundAfter, put_snd, taken, Content.taking_taking]
      simp

/-- After a pass every row comes to the outcome that is there already, and a second pass changes
nothing. -/
theorem run_run_of_cascades (wellFormed : catalog.WellFormed)
    (cascades : catalog.Cascades tiers sheet) :
    let after := (Derivation.run tiers catalog sheet).1
    Derivation.run tiers catalog after = (after, []) := by
  intro after
  have still : ∀ row ∈ catalog.calculations, (attempt tiers catalog after row).2 = false := by
    intro row member
    obtain ⟨earlier, later, listed⟩ := List.append_of_mem member
    obtain ⟨-, -, refilled, agree, written⟩ :=
      stage_foldl_step tiers catalog sheet (listed ▸ wellFormed.targets)
    rw [← listed] at refilled agree written
    refine attempt_snd_of_decide? refilled ?_ written
    refine Derivation.decide?_congr fun field isField => ?_
    obtain ⟨unread, located⟩ := cascades earlier row later listed field isField
    have same := Reference.value_congr (located after refilled agree).symm fun name isRead =>
      agree name (unread name isRead)
    exact same.symm
  have nothing := (run_still tiers catalog after).mpr still
  exact Prod.ext (run_eq_self nothing) nothing

end Sheet

/-! ### One pass is enough -/

/-- If no row of the table reads its own target or that of a later row, a second pass reports
nothing and leaves the sheet as the first one left it. For ways that look at names, as all usual
ones do, it is enough that on the sheet before the pass no row reads such a target as the control
that a term means or as the amount of it. -/
theorem run_run_of_build {form : Form} {catalog : Catalog}
    (built : Catalog.build form = .ok catalog) (tiers : Tiers) (sheet : Sheet) :
    let after := (Derivation.run tiers catalog sheet).1
    (catalog.Cascades tiers sheet → Derivation.run tiers catalog after = (after, [])) ∧
    ((∀ tier ∈ tiers, tier.LooksAtNames) → catalog.ReadsEarlier tiers sheet →
      Derivation.run tiers catalog after = (after, [])) ∧
    ∀ tier ∈ Tiers.usual, tier.LooksAtNames := by
  intro after
  have wellFormed := Catalog.wellFormed_of_build built
  refine ⟨Sheet.run_run_of_cascades wellFormed, fun look readsEarlier => ?_, looksAtNames_usual⟩
  exact Sheet.run_run_of_cascades wellFormed (Catalog.cascades_of_readsEarlier look readsEarlier)

/-! ### Two ways over one form -/

/-- A way that finds the price, whatever is asked for, but only while it is filled. -/
def Tier.priced : Tier :=
  ⟨"priced", fun _ sheet _ => if sheet.text? "price" = some "" then none else some "price"⟩

theorem located?_priced (catalog : Catalog) (sheet : Sheet) (reference : String) :
    Reference.located? [Tier.priced] catalog sheet reference =
      if (Text.trim reference).isEmpty || sheet.text? "price" = some "" then none
      else some "price" := by
  rw [Reference.located?_singleton]
  unfold Tier.priced
  cases (Text.trim reference).isEmpty <;> simp

/-- The price is no target, so the rows cascade though this way looks at more than names. -/
theorem cascades_priced (sheet : Sheet) : ratingCatalog.Cascades [Tier.priced] sheet := by
  intro earlier row later listed field isField
  have untargeted : "price" ∉ ratingCatalog.calculations.map CalculationTarget.target := by
    decide +kernel
  have apart : "price" ∉ (row :: later).map CalculationTarget.target := fun isTarget =>
    untargeted (by rw [listed, List.map_append]; exact List.mem_append_right _ isTarget)
  constructor
  case unread =>
    intro name isRead
    have ofPrice : Reference.read ratingCatalog "price" = ["price"] := by decide +kernel
    unfold Reference.reads at isRead
    rw [located?_priced] at isRead
    split at isRead
    · cases isRead
    · rw [Option.map_some, Option.getD_some, ofPrice, List.mem_singleton] at isRead
      exact isRead ▸ apart
  case located =>
    intro other _ agree
    have same := agree "price" apart
    rw [located?_priced, located?_priced, Sheet.text?, Sheet.text?, same]

/-- The sum is read by both of the others, and it comes before them. -/
theorem run_run_of_rating :
    let usual := Derivation.run Tiers.usual ratingCatalog ratingSheet
    let priced := Derivation.run [Tier.priced] ratingCatalog ratingSheet
    (ratingCatalog.calculations.map fun row =>
        (row.target, row.reads Tiers.usual ratingCatalog ratingSheet)) =
      [("sum", ["price", "extras_wrapping", "extras_wrapping_amount"]), ("due", ["sum"]),
       ("size", ["sum", "sum", "due", "sum"])] ∧
    usual.2 = ["sum", "due", "size"] ∧
    Derivation.run Tiers.usual ratingCatalog usual.1 = (usual.1, []) ∧
    priced.1.text? "sum" = some "5.00" ∧
    Derivation.run [Tier.priced] ratingCatalog priced.1 = (priced.1, []) := by
  intro usual priced
  obtain ⟨-, ofNames, lookAtNames⟩ := run_run_of_build build_rating Tiers.usual ratingSheet
  obtain ⟨ofCascades, -⟩ := run_run_of_build build_rating [Tier.priced] ratingSheet
  exact ⟨by decide +kernel, by decide +kernel,
    ofNames lookAtNames ⟨by decide +kernel, by decide +kernel⟩, by decide +kernel,
    ofCascades (cascades_priced ratingSheet)⟩

/-! ### A way that looks at a target -/

/-- A way that counts controls while nothing is due, and takes a reference for a name as soon as
something is. -/
def Tier.relay : Tier :=
  ⟨"relay", fun catalog sheet reference =>
    if sheet.text? "due" = some "" then Reference.byShorthand catalog sheet reference
    else Reference.byDirectName sheet reference⟩

/-- A form with two prices, of which the second is named as the first is counted; one of them is
due. -/
def offer : Form :=
  { id := "offer", title := "Offer", description := none
    sections :=
      [⟨1, "One",
        [{ Session.plain "a" .money "Price" [] with preset := some "1" },
         { Session.plain "b" .money "Question A" [] with preset := some "2" }]⟩]
    hiddenFields :=
      [⟨"due", .text, none,
        [⟨none, .text, [⟨none, "question_a"⟩], .greater, 0.0, .text "##total##"⟩]⟩]
    links := [] }

theorem offer_isSome : (Catalog.build offer).toOption.isSome = true := by decide +kernel

/-- The catalog of that form. -/
def offerCatalog : Catalog := (Catalog.build offer).toOption.get offer_isSome

theorem build_offer : Catalog.build offer = .ok offerCatalog := Catalog.eq_ok_get offer_isSome

/-- On every sheet this way finds one of the two prices, or nothing. -/
theorem located?_relay {sheet : Sheet} {name : String}
    (found : Reference.located? [Tier.relay] offerCatalog sheet "question_a" = some name) :
    name = "price" ∨ name = "question_a" := by
  have counted : Reference.counted? offerCatalog "question_a" = some "price" := by decide +kernel
  have trimmed : Text.trim "question_a" = "question_a" := by decide +kernel
  rw [Reference.located?_singleton, trimmed, if_neg (by decide)] at found
  unfold Tier.relay Reference.byDirectName at found
  simp only [Reference.byShorthand_eq, counted] at found
  split at found
  next => exact .inl (Option.some.inj (Option.eq_some_of_filter_eq_some found)).symm
  next =>
    split at found
    next => exact .inr (Option.some.inj found).symm
    next => cases found

/-- So the only row of the table reads no target, on whatever sheet. -/
theorem readsEarlier_offer (sheet : Sheet) : offerCatalog.ReadsEarlier [Tier.relay] sheet := by
  have rows : (offerCatalog.calculations.map fun row => (row.target, row.fields)) =
      [("due", ["question_a"])] := by decide +kernel
  have ofPrices : "due" ∉ Reference.read offerCatalog "price" ∧
      "due" ∉ Reference.read offerCatalog "question_a" := by decide +kernel
  have unread : "due" ∉ Reference.reads [Tier.relay] offerCatalog sheet "question_a" := by
    unfold Reference.reads
    cases found : Reference.located? [Tier.relay] offerCatalog sheet "question_a" with
    | none => exact List.not_mem_nil
    | some name =>
      rcases located?_relay found with rfl | rfl
      · exact ofPrices.1
      · exact ofPrices.2
  obtain ⟨row, isRow, equal⟩ := List.map_eq_singleton_iff.mp rows
  obtain ⟨isDue, field⟩ := Prod.mk.inj equal
  have own : row.target ∉ row.reads [Tier.relay] offerCatalog sheet := by
    unfold CalculationTarget.reads
    rw [isDue, field, List.flatMap_singleton]
    exact unread
  constructor
  · rw [isRow]
    exact List.forall_mem_singleton.mpr own
  · rw [isRow]
    exact List.pairwise_singleton _ _

/-- But a second pass writes the target again. In the first one the row reads the price, and what is
due then is why it reads the other price in the second one: the passes are those of two usual ways.
-/
theorem unsettled_by_relay :
    let sheet := Sheet.ofCatalog offerCatalog
    let first := Derivation.run [Tier.relay] offerCatalog sheet
    let second := Derivation.run [Tier.relay] offerCatalog first.1
    let read := fun sheet : Sheet => offerCatalog.calculations.map fun row =>
      (row.target, row.reads [Tier.relay] offerCatalog sheet)
    Catalog.build offer = .ok offerCatalog ∧
    (∀ sheet, offerCatalog.ReadsEarlier [Tier.relay] sheet) ∧
    read sheet = [("due", ["price"])] ∧ read first.1 = [("due", ["question_a"])] ∧
    first = Derivation.run [Tier.shorthand] offerCatalog sheet ∧
    second = Derivation.run [Tier.direct] offerCatalog first.1 ∧
    first.1.text? "due" = some "1.00" ∧
    second.2 = ["due"] ∧ second.1.text? "due" = some "2.00" :=
  ⟨build_offer, readsEarlier_offer, by decide +kernel⟩

end Questionnaire

/-
This file proves what a whole change comes to. The queue is empty in the end, so every control that
was touched has been visited since it last changed; what a visit brings about and other visits leave
alone therefore holds of all touched controls. The owners of entries are in order, and the sheet
differs from the one before at most at the touched controls.
-/
import Questionnaire.Proofs.Wave

namespace Questionnaire.Sync

variable {catalog : Catalog} {origin : String}

/-! ### Single visits -/

/-- The wave after a visit of the first waiting control. -/
def Wave.next (catalog : Catalog) (origin : String) (wave : Wave) (control : String)
    (rest : List String) : Wave :=
  let state := visit catalog origin control wave.sync wave.sheet
  { sync := state.sync
    sheet := state.sheet
    queue := rest ++ state.changed
    touched := state.changed.foldl touch wave.touched }

/-- Whether the owners of a wave are in order. -/
abbrev Wave.IsOwned (catalog : Catalog) (wave : Wave) : Prop :=
  Owned catalog wave.sync.derived wave.sheet

theorem drain_of_nil {wave : Wave} (empty : wave.queue = []) (bound : Nat) :
    drain catalog origin bound wave = wave := by
  cases bound with
  | zero => rfl
  | succ bound => rw [drain, empty]

theorem drain_of_cons {wave : Wave} {control : String} {rest : List String}
    (waits : wave.queue = control :: rest) (bound : Nat) :
    drain catalog origin (bound + 1) wave =
      drain catalog origin bound (wave.next catalog origin control rest) := by
  rw [drain, waits]
  rfl

/-- What every visit keeps holds in the end. -/
theorem drain_induction (keeps : Wave → Prop)
    (step : ∀ wave control rest, wave.queue = control :: rest → keeps wave →
      keeps (wave.next catalog origin control rest))
    (bound : Nat) {wave : Wave} (holds : keeps wave) : keeps (drain catalog origin bound wave) := by
  induction bound generalizing wave with
  | zero => exact holds
  | succ bound inductionHypothesis =>
    cases waits : wave.queue with
    | nil => rw [drain_of_nil waits]; exact holds
    | cons control rest =>
      rw [drain_of_cons waits]
      exact inductionHypothesis (step wave control rest waits holds)

theorem mem_foldl_touch {name : String} {names touched : List String} :
    name ∈ names.foldl touch touched ↔ name ∈ touched ∨ name ∈ names := by
  induction names generalizing touched with
  | nil => simp
  | cons head rest inductionHypothesis =>
    rw [List.foldl_cons, inductionHypothesis, List.mem_cons, ← or_assoc]
    refine or_congr_left ?_
    unfold touch
    split
    next already =>
      constructor
      · exact .inl
      · rintro (before | rfl)
        · exact before
        · exact List.contains_iff_mem.mp already
    next => rw [List.mem_append, List.mem_singleton]

theorem isOwned_next (wellFormed : catalog.WellFormed) {wave : Wave}
    (owned : wave.IsOwned catalog) (control : String) (rest : List String) :
    (wave.next catalog origin control rest).IsOwned catalog :=
  Steps.isOwned (steps_visit wellFormed owned origin control) owned

/-- A visit lists everything that it changes. -/
theorem agreeOff_visit (wellFormed : catalog.WellFormed) {sync : Sync} {sheet : Sheet}
    (owned : Owned catalog sync.derived sheet) (control : String) :
    Sheet.AgreeOff (visit catalog origin control sync sheet).changed sheet
      (visit catalog origin control sync sheet).sheet := by
  obtain ⟨more, listed, agree⟩ := Steps.reports (steps_visit wellFormed owned origin control)
  rw [listed]
  exact agree

/-! ### The end of the queue -/

/-- A wave in which the changed control has been visited: it does not come back, and no box that
waits is checked. -/
structure Wave.Calm (catalog : Catalog) (origin : String) (wave : Wave) : Prop where
  owned : wave.IsOwned catalog
  fresh : origin ∉ wave.queue
  busy : wave.queue ≠ [] → ¬Idle catalog origin
  unchecked : ∀ name ∈ wave.queue, wave.sheet.checked? name = some true → Idle catalog name

/-- A visit of another control writes an echo or an amount only. -/
theorem steps_visit_later (wellFormed : catalog.WellFormed) {sync : Sync} {sheet : Sheet}
    (owned : Owned catalog sync.derived sheet) {control : String} (later : control ≠ origin)
    (unchecked : sheet.checked? control = some true → Idle catalog control) :
    Steps catalog
      (fun written => written.kind = .echo control ∨ written.kind = .amount control)
      (fun _ => True) ⟨sync, sheet, []⟩ (visit catalog origin control sync sheet) := by
  by_cases known : control ∈ catalog.controls.map Control.name
  · obtain ⟨entry, member, rfl⟩ := List.mem_map.mp known
    rw [visit_of_mem wellFormed member, forward, if_neg (by simpa using later)]
    refine steps_attend wellFormed owned member (fun _ kind => .inl kind)
      (fun _ kind => ⟨.inr kind, trivial⟩) fun checked => ?_
    have noBox := (unchecked checked entry member rfl).2
    rw [owned.isBox_of_checked? member checked] at noBox
    cases noBox
  · rw [visit_of_unknown wellFormed known]

/-- It brings in names that do nothing, and fewer than it stood for. -/
theorem changed_visit_later (wellFormed : catalog.WellFormed) {sync : Sync} {sheet : Sheet}
    (owned : Owned catalog sync.derived sheet) {control : String} (later : control ≠ origin)
    (unchecked : sheet.checked? control = some true → Idle catalog control) :
    cost catalog (visit catalog origin control sync sheet).changed + 1 ≤ weight catalog control ∧
      ∀ name ∈ (visit catalog origin control sync sheet).changed, Idle catalog name := by
  by_cases known : control ∈ catalog.controls.map Control.name
  · obtain ⟨entry, member, rfl⟩ := List.mem_map.mp known
    rw [visit_of_mem wellFormed member, forward, if_neg (by simpa using later)]
    have ownedState : State.IsOwned catalog ⟨sync, sheet, []⟩ := owned
    obtain ⟨more, listed, light, idle⟩ := changed_attend wellFormed ownedState member
      fun checked => (unchecked checked entry member rfl).2
    rw [listed]
    exact ⟨light, idle⟩
  · rw [visit_of_unknown wellFormed known]
    exact ⟨one_le_weight catalog control, fun _ listed => absurd listed List.not_mem_nil⟩

theorem calm_next (wellFormed : catalog.WellFormed) {wave : Wave} (calm : wave.Calm catalog origin)
    {control : String} {rest : List String} (waits : wave.queue = control :: rest) :
    (wave.next catalog origin control rest).Calm catalog origin ∧
      cost catalog (wave.next catalog origin control rest).queue + 1 ≤ cost catalog wave.queue := by
  have controlIn : control ∈ wave.queue := waits ▸ List.mem_cons_self
  have restIn : ∀ name ∈ rest, name ∈ wave.queue := fun name isIn =>
    waits ▸ List.mem_cons_of_mem _ isIn
  have busy : ¬Idle catalog origin := calm.busy (List.ne_nil_of_mem controlIn)
  have later : control ≠ origin := fun equal => calm.fresh (equal ▸ controlIn)
  have unchecked := calm.unchecked control controlIn
  obtain ⟨light, idle⟩ := changed_visit_later wellFormed calm.owned later unchecked
  have steps := steps_visit_later wellFormed calm.owned later unchecked
  have ownedNext : (wave.next catalog origin control rest).IsOwned catalog :=
    isOwned_next wellFormed calm.owned control rest
  constructor
  case left =>
    refine ⟨ownedNext, fun isIn => ?_, fun _ => busy, fun name isIn checked => ?_⟩
    · rcases List.mem_append.mp isIn with inRest | isNew
      · exact calm.fresh (restIn _ inRest)
      · exact busy (idle _ isNew)
    · rcases List.mem_append.mp isIn with inRest | isNew
      · refine fun entry member named => ?_
        subst named
        have isBox := ownedNext.isBox_of_checked? member checked
        have spared : ¬(entry.kind = .echo control ∨ entry.kind = .amount control) := by
          unfold Control.isBox at isBox
          rintro (kind | kind) <;> rw [kind] at isBox <;> cases isBox
        have before : wave.sheet.checked? entry.name = some true := by
          rwa [← Sheet.checked?_congr (Steps.content? steps wellFormed calm.owned member spared)]
        exact calm.unchecked _ (restIn _ inRest) before entry member rfl
      · exact idle name isNew
  case right =>
    show cost catalog (rest ++ _) + 1 ≤ _
    rw [cost_append, waits]
    simp only [cost] at light ⊢
    omega

theorem drain_calm (wellFormed : catalog.WellFormed) {bound : Nat} {wave : Wave}
    (calm : wave.Calm catalog origin) (enough : cost catalog wave.queue ≤ bound) :
    (drain catalog origin bound wave).queue = [] := by
  induction bound generalizing wave with
  | zero =>
    cases waits : wave.queue with
    | nil => rw [drain, waits]
    | cons control rest =>
      have heavy := one_le_weight catalog control
      rw [waits] at enough
      simp only [cost] at enough
      omega
  | succ bound inductionHypothesis =>
    cases waits : wave.queue with
    | nil => rw [drain_of_nil waits, waits]
    | cons control rest =>
      obtain ⟨calmNext, less⟩ := calm_next wellFormed calm waits
      rw [drain_of_cons waits]
      exact inductionHypothesis calmNext (by omega)

/-- The wave of a change before anything is visited. -/
def Wave.start (sync : Sync) (sheet : Sheet) (origin : String) : Wave :=
  ⟨sync, sheet, [origin], [origin]⟩

/-- Once the changed control has been visited, the wave is calm. -/
theorem calm_start (wellFormed : catalog.WellFormed) {sync : Sync} {sheet : Sheet}
    (owned : Owned catalog sync.derived sheet) (origin : String) :
    ((Wave.start sync sheet origin).next catalog origin origin []).Calm catalog origin := by
  have brings := brings_visit wellFormed owned origin
  refine ⟨isOwned_next wellFormed owned origin [], brings.fresh, fun some idle => ?_,
    brings.unchecked⟩
  exact some (brings.idle idle)

/-- No control waits when a change has been carried. -/
theorem queue_drain (wellFormed : catalog.WellFormed) {sync : Sync} {sheet : Sheet}
    (owned : Owned catalog sync.derived sheet) (origin : String) :
    (drain catalog origin (bound catalog) (.start sync sheet origin)).queue = [] := by
  have waits : (Wave.start sync sheet origin).queue = [origin] := rfl
  unfold bound
  rw [Nat.add_comm, drain_of_cons waits]
  exact drain_calm wellFormed (calm_start wellFormed owned origin)
    (brings_visit wellFormed owned origin).cost

/-! ### What a change comes to -/

/-- What every visit of a sheet in order keeps holds when the change has been carried. -/
theorem propagate_induction (wellFormed : catalog.WellFormed) {sync : Sync} {sheet : Sheet}
    (owned : Owned catalog sync.derived sheet) (origin : String) (keeps : Wave → Prop)
    (start : keeps (.start sync sheet origin))
    (step : ∀ wave control rest, wave.IsOwned catalog → wave.queue = control :: rest →
      keeps wave → keeps (wave.next catalog origin control rest)) :
    let wave := drain catalog origin (bound catalog) (.start sync sheet origin)
    wave.IsOwned catalog ∧ keeps wave := by
  refine drain_induction (fun wave => wave.IsOwned catalog ∧ keeps wave) ?_
    (bound catalog) ⟨owned, start⟩
  rintro wave control rest waits ⟨isOwned, holds⟩
  exact ⟨isOwned_next wellFormed isOwned control rest, step wave control rest isOwned waits holds⟩

/-- What holds once the changed control has been visited, and is kept by the visits after that,
holds when the change has been carried. -/
theorem propagate_later (wellFormed : catalog.WellFormed) {sync : Sync} {sheet : Sheet}
    (owned : Owned catalog sync.derived sheet) (origin : String) (keeps : Wave → Prop)
    (first : keeps ((Wave.start sync sheet origin).next catalog origin origin []))
    (later : ∀ wave control rest, wave.Calm catalog origin → wave.queue = control :: rest →
      keeps wave → keeps (wave.next catalog origin control rest)) :
    keeps (drain catalog origin (bound catalog) (.start sync sheet origin)) := by
  have waits : (Wave.start sync sheet origin).queue = [origin] := rfl
  unfold bound
  rw [Nat.add_comm, drain_of_cons waits]
  refine (drain_induction (fun wave => wave.Calm catalog origin ∧ keeps wave) ?_ _
    ⟨calm_start wellFormed owned origin, first⟩).2
  rintro wave control rest waits ⟨calm, holds⟩
  exact ⟨(calm_next wellFormed calm waits).1, later wave control rest calm waits holds⟩

theorem owned_propagate (wellFormed : catalog.WellFormed) {sync : Sync} {sheet : Sheet}
    (owned : Owned catalog sync.derived sheet) (origin : String) :
    (propagate catalog sync sheet origin).IsOwned catalog :=
  (propagate_induction wellFormed owned origin (fun _ => True) trivial
    fun _ _ _ _ _ _ => trivial).1

/-- The changed control is among those touched, and only these may hold something else. -/
theorem agreeOff_propagate (wellFormed : catalog.WellFormed) {sync : Sync} {sheet : Sheet}
    (owned : Owned catalog sync.derived sheet) (origin : String) :
    origin ∈ (propagate catalog sync sheet origin).changed ∧
      Sheet.AgreeOff (propagate catalog sync sheet origin).changed sheet
        (propagate catalog sync sheet origin).sheet := by
  refine (propagate_induction wellFormed owned origin
    (fun wave => origin ∈ wave.touched ∧ Sheet.AgreeOff wave.touched sheet wave.sheet)
    ⟨List.mem_singleton_self origin, .refl _ _⟩ ?_).2
  rintro wave control rest isOwned - ⟨listed, agree⟩
  refine ⟨mem_foldl_touch.mpr (.inl listed), ?_⟩
  refine (agree.trans (agreeOff_visit wellFormed isOwned control)).mono fun name isIn => ?_
  exact mem_foldl_touch.mpr (List.mem_append.mp isIn)

/-- So a write that is carried changes at most the controls touched. -/
theorem agreeOff_propagate_write (wellFormed : catalog.WellFormed) {sync : Sync} {sheet : Sheet}
    (owned : Owned catalog sync.derived sheet) {origin : String} {result : Sheet × Bool}
    (written : Sheet.Write sheet origin result) :
    Sheet.AgreeOff (propagate catalog sync result.1 origin).changed sheet
      (propagate catalog sync result.1 origin).sheet := by
  obtain ⟨listed, agree⟩ :=
    agreeOff_propagate wellFormed (owned.refilled written.refilled) origin
  -- The write itself changes nothing but the control, which is listed as touched.
  refine (written.agreeOff.trans agree).mono fun name isIn => ?_
  rcases List.mem_append.mp isIn with isOrigin | isTouched
  · exact Sheet.eq_of_mem_reported isOrigin ▸ listed
  · exact isTouched

theorem allChecked_propagate (wellFormed : catalog.WellFormed) {sync : Sync} {sheet : Sheet}
    (owned : Owned catalog sync.derived sheet) (origin : String) {among : String → Prop}
    (checked : AllChecked among sheet) :
    AllChecked among (propagate catalog sync sheet origin).sheet := by
  refine (propagate_induction wellFormed owned origin (fun wave => AllChecked among wave.sheet)
    checked ?_).2
  intro wave control rest isOwned _ allChecked
  exact Steps.allChecked (steps_visit wellFormed isOwned origin control) isOwned allChecked

/-- An amount whose box is not touched is hidden or not as it was. -/
theorem isHidden_propagate (wellFormed : catalog.WellFormed) {sync : Sync} {sheet : Sheet}
    (owned : Owned catalog sync.derived sheet) (origin : String) {part : Control}
    (member : part ∈ catalog.controls) {box : String} (kind : part.kind = .amount box)
    (untouched : box ∉ (propagate catalog sync sheet origin).changed) :
    (propagate catalog sync sheet origin).sheet.isHidden part.name =
      sheet.isHidden part.name := by
  refine (propagate_induction wellFormed owned origin (fun wave =>
    (∀ name ∈ wave.queue, name ∈ wave.touched) ∧
      (box ∉ wave.touched → wave.sheet.isHidden part.name = sheet.isHidden part.name))
    ⟨fun name isIn => isIn, fun _ => rfl⟩ ?_).2.2 untouched
  rintro wave control rest isOwned waits ⟨within, same⟩
  constructor
  case left =>
    intro name isIn
    refine mem_foldl_touch.mpr ((List.mem_append.mp isIn).imp_left fun inRest => ?_)
    exact within name (waits ▸ List.mem_cons_of_mem _ inRest)
  case right =>
    intro apart
    rw [← same fun isIn => apart (mem_foldl_touch.mpr (.inl isIn))]
    refine Steps.isHidden (steps_visit wellFormed isOwned origin control) wellFormed isOwned
      member ?_
    rw [kind]
    rintro ⟨⟩
    exact apart (mem_foldl_touch.mpr (.inl (within box (waits ▸ List.mem_cons_self))))

/-- What a visit brings about for the visited control, and other visits leave alone unless they
change the control, holds in the end of every touched control, and of every other one of which it
held before. -/
theorem propagate_settles (wellFormed : catalog.WellFormed) {sync : Sync} {sheet : Sheet}
    (owned : Owned catalog sync.derived sheet) (origin : String) {good : String → Sheet → Prop}
    (visited : ∀ sync sheet control, Owned catalog sync.derived sheet →
      good control (visit catalog origin control sync sheet).sheet)
    (kept : ∀ sync sheet control name, Owned catalog sync.derived sheet → name ≠ control →
      name ∉ (visit catalog origin control sync sheet).changed → good name sheet →
        good name (visit catalog origin control sync sheet).sheet)
    (name : String) (before : name ∈ (propagate catalog sync sheet origin).changed ∨
      (name ≠ origin ∧ good name sheet)) :
    good name (propagate catalog sync sheet origin).sheet := by
  have settled := (propagate_induction wellFormed owned origin (fun wave =>
    ∀ name, name ∈ wave.touched ∨ (name ≠ origin ∧ good name sheet) → name ∉ wave.queue →
      good name wave.sheet)
    (fun name before rested => ?_) ?_).2
  · refine settled name before ?_
    rw [queue_drain wellFormed owned origin]
    exact List.not_mem_nil
  · rcases before with listed | ⟨-, holds⟩
    · exact absurd listed rested
    · exact holds
  · intro wave control rest isOwned waits holds name before rested
    rw [Wave.next, List.mem_append, not_or] at rested
    by_cases isControl : name = control
    · subst isControl
      exact visited wave.sync wave.sheet name isOwned
    · refine kept wave.sync wave.sheet control name isOwned isControl rested.2 ?_
      refine holds name ?_ ?_
      · refine before.imp_left fun listed => ?_
        exact (mem_foldl_touch.mp listed).resolve_right rested.2
      · rw [waits]
        exact fun isIn => (List.mem_cons.mp isIn).elim isControl rested.1

/-- If it held of all controls but the changed one before, it holds of all controls in the end. -/
theorem propagate_settles_all (wellFormed : catalog.WellFormed) {sync : Sync} {sheet : Sheet}
    (owned : Owned catalog sync.derived sheet) (origin : String) {good : String → Sheet → Prop}
    (visited : ∀ sync sheet control, Owned catalog sync.derived sheet →
      good control (visit catalog origin control sync sheet).sheet)
    (kept : ∀ sync sheet control name, Owned catalog sync.derived sheet → name ≠ control →
      name ∉ (visit catalog origin control sync sheet).changed → good name sheet →
        good name (visit catalog origin control sync sheet).sheet)
    (before : ∀ name, name ≠ origin → good name sheet) (name : String) :
    good name (propagate catalog sync sheet origin).sheet := by
  refine propagate_settles wellFormed owned origin visited kept name ?_
  by_cases isOrigin : name = origin
  · exact .inl (isOrigin ▸ (agreeOff_propagate wellFormed owned origin).1)
  · exact .inr ⟨isOrigin, before name isOrigin⟩

end Questionnaire.Sync

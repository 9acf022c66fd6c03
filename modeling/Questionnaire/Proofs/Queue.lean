/-
This file says how the queue of a change runs empty. The queue is run without a bound here: the
first control that waits is visited, and what that changes is put behind the others, as long as one
waits. However the controls are linked, this ends after no more visits than the bound says, the
changed control is visited once, and each of its channels is followed in that one visit.
-/
import Questionnaire.Proofs.Hop

namespace Questionnaire

namespace Sync

variable {catalog : Catalog} {origin : String} {wave after : Wave} {names : List String}

/-! ### Runs of the queue -/

/-- A run of the queue until no control waits, with the controls that are visited in turn. -/
inductive Empties (catalog : Catalog) (origin : String) : Wave → List String → Wave → Prop where
  | rest {wave : Wave} (empty : wave.queue = []) : Empties catalog origin wave [] wave
  | visit {wave after : Wave} {control : String} {rest names : List String}
      (waits : wave.queue = control :: rest)
      (later : Empties catalog origin (wave.next catalog origin control rest) names after) :
      Empties catalog origin wave (control :: names) after

theorem Empties.queue (empties : Empties catalog origin wave names after) : after.queue = [] := by
  induction empties with
  | rest empty => exact empty
  | visit _ _ inductionHypothesis => exact inductionHypothesis

/-- The queue runs in one way only. -/
theorem Empties.unique (empties : Empties catalog origin wave names after)
    {otherNames : List String} {otherAfter : Wave}
    (others : Empties catalog origin wave otherNames otherAfter) :
    otherNames = names ∧ otherAfter = after := by
  induction empties generalizing otherNames otherAfter with
  | rest empty =>
    cases others with
    | rest => exact ⟨rfl, rfl⟩
    | visit waits => rw [empty] at waits; cases waits
  | visit waits _ inductionHypothesis =>
    cases others with
    | rest empty => rw [waits] at empty; cases empty
    | visit otherWaits later =>
      rw [waits] at otherWaits
      cases otherWaits
      obtain ⟨rfl, rfl⟩ := inductionHypothesis later
      exact ⟨rfl, rfl⟩

/-- With a bound that is not too low, draining the queue is running it until it is empty. -/
theorem Empties.drain_eq (empties : Empties catalog origin wave names after) {bound : Nat}
    (enough : names.length ≤ bound) : drain catalog origin bound wave = after := by
  induction empties generalizing bound with
  | rest empty => exact drain_of_nil empty bound
  | visit waits _ inductionHypothesis =>
    obtain ⟨less, rfl⟩ := Nat.exists_eq_add_of_le' enough
    rw [List.length_cons, ← Nat.add_assoc, drain_of_cons waits]
    exact inductionHypothesis (Nat.le_add_left _ _)

/-! ### The length of a run -/

/-- Once the changed control has been visited, the queue runs empty within the visits that it stands
for; the changed control does not come back, and no channel is followed any more. -/
theorem exists_empties_of_calm (wellFormed : catalog.WellFormed) {bound : Nat}
    (calm : wave.Calm catalog origin) (enough : cost catalog wave.queue ≤ bound) :
    ∃ names after, Empties catalog origin wave names after ∧ names.length ≤ bound ∧
      origin ∉ names ∧ after.sync.inFlight = wave.sync.inFlight := by
  induction bound generalizing wave with
  | zero =>
    cases waits : wave.queue with
    | nil => exact ⟨[], wave, .rest waits, Nat.le_refl 0, List.not_mem_nil, rfl⟩
    | cons control rest =>
      have heavy := one_le_weight catalog control
      rw [waits] at enough
      simp only [cost] at enough
      omega
  | succ bound inductionHypothesis =>
    cases waits : wave.queue with
    | nil => exact ⟨[], wave, .rest waits, Nat.zero_le _, List.not_mem_nil, rfl⟩
    | cons control rest =>
      have different : control ≠ origin := fun equal =>
        calm.fresh (waits ▸ equal ▸ List.mem_cons_self)
      obtain ⟨calmNext, less⟩ := calm_next wellFormed calm waits
      obtain ⟨names, after, empties, short, absent, followed⟩ :=
        inductionHypothesis calmNext (by omega)
      refine ⟨control :: names, after, .visit waits empties, Nat.succ_le_succ short, ?_, ?_⟩
      · exact fun isIn => (List.mem_cons.mp isIn).elim (fun equal => different equal.symm) absent
      · exact followed.trans
          (congrArg Prod.fst (aside_visit_later wellFormed different wave.sync wave.sheet))

/-- Channels that were not followed yet are followed in turn. -/
theorem inFlight_foldl_followChannel (control choice : String) {channels : List Channel}
    (different : channels.Nodup) {state : State}
    (fresh : ∀ channel ∈ channels, channel ∉ state.sync.inFlight) :
    (channels.foldl (followChannel control choice) state).sync.inFlight =
      state.sync.inFlight ++ channels := by
  induction channels generalizing state with
  | nil => exact (List.append_nil _).symm
  | cons channel rest inductionHypothesis =>
    obtain ⟨absent, restDifferent⟩ := List.nodup_cons.mp different
    obtain ⟨freshHead, freshRest⟩ := List.forall_mem_cons.mp fresh
    have noted := inFlight_followChannel freshHead control choice
    rw [List.foldl_cons, inductionHypothesis restDifferent, noted, List.append_assoc]
    · rfl
    · intro other isIn inFlight
      rw [noted, List.mem_append, List.mem_singleton] at inFlight
      rcases inFlight with before | rfl
      · exact freshRest other isIn before
      · exact absent isIn

/-- The visit of the changed control follows all of its channels. -/
theorem inFlight_visit (wellFormed : catalog.WellFormed) {sync : Sync} (rested : sync.inFlight = [])
    (sheet : Sheet) (origin : String) :
    (visit catalog origin origin sync sheet).sync.inFlight = catalog.channelsOf origin := by
  by_cases known : origin ∈ catalog.controls.map Control.name
  · obtain ⟨control, member, rfl⟩ := List.mem_map.mp known
    have attended : (attend catalog ⟨sync, sheet, []⟩ control).sync.inFlight = [] :=
      (congrArg Prod.fst (aside_attend catalog ⟨sync, sheet, []⟩ control)).trans rested
    rw [visit_of_mem wellFormed member, forward, if_pos (by simp)]
    refine (inFlight_foldl_followChannel _ _ (wellFormed.links.filter _) ?_).trans ?_
    · intro channel _ inFlight
      rw [attended] at inFlight
      cases inFlight
    · rw [attended]
      exact List.nil_append _
  · have noSelect : ∀ entry ∈ catalog.controls, entry.name = origin → entry.isSelect = false :=
      fun entry member named => absurd (List.mem_map.mpr ⟨entry, member, named⟩) known
    rw [visit_of_unknown wellFormed known, channelsOf_eq_nil wellFormed noSelect]
    exact rested

/-- The queue of a change runs empty within the bound. -/
theorem exists_empties (wellFormed : catalog.WellFormed) {sync : Sync} {sheet : Sheet}
    (owned : Owned catalog sync.derived sheet) (rested : sync.inFlight = []) (origin : String) :
    ∃ names after, Empties catalog origin (.start sync sheet origin) names after ∧
      names.length ≤ bound catalog ∧ names.count origin = 1 ∧
      after.sync.inFlight = catalog.channelsOf origin := by
  obtain ⟨names, after, empties, short, absent, followed⟩ :=
    exists_empties_of_calm wellFormed (calm_start wellFormed owned origin)
      (brings_visit wellFormed owned origin).cost
  have waits : (Wave.start sync sheet origin).queue = [origin] := rfl
  refine ⟨origin :: names, after, .visit waits empties, ?_, ?_, ?_⟩
  · rw [List.length_cons, bound, Nat.add_comm]
    exact Nat.add_le_add_left short 1
  · rw [List.count_cons_self, List.count_eq_zero.mpr absent]
  · exact followed.trans (inFlight_visit wellFormed rested sheet origin)

end Sync

namespace Session

variable {catalog : Catalog}

/-- In every session that a run reaches, whatever was written since and whatever name a change is
said to start from, the queue of the change runs empty, in one way, after at most one visit and four
more for every control. The name is visited once, and in the whole run exactly the channels of that
control are followed, each of them once. What a change comes to is what the queue leaves, and then
no channel is noted as followed. -/
theorem empties_of_run {form : Form} (built : Catalog.build form = .ok catalog)
    (operations : List Operation) (origin : String) :
    let session := run catalog operations
    ∀ sheet, Sheet.Refilled session.sheet sheet → ∃ names after,
      Sync.Empties catalog origin (.start session.sync sheet origin) names after ∧
      (∀ otherNames otherAfter, Sync.Empties catalog origin (.start session.sync sheet origin)
        otherNames otherAfter → otherNames = names ∧ otherAfter = after) ∧
      after.queue = [] ∧
      names.length ≤ 1 + 4 * catalog.controls.length ∧
      names.count origin = 1 ∧
      after.sync.inFlight = catalog.channelsOf origin ∧ after.sync.inFlight.Nodup ∧
      Sync.propagate catalog session.sync sheet origin =
        ⟨{ after.sync with inFlight := [] }, after.sheet, after.touched⟩ := by
  have wellFormed := Catalog.wellFormed_of_build built
  have rested := ((kept_rested catalog).run operations).2
  intro session sheet refilled
  have owned : Owned catalog session.sync.derived sheet :=
    (owned_run wellFormed operations).refilled refilled
  obtain ⟨names, after, empties, short, once, followed⟩ :=
    Sync.exists_empties wellFormed owned rested origin
  refine ⟨names, after, empties, fun _ _ others => empties.unique others, empties.queue, short,
    once, followed, ?_, ?_⟩
  · rw [followed]
    exact wellFormed.links.filter _
  · unfold Sync.propagate
    rw [show Sync.Wave.mk session.sync sheet [origin] [origin] = .start session.sync sheet origin
      from rfl, empties.drain_eq short]

/-- The first of four linked selects follows its two channels, to the second and to the last. -/
theorem empties_of_chain :
    let session := run chainCatalog [.rehydrate (NameMap.ofList [("a", " red")])]
    ∃ names after,
      Sync.Empties chainCatalog "a" (.start session.sync session.sheet "a") names after ∧
      names.length ≤ 25 ∧ names.count "a" = 1 ∧
      after.sync.inFlight = [⟨"a", "b"⟩, ⟨"a", "d"⟩] ∧
      (Sync.propagate chainCatalog session.sync session.sheet "a").sync.inFlight = [] := by
  obtain ⟨names, after, empties, -, -, short, once, followed, -, comes⟩ :=
    empties_of_run build_chain [.rehydrate (NameMap.ofList [("a", " red")])] "a" _ (.refl _)
  have six : chainCatalog.controls.length = 6 := by decide +kernel
  have channels : chainCatalog.channelsOf "a" = [⟨"a", "b"⟩, ⟨"a", "d"⟩] := by decide +kernel
  rw [six] at short
  exact ⟨names, after, empties, short, once, followed.trans channels,
    congrArg (fun state => state.sync.inFlight) comes⟩

end Session

end Questionnaire

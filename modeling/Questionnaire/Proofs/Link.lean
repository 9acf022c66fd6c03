/-
This file says what following the channels of a select comes to. Every select across them that
offers the choice takes it, and every other one keeps its own and is warned of, in the order of the
channels.
-/
import Questionnaire.Proofs.Carry

namespace Questionnaire

/-! ### Choices that are offered -/

/-- A select offers the options of its control. -/
theorem Owned.chosen?_of_kind {catalog : Catalog} {derived : NameMap String} {sheet : Sheet}
    (owned : Owned catalog derived sheet) {control : Control} (member : control ∈ catalog.controls)
    {options : List String} {echo : Option String} (kind : control.kind = .select options echo)
    (text : String) : sheet.chosen? control.name text = Answer.option? options text := by
  obtain ⟨choice, holds, -⟩ := owned.select member kind
  unfold Sheet.chosen? Sheet.options?
  rw [holds]
  rfl

namespace Sheet

/-- A select takes a choice that it offers. -/
theorem setText_of_chosen? {sheet : Sheet} {name text option : String}
    (offered : sheet.chosen? name text = some option) :
    ∃ entry choice options, sheet.get? name = some entry ∧
      entry.content = .select choice options ∧
        sheet.setText name option = .ok (sheet.put name entry (.select option options)) := by
  obtain ⟨options, isSelect, chosen⟩ := Option.bind_eq_some_iff.mp offered
  obtain ⟨content, holds, hasOptions⟩ := Option.bind_eq_some_iff.mp isSelect
  obtain ⟨entry, present, rfl⟩ := Option.map_eq_some_iff.mp holds
  cases held : entry.content with
  | select choice others =>
    rw [held] at hasOptions
    cases hasOptions
    refine ⟨entry, choice, options, present, held, setText_of_withText? present ?_⟩
    rw [held, Content.withText?, if_neg (by simp [(Answer.trim_option chosen).2]),
      Answer.option?_self chosen]
    rfl
  | text _ => rw [held] at hasOptions; cases hasOptions
  | checkbox _ _ => rw [held] at hasOptions; cases hasOptions

end Sheet

namespace Sync

variable {catalog : Catalog} {state : State} {control choice : String} {channel : Channel}

/-! ### Linked selects -/

/-- A channel lies between its two sides. -/
theorem between_across (ordered : channel.low < channel.high)
    (touches : channel.touches control = true) :
    Channel.between control (channel.across control) = channel := by
  obtain ⟨low, high⟩ := channel
  unfold Channel.between Channel.across
  by_cases isLow : low = control
  · subst isLow
    simp only [beq_self_eq_true, if_true]
    exact if_neg (String.lt_asymm ordered)
  · have isHigh : high = control := by simpa [Channel.touches, isLow] using touches
    subst isHigh
    simp only [beq_iff_eq, isLow, if_false]
    exact if_pos ordered

theorem across_between {first second : String} (different : second ≠ first) :
    (Channel.between first second).touches first = true ∧
      (Channel.between first second).across first = second := by
  unfold Channel.between Channel.touches Channel.across
  split
  next => simp [different]
  next => simp

/-- The selects linked to a control are those that a channel lies between it and. -/
theorem mem_partners_iff (wellFormed : catalog.WellFormed) {partner : String} :
    partner ∈ partners catalog control ↔ Channel.between control partner ∈ catalog.links := by
  constructor
  · intro listed
    obtain ⟨channel, member, rfl⟩ := List.mem_map.mp listed
    obtain ⟨linked, touches⟩ := List.mem_filter.mp member
    exact (between_across (wellFormed.sides channel linked).1 touches).symm ▸ linked
  · intro linked
    have different : partner ≠ control := by
      rintro rfl
      have ordered := (wellFormed.sides _ linked).1
      unfold Channel.between at ordered
      rw [ite_self] at ordered
      exact String.lt_irrefl _ ordered
    obtain ⟨touches, across⟩ := across_between different
    exact List.mem_map.mpr ⟨_, List.mem_filter.mpr ⟨linked, touches⟩, across⟩

theorem self_notMem_partners (wellFormed : catalog.WellFormed) (control : String) :
    control ∉ partners catalog control := by
  intro listed
  obtain ⟨channel, member, same⟩ := List.mem_map.mp listed
  obtain ⟨-, partner, -, named, -, different⟩ := sides_of_mem_channelsOf wellFormed member
  exact different (named.trans same)

/-! ### Single channels -/

/-- Following a channel changes at most the select across it. -/
theorem agreeOff_followChannel (wellFormed : catalog.WellFormed) {control : String}
    {channel : Channel} (member : channel ∈ catalog.channelsOf control) (choice : String) :
    Sheet.AgreeOff [channel.across control] state.sheet
      (followChannel control choice state channel).sheet := by
  have steps : Steps catalog (fun _ => True) (fun _ => True) state
      (followChannel control choice state channel) :=
    steps_followChannel wellFormed member (fun _ _ _ => trivial) choice
  obtain ⟨more, listed, agree⟩ := Steps.reports steps
  obtain ⟨others, othersListed, sublist⟩ := changed_followChannel control choice state channel
  rw [listed] at othersListed
  exact agree.mono (List.append_cancel_left othersListed ▸ sublist.subset)

/-- A channel that is followed with a choice hands it over or is warned of. -/
theorem followChannel_eq (fresh : channel ∉ state.sync.inFlight) (given : choice.isEmpty = false) :
    followChannel control choice state channel =
      let noted : State := { state with sync.inFlight := state.sync.inFlight ++ [channel] }
      match state.sheet.chosen? (channel.across control) choice with
      | some option => noted.setText (channel.across control) option
      | none =>
        let warning := ⟨control, channel.across control, choice⟩
        { noted with sync.warnings := state.sync.warnings ++ [warning] } := by
  unfold followChannel
  rw [if_neg (by simpa using fresh)]
  exact if_neg (by rw [given]; exact Bool.false_ne_true)

/-- A channel that is followed without a choice is only noted. -/
theorem followChannel_of_empty (empty : choice.isEmpty = true) (control : String)
    (state : State) (channel : Channel) :
    (followChannel control choice state channel).sheet = state.sheet ∧
      (followChannel control choice state channel).sync.warnings = state.sync.warnings := by
  unfold followChannel
  simp only [empty, if_true]
  split <;> exact ⟨rfl, rfl⟩

/-- A channel that is followed is noted, with or without a choice. -/
theorem inFlight_followChannel (fresh : channel ∉ state.sync.inFlight) (control choice : String) :
    (followChannel control choice state channel).sync.inFlight =
      state.sync.inFlight ++ [channel] := by
  unfold followChannel
  rw [if_neg (by simpa using fresh)]
  simp only
  split
  next => rfl
  next =>
    split
    next => rw [sync_setText]
    next => rfl

/-- A select across a channel that does not offer the choice is warned of. -/
theorem warnings_followChannel (fresh : channel ∉ state.sync.inFlight)
    (given : choice.isEmpty = false) :
    (followChannel control choice state channel).sync.warnings =
      state.sync.warnings ++
        if (state.sheet.chosen? (channel.across control) choice).isNone then
          [⟨control, channel.across control, choice⟩]
        else [] := by
  rw [followChannel_eq fresh given]
  cases state.sheet.chosen? (channel.across control) choice with
  | none => rfl
  | some option =>
    simp only
    rw [sync_setText]
    exact (List.append_nil _).symm

/-- The select across a channel takes the choice that it offers, and keeps its own otherwise. -/
theorem text?_followChannel (fresh : channel ∉ state.sync.inFlight)
    (given : choice.isEmpty = false) :
    (followChannel control choice state channel).sheet.text? (channel.across control) =
      (state.sheet.chosen? (channel.across control) choice).or
        (state.sheet.text? (channel.across control)) := by
  rw [followChannel_eq fresh given]
  cases offered : state.sheet.chosen? (channel.across control) choice with
  | none => rfl
  | some option =>
    obtain ⟨entry, held, options, present, -, written⟩ := Sheet.setText_of_chosen? offered
    unfold State.setText Sheet.text?
    simp only [written]
    show ((state.sheet.put _ entry _).1.content? _).map _ = _
    rw [Sheet.content?_eq, Sheet.get?_put present, if_pos rfl]
    rfl

/-! ### All channels of a select -/

theorem foldl_followChannel_of_empty (empty : choice.isEmpty = true) (control : String)
    (channels : List Channel) (state : State) :
    (channels.foldl (followChannel control choice) state).sheet = state.sheet ∧
      (channels.foldl (followChannel control choice) state).sync.warnings =
        state.sync.warnings := by
  induction channels generalizing state with
  | nil => exact ⟨rfl, rfl⟩
  | cons channel rest inductionHypothesis =>
    obtain ⟨sheet, warnings⟩ := inductionHypothesis (followChannel control choice state channel)
    obtain ⟨sameSheet, sameWarnings⟩ := followChannel_of_empty empty control state channel
    exact ⟨sheet.trans sameSheet, warnings.trans sameWarnings⟩

/-- The warnings of selects that do not offer a choice, in the order of the selects. -/
def refusals (sheet : Sheet) (control choice : String) (names : List String) :
    List SyncWarning :=
  (names.filter fun name => (sheet.chosen? name choice).isNone).map fun name =>
    ⟨control, name, choice⟩

theorem refusals_congr {first second : Sheet} {names : List String}
    (same : ∀ name ∈ names, first.chosen? name choice = second.chosen? name choice) :
    refusals first control choice names = refusals second control choice names := by
  unfold refusals
  rw [List.filter_congr fun name listed => by rw [same name listed]]

/-- What comes of the selects that a choice is handed to: those that offer it take it, the others
are warned of, and whatever is not among them stays. -/
structure Handed (control choice : String) (names : List String) (before after : State) :
    Prop where
  taken : ∀ name ∈ names, after.sheet.text? name =
    (before.sheet.chosen? name choice).or (before.sheet.text? name)
  others : Sheet.AgreeOff names before.sheet after.sheet
  refused : after.sync.warnings =
    before.sync.warnings ++ refusals before.sheet control choice names

theorem handed_foldl (wellFormed : catalog.WellFormed) (given : choice.isEmpty = false)
    {channels : List Channel} (subset : channels ⊆ catalog.channelsOf control)
    (apart : (channels.map fun channel => channel.across control).Nodup) (state : State)
    (fresh : ∀ channel ∈ channels, channel ∉ state.sync.inFlight) :
    Handed control choice (channels.map fun channel => channel.across control) state
      (channels.foldl (followChannel control choice) state) := by
  induction channels generalizing state with
  | nil =>
    constructor
    case taken => exact fun _ never => nomatch never
    case others => exact .refl _ _
    case refused => exact (List.append_nil _).symm
  | cons channel rest inductionHypothesis =>
    obtain ⟨member, restSubset⟩ := List.cons_subset.mp subset
    obtain ⟨absent, restApart⟩ := List.nodup_cons.mp apart
    obtain ⟨freshHead, freshRest⟩ := List.forall_mem_cons.mp fresh
    have handed := inductionHypothesis restSubset restApart
      (followChannel control choice state channel) fun other isIn inFlight => by
        rw [inFlight_followChannel freshHead, List.mem_append, List.mem_singleton] at inFlight
        rcases inFlight with before | rfl
        · exact freshRest other isIn before
        · exact absent (List.mem_map_of_mem isIn)
    -- The channel leads to one select, and the channels after it lead to other ones.
    have same : ∀ name ∈ rest.map fun channel => channel.across control,
        state.sheet.content? name =
          (followChannel control choice state channel).sheet.content? name := fun name listed =>
      agreeOff_followChannel wellFormed member choice name fun isHead => by
        rw [List.mem_singleton.mp isHead] at listed
        exact absent listed
    constructor
    case taken =>
      refine List.forall_mem_cons.mpr ⟨?_, fun name listed => ?_⟩
      · rw [List.foldl_cons, ← Sheet.text?_congr (handed.others _ absent)]
        exact text?_followChannel freshHead given
      · rw [List.foldl_cons, handed.taken name listed, Sheet.text?_congr (same name listed),
          Sheet.chosen?_congr (same name listed)]
    case others => exact (agreeOff_followChannel wellFormed member choice).trans handed.others
    case refused =>
      rw [List.foldl_cons, handed.refused, List.map_cons]
      rw [refusals_congr fun name listed => (Sheet.chosen?_congr (same name listed) choice).symm]
      rw [warnings_followChannel freshHead given, List.append_assoc]
      congr 1
      unfold refusals
      rw [List.filter_cons]
      cases state.sheet.chosen? (channel.across control) choice <;> rfl

/-- The selects that the choice of a control is handed to: those linked to it, if it has one. -/
def recipients (catalog : Catalog) (sheet : Sheet) (control : String) : List String :=
  if (choiceOf sheet control).isEmpty then [] else partners catalog control

theorem mem_partners_of_mem_recipients {sheet : Sheet} {name : String}
    (listed : name ∈ recipients catalog sheet control) : name ∈ partners catalog control := by
  unfold recipients at listed
  split at listed
  next => cases listed
  next => exact listed

/-- A select hands its choice to the selects linked to it. -/
theorem handed_followLinks (wellFormed : catalog.WellFormed) {state : State}
    (rested : state.sync.inFlight = []) (control : String) :
    Handed control (choiceOf state.sheet control) (recipients catalog state.sheet control) state
      (followLinks catalog state control) := by
  change Handed _ _ _ _ (List.foldl (followChannel control (choiceOf state.sheet control)) state _)
  unfold recipients
  cases empty : (choiceOf state.sheet control).isEmpty with
  | true =>
    obtain ⟨sheet, warnings⟩ :=
      foldl_followChannel_of_empty empty control (catalog.channelsOf control) state
    constructor
    case taken => exact fun _ never => nomatch never
    case others => exact fun name _ => by rw [sheet]
    case refused => exact warnings.trans (List.append_nil _).symm
  | false =>
    refine handed_foldl wellFormed empty (List.Subset.refl _) (nodup_partners wellFormed control)
      state fun channel _ inFlight => ?_
    rw [rested] at inFlight
    cases inFlight

end Sync

end Questionnaire

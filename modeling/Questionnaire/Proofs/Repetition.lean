/-
This file says what carrying a change a second time does. Where all that goes with a control agrees
with it, a visit of the control finds everything as it should be and changes nothing, with one
exception: a dropdown takes the derived entry that it asks for if nobody has its name any more. The
first time somebody may have had it: the dropdown is refused before the selects linked to it take
its choice, and one of them then gives the very name up. So the second time can add that entry, and
the third time changes nothing.
-/
import Questionnaire.Proofs.Settled

namespace Questionnaire

namespace Sync

variable {catalog : Catalog} {state : State} {origin : String}

/-! ### Writes of what is there -/

/-- A select that holds a choice takes it without a change. -/
theorem setText_eq_self {sheet : Sheet} {name text option : String}
    (offered : sheet.chosen? name text = some option) (holds : sheet.text? name = some option) :
    sheet.setText name option = .ok (sheet, false) := by
  obtain ⟨entry, choice, options, present, isSelect, written⟩ := Sheet.setText_of_chosen? offered
  have same : choice = option := by
    unfold Sheet.text? at holds
    rw [Sheet.content?_eq, present, Option.map_some, Option.map_some, isSelect] at holds
    exact Option.some.inj holds
  rw [written, Sheet.put_eq_self (isSelect.trans (by rw [same]))]

/-- An echo that holds the choice takes it without a change. -/
theorem echoed_eq_self {select echo : String}
    (holds : state.sheet.content? echo = some (.text (choiceOf state.sheet select))) :
    echoed state select echo = state := by
  obtain ⟨entry, present, held⟩ := Option.map_eq_some_iff.mp holds
  have takes : entry.content.withText? (choiceOf state.sheet select) =
      some (.text (choiceOf state.sheet select)) := by
    rw [held]
    rfl
  unfold echoed State.setText
  rw [Sheet.setText_of_withText? present takes, Sheet.put_eq_self held]
  rfl

theorem uncheck_eq_self {name : String} (unchecked : state.sheet.checked? name ≠ some true) :
    state.uncheck name = state := by
  unfold State.uncheck
  split
  next result written =>
    obtain ⟨entry, content, present, takes, rfl⟩ := Sheet.setChecked_eq_ok written
    have same : entry.content = content := by
      unfold Sheet.checked? at unchecked
      rw [Sheet.content?_eq, present, Option.map_some, Option.bind_some] at unchecked
      cases held : entry.content with
      | checkbox checked value =>
        rw [held] at takes unchecked
        cases takes
        cases checked with
        | true => exact absurd rfl unchecked
        | false => rfl
      | text _ => rw [held] at takes; cases takes
      | select _ _ => rw [held] at takes; cases takes
    rw [Sheet.put_eq_self same]
    rfl
  next => rfl

theorem foldl_exclude_eq_self {box : Control} {names : List String}
    (unchecked : ∀ name ∈ names, excludes catalog box name = true →
      state.sheet.checked? name ≠ some true) :
    names.foldl (exclude catalog box) state = state := by
  induction names with
  | nil => rfl
  | cons name rest inductionHypothesis =>
    have first : exclude catalog box state name = state := by
      unfold exclude
      split
      next excluded => exact uncheck_eq_self (unchecked name List.mem_cons_self excluded)
      next => rfl
    rw [List.foldl_cons, first]
    exact inductionHypothesis fun other isIn => unchecked other (List.mem_cons_of_mem _ isIn)

/-- An amount that follows its box, and is empty if the box is not checked, stays as it is. -/
theorem followAmount_eq_self {name amount : String} (live : state.sheet.contains amount = true)
    (follows : state.sheet.isHidden amount = !(state.sheet.checked? name == some true))
    (emptied : state.sheet.checked? name ≠ some true → ∀ content,
      state.sheet.content? amount = some content → content.cleared = content) :
    followAmount state name amount = state := by
  obtain ⟨entry, present⟩ := NameMap.contains_iff.mp live
  have shown : revealed state name amount = state := by
    unfold Sheet.isHidden at follows
    rw [present, Option.any_some] at follows
    unfold revealed Sheet.setHidden
    simp only [present, if_pos follows]
  rw [followAmount_eq, shown]
  split
  next => rfl
  next unchecked =>
    have same := emptied (by simpa using unchecked) entry.content
      (by rw [Sheet.content?_eq, present]; rfl)
    unfold Sheet.clear
    rw [present]
    simp only [Sheet.put_eq_self same.symm]
    rfl

/-! ### Settled controls -/

/-- The derived entry that a dropdown asks for, if it is not there. -/
def missed (catalog : Catalog) (sheet : Sheet) (origin : String) : Option String :=
  ((catalog.control? origin).bind Control.echo?).bind fun _ =>
    (wanted sheet origin).filter fun name => !sheet.contains name

/-- The sheet with that entry. -/
def completed (catalog : Catalog) (sheet : Sheet) (origin : String) : Sheet :=
  match missed catalog sheet origin with
  | some name => sheet.insert name ⟨.checkbox true (choiceOf sheet origin), true, true⟩
  | none => sheet

theorem missed_eq_some {sheet : Sheet} {name : String} :
    missed catalog sheet origin = some name ↔
      (∃ dropdown echo, catalog.control? origin = some dropdown ∧ dropdown.echo? = some echo) ∧
        wanted sheet origin = some name ∧ sheet.contains name = false := by
  unfold missed
  rw [Option.bind_eq_some_iff]
  constructor
  · rintro ⟨echo, hasEcho, asked⟩
    obtain ⟨dropdown, found, echoes⟩ := Option.bind_eq_some_iff.mp hasEcho
    obtain ⟨asks, absent⟩ := Option.filter_eq_some_iff.mp asked
    exact ⟨⟨dropdown, echo, found, echoes⟩, asks, by simpa using absent⟩
  · rintro ⟨⟨dropdown, echo, found, echoes⟩, asks, absent⟩
    refine ⟨echo, Option.bind_eq_some_iff.mpr ⟨dropdown, found, echoes⟩, ?_⟩
    exact Option.filter_eq_some_iff.mpr ⟨asks, by simp [absent]⟩

theorem missed_of_no_echo (noEcho : (catalog.control? origin).bind Control.echo? = none)
    (sheet : Sheet) : missed catalog sheet origin = none := by
  unfold missed
  rw [noEcho]
  rfl

/-- An entry that is missed is no control. -/
theorem foreign_of_missed {derived : NameMap String} {sheet : Sheet}
    (owned : Owned catalog derived sheet) {name : String}
    (isMissed : missed catalog sheet origin = some name) :
    name ∉ catalog.controls.map Control.name := by
  intro isControl
  obtain ⟨-, -, absent⟩ := missed_eq_some.mp isMissed
  obtain ⟨control, member, rfl⟩ := List.mem_map.mp isControl
  rw [owned.contains_control member] at absent
  cases absent

/-- A settled dropdown takes the entry that it asks for, if it is not there. -/
theorem echoChoice_of_settled (wellFormed : catalog.WellFormed) (owned : state.IsOwned catalog)
    {dropdown : Control} (member : dropdown ∈ catalog.controls) {echo : String}
    (echoes : dropdown.echo? = some echo)
    (settled : Settled catalog dropdown.name state.sync.derived state.sheet) :
    (echoChoice state dropdown.name echo).sheet = completed catalog state.sheet dropdown.name ∧
      (echoChoice state dropdown.name echo).changed =
        state.changed ++ (missed catalog state.sheet dropdown.name).toList := by
  have found := wellFormed.control?_of_mem member
  have same := echoed_eq_self (settled.echo dropdown member rfl echo echoes)
  have nothing : (∀ name, wanted state.sheet dropdown.name = some name →
      state.sheet.contains name = true) → missed catalog state.sheet dropdown.name = none := by
    intro live
    refine Option.eq_none_iff_forall_ne_some.mpr fun name isMissed => ?_
    obtain ⟨-, asked, absent⟩ := missed_eq_some.mp isMissed
    rw [live name asked] at absent
    cases absent
  unfold completed
  cases owns : state.sync.derived.get? dropdown.name with
  | some name =>
    -- The dropdown has what it asks for.
    have asked := settled.entry name owns
    have live : state.sheet.contains name = true := owned.contains_derived owns
    have keeps : echoChoice state dropdown.name echo = state :=
      (echoChoice_of_owns owned owns asked).trans same
    rw [nothing fun other asksOther => by rw [asked] at asksOther; cases asksOther; exact live,
      keeps]
    exact ⟨rfl, (List.append_nil _).symm⟩
  | none =>
    rcases echoChoice_cases state dropdown.name echo with
      ⟨name, -, had, -⟩ | ⟨asked, equal⟩ | ⟨name, asked, equal⟩
    · rw [owns] at had
      cases had
    · rw [equal, same, release_of_none owns,
        nothing fun other asksOther => by rw [asked] at asksOther; cases asksOther]
      exact ⟨rfl, (List.append_nil _).symm⟩
    · rw [equal, same, release_of_none owns, acquire_eq owned owns]
      cases live : state.sheet.contains name with
      | true =>
        rw [nothing fun other asksOther => by rw [asked] at asksOther; cases asksOther; exact live]
        exact ⟨rfl, (List.append_nil _).symm⟩
      | false =>
        rw [missed_eq_some.mpr ⟨⟨dropdown, echo, found, echoes⟩, asked, live⟩]
        exact ⟨rfl, rfl⟩

theorem enforceExclusion_of_settled {box : Control} (member : box ∈ catalog.controls)
    (settled : Settled catalog box.name state.sync.derived state.sheet) :
    enforceExclusion catalog state box = state := by
  rw [enforceExclusion_eq]
  split
  next checked =>
    exact foldl_exclude_eq_self
      (settled.exclusion box member rfl (by simpa using checked))
  next => rfl

/-- A settled control itself changes nothing, unless it is a dropdown that misses its entry. -/
theorem attend_of_settled (wellFormed : catalog.WellFormed) (owned : state.IsOwned catalog)
    {control : Control} (member : control ∈ catalog.controls)
    (settled : Settled catalog control.name state.sync.derived state.sheet) :
    (attend catalog state control).sheet = completed catalog state.sheet control.name ∧
      (attend catalog state control).changed =
        state.changed ++ (missed catalog state.sheet control.name).toList := by
  have found := wellFormed.control?_of_mem member
  have idle : control.echo? = none → attend catalog state control = state →
      (attend catalog state control).sheet = completed catalog state.sheet control.name ∧
        (attend catalog state control).changed =
          state.changed ++ (missed catalog state.sheet control.name).toList := by
    intro noEcho same
    unfold completed
    rw [same, missed_of_no_echo (by rw [found, Option.bind_some, noEcho])]
    exact ⟨rfl, (List.append_nil _).symm⟩
  cases kind : control.kind with
  | select options echo =>
    cases echo with
    | some echo =>
      have echoes := Control.echo?_of_kind kind
      have attends : attend catalog state control = echoChoice state control.name echo := by
        unfold attend
        simp only [kind]
      rw [attends]
      exact echoChoice_of_settled wellFormed owned member echoes settled
    | none =>
      refine idle ?_ ?_
      · unfold Control.echo?
        rw [kind]
      · unfold attend
        simp only [kind]
  | checkbox value amount exclusive =>
    have noEcho : control.echo? = none := by
      unfold Control.echo?
      rw [kind]
    refine idle noEcho ?_
    cases amount with
    | none =>
      unfold attend
      simp only [kind]
      exact enforceExclusion_of_settled member settled
    | some amount =>
      have has := (amount?_of_kind kind).1
      obtain ⟨part, partIn, rfl, -⟩ := wellFormed.paired.amount control member amount has
      rw [attend_of_amount? has, enforceExclusion_of_settled member settled]
      exact followAmount_eq_self (owned.contains_control partIn)
        (settled.amount control member rfl part.name has)
        (settled.emptied control member rfl part.name has)
  | text | amount _ | echo _ =>
    refine idle ?_ ?_
    · unfold Control.echo?
      rw [kind]
    · unfold attend
      simp only [kind]

/-- Links change nothing if the linked selects hold the choice already. -/
theorem followLinks_of_agree {control : String} (agree : LinksAgree catalog control state.sheet) :
    (followLinks catalog state control).sheet = state.sheet ∧
      (followLinks catalog state control).changed = state.changed := by
  change ((catalog.channelsOf control).foldl
    (followChannel control (choiceOf state.sheet control)) state).sheet = _ ∧
      ((catalog.channelsOf control).foldl
        (followChannel control (choiceOf state.sheet control)) state).changed = _
  unfold LinksAgree partners at agree
  generalize choiceOf state.sheet control = choice at agree ⊢
  generalize catalog.channelsOf control = channels at agree ⊢
  induction channels generalizing state with
  | nil => exact ⟨rfl, rfl⟩
  | cons channel rest inductionHypothesis =>
    rw [List.map_cons, List.forall_mem_cons] at agree
    have first : (followChannel control choice state channel).sheet = state.sheet ∧
        (followChannel control choice state channel).changed = state.changed := by
      unfold followChannel
      split
      next => exact ⟨rfl, rfl⟩
      next =>
        simp only
        split
        next => exact ⟨rfl, rfl⟩
        next notEmpty =>
          split
          next option offered =>
            have holds := agree.1 option (by simpa using notEmpty) offered
            unfold State.setText
            simp only [setText_eq_self offered holds]
            exact ⟨rfl, rfl⟩
          next => exact ⟨rfl, rfl⟩
    have others := inductionHypothesis (by rw [first.1]; exact agree.2)
    rw [List.foldl_cons]
    exact ⟨others.1.trans first.1, others.2.trans first.2⟩

/-- The entry that is added is no control. -/
theorem content?_completed {derived : NameMap String} {sheet : Sheet}
    (owned : Owned catalog derived sheet) {control : Control} (member : control ∈ catalog.controls)
    (origin : String) :
    (completed catalog sheet origin).content? control.name = sheet.content? control.name := by
  unfold completed
  split
  next name isMissed =>
    rw [Sheet.content?_eq, NameMap.get?_insert, if_neg]
    · rfl
    · rintro rfl
      exact foreign_of_missed owned isMissed (List.mem_map_of_mem member)
  next => rfl

/-- A visit of a settled control changes nothing, unless it is a dropdown that misses its entry. -/
theorem visit_of_settled (wellFormed : catalog.WellFormed) {sync : Sync} {sheet : Sheet}
    (owned : Owned catalog sync.derived sheet)
    (settled : Settled catalog origin sync.derived sheet) :
    (visit catalog origin origin sync sheet).sheet = completed catalog sheet origin ∧
      (visit catalog origin origin sync sheet).changed =
        (missed catalog sheet origin).toList := by
  by_cases known : origin ∈ catalog.controls.map Control.name
  · obtain ⟨control, member, rfl⟩ := List.mem_map.mp known
    have ownedState : State.IsOwned catalog ⟨sync, sheet, []⟩ := owned
    obtain ⟨attended, changed⟩ := attend_of_settled wellFormed ownedState member settled
    have agree : LinksAgree catalog control.name
        (attend catalog ⟨sync, sheet, []⟩ control).sheet := by
      rw [attended]
      exact settled.links.congr wellFormed fun select selectIn _ =>
        content?_completed owned selectIn control.name
    obtain ⟨linked, linkedChanged⟩ := followLinks_of_agree agree
    rw [visit_of_mem wellFormed member, forward, if_pos (by simp)]
    exact ⟨linked.trans attended, linkedChanged.trans changed⟩
  · rw [visit_of_unknown wellFormed known]
    unfold completed
    rw [missed_of_no_echo (by rw [Catalog.control?_eq_none.mpr known]; rfl)]
    exact ⟨rfl, rfl⟩

/-- Carrying a change to a settled control does no more than that. -/
theorem propagate_of_settled (wellFormed : catalog.WellFormed) {sync : Sync} {sheet : Sheet}
    (owned : Owned catalog sync.derived sheet)
    (settled : Settled catalog origin sync.derived sheet) :
    (propagate catalog sync sheet origin).sheet = completed catalog sheet origin := by
  obtain ⟨visited, changed⟩ := visit_of_settled wellFormed owned settled
  have foreign : ∀ name ∈ (missed catalog sheet origin).toList,
      name ∉ catalog.controls.map Control.name :=
    fun name isMissed => foreign_of_missed owned (Option.mem_toList.mp isMissed)
  refine (propagate_later wellFormed owned origin (fun wave =>
    wave.sheet = completed catalog sheet origin ∧
      ∀ name ∈ wave.queue, name ∉ catalog.controls.map Control.name) ⟨visited, ?_⟩ ?_).1
  · rw [← changed] at foreign
    exact foreign
  · rintro wave control rest - waits ⟨same, unknown⟩
    rw [waits, List.forall_mem_cons] at unknown
    unfold Wave.next
    simp only [visit_of_unknown wellFormed unknown.1, List.append_nil]
    exact ⟨same, unknown.2⟩

/-! ### Entries that are missed -/

/-- A visited select brings in selects linked to it, and names that do nothing. -/
theorem waits_visit (wellFormed : catalog.WellFormed) {sync : Sync} {sheet : Sheet}
    (owned : Owned catalog sync.derived sheet) {select : Control}
    (member : select ∈ catalog.controls) (isSelect : select.isSelect = true) :
    ∀ name ∈ (visit catalog select.name select.name sync sheet).changed,
      name ∈ partners catalog select.name ∨ Idle catalog name := by
  have ownedState : State.IsOwned catalog ⟨sync, sheet, []⟩ := owned
  obtain ⟨own, ownListed, -, idle⟩ := changed_attend wellFormed ownedState member
    fun _ => Control.not_isBox_of_isSelect isSelect
  obtain ⟨linked, linkedListed, sublist⟩ :=
    changed_followLinks catalog (attend catalog ⟨sync, sheet, []⟩ select) select.name
  rw [visit_of_mem wellFormed member, forward, if_pos (by simp), linkedListed, ownListed]
  intro name listed
  rcases List.mem_append.mp listed with isOwn | isLinked
  · exact .inr (idle name isOwn)
  · exact .inl (sublist.subset isLinked)

/-- Nothing is derived by what is no select. -/
theorem get?_of_idle {derived : NameMap String} {sheet : Sheet}
    (owned : Owned catalog derived sheet) {name : String} (idle : Idle catalog name) :
    derived.get? name = none := by
  refine Option.eq_none_iff_forall_ne_some.mpr fun entry owns => ?_
  obtain ⟨-, owner, ownerIn, named, derives⟩ := owned.owner name entry owns
  have noSelect := (idle owner ownerIn named).1
  rw [isSelect_of_derives derives] at noSelect
  cases noSelect

/-- What carrying the change of a select leaves as it is: the select and what it has derived, and
what all controls have derived that are not linked to it. -/
theorem propagate_spares (wellFormed : catalog.WellFormed) {sync : Sync} {sheet : Sheet}
    (owned : Owned catalog sync.derived sheet) {select : Control}
    (member : select ∈ catalog.controls) (isSelect : select.isSelect = true) :
    let visited := visit catalog select.name select.name sync sheet
    let after := propagate catalog sync sheet select.name
    after.sheet.content? select.name = visited.sheet.content? select.name ∧
      after.sync.derived.get? select.name = visited.sync.derived.get? select.name ∧
      ∀ other, other ≠ select.name → other ∉ partners catalog select.name →
        after.sync.derived.get? other = sync.derived.get? other := by
  intro visited after
  have kept := propagate_later wellFormed owned select.name (fun wave =>
    (wave.sheet.content? select.name = visited.sheet.content? select.name ∧
      wave.sync.derived.get? select.name = visited.sync.derived.get? select.name ∧
      ∀ other, ¬Idle catalog other → other ≠ select.name →
        other ∉ partners catalog select.name →
          wave.sync.derived.get? other = sync.derived.get? other) ∧
      ∀ name ∈ wave.queue, name ∈ partners catalog select.name ∨ Idle catalog name) ?_ ?_
  · obtain ⟨⟨sameContent, sameOwn, sameOthers⟩, -⟩ := kept
    refine ⟨sameContent, sameOwn, fun other different apart => ?_⟩
    by_cases idle : Idle catalog other
    · rw [get?_of_idle (owned_propagate wellFormed owned select.name) idle,
        get?_of_idle owned idle]
    · exact sameOthers other idle different apart
  · refine ⟨⟨rfl, rfl, fun other _ different _ => ?_⟩, waits_visit wellFormed owned member isSelect⟩
    exact get?_derived_visit wellFormed sync sheet (Ne.symm different)
  · rintro wave control rest calm waits ⟨⟨sameContent, sameOwn, sameOthers⟩, among⟩
    obtain ⟨later, spares⟩ := calm.spares wellFormed waits
    rw [waits, List.forall_mem_cons] at among
    refine ⟨⟨?_, ?_, fun other busy different apart => ?_⟩, fun name isIn => ?_⟩
    · exact (spares.content select member (.inl isSelect)).trans sameContent
    · exact (get?_derived_visit wellFormed wave.sync wave.sheet later).trans sameOwn
    · refine (get?_derived_visit wellFormed wave.sync wave.sheet ?_).trans
        (sameOthers other busy different apart)
      rintro rfl
      exact among.1.elim apart busy
    · rcases List.mem_append.mp isIn with inRest | isNew
      · exact among.2 name inRest
      · refine .inr ((changed_visit_later wellFormed calm.owned later ?_).2 name isNew)
        exact calm.unchecked control (waits ▸ List.mem_cons_self)

/-- An entry is missed only because a select linked to the dropdown had its name at first, and has
given it up. -/
theorem releases_of_missed (wellFormed : catalog.WellFormed) {sync : Sync} {sheet : Sheet}
    (owned : Owned catalog sync.derived sheet) {name : String}
    (isMissed : missed catalog (propagate catalog sync sheet origin).sheet origin = some name) :
    ∃ partner ∈ partners catalog origin, sync.derived.get? partner = some name ∧
      (propagate catalog sync sheet origin).sync.derived.get? partner ≠ some name := by
  obtain ⟨⟨dropdown, echo, found, echoes⟩, asked, absent⟩ := missed_eq_some.mp isMissed
  obtain ⟨member, rfl⟩ := Catalog.mem_of_control?_eq_some found
  have ownedState : State.IsOwned catalog ⟨sync, sheet, []⟩ := owned
  have ownedAfter := owned_propagate wellFormed owned dropdown.name
  obtain ⟨sameContent, sameOwn, sameOthers⟩ :=
    propagate_spares wellFormed owned member (isSelect_of_echo? echoes)
  have lost : ∀ owner,
      (propagate catalog sync sheet dropdown.name).sync.derived.get? owner ≠ some name := by
    intro owner owns
    rw [ownedAfter.contains_derived owns] at absent
    cases absent
  have foreign := foreign_of_missed ownedAfter isMissed
  -- When the dropdown was visited it asked for the name, so somebody had it then.
  rw [(choiceOf_congr (sameContent.trans (content?_visit wellFormed owned member echoes))).2]
    at asked
  have visited : (visit catalog dropdown.name dropdown.name sync sheet).sync.derived =
      (renewed ⟨sync, sheet, []⟩ dropdown).sync.derived := by
    rw [visit_eq_forward wellFormed member echoes, derived_forward]
  have live := contains_of_wanted wellFormed ownedState member echoes asked
  have ownedRenewed := Steps.isOwned (steps_renewed_echoes wellFormed ownedState member) ownedState
  obtain ⟨owner, owns⟩ := (ownedRenewed.contains_iff foreign).mp live
  have different : owner ≠ dropdown.name := by
    rintro rfl
    rw [← visited, ← sameOwn] at owns
    exact lost dropdown.name owns
  rw [get?_derived_renewed (Ne.symm different)] at owns
  refine ⟨owner, ?_, owns, lost owner⟩
  by_contra apart
  exact lost owner ((sameOthers owner different apart).trans owns)

/-- No entry is missed if no two dropdowns can ask for entries of one name. -/
theorem missed_of_apart (wellFormed : catalog.WellFormed) (apart : catalog.NamesApart)
    {sync : Sync} {sheet : Sheet} (owned : Owned catalog sync.derived sheet) (origin : String) :
    missed catalog (propagate catalog sync sheet origin).sheet origin = none := by
  refine Option.eq_none_iff_forall_ne_some.mpr fun name isMissed => ?_
  obtain ⟨⟨dropdown, echo, found, echoes⟩, asked, -⟩ := missed_eq_some.mp isMissed
  obtain ⟨member, rfl⟩ := Catalog.mem_of_control?_eq_some found
  obtain ⟨partner, isPartner, owns, -⟩ := releases_of_missed wellFormed owned isMissed
  obtain ⟨-, owner, ownerIn, rfl, ownerDerives⟩ := owned.owner partner name owns
  obtain ⟨options, kind⟩ := exists_kind_of_echo? echoes
  have derives := derives_of_wanted (owned_propagate wellFormed owned dropdown.name) member kind
    asked
  have same := apart owner ownerIn dropdown member name (Control.mem_derivedNames.mpr ownerDerives)
    (Control.mem_derivedNames.mpr derives)
  obtain ⟨channel, channelIn, across⟩ := List.mem_map.mp isPartner
  obtain ⟨-, other, -, named, -, different⟩ := sides_of_mem_channelsOf wellFormed channelIn
  exact different (named.trans (across.trans same))

/-! ### Carrying a change again -/

theorem completed_eq_self_iff {sheet : Sheet} :
    completed catalog sheet origin = sheet ↔ missed catalog sheet origin = none := by
  unfold completed
  constructor
  · intro same
    refine Option.eq_none_iff_forall_ne_some.mpr fun name isMissed => ?_
    obtain ⟨-, -, absent⟩ := missed_eq_some.mp isMissed
    rw [isMissed] at same
    rw [← same, NameMap.contains, NameMap.get?_insert_self] at absent
    cases absent
  · intro nothing
    rw [nothing]

/-- Nothing is missed once it has been added. -/
theorem completed_completed {derived : NameMap String} {sheet : Sheet}
    (owned : Owned catalog derived sheet) :
    completed catalog (completed catalog sheet origin) origin =
      completed catalog sheet origin := by
  rw [completed_eq_self_iff]
  refine Option.eq_none_iff_forall_ne_some.mpr fun name isMissed => ?_
  obtain ⟨⟨dropdown, echo, found, echoes⟩, asked, absent⟩ := missed_eq_some.mp isMissed
  obtain ⟨member, rfl⟩ := Catalog.mem_of_control?_eq_some found
  rw [(choiceOf_congr (content?_completed owned member dropdown.name)).2] at asked
  unfold completed at absent
  split at absent
  next other isOther =>
    rw [NameMap.contains_insert] at absent
    obtain ⟨-, otherAsked, -⟩ := missed_eq_some.mp isOther
    rw [asked] at otherAsked
    cases otherAsked
    simp at absent
  next nothing =>
    rw [missed_eq_some.mpr ⟨⟨dropdown, echo, found, echoes⟩, asked, absent⟩] at nothing
    cases nothing

/-- Carrying a change a second time adds the entry that is missed, if one is, and does nothing
else. -/
theorem propagate_again (wellFormed : catalog.WellFormed) {sync : Sync} {sheet : Sheet}
    (owned : Owned catalog sync.derived sheet) (rested : sync.inFlight = []) (origin : String) :
    let first := propagate catalog sync sheet origin
    (propagate catalog first.sync first.sheet origin).sheet =
      completed catalog first.sheet origin :=
  propagate_of_settled wellFormed (owned_propagate wellFormed owned origin)
    (settled_propagate wellFormed owned rested origin)

theorem aside_echoAll (catalog : Catalog) (sync : Sync) (sheet : Sheet) :
    (echoAll catalog sync sheet).sync.aside = sync.aside := by
  rw [echoAll_eq]
  have all : ∀ (controls : List Control) (state : State),
      (controls.foldl renewed state).sync.aside = state.sync.aside := by
    intro controls
    induction controls with
    | nil => exact fun _ => rfl
    | cons control rest inductionHypothesis =>
      intro state
      rw [List.foldl_cons, inductionHypothesis]
      cases echoes : control.echo? with
      | none => rw [renewed_of_no_echo echoes]
      | some echo => rw [renewed_of_echo? echoes, aside_echoChoice]
  exact all catalog.controls ⟨sync, sheet, []⟩

end Sync

namespace Session

variable {catalog : Catalog}

/-- Between operations no channel is being followed. -/
theorem kept_rested (catalog : Catalog) :
    Kept catalog fun session => session.sync.inFlight = [] := by
  constructor
  case start =>
    exact congrArg Prod.fst (Sync.aside_echoAll catalog Sync.start (Sheet.ofCatalog catalog))
  case carry =>
    intro session control result _ _ _
    unfold Session.carry
    simp only
    split <;> rfl
  case recalculate => exact fun _ rested => rested
  case rehydrate =>
    intro session snapshot _ rested
    exact (congrArg Prod.fst (Sync.aside_echoAll session.catalog session.sync _)).trans rested
  case withTiers => exact fun _ _ rested => rested
  case beside => exact fun _ _ _ _ rested => rested

/-- In every session that a run reaches, and whatever was written since, carrying the change of a
control a second time leaves the sheet as it is, but for one entry that it may add: that of a
dropdown whose name was taken the first time, until a select linked to the dropdown gave it up. A
third time changes nothing, and neither does a second time if no two dropdowns can ask for entries
of one name. -/
theorem repetitions_of_run {form : Form} (built : Catalog.build form = .ok catalog)
    (operations : List Operation) (origin : String) :
    let session := run catalog operations
    ∀ sheet, Sheet.Refilled session.sheet sheet →
      let first := Sync.propagate catalog session.sync sheet origin
      let second := Sync.propagate catalog first.sync first.sheet origin
      let third := Sync.propagate catalog second.sync second.sheet origin
      second.sheet = Sync.completed catalog first.sheet origin ∧
      (second.sheet = first.sheet ↔ Sync.missed catalog first.sheet origin = none) ∧
      (∀ name, Sync.missed catalog first.sheet origin = some name →
        ∃ partner ∈ Sync.partners catalog origin, session.sync.derived.get? partner = some name ∧
          first.sync.derived.get? partner ≠ some name) ∧
      third.sheet = second.sheet ∧
      (catalog.NamesApart → second.sheet = first.sheet) := by
  have wellFormed := Catalog.wellFormed_of_build built
  have rested := ((kept_rested catalog).run operations).2
  intro session sheet refilled first second third
  have owned : Owned catalog session.sync.derived sheet :=
    (owned_run wellFormed operations).refilled refilled
  have ownedFirst : Owned catalog first.sync.derived first.sheet :=
    Sync.owned_propagate wellFormed owned origin
  have again : second.sheet = Sync.completed catalog first.sheet origin :=
    Sync.propagate_again wellFormed owned rested origin
  have onceMore : third.sheet = Sync.completed catalog second.sheet origin :=
    Sync.propagate_again wellFormed ownedFirst rfl origin
  refine ⟨again, ?_, fun name isMissed => ?_, ?_, fun apart => ?_⟩
  · rw [again]
    exact Sync.completed_eq_self_iff
  · exact Sync.releases_of_missed wellFormed owned isMissed
  · rw [onceMore, again]
    exact Sync.completed_completed ownedFirst
  · rw [again]
    exact Sync.completed_eq_self_iff.mpr (Sync.missed_of_apart wellFormed apart owned origin)

/-- A form with two linked dropdowns, an option of each of which asks for an entry of one name. -/
def crossing : Form :=
  { id := "crossing", title := "Crossing", description := none
    sections := [⟨1, "One",
      [plain "first" .dropdown "A" [⟨"B c", none, false, false⟩, ⟨"Other", none, false, false⟩],
       plain "second" .dropdown "A b" [⟨"C", none, false, false⟩, ⟨"B c", none, false, false⟩]]⟩]
    hiddenFields := []
    links := [⟨"first", "second"⟩] }

theorem crossing_isSome : (Catalog.build crossing).toOption.isSome = true := by decide +kernel

/-- The catalog of that form. -/
def crossingCatalog : Catalog := (Catalog.build crossing).toOption.get crossing_isSome

theorem build_crossing : Catalog.build crossing = .ok crossingCatalog :=
  Catalog.eq_ok_get crossing_isSome

/-- The second dropdown has the entry that the first asks for when its choice is taken over, and
gives it up when that is carried; the first dropdown gets it only the second time. -/
theorem repetition_adds_entry :
    let session := run crossingCatalog
      [.setValue "a_b" "C", .rehydrate (NameMap.ofList [("a", "B c")])]
    let first := Sync.propagate crossingCatalog session.sync session.sheet "a"
    (Sync.propagate crossingCatalog first.sync first.sheet "a").sheet ≠ first.sheet := by
  decide +kernel

/-- It is the entry that was missed, and there is nothing to add after that. -/
theorem repetitions_of_crossing :
    let session := run crossingCatalog
      [.setValue "a_b" "C", .rehydrate (NameMap.ofList [("a", "B c")])]
    let first := Sync.propagate crossingCatalog session.sync session.sheet "a"
    let second := Sync.propagate crossingCatalog first.sync first.sheet "a"
    Sync.missed crossingCatalog first.sheet "a" = some "a_b_c" ∧
      second.sheet.get? "a_b_c" = some ⟨.checkbox true "B c", true, true⟩ ∧
      (Sync.propagate crossingCatalog second.sync second.sheet "a").sheet = second.sheet := by
  obtain ⟨-, -, -, settles, -⟩ := repetitions_of_run build_crossing
    [.setValue "a_b" "C", .rehydrate (NameMap.ofList [("a", "B c")])] "a" _ (.refl _)
  exact ⟨by decide +kernel, by decide +kernel, settles⟩

end Session

end Questionnaire

/-
This file proves that carrying a change comes to its end. A control that is visited puts its own
echo, amount or derived entries into the queue, and none of these puts in anything more; only the
changed control itself brings in other selects or boxes, each of them once. So the names waiting,
each counted with all that it can still bring in, never exceed the bound on the visits.
-/
import Questionnaire.Proofs.Carry

namespace Questionnaire.Sync

variable {catalog : Catalog} {writes shows : Control → Prop} {state : State}

/-! ### Visits -/

/-- What a control itself does when it is visited. -/
def attend (catalog : Catalog) (state : State) (control : Control) : State :=
  match control.kind with
  | .select _ (some echo) => echoChoice state control.name echo
  | .checkbox _ (some amount) _ =>
    followAmount (enforceExclusion catalog state control) control.name amount
  | .checkbox _ none _ => enforceExclusion catalog state control
  | _ => state

/-- What the changed control does beyond that. -/
def forward (catalog : Catalog) (origin : String) (state : State) (control : String) : State :=
  if control == origin then followLinks catalog state control else state

theorem visit_of_mem (wellFormed : catalog.WellFormed) {control : Control}
    (member : control ∈ catalog.controls) (origin : String) (sync : Sync) (sheet : Sheet) :
    visit catalog origin control.name sync sheet =
      forward catalog origin (attend catalog ⟨sync, sheet, []⟩ control) control.name := by
  unfold visit attend forward
  rw [wellFormed.control?_of_mem member]
  cases kind : control.kind with
  | select options echo => cases echo <;> simp only [kind]
  | checkbox value amount exclusive => cases amount <;> simp only [kind]
  | text | amount _ | echo _ => simp only [kind]

theorem visit_of_unknown (wellFormed : catalog.WellFormed) {control : String}
    (unknown : control ∉ catalog.controls.map Control.name) (origin : String) (sync : Sync)
    (sheet : Sheet) : visit catalog origin control sync sheet = ⟨sync, sheet, []⟩ := by
  have noSelect : ∀ entry ∈ catalog.controls, entry.name = control → entry.isSelect = false :=
    fun entry member named => absurd (List.mem_map.mpr ⟨entry, member, named⟩) unknown
  unfold visit
  rw [Catalog.control?_eq_none.mpr unknown]
  simp only
  split
  next => exact followLinks_eq_self wellFormed noSelect _
  next => rfl

/-- A visited box does nothing beyond what it does itself. -/
theorem visit_of_isBox (wellFormed : catalog.WellFormed) {box : Control}
    (member : box ∈ catalog.controls) (isBox : box.isBox = true) (origin : String) (sync : Sync)
    (sheet : Sheet) :
    visit catalog origin box.name sync sheet = attend catalog ⟨sync, sheet, []⟩ box := by
  rw [visit_of_mem wellFormed member, forward]
  split
  next =>
    refine followLinks_eq_self wellFormed (fun entry entryIn named => ?_) _
    rw [wellFormed.eq_of_name_eq entryIn member named]
    by_contra isSelect
    rw [Control.not_isBox_of_isSelect (by simpa using isSelect)] at isBox
    cases isBox
  next => rfl

theorem amount?_of_kind {control : Control} {value amount : String} {exclusive : Bool}
    (kind : control.kind = .checkbox value (some amount) exclusive) :
    control.amount? = some amount ∧ control.isBox = true := by
  unfold Control.amount? Control.isBox
  rw [kind]
  exact ⟨rfl, rfl⟩

/-- A visited control writes and shows what belongs to it. It writes other boxes only if it is a
checked box. -/
theorem steps_attend (wellFormed : catalog.WellFormed) (owned : state.IsOwned catalog)
    {control : Control} (member : control ∈ catalog.controls)
    (mayEcho : ∀ twin : Control, twin.kind = .echo control.name → writes twin)
    (mayAmount : ∀ part : Control, part.kind = .amount control.name → writes part ∧ shows part)
    (mayExclude : state.sheet.checked? control.name = some true → ∀ other : Control,
      other.isBox = true → other.name ≠ control.name → writes other) :
    Steps catalog writes shows state (attend catalog state control) := by
  have excludes : Steps catalog writes shows state (enforceExclusion catalog state control) := by
    by_cases checked : state.sheet.checked? control.name = some true
    · exact steps_enforceExclusion wellFormed owned (mayExclude checked)
    · rw [enforceExclusion_eq, if_neg (by simpa using checked)]
  unfold attend
  split
  next options echo kind =>
    exact steps_echoChoice wellFormed owned member (Control.echo?_of_kind kind) mayEcho
  next value amount exclusive kind =>
    obtain ⟨part, partIn, named, partKind, -⟩ :=
      wellFormed.paired.amount control member amount (amount?_of_kind kind).1
    obtain ⟨mayWrite, mayShow⟩ := mayAmount part partKind
    rw [← named]
    exact excludes.trans (steps_followAmount partIn mayWrite mayShow control.name)
  next => exact excludes
  next => exact .refl

theorem steps_forward (wellFormed : catalog.WellFormed) {control : String} (origin : String)
    (may : control = origin → ∀ partner : Control, partner.isSelect = true →
      partner.name ≠ control → writes partner) :
    Steps catalog writes shows state (forward catalog origin state control) := by
  unfold forward
  split
  next isOrigin => exact steps_followLinks wellFormed (may (by simpa using isOrigin))
  next => exact .refl

/-- A visit writes no echo but the own one, and shows or hides no amount but the own one. -/
theorem steps_visit (wellFormed : catalog.WellFormed) {sync : Sync} {sheet : Sheet}
    (owned : Owned catalog sync.derived sheet) (origin control : String) :
    Steps catalog (fun written => ∀ select, written.kind = .echo select → select = control)
      (fun part => part.kind = .amount control) ⟨sync, sheet, []⟩
      (visit catalog origin control sync sheet) := by
  by_cases known : control ∈ catalog.controls.map Control.name
  · obtain ⟨entry, member, rfl⟩ := List.mem_map.mp known
    rw [visit_of_mem wellFormed member]
    refine .trans (steps_attend wellFormed owned member ?_ ?_ ?_)
      (steps_forward wellFormed origin ?_)
    · intro twin kind select isEcho
      rw [kind] at isEcho
      cases isEcho
      rfl
    · refine fun part kind => ⟨fun select isEcho => ?_, kind⟩
      rw [kind] at isEcho
      cases isEcho
    · intro _ other isBox _ select isEcho
      unfold Control.isBox at isBox
      rw [isEcho] at isBox
      cases isBox
    · intro _ partner isSelect _ select isEcho
      unfold Control.isSelect at isSelect
      rw [isEcho] at isSelect
      cases isSelect
  · rw [visit_of_unknown wellFormed known]

/-! ### What a visit brings in -/

/-- Whether a name is neither a select nor a box, so that visiting it does nothing. -/
def Idle (catalog : Catalog) (name : String) : Prop :=
  ∀ control ∈ catalog.controls, control.name = name →
    control.isSelect = false ∧ control.isBox = false

theorem idle_of_unknown {name : String} (unknown : name ∉ catalog.controls.map Control.name) :
    Idle catalog name :=
  fun control member named => absurd (List.mem_map.mpr ⟨control, member, named⟩) unknown

theorem idle_of_echo? (wellFormed : catalog.WellFormed) {control : Control}
    (member : control ∈ catalog.controls) {echo : String} (echoes : control.echo? = some echo) :
    Idle catalog echo := by
  intro other otherIn named
  obtain ⟨twin, twinIn, twinNamed, kind⟩ := wellFormed.paired.echo control member echo echoes
  rw [wellFormed.eq_of_name_eq otherIn twinIn (named.trans twinNamed.symm)]
  unfold Control.isSelect Control.isBox
  rw [kind]
  exact ⟨rfl, rfl⟩

theorem idle_of_amount? (wellFormed : catalog.WellFormed) {control : Control}
    (member : control ∈ catalog.controls) {amount : String}
    (has : control.amount? = some amount) : Idle catalog amount := by
  intro other otherIn named
  obtain ⟨part, partIn, partNamed, kind, -⟩ := wellFormed.paired.amount control member amount has
  rw [wellFormed.eq_of_name_eq otherIn partIn (named.trans partNamed.symm)]
  unfold Control.isSelect Control.isBox
  rw [kind]
  exact ⟨rfl, rfl⟩

/-- How many visits a waiting name stands for: itself, and what it can still bring in. -/
def weight (catalog : Catalog) (name : String) : Nat :=
  match catalog.control? name with
  | some control =>
    match control.kind with
    | .select _ _ => 4
    | .checkbox _ _ _ => 2
    | _ => 1
  | none => 1

/-- How many visits waiting names stand for. -/
def cost (catalog : Catalog) : List String → Nat
  | [] => 0
  | name :: rest => weight catalog name + cost catalog rest

theorem weight_le (catalog : Catalog) (name : String) : weight catalog name ≤ 4 := by
  unfold weight
  split
  · split <;> omega
  · omega

theorem one_le_weight (catalog : Catalog) (name : String) : 1 ≤ weight catalog name := by
  unfold weight
  split
  · split <;> omega
  · omega

theorem weight_of_idle {name : String} (idle : Idle catalog name) : weight catalog name = 1 := by
  unfold weight
  split
  next control found =>
    obtain ⟨member, named⟩ := Catalog.mem_of_control?_eq_some found
    obtain ⟨noSelect, noBox⟩ := idle control member named
    unfold Control.isSelect at noSelect
    unfold Control.isBox at noBox
    split
    next kind => rw [kind] at noSelect; cases noSelect
    next kind => rw [kind] at noBox; cases noBox
    next => rfl
  next => rfl

theorem cost_append (first second : List String) :
    cost catalog (first ++ second) = cost catalog first + cost catalog second := by
  induction first with
  | nil => exact (Nat.zero_add _).symm
  | cons name rest inductionHypothesis =>
    rw [List.cons_append, cost, cost, inductionHypothesis, Nat.add_assoc]

theorem cost_le (catalog : Catalog) (names : List String) :
    cost catalog names ≤ 4 * names.length := by
  induction names with
  | nil => exact Nat.le_refl 0
  | cons name rest inductionHypothesis =>
    have := weight_le catalog name
    simp only [cost, List.length_cons] at inductionHypothesis ⊢
    omega

theorem cost_of_idle {names : List String} (idle : ∀ name ∈ names, Idle catalog name) :
    cost catalog names = names.length := by
  induction names with
  | nil => rfl
  | cons name rest inductionHypothesis =>
    obtain ⟨head, tail⟩ := List.forall_mem_cons.mp idle
    have := weight_of_idle head
    have := inductionHypothesis tail
    simp only [cost, List.length_cons] at this ⊢
    omega

/-- A control that excludes nothing brings in only names that do nothing. -/
theorem changed_attend (wellFormed : catalog.WellFormed) (owned : state.IsOwned catalog)
    {control : Control} (member : control ∈ catalog.controls)
    (unchecked : state.sheet.checked? control.name = some true → control.isBox = false) :
    ∃ more, (attend catalog state control).changed = state.changed ++ more ∧
      cost catalog more + 1 ≤ weight catalog control.name ∧ ∀ name ∈ more, Idle catalog name := by
  have known := wellFormed.control?_of_mem member
  have excludes : control.isBox = true → enforceExclusion catalog state control = state := by
    intro isBox
    rw [enforceExclusion_eq, if_neg]
    intro checked
    rw [unchecked (by simpa using checked)] at isBox
    cases isBox
  have nothing : ∃ more, state.changed = state.changed ++ more ∧
      cost catalog more + 1 ≤ weight catalog control.name ∧ ∀ name ∈ more, Idle catalog name :=
    ⟨[], by simp, one_le_weight catalog _, fun _ listed => nomatch listed⟩
  unfold attend
  split
  next options echo kind =>
    have echoes := Control.echo?_of_kind kind
    obtain ⟨more, listed, short, names⟩ := changed_echoChoice wellFormed owned member echoes
    have idle : ∀ name ∈ more, Idle catalog name := fun name isIn =>
      (names name isIn).elim (fun isEcho => isEcho ▸ idle_of_echo? wellFormed member echoes)
        idle_of_unknown
    have heavy : weight catalog control.name = 4 := by
      unfold weight
      rw [known]
      simp only [kind]
    refine ⟨more, listed, ?_, idle⟩
    rw [cost_of_idle idle, heavy]
    omega
  next value amount exclusive kind =>
    obtain ⟨has, isBox⟩ := amount?_of_kind kind
    rw [excludes isBox]
    obtain ⟨more, listed, sublist⟩ := changed_followAmount state control.name amount
    have idle : ∀ name ∈ more, Idle catalog name := fun name isIn =>
      List.mem_singleton.mp (sublist.subset isIn) ▸ idle_of_amount? wellFormed member has
    have heavy : weight catalog control.name = 2 := by
      unfold weight
      rw [known]
      simp only [kind]
    refine ⟨more, listed, ?_, idle⟩
    rw [cost_of_idle idle, heavy]
    have := sublist.length_le
    simp only [List.length_singleton] at this
    omega
  next value exclusive kind =>
    rw [excludes (by unfold Control.isBox; rw [kind])]
    exact nothing
  next => exact nothing

/-- At most as many different names as controls, the changed one apart, can be brought in. -/
theorem length_lt_of_sublist {names : List String} {origin : String}
    (isControl : origin ∈ catalog.controls.map Control.name) (different : names.Nodup)
    (subset : ∀ name ∈ names, name ∈ catalog.controls.map Control.name ∧ name ≠ origin) :
    names.length + 1 ≤ catalog.controls.length := by
  have longer : (origin :: names).Nodup :=
    List.nodup_cons.mpr ⟨fun listed => (subset origin listed).2 rfl, different⟩
  have within : origin :: names ⊆ catalog.controls.map Control.name :=
    List.cons_subset.mpr ⟨isControl, fun name listed => (subset name listed).1⟩
  simpa using longer.length_le_of_subset within

theorem partners_lt (wellFormed : catalog.WellFormed) {control : Control}
    (member : control ∈ catalog.controls) :
    (partners catalog control.name).length + 1 ≤ catalog.controls.length := by
  refine length_lt_of_sublist (List.mem_map_of_mem member) (nodup_partners wellFormed _) ?_
  intro name listed
  obtain ⟨channel, channelIn, rfl⟩ := List.mem_map.mp listed
  obtain ⟨-, partner, partnerIn, named, -, different⟩ :=
    sides_of_mem_channelsOf wellFormed channelIn
  rw [← named]
  exact ⟨List.mem_map_of_mem partnerIn, different⟩

theorem nodup_siblings (wellFormed : catalog.WellFormed) (control : Control) :
    (siblings catalog control).Nodup := by
  unfold siblings
  split
  next question found =>
    obtain ⟨id, -, isQuestion⟩ := Option.bind_eq_some_iff.mp found
    have sublist := wellFormed.answers question (List.mem_of_find?_eq_some isQuestion)
    exact (sublist.nodup wellFormed.nodup).filter _
  next => exact List.nodup_nil

theorem siblings_lt (wellFormed : catalog.WellFormed) {control : Control}
    (member : control ∈ catalog.controls) :
    (siblings catalog control).length + 1 ≤ catalog.controls.length := by
  refine length_lt_of_sublist (List.mem_map_of_mem member) (nodup_siblings wellFormed control) ?_
  intro name listed
  obtain ⟨different, other, otherIn, rfl⟩ := mem_siblings wellFormed listed
  exact ⟨List.mem_map_of_mem otherIn, different⟩

/-- What the visit of the changed control brings in. -/
structure Brings (catalog : Catalog) (origin : String) (state : State) : Prop where
  cost : cost catalog state.changed ≤ 4 * catalog.controls.length
  fresh : origin ∉ state.changed
  idle : Idle catalog origin → state.changed = []
  unchecked : ∀ name ∈ state.changed, state.sheet.checked? name = some true → Idle catalog name

theorem brings_nothing (catalog : Catalog) (origin : String) {state : State}
    (nothing : state.changed = []) : Brings catalog origin state where
  cost := by rw [nothing]; exact Nat.zero_le _
  fresh := by rw [nothing]; exact List.not_mem_nil
  idle _ := nothing
  unchecked name listed := by rw [nothing] at listed; cases listed

/-- A select brings in its echo, two derived entries and the selects linked to it. -/
theorem brings_of_isSelect (wellFormed : catalog.WellFormed) (owned : state.IsOwned catalog)
    (untouched : state.changed = []) {control : Control} (member : control ∈ catalog.controls)
    (isSelect : control.isSelect = true) :
    Brings catalog control.name
      (followLinks catalog (attend catalog state control) control.name) := by
  have busy : ¬Idle catalog control.name := fun idle => by
    rw [(idle control member rfl).1] at isSelect
    cases isSelect
  obtain ⟨first, firstListed, light, idle⟩ :=
    changed_attend wellFormed owned member fun _ => Control.not_isBox_of_isSelect isSelect
  obtain ⟨second, secondListed, sublist⟩ :=
    changed_followLinks catalog (attend catalog state control) control.name
  have listed : (followLinks catalog (attend catalog state control) control.name).changed =
      first ++ second := by
    rw [secondListed, firstListed, untouched, List.nil_append]
  have isPartner : ∀ name ∈ second, ∃ partner ∈ catalog.controls, partner.name = name ∧
      partner.isSelect = true ∧ partner.name ≠ control.name := by
    intro name isIn
    obtain ⟨channel, channelIn, rfl⟩ := List.mem_map.mp (sublist.subset isIn)
    exact (sides_of_mem_channelsOf wellFormed channelIn).2
  have steps : Steps catalog (fun _ => True) (fun _ => True) state
      (followLinks catalog (attend catalog state control) control.name) :=
    (steps_attend wellFormed owned member (fun _ _ => trivial) (fun _ _ => ⟨trivial, trivial⟩)
      fun _ _ _ _ => trivial).trans (steps_followLinks wellFormed fun _ _ _ => trivial)
  constructor
  case cost =>
    have heavy := weight_le catalog control.name
    have linked := cost_le catalog second
    have few := partners_lt wellFormed member
    have fewer := sublist.length_le
    rw [listed, cost_append]
    omega
  case fresh =>
    rw [listed, List.mem_append]
    rintro (inFirst | inSecond)
    · exact busy (idle _ inFirst)
    · obtain ⟨partner, -, named, -, different⟩ := isPartner _ inSecond
      exact different named
  case idle => exact fun isIdle => absurd isIdle busy
  case unchecked =>
    intro name isIn checked
    rw [listed] at isIn
    rcases List.mem_append.mp isIn with inFirst | inSecond
    · exact idle name inFirst
    · obtain ⟨partner, partnerIn, rfl, partnerIsSelect, -⟩ := isPartner name inSecond
      have isBox := (Steps.isOwned steps owned).isBox_of_checked? partnerIn checked
      rw [Control.not_isBox_of_isSelect partnerIsSelect] at isBox
      cases isBox

/-- Exclusion brings in siblings, which are unchecked then. -/
theorem brings_enforceExclusion (wellFormed : catalog.WellFormed) (untouched : state.changed = [])
    {control : Control} (member : control ∈ catalog.controls) (isBox : control.isBox = true) :
    (enforceExclusion catalog state control).changed.Sublist (siblings catalog control) ∧
      Brings catalog control.name (enforceExclusion catalog state control) := by
  have excluded : (enforceExclusion catalog state control).changed.Sublist
        (siblings catalog control) ∧
      ∀ other ∈ (enforceExclusion catalog state control).changed,
        (enforceExclusion catalog state control).sheet.checked? other ≠ some true := by
    rw [enforceExclusion_eq]
    split
    next =>
      obtain ⟨more, listed, sublist, unchecked⟩ :=
        changed_foldl_exclude catalog control (siblings catalog control) state
      rw [listed, untouched, List.nil_append]
      exact ⟨sublist, fun other isIn checked => (unchecked other checked).1 isIn⟩
    next =>
      rw [untouched]
      exact ⟨List.nil_sublist _, fun _ isIn => nomatch isIn⟩
  obtain ⟨sublist, unchecked⟩ := excluded
  refine ⟨sublist, ?_, ?_, ?_, ?_⟩
  · have few := siblings_lt wellFormed member
    have fewer := sublist.length_le
    have costs := cost_le catalog (enforceExclusion catalog state control).changed
    omega
  · exact fun isIn => (mem_siblings wellFormed (sublist.subset isIn)).1 rfl
  · intro isIdle
    rw [(isIdle control member rfl).2] at isBox
    cases isBox
  · exact fun name isIn checked => absurd checked (unchecked name isIn)

/-- A box with an amount brings in siblings, and the amount. -/
theorem brings_followAmount (wellFormed : catalog.WellFormed) (owned : state.IsOwned catalog)
    (untouched : state.changed = []) {control part : Control}
    (member : control ∈ catalog.controls) (isBox : control.isBox = true)
    (partIn : part ∈ catalog.controls) (has : control.amount? = some part.name) :
    Brings catalog control.name
      (followAmount (enforceExclusion catalog state control) control.name part.name) := by
  obtain ⟨sublist, brings⟩ := brings_enforceExclusion wellFormed untouched member isBox
  have amountIdle := idle_of_amount? wellFormed member has
  have excludes : Steps catalog (fun _ => True) (fun _ => True) state
      (enforceExclusion catalog state control) :=
    steps_enforceExclusion wellFormed owned fun _ _ _ => trivial
  have ownedExcluded := Steps.isOwned excludes owned
  have follows : Steps catalog (part = ·) (part = ·)
      (enforceExclusion catalog state control)
      (followAmount (enforceExclusion catalog state control) control.name part.name) :=
    steps_followAmount partIn rfl rfl control.name
  obtain ⟨more, listed, moreSublist⟩ :=
    changed_followAmount (enforceExclusion catalog state control) control.name part.name
  have isAmount : ∀ name ∈ more, name = part.name := fun name isIn =>
    List.mem_singleton.mp (moreSublist.subset isIn)
  constructor
  case cost =>
    have few := siblings_lt wellFormed member
    have fewer := sublist.length_le
    have costs := cost_le catalog (enforceExclusion catalog state control).changed
    have light := cost_of_idle fun name isIn => isAmount name isIn ▸ amountIdle
    have short := moreSublist.length_le
    rw [List.length_singleton] at short
    rw [listed, cost_append]
    omega
  case fresh =>
    rw [listed, List.mem_append]
    rintro (isSibling | isIn)
    · exact brings.fresh isSibling
    · have idle := amountIdle control member (isAmount _ isIn)
      rw [isBox] at idle
      cases idle.2
  case idle =>
    intro isIdle
    rw [(isIdle control member rfl).2] at isBox
    cases isBox
  case unchecked =>
    intro name isIn checked
    rw [listed] at isIn
    rcases List.mem_append.mp isIn with isSibling | inMore
    · obtain ⟨-, other, otherIn, rfl⟩ := mem_siblings wellFormed (sublist.subset isSibling)
      by_cases isPart : part = other
      · exact isPart ▸ amountIdle
      · refine brings.unchecked _ isSibling ?_
        rwa [Sheet.checked?_congr
          (Steps.content? follows wellFormed ownedExcluded otherIn isPart)] at checked
    · exact isAmount name inMore ▸ amountIdle

/-- A box brings in siblings, and its amount if it has one. -/
theorem brings_of_isBox (wellFormed : catalog.WellFormed) (owned : state.IsOwned catalog)
    (untouched : state.changed = []) {control : Control} (member : control ∈ catalog.controls)
    (isBox : control.isBox = true) :
    Brings catalog control.name (attend catalog state control) := by
  obtain ⟨value, amount?, exclusive, kind⟩ := Control.exists_kind_of_isBox isBox
  unfold attend
  cases amount? with
  | none =>
    simp only [kind]
    exact (brings_enforceExclusion wellFormed untouched member isBox).2
  | some amount =>
    have has := (amount?_of_kind kind).1
    obtain ⟨part, partIn, rfl, -⟩ := wellFormed.paired.amount control member amount has
    simp only [kind]
    exact brings_followAmount wellFormed owned untouched member isBox partIn has

/-- The visit of the changed control. -/
theorem brings_visit (wellFormed : catalog.WellFormed) {sync : Sync} {sheet : Sheet}
    (owned : Owned catalog sync.derived sheet) (origin : String) :
    Brings catalog origin (visit catalog origin origin sync sheet) := by
  by_cases known : origin ∈ catalog.controls.map Control.name
  · obtain ⟨control, member, rfl⟩ := List.mem_map.mp known
    have noLinks : control.isSelect = false → ∀ state : State,
        followLinks catalog state control.name = state := by
      intro noSelect
      refine followLinks_eq_self wellFormed fun entry entryIn named => ?_
      rw [wellFormed.eq_of_name_eq entryIn member named, noSelect]
    rw [visit_of_mem wellFormed member, forward, if_pos (by simp)]
    by_cases isSelect : control.isSelect = true
    · exact brings_of_isSelect wellFormed owned rfl member isSelect
    rw [noLinks (by simpa using isSelect)]
    by_cases isBox : control.isBox = true
    · exact brings_of_isBox wellFormed owned rfl member isBox
    refine brings_nothing catalog _ ?_
    unfold Control.isSelect at isSelect
    unfold Control.isBox at isBox
    unfold attend
    cases kind : control.kind with
    | select _ _ => rw [kind] at isSelect; exact absurd rfl isSelect
    | checkbox _ _ _ => rw [kind] at isBox; exact absurd rfl isBox
    | text | amount _ | echo _ => rfl
  · rw [visit_of_unknown wellFormed known]
    exact brings_nothing catalog origin rfl

end Questionnaire.Sync

/-
This file proves that slugs are a canonical form of texts. Where every run of other characters is
squashed into one underscore, no two underscores stand side by side; with the outer ones left off,
what remains is runs of kept characters joined by single underscores. Squashing and stripping leave
alone whatever has that form, and so does lower case, since kept characters are small already. Lower
case leaves no capital, so the characters that are kept are all of its ASCII letters and digits.
-/
import Mathlib.Data.List.Chain
import Questionnaire.Proofs.Case
import Questionnaire.Slug

namespace Questionnaire

/-! ### Ends of a list -/

section Ends

variable {α : Type} {drops : α → Bool} {items : List α}

/-- A list without the elements at either end that are to be dropped. -/
def peel (drops : α → Bool) (items : List α) : List α :=
  (items.dropWhile drops).rdropWhile drops

theorem peel_isInfix (drops : α → Bool) (items : List α) : peel drops items <:+: items :=
  (List.rdropWhile_prefix drops _).isInfix.trans (List.dropWhile_suffix drops).isInfix

/-- What is left starts with nothing that is to be dropped. -/
theorem head?_peel {item : α} (first : (peel drops items).head? = some item) :
    drops item = false := by
  obtain ⟨more, equal⟩ : peel drops items <+: items.dropWhile drops :=
    List.rdropWhile_prefix drops _
  have head := List.head?_dropWhile_not drops items
  rw [← equal, List.head?_append, first] at head
  exact head

/-- And it ends with nothing of the kind. -/
theorem getLast?_peel {item : α} (last : (peel drops items).getLast? = some item) :
    drops item = false := by
  obtain ⟨some, equal⟩ := List.mem_getLast?_eq_getLast last
  rw [Bool.eq_false_iff, equal]
  exact List.rdropWhile_last_not drops (items.dropWhile drops) some

/-- Nothing is dropped where neither end is to be dropped. -/
theorem peel_eq_self (first : ∀ item, items.head? = some item → drops item = false)
    (last : ∀ item, items.getLast? = some item → drops item = false) :
    peel drops items = items := by
  have fromLeft : items.dropWhile drops = items := by
    cases items with
    | nil => rfl
    | cons head rest => exact List.dropWhile_cons_of_neg (by simp [first head rfl])
  rw [peel, fromLeft, List.rdropWhile_eq_self_iff]
  exact fun some isDropped =>
    Bool.false_ne_true ((last _ (List.getLast?_eq_some_getLast some)).symm.trans isDropped)

/-- Only elements that are to be dropped are missing. -/
theorem exists_ends (drops : α → Bool) (items : List α) :
    ∃ left right, items = left ++ peel drops items ++ right ∧
      ∀ item ∈ left ++ right, drops item = true := by
  refine ⟨items.takeWhile drops, (items.dropWhile drops).rtakeWhile drops, ?_, fun item isIn => ?_⟩
  · rw [List.append_assoc, peel, List.rdropWhile_append_rtakeWhile,
      List.takeWhile_append_dropWhile]
  · rcases List.mem_append.mp isIn with inLeft | inRight
    · exact List.mem_takeWhile_imp inLeft
    · exact List.mem_rtakeWhile_imp inRight

/-- What is not to be dropped stays. -/
theorem mem_peel {item : α} (isIn : item ∈ items) (stays : drops item = false) :
    item ∈ peel drops items := by
  obtain ⟨left, right, equal, dropped⟩ := exists_ends drops items
  rw [equal, List.append_assoc, List.mem_append, List.mem_append] at isIn
  rcases isIn with inLeft | inPeel | inRight
  · exact absurd (dropped item (List.mem_append_left _ inLeft)) (by simp [stays])
  · exact inPeel
  · exact absurd (dropped item (List.mem_append_right _ inRight)) (by simp [stays])

end Ends

/-! ### Lower case -/

namespace Text

/-- Whether a character is an ASCII capital. -/
def IsCapital (character : Char) : Prop := 65 ≤ character.toNat ∧ character.toNat ≤ 90

/-- A number that is no code point stands for the character with the code zero. -/
theorem toNat_ofNat_cases (code : Nat) :
    (Char.ofNat code).toNat = code ∨ (Char.ofNat code).toNat = 0 := by
  by_cases valid : code.isValidChar
  · refine .inl ?_
    rw [Char.ofNat, dif_pos valid]
    rfl
  · refine .inr ?_
    rw [Char.ofNat, dif_neg valid]
    rfl

theorem not_isCapital_lowerSimple {character : Char} (beyond : ¬character.toNat < 128) :
    ¬IsCapital (lowerSimple character) := by
  unfold lowerSimple
  simp only
  split
  next => exact fun capital => beyond (by have := capital.2; omega)
  next range found =>
    split
    next =>
      -- No small letter in the table comes before the ASCII ones.
      have least : ∀ range ∈ capitalRanges, 97 ≤ (range.first : Int) + range.shift := by
        decide +kernel
      have start := least range (List.mem_of_find?_eq_some found)
      have inRange := List.find?_some found
      simp only [Bool.and_eq_true, decide_eq_true_eq] at inRange
      unfold IsCapital
      rcases toNat_ofNat_cases (character.toNat + range.shift).toNat with same | zero <;> omega
    next => exact fun capital => beyond (by have := capital.2; omega)

theorem not_isCapital_lowerAt {before : List Char} {character : Char} {after : List Char}
    {small : Char} (isIn : small ∈ lowerAt before character after) : ¬IsCapital small := by
  unfold lowerAt at isIn
  split at isIn
  next =>
    rw [List.mem_singleton.mp isIn, IsCapital, toNat_toLower]
    split <;> omega
  next beyond =>
    split at isIn
    next =>
      rcases List.mem_pair.mp isIn with rfl | rfl
      · simp [IsCapital]
      · simp [IsCapital]
    next =>
      split at isIn
      next =>
        split at isIn
        next => rw [List.mem_singleton.mp isIn]; simp [IsCapital]
        next => rw [List.mem_singleton.mp isIn]; simp [IsCapital]
      next =>
        rw [List.mem_singleton.mp isIn]
        exact not_isCapital_lowerSimple beyond

/-- Lower case leaves no ASCII capital. -/
theorem not_isCapital_of_mem_lowerAfter {before characters : List Char} {small : Char}
    (isIn : small ∈ lowerAfter before characters) : ¬IsCapital small := by
  induction characters generalizing before with
  | nil => cases isIn
  | cons character after inductionHypothesis =>
    rcases List.mem_append.mp isIn with here | there
    · exact not_isCapital_lowerAt here
    · exact inductionHypothesis there

end Text

namespace Slug

/-! ### Characters -/

theorem isKept_iff {character : Char} :
    isKept character = true ↔
      97 ≤ character.toNat ∧ character.toNat ≤ 122 ∨
        48 ≤ character.toNat ∧ character.toNat ≤ 57 := by
  have lower : character.isLower = true ↔ 97 ≤ character.toNat ∧ character.toNat ≤ 122 :=
    Bool.and_eq_true_iff.trans (and_congr decide_eq_true_iff decide_eq_true_iff)
  rw [isKept, Bool.or_eq_true, lower, Char.isDigit_iff_toNat]
  exact Iff.rfl

theorem isKept_bar : isKept '_' = false := by decide

theorem ne_bar_of_isKept {character : Char} (kept : isKept character = true) :
    character ≠ '_' := by
  rintro rfl
  exact Bool.false_ne_true kept

/-- Of the characters of a text in lower case, the ASCII letters and digits are kept. -/
theorem isKept_eq_isAlphanum {character : Char} (small : ¬Text.IsCapital character) :
    isKept character = character.isAlphanum := by
  have noCapital : character.isUpper = false := by
    refine Bool.eq_false_iff.mpr fun capital => small ?_
    have codes : 'A'.val ≤ character.val ∧ character.val ≤ 'Z'.val := of_decide_eq_true capital
    exact codes
  show (character.isLower || character.isDigit) =
    (character.isUpper || character.isLower || character.isDigit)
  rw [noCapital, Bool.false_or]

/-- Kept characters and underscores are their own lower case. -/
theorem lowerList_eq_self {characters : List Char}
    (plain : ∀ character ∈ characters, isKept character = true ∨ character = '_') :
    Text.lowerList characters = characters := by
  have small : ∀ character ∈ characters, character.toNat < 128 ∧ ¬Text.IsCapital character := by
    intro character isIn
    unfold Text.IsCapital
    rcases plain character isIn with kept | rfl
    · have codes := isKept_iff.mp kept
      omega
    · decide
  rw [Text.lowerList, Text.lowerAfter_of_ascii fun character isIn => (small character isIn).1]
  refine (List.map_congr_left fun character isIn => Char.toNat_inj.mp ?_).trans characters.map_id
  rw [Text.toNat_toLower]
  exact if_neg (small character isIn).2

/-! ### Squashed lists -/

/-- Kept characters and underscores, no two of the latter side by side. -/
structure Squashed (characters : List Char) : Prop where
  plain : ∀ character ∈ characters, isKept character = true ∨ character = '_'
  single : characters.IsChain fun first second => ¬(first = '_' ∧ second = '_')

theorem Squashed.of_isInfix {whole part : List Char} (squashed : Squashed whole)
    (isPart : part <:+: whole) : Squashed part :=
  ⟨fun character isIn => squashed.plain character (isPart.subset isIn),
    squashed.single.infix isPart⟩

theorem squashed_cons {character : Char} {rest : List Char} :
    Squashed (character :: rest) ↔ (isKept character = true ∨ character = '_') ∧
      Squashed rest ∧ ¬(character = '_' ∧ rest.head? = some '_') := by
  constructor
  · rintro ⟨plain, single⟩
    obtain ⟨here, rest⟩ := List.forall_mem_cons.mp plain
    obtain ⟨apart, restSingle⟩ := List.isChain_cons.mp single
    exact ⟨here, ⟨rest, restSingle⟩, fun both => apart '_' both.2 ⟨both.1, rfl⟩⟩
  · rintro ⟨here, rest, apart⟩
    refine ⟨List.forall_mem_cons.mpr ⟨here, rest.plain⟩, List.isChain_cons.mpr ⟨?_, rest.single⟩⟩
    rintro second isHead ⟨isBar, rfl⟩
    exact apart ⟨isBar, isHead⟩

/-- What squashing gives is squashed, and starts with no underscore within a run. -/
theorem squashed_squash (inRun : Bool) (characters : List Char) :
    Squashed (squash inRun characters) ∧
      (inRun = true → (squash inRun characters).head? ≠ some '_') := by
  induction characters generalizing inRun with
  | nil => exact ⟨⟨by simp [squash], .nil⟩, by simp [squash]⟩
  | cons character rest inductionHypothesis =>
    unfold squash
    split
    next kept =>
      have different := ne_bar_of_isKept kept
      refine ⟨squashed_cons.mpr ⟨.inl kept, (inductionHypothesis false).1, fun both => ?_⟩, ?_⟩
      · exact different both.1
      · simpa using fun _ => different
    next =>
      obtain ⟨squashed, noBar⟩ := inductionHypothesis true
      cases inRun with
      | true => exact ⟨squashed, noBar⟩
      | false => exact ⟨squashed_cons.mpr ⟨.inr rfl, squashed, fun both => noBar rfl both.2⟩, nofun⟩

/-- Squashing leaves alone what is squashed, but for an underscore that goes on with a run. -/
theorem squash_eq_self {characters : List Char} (squashed : Squashed characters) (inRun : Bool)
    (starts : inRun = true → characters.head? ≠ some '_') :
    squash inRun characters = characters := by
  induction characters generalizing inRun with
  | nil => rfl
  | cons character rest inductionHypothesis =>
    obtain ⟨plain, restSquashed, apart⟩ := squashed_cons.mp squashed
    unfold squash
    rcases plain with kept | rfl
    · rw [if_pos kept, inductionHypothesis restSquashed false nofun]
    · have outside : inRun = false := Bool.eq_false_iff.mpr fun isIn => starts isIn rfl
      rw [if_neg (by simp [isKept_bar]), outside, if_neg Bool.false_ne_true,
        inductionHypothesis restSquashed true fun _ isBar => apart ⟨rfl, isBar⟩]

/-- Squashing keeps the kept characters and adds underscores only. -/
theorem mem_squash (inRun : Bool) {characters : List Char} {character : Char}
    (kept : isKept character = true) :
    character ∈ squash inRun characters ↔ character ∈ characters := by
  have different := ne_bar_of_isKept kept
  induction characters generalizing inRun with
  | nil => exact Iff.rfl
  | cons head rest inductionHypothesis =>
    unfold squash
    split
    next =>
      rw [List.mem_cons, List.mem_cons]
      exact or_congr_right (inductionHypothesis false)
    next notKept =>
      have notHead : character ≠ head := by
        rintro rfl
        exact notKept kept
      rw [List.mem_cons, or_iff_right notHead]
      refine Iff.trans ?_ (inductionHypothesis true)
      cases inRun with
      | true => exact Iff.rfl
      | false => exact List.mem_cons.trans (or_iff_right different)

/-! ### Slugs -/

/-- A squashed list without underscores at its ends. -/
structure IsSlug (characters : List Char) : Prop where
  squashed : Squashed characters
  first : characters.head? ≠ some '_'
  last : characters.getLast? ≠ some '_'

theorem strip_eq_peel (characters : List Char) : strip characters = peel (· == '_') characters :=
  rfl

theorem isSlug_strip {characters : List Char} (squashed : Squashed characters) :
    IsSlug (strip characters) where
  squashed := squashed.of_isInfix (peel_isInfix _ characters)
  first isBar := Bool.false_ne_true (head?_peel isBar).symm
  last isBar := Bool.false_ne_true (getLast?_peel isBar).symm

theorem strip_eq_self {characters : List Char} (isSlug : IsSlug characters) :
    strip characters = characters :=
  peel_eq_self
    (fun _ isFirst => beq_eq_false_iff_ne.mpr fun isBar => isSlug.first (isBar ▸ isFirst))
    (fun _ isLast => beq_eq_false_iff_ne.mpr fun isBar => isSlug.last (isBar ▸ isLast))

theorem isSlug_ofText (text : String) : IsSlug (ofText text).toList := by
  rw [ofText, String.toList_ofList]
  exact isSlug_strip (squashed_squash false _).1

/-- What has the form of a slug is its own slug. -/
theorem ofText_eq_self {text : String} (isSlug : IsSlug text.toList) : ofText text = text := by
  rw [ofText, lowerList_eq_self isSlug.squashed.plain, squash_eq_self isSlug.squashed false nofun,
    strip_eq_self isSlug, String.ofList_toList]

/-- The slugs are the texts that are their own slug. -/
theorem isSlug_iff {text : String} : IsSlug text.toList ↔ ofText text = text :=
  ⟨ofText_eq_self, fun same => same ▸ isSlug_ofText text⟩

/-- A slug that is not empty has a kept character in it. -/
theorem exists_isKept {characters : List Char} (isSlug : IsSlug characters)
    (filled : characters ≠ []) : ∃ character ∈ characters, isKept character = true := by
  cases characters with
  | nil => exact absurd rfl filled
  | cons character rest =>
    refine ⟨character, List.mem_cons_self, ?_⟩
    exact (isSlug.squashed.plain character List.mem_cons_self).resolve_right fun isBar =>
      isSlug.first (congrArg some isBar)

/-- Two slugs with an underscore between them are one. -/
theorem IsSlug.append {front rest : List Char} (isFront : IsSlug front) (isRest : IsSlug rest)
    (frontFilled : front ≠ []) (restFilled : rest ≠ []) : IsSlug (front ++ '_' :: rest) where
  squashed := by
    refine ⟨fun character isIn => ?_, List.isChain_append.mpr ⟨isFront.squashed.single, ?_, ?_⟩⟩
    · rcases List.mem_append.mp isIn with inFront | inRest
      · exact isFront.squashed.plain character inFront
      · rcases List.mem_cons.mp inRest with isBar | inRest
        · exact .inr isBar
        · exact isRest.squashed.plain character inRest
    · exact List.isChain_cons.mpr
        ⟨fun second isHead both => isRest.first (both.2 ▸ isHead), isRest.squashed.single⟩
    · exact fun before isLast after _ both => isFront.last (both.1 ▸ isLast)
  first := by
    rw [List.head?_append_of_ne_nil _ frontFilled]
    exact isFront.first
  last := by
    rw [List.getLast?_append_of_ne_nil _ (List.cons_ne_nil _ _),
      List.getLast?_cons_of_ne_nil restFilled]
    exact isRest.last

/-! ### Runs -/

/-- A run: characters that are kept, at least one. -/
structure IsRun (run : List Char) : Prop where
  filled : run ≠ []
  kept : ∀ character ∈ run, isKept character = true

theorem isSlug_nil : IsSlug [] := ⟨⟨nofun, .nil⟩, nofun, nofun⟩

/-- A run is a slug. -/
theorem IsRun.isSlug {run : List Char} (isRun : IsRun run) : IsSlug run where
  squashed := by
    refine ⟨fun character isIn => .inl (isRun.kept character isIn), List.Pairwise.isChain ?_⟩
    refine List.pairwise_of_forall_mem_list fun first isIn _ _ both => ?_
    exact ne_bar_of_isKept (isRun.kept first isIn) both.1
  first isBar := ne_bar_of_isKept (isRun.kept '_' (List.mem_of_mem_head? isBar)) rfl
  last isBar := ne_bar_of_isKept (isRun.kept '_' (List.mem_of_mem_getLast? isBar)) rfl

/-- Runs joined by single underscores. -/
def joined (runs : List (List Char)) : List Char := ['_'].intercalate runs

theorem joined_cons_cons (run next : List Char) (more : List (List Char)) :
    joined (run :: next :: more) = run ++ '_' :: joined (next :: more) := by
  rw [joined, List.intercalate_cons_cons, List.append_assoc]
  rfl

/-- One more character at the start of the first run. -/
theorem joined_longer (character : Char) (run : List Char) (more : List (List Char)) :
    joined ((character :: run) :: more) = character :: joined (run :: more) := by
  cases more with
  | nil => simp [joined]
  | cons next more => rw [joined_cons_cons, joined_cons_cons, List.cons_append]

theorem isSlug_joined {runs : List (List Char)} (areRuns : ∀ run ∈ runs, IsRun run) :
    IsSlug (joined runs) := by
  induction runs with
  | nil => exact isSlug_nil
  | cons run rest inductionHypothesis =>
    obtain ⟨isRun, restRuns⟩ := List.forall_mem_cons.mp areRuns
    cases rest with
    | nil => simpa [joined] using isRun.isSlug
    | cons next more =>
      have filled : joined (next :: more) ≠ [] := by
        obtain ⟨first, others, rfl⟩ :=
          List.exists_cons_of_ne_nil (restRuns next List.mem_cons_self).filled
        rw [joined_longer]
        exact List.cons_ne_nil _ _
      rw [joined_cons_cons]
      exact isRun.isSlug.append (inductionHypothesis restRuns) isRun.filled filled

/-- A squashed list that does not end with an underscore is runs joined, with at most an underscore
before them. -/
theorem exists_runs {characters : List Char} (squashed : Squashed characters)
    (last : characters.getLast? ≠ some '_') :
    ∃ runs, (∀ run ∈ runs, IsRun run) ∧
      (characters = joined runs ∨ runs ≠ [] ∧ characters = '_' :: joined runs) := by
  induction characters with
  | nil => exact ⟨[], nofun, .inl rfl⟩
  | cons character rest inductionHypothesis =>
    obtain ⟨plain, restSquashed, apart⟩ := squashed_cons.mp squashed
    have restLast : rest.getLast? ≠ some '_' := by
      intro isBar
      refine last ?_
      rw [List.getLast?_cons, isBar]
      rfl
    obtain ⟨runs, areRuns, isJoined⟩ := inductionHypothesis restSquashed restLast
    rcases plain with kept | rfl
    · have alone : IsRun [character] := ⟨nofun, by simpa using kept⟩
      rcases isJoined with rfl | ⟨some, rfl⟩
      · cases runs with
        | nil => exact ⟨[[character]], by simpa using alone, .inl rfl⟩
        | cons run more =>
          -- The character goes on with the first run.
          obtain ⟨isRun, moreRuns⟩ := List.forall_mem_cons.mp areRuns
          refine ⟨(character :: run) :: more, List.forall_mem_cons.mpr ⟨⟨nofun, ?_⟩, moreRuns⟩, ?_⟩
          · exact List.forall_mem_cons.mpr ⟨kept, isRun.kept⟩
          · exact .inl (joined_longer character run more).symm
      · obtain ⟨run, more, rfl⟩ := List.exists_cons_of_ne_nil some
        exact ⟨[character] :: run :: more, List.forall_mem_cons.mpr ⟨alone, areRuns⟩,
          .inl (joined_cons_cons [character] run more).symm⟩
    · rcases isJoined with rfl | ⟨-, rfl⟩
      · refine ⟨runs, areRuns, .inr ⟨?_, rfl⟩⟩
        rintro rfl
        exact last rfl
      · exact absurd ⟨rfl, rfl⟩ apart

/-- Slugs are runs joined by single underscores. -/
theorem isSlug_iff_joined {characters : List Char} :
    IsSlug characters ↔ ∃ runs, (∀ run ∈ runs, IsRun run) ∧ characters = joined runs := by
  constructor
  · intro isSlug
    obtain ⟨runs, areRuns, isJoined | ⟨-, isJoined⟩⟩ := exists_runs isSlug.squashed isSlug.last
    · exact ⟨runs, areRuns, isJoined⟩
    · exact absurd (congrArg List.head? isJoined) isSlug.first
  · rintro ⟨runs, areRuns, rfl⟩
    exact isSlug_joined areRuns

/-! ### The canonical form -/

/-- A text has no slug exactly if nothing of it in lower case is kept. -/
theorem ofText_eq_empty_iff {text : String} :
    ofText text = "" ↔ ∀ character ∈ Text.lowerList text.toList, isKept character = false := by
  have isSlug := isSlug_ofText text
  have kept_iff : ∀ character, isKept character = true →
      (character ∈ (ofText text).toList ↔ character ∈ Text.lowerList text.toList) := by
    intro character kept
    have stays : (character == '_') = false := beq_eq_false_iff_ne.mpr (ne_bar_of_isKept kept)
    refine Iff.trans ?_ (mem_squash false kept)
    rw [ofText, String.toList_ofList, strip_eq_peel]
    exact ⟨fun isIn => (peel_isInfix _ _).subset isIn, fun isIn => mem_peel isIn stays⟩
  constructor
  · intro empty character isIn
    refine Bool.eq_false_iff.mpr fun kept => ?_
    have inSlug := (kept_iff character kept).mpr isIn
    rw [empty] at inSlug
    cases inSlug
  · intro noneKept
    refine String.toList_eq_nil_iff.mp (Classical.byContradiction fun filled => ?_)
    obtain ⟨character, isIn, kept⟩ := exists_isKept isSlug filled
    have dropped := noneKept character ((kept_iff character kept).mp isIn)
    exact Bool.false_ne_true (dropped.symm.trans kept)

theorem squashed_untrimmed (text : String) : Squashed (untrimmed text).toList := by
  rw [untrimmed, String.toList_ofList]
  exact (squashed_squash false _).1

/-- The slug of every text is runs of small letters and digits joined by single underscores, and the
texts of this form are their own slugs. It is empty exactly if the text in lower case has no ASCII
letter and no digit. The untrimmed form is the slug with underscores around it, at most, and is its
own untrimmed form. -/
theorem ofText_canonical (text : String) :
    (∃ runs, (∀ run ∈ runs, IsRun run) ∧ (ofText text).toList = joined runs) ∧
    (ofText text = text ↔ ∃ runs, (∀ run ∈ runs, IsRun run) ∧ text.toList = joined runs) ∧
    (ofText text = "" ↔
      ∀ character ∈ (Text.lower text).toList, character.isAlphanum = false) ∧
    ofText (ofText text) = ofText text ∧
    (ofText text).toList = strip (untrimmed text).toList ∧
    (∃ left right, (untrimmed text).toList = left ++ (ofText text).toList ++ right ∧
      ∀ character ∈ left ++ right, character = '_') ∧
    untrimmed (untrimmed text) = untrimmed text := by
  have isSlug := isSlug_ofText text
  have stripped : (ofText text).toList = strip (untrimmed text).toList := by
    rw [ofText, untrimmed, String.toList_ofList, String.toList_ofList]
  have squashed := squashed_untrimmed text
  refine ⟨isSlug_iff_joined.mp isSlug, isSlug_iff.symm.trans isSlug_iff_joined, ?_,
    ofText_eq_self isSlug, stripped, ?_, ?_⟩
  · rw [ofText_eq_empty_iff, Text.lower, String.toList_ofList]
    refine forall₂_congr fun character isIn => ?_
    rw [isKept_eq_isAlphanum (Text.not_isCapital_of_mem_lowerAfter isIn)]
  · obtain ⟨left, right, equal, bars⟩ := exists_ends (· == '_') (untrimmed text).toList
    rw [stripped, strip_eq_peel]
    exact ⟨left, right, equal, fun character isIn => eq_of_beq (bars character isIn)⟩
  · conv_lhs => rw [untrimmed]
    rw [lowerList_eq_self squashed.plain, squash_eq_self squashed false nofun, String.ofList_toList]

end Slug

end Questionnaire

/-
This file says what a substitution replaces. A text is scanned from left to right: what stands
between its first mark and the next one is replaced, and the scan goes on behind that. The rest,
where no closed span is left, is kept with a mark that may stand in it. A second substitution finds
nothing: the text before a mark does not end in half a mark and a number has no dollar sign, so no
mark can form where they meet, and a mark in the rest still has no partner.
-/
import Questionnaire.Proofs.Rendering

namespace Questionnaire.Expression

/-! ### Marks -/

/-- The mark before and after what is replaced. -/
def mark : List Char := ['$', '$']

/-- Whether no mark starts in characters that a mark comes after. -/
def Unmarked (before : List Char) : Prop := ¬mark <:+: before ++ ['$']

theorem mark_prefix_cons {character : Char} {rest : List Char} :
    mark <+: character :: rest ↔ character = '$' ∧ rest.head? = some '$' := by
  rw [mark, List.cons_prefix_cons, eq_comm]
  refine and_congr_right fun _ => ?_
  cases rest <;> simp [List.cons_prefix_cons, eq_comm]

theorem unmarked_cons {character : Char} {rest : List Char} :
    Unmarked (character :: rest) ↔
      ¬(character = '$' ∧ (rest ++ ['$']).head? = some '$') ∧ Unmarked rest := by
  rw [Unmarked, List.cons_append, List.infix_cons_iff, not_or, mark_prefix_cons, Unmarked]

theorem unmarked_of_not_mem {characters : List Char} (without : '$' ∉ characters) :
    Unmarked characters := by
  induction characters with
  | nil => exact fun infixed => absurd infixed.length_le (by decide)
  | cons character rest inductionHypothesis =>
    rw [List.mem_cons, not_or] at without
    exact unmarked_cons.mpr ⟨fun both => without.1 both.1.symm, inductionHypothesis without.2⟩

/-! ### Cutting at a mark -/

theorem cut_cons (character : Char) (rest : List Char) :
    cut (character :: rest) =
      if character = '$' ∧ rest.head? = some '$' then some ([], rest.tail)
      else (cut rest).map fun parts => (character :: parts.1, parts.2) := by
  split
  next isMark =>
    obtain ⟨rfl, head⟩ := isMark
    obtain ⟨after, rfl⟩ := List.head?_eq_some_iff.mp head
    rfl
  next noMark =>
    refine cut.eq_3 _ _ fun after isDollar isRest => noMark ⟨isDollar, ?_⟩
    rw [isRest, List.head?_cons]

/-- Characters in which no mark starts are passed over. -/
theorem cut_append {before : List Char} (unmarked : Unmarked before) (rest : List Char) :
    cut (before ++ rest) = (cut rest).map fun parts => (before ++ parts.1, parts.2) := by
  induction before with
  | nil => simp
  | cons character before inductionHypothesis =>
    obtain ⟨noMark, unmarked⟩ := unmarked_cons.mp unmarked
    have notHere : ¬(character = '$' ∧ (before ++ rest).head? = some '$') := by
      rintro ⟨rfl, head⟩
      cases before with
      | nil => exact noMark ⟨rfl, rfl⟩
      | cons next before => exact noMark ⟨rfl, head⟩
    rw [List.cons_append, cut_cons, if_neg notHere, inductionHypothesis unmarked, Option.map_map]
    rfl

theorem cut_mark (after : List Char) : cut (mark ++ after) = some ([], after) := rfl

/-- A text is cut at the first mark. -/
theorem cut_eq_some_iff {characters before after : List Char} :
    cut characters = some (before, after) ↔
      characters = before ++ mark ++ after ∧ Unmarked before := by
  constructor
  · intro found
    induction characters generalizing before with
    | nil => cases found
    | cons character rest inductionHypothesis =>
      rw [cut_cons] at found
      split at found
      next isMark =>
        cases found
        obtain ⟨rfl, head⟩ := isMark
        obtain ⟨after, rfl⟩ := List.head?_eq_some_iff.mp head
        exact ⟨rfl, unmarked_of_not_mem List.not_mem_nil⟩
      next noMark =>
        obtain ⟨⟨start, after⟩, inner, equal⟩ := Option.map_eq_some_iff.mp found
        cases equal
        obtain ⟨rfl, unmarked⟩ := inductionHypothesis inner
        refine ⟨rfl, unmarked_cons.mpr ⟨?_, unmarked⟩⟩
        rintro ⟨rfl, head⟩
        refine noMark ⟨rfl, ?_⟩
        cases start with
        | nil => rfl
        | cons next start => exact head
  · rintro ⟨rfl, unmarked⟩
    rw [List.append_assoc, cut_append unmarked, cut_mark, Option.map_some, List.append_nil]

/-- Where there is a mark, the text is cut, and what comes after that mark is kept. -/
theorem exists_cut (before after : List Char) :
    ∃ first kept, cut (before ++ mark ++ after) = some (first, kept) ∧ after <:+ kept := by
  induction before with
  | nil => exact ⟨[], after, rfl, List.suffix_refl after⟩
  | cons character before inductionHypothesis =>
    rw [List.cons_append, List.cons_append, cut_cons]
    split
    next =>
      have someMark : before ++ mark ≠ [] := List.append_ne_nil_of_right_ne_nil _ (by decide)
      rw [List.tail_append_of_ne_nil someMark]
      exact ⟨[], _, rfl, List.suffix_append _ after⟩
    next =>
      obtain ⟨first, kept, found, suffix⟩ := inductionHypothesis
      exact ⟨character :: first, kept, by rw [found, Option.map_some], suffix⟩

/-! ### Spans -/

/-- Whether there is no closed span in characters: two marks, one behind the other. -/
def Spanless (characters : List Char) : Prop :=
  ∀ before content after, characters ≠ before ++ mark ++ content ++ mark ++ after

/-- The pieces that a scan from left to right finds. The first mark opens a span, the next one
closes it, and the scan goes on after that until there is no closed span. -/
inductive Scan : List Char → List Piece → Prop
  | rest {characters : List Char} (spanless : Spanless characters) :
      Scan characters [.plain characters]
  | span {before content after : List Char} {list : List Piece} (opens : Unmarked before)
      (closes : Unmarked content) (more : Scan after list) :
      Scan (before ++ mark ++ content ++ mark ++ after) (.plain before :: .hole content :: list)

/-- There is no closed span where there is no mark, or only one that nothing closes. -/
theorem spanless_iff {characters : List Char} :
    Spanless characters ↔ ∀ before after, cut characters = some (before, after) →
      cut after = none := by
  constructor
  · intro spanless before inside opened
    cases closed : cut inside with
    | none => rfl
    | some parts =>
      obtain ⟨content, after⟩ := parts
      obtain ⟨rfl, -⟩ := cut_eq_some_iff.mp opened
      obtain ⟨rfl, -⟩ := cut_eq_some_iff.mp closed
      exact absurd (by simp only [List.append_assoc]) (spanless before content after)
  · rintro unclosed before content after rfl
    obtain ⟨first, kept, opened, more, rfl⟩ := exists_cut before (content ++ mark ++ after)
    obtain ⟨second, rest, closed, -⟩ := exists_cut (more ++ content) after
    have notClosed := unclosed first _ (by rw [← opened]; simp only [List.append_assoc])
    rw [← List.append_assoc, ← List.append_assoc, closed] at notClosed
    cases notClosed

theorem pieces_of_spanless {characters : List Char} (spanless : Spanless characters) :
    pieces characters = [.plain characters] := by
  rw [pieces]
  split
  next => rfl
  next before inside opened =>
    split
    next => rfl
    next content after closed =>
      have notClosed := spanless_iff.mp spanless before inside opened
      rw [closed] at notClosed
      cases notClosed

theorem pieces_of_cut {characters before inside content after : List Char}
    (opened : cut characters = some (before, inside))
    (closed : cut inside = some (content, after)) :
    pieces characters = .plain before :: .hole content :: pieces after := by
  rw [pieces]
  split
  next nothing => cases opened.symm.trans nothing
  next found =>
    cases opened.symm.trans found
    split
    next nothing => cases closed.symm.trans nothing
    next found => cases closed.symm.trans found; rfl

theorem Scan.pieces_eq {characters : List Char} {list : List Piece} (scan : Scan characters list) :
    pieces characters = list := by
  induction scan with
  | rest spanless => exact pieces_of_spanless spanless
  | @span before content after list opens closes more inductionHypothesis =>
    have opened : cut (before ++ mark ++ content ++ mark ++ after) =
        some (before, content ++ mark ++ after) :=
      cut_eq_some_iff.mpr ⟨by simp only [List.append_assoc], opens⟩
    rw [pieces_of_cut opened (cut_eq_some_iff.mpr ⟨rfl, closes⟩), inductionHypothesis]

/-- The pieces of a text are those that the scan finds. -/
theorem scan_pieces (characters : List Char) : Scan characters (pieces characters) := by
  by_cases spanless : Spanless characters
  · rw [pieces_of_spanless spanless]
    exact .rest spanless
  · rw [spanless_iff] at spanless
    push Not at spanless
    obtain ⟨before, inside, opened, someMark⟩ := spanless
    obtain ⟨⟨content, after⟩, closed⟩ := Option.ne_none_iff_exists'.mp someMark
    have shorter : after.length < characters.length :=
      Nat.lt_trans (length_of_cut closed) (length_of_cut opened)
    rw [pieces_of_cut opened closed]
    obtain ⟨rfl, opens⟩ := cut_eq_some_iff.mp opened
    obtain ⟨rfl, closes⟩ := cut_eq_some_iff.mp closed
    have scan := Scan.span opens closes (scan_pieces after)
    simpa only [List.append_assoc] using scan
termination_by characters.length

/-! ### Substituted texts -/

/-- A piece as it stands in the text that is scanned. -/
def Piece.source : Piece → List Char
  | .plain characters => characters
  | .hole content => mark ++ content ++ mark

theorem Scan.flatMap_source {characters : List Char} {list : List Piece}
    (scan : Scan characters list) : list.flatMap Piece.source = characters := by
  induction scan with
  | rest => simp [Piece.source]
  | span _ _ _ inductionHypothesis => simp [Piece.source, inductionHypothesis]

theorem Spanless.append {before rest : List Char} (unmarked : Unmarked before)
    (spanless : Spanless rest) : Spanless (before ++ rest) := by
  refine spanless_iff.mpr fun first after opened => ?_
  rw [cut_append unmarked] at opened
  obtain ⟨⟨start, inside⟩, found, equal⟩ := Option.map_eq_some_iff.mp opened
  cases equal
  exact spanless_iff.mp spanless start inside found

/-- No closed span is left once the spans are filled: neither the text before a span nor the number
in its place starts a mark. -/
theorem Scan.spanless_fill {characters : List Char} {list : List Piece}
    (scan : Scan characters list) (lookup : String → Float) :
    Spanless (list.flatMap (Piece.fill lookup)) := by
  induction scan with
  | rest spanless => simpa [Piece.fill] using spanless
  | @span before content after list opens closes more inductionHypothesis =>
    have number : Unmarked (Piece.fill lookup (.hole content)) :=
      unmarked_of_not_mem (isPlain_numberText _).ne_dollar
    exact (inductionHypothesis.append number).append opens

theorem toList_substitute (lookup : String → Float) (text : String) :
    (substitute lookup text).toList = (pieces text.toList).flatMap (Piece.fill lookup) :=
  String.toList_ofList

theorem pieces_substitute (lookup : String → Float) (text : String) :
    pieces (substitute lookup text).toList = [.plain (substitute lookup text).toList] := by
  refine pieces_of_spanless ?_
  rw [toList_substitute]
  exact (scan_pieces text.toList).spanless_fill lookup

theorem substitute_substitute (first second : String → Float) (text : String) :
    substitute second (substitute first text) = substitute first text := by
  refine String.toList_inj.mp ?_
  rw [toList_substitute second, pieces_substitute]
  exact List.append_nil _

/-- A scan of a text finds one list of pieces, which make up the text; in a substitution the spans
among them are replaced by the numbers of what stands in them, and the other pieces are kept. A
second substitution changes nothing, and puts nothing to its lookup. -/
theorem substitute_scans :
    (∀ (lookup : String → Float) (text : String), ∃ list,
      (∀ other, Scan text.toList other ↔ other = list) ∧
      list.flatMap Piece.source = text.toList ∧
      (substitute lookup text).toList = list.flatMap fun
        | .plain characters => characters
        | .hole content => (numberText (evaluate lookup (String.ofList content))).toList) ∧
    ∀ (first second : String → Float) (text : String),
      substitute second (substitute first text) = substitute first text ∧
        substituteAsked second (substitute first text) = [] := by
  refine ⟨fun lookup text => ?_, fun first second text => ?_⟩
  · have scan := scan_pieces text.toList
    refine ⟨pieces text.toList, fun other => ⟨fun found => found.pieces_eq.symm, ?_⟩,
      scan.flatMap_source, ?_⟩
    · rintro rfl
      exact scan
    · rw [toList_substitute]
      refine List.flatMap_congr fun piece _ => ?_
      cases piece <;> rfl
  · refine ⟨substitute_substitute first second text, ?_⟩
    rw [substituteAsked, pieces_substitute]
    rfl

/-- Of three dollar signs the first two are the mark, and a mark at the end has no partner. -/
example : substitute (fun _ => 7) "a$$$b$$$c$$$$$$$" = "a7$c0$$$" := by decide +kernel

end Questionnaire.Expression

/-
This file says what the tokens of an expression are. An operator character divides an expression:
its tokens are those before it, the operator, and those after it. So operands never follow each
other, each has no blanks around it and no operator in it, and such a list of tokens is what it is
read as when its tokens are written one after the other.
-/
import Mathlib.Data.List.Chain
import Questionnaire.Expression.Token
import Questionnaire.Proofs.Answer

namespace Questionnaire.Expression

/-! ### Well-formed tokens -/

/-- Whether a text can be an operand: it has something in it, no blanks around it, and no operator
character. -/
structure IsOperand (text : String) : Prop where
  filled : text ≠ ""
  trimmed : Text.trim text = text
  free : ∀ character ∈ text.toList, Operator.ofChar? character = none

theorem isOperand_iff {text : String} :
    (text != "" && Text.trim text == text &&
        text.toList.all fun character => (Operator.ofChar? character).isNone) = true ↔
      IsOperand text := by
  simp only [Bool.and_eq_true, bne_iff_ne, beq_iff_eq, List.all_eq_true, Option.isNone_iff_eq_none]
  exact ⟨fun ⟨⟨filled, trimmed⟩, free⟩ => ⟨filled, trimmed, free⟩,
    fun operand => ⟨⟨operand.filled, operand.trimmed⟩, operand.free⟩⟩

instance : DecidablePred IsOperand := fun _ => decidable_of_iff _ isOperand_iff

/-- Whether two tokens can follow each other, which two operands cannot. -/
def Token.Apart : Token → Token → Prop
  | .operand _, .operand _ => False
  | _, _ => True

/-- Whether all operands of a list of tokens can be operands, and no two follow each other. -/
structure WellFormed (list : List Token) : Prop where
  operands : ∀ text, .operand text ∈ list → IsOperand text
  apart : list.IsChain Token.Apart

/-- A token as it is written; an operator is written in its own character. -/
def Token.written : Token → List Char
  | .operand text => text.toList
  | .operator sign => [sign.symbol]

/-- The expression in which tokens are written one after the other. -/
def render (list : List Token) : String := String.ofList (list.flatMap Token.written)

theorem apart_operator_left (operator : Operator) (token : Token) :
    Token.Apart (.operator operator) token := by
  cases token <;> trivial

theorem apart_operator_right (token : Token) (operator : Operator) :
    Token.Apart token (.operator operator) := by
  cases token <;> trivial

/-! ### Stretches between operators -/

theorem operandTokens_of_blank {stretch : List Char} (blank : Text.trimList stretch = []) :
    operandTokens stretch = [] := by
  rw [operandTokens, blank]

theorem operandTokens_of_filled {stretch : List Char} (filled : Text.trimList stretch ≠ []) :
    operandTokens stretch = [.operand (String.ofList (Text.trimList stretch))] := by
  unfold operandTokens
  split
  next blank => exact absurd blank filled
  next => rfl

theorem IsOperand.trimList_toList {text : String} (operand : IsOperand text) :
    Text.trimList text.toList = text.toList := by
  rw [← Text.toList_trim, operand.trimmed]

/-- A stretch that is an operand but for blanks around it is the token of the operand. -/
theorem operandTokens_of_trimList {text : String} (operand : IsOperand text) {stretch : List Char}
    (trimmed : Text.trimList stretch = text.toList) : operandTokens stretch = [.operand text] := by
  have filled : Text.trimList stretch ≠ [] := by
    rw [trimmed]
    exact fun empty => operand.filled (String.toList_eq_nil_iff.mp empty)
  rw [operandTokens_of_filled filled, trimmed, String.ofList_toList]

theorem mem_of_mem_trimList {stretch : List Char} {character : Char}
    (member : character ∈ Text.trimList stretch) : character ∈ stretch :=
  (List.dropWhile_suffix _).mem ((List.rdropWhile_prefix Text.isBlank _).mem member)

/-- A stretch without operators gives one operand at most. -/
theorem operandTokens_cases {stretch : List Char}
    (free : ∀ character ∈ stretch, Operator.ofChar? character = none) :
    operandTokens stretch = [] ∨
      ∃ text, IsOperand text ∧ operandTokens stretch = [.operand text] := by
  by_cases blank : Text.trimList stretch = []
  · exact .inl (operandTokens_of_blank blank)
  · refine .inr ⟨_, ⟨fun empty => blank (String.ofList_eq_empty_iff.mp empty), ?_, ?_⟩,
      operandTokens_of_filled blank⟩
    · rw [Text.trim, String.toList_ofList, Text.trimList_trimList]
    · rw [String.toList_ofList]
      exact fun character member => free character (mem_of_mem_trimList member)

/-! ### Division at operators -/

/-- Characters without operators are taken into the stretch. -/
theorem tokensAfter_free_append {before : List Char}
    (free : ∀ character ∈ before, Operator.ofChar? character = none) (stretch after : List Char) :
    tokensAfter stretch (before ++ after) = tokensAfter (stretch ++ before) after := by
  induction before generalizing stretch with
  | nil => rw [List.nil_append, List.append_nil]
  | cons character before inductionHypothesis =>
    obtain ⟨first, others⟩ := List.forall_mem_cons.mp free
    rw [List.cons_append, tokensAfter, first]
    simp only
    rw [inductionHypothesis others, List.append_assoc, List.singleton_append]

/-- An operator character ends what stands before it, and what comes after it starts anew. -/
theorem tokensAfter_append {symbol : Char} {operator : Operator}
    (isSymbol : Operator.ofChar? symbol = some operator) (stretch before after : List Char) :
    tokensAfter stretch (before ++ symbol :: after) =
      tokensAfter stretch before ++ .operator operator :: tokensAfter [] after := by
  induction before generalizing stretch with
  | nil => simp only [List.nil_append, tokensAfter, isSymbol]
  | cons character before inductionHypothesis =>
    rw [List.cons_append]
    cases kind : Operator.ofChar? character with
    | none => simp only [tokensAfter, kind, inductionHypothesis]
    | some other => simp only [tokensAfter, kind, inductionHypothesis, List.append_assoc,
        List.cons_append]

theorem tokens_append {symbol : Char} {operator : Operator}
    (isSymbol : Operator.ofChar? symbol = some operator) (before after : String) :
    tokens (before ++ String.singleton symbol ++ after) =
      tokens before ++ .operator operator :: tokens after := by
  simp only [tokens, String.toList_append, String.toList_singleton, List.append_assoc,
    List.singleton_append]
  exact tokensAfter_append isSymbol [] before.toList after.toList

/-! ### The tokens of an expression -/

theorem wellFormed_append {first : List Token} (operator : Operator) {rest : List Token}
    (firstFormed : WellFormed first) (restFormed : WellFormed rest) :
    WellFormed (first ++ .operator operator :: rest) where
  operands text member := by
    rcases List.mem_append.mp member with inFirst | inRest
    · exact firstFormed.operands text inFirst
    · rcases List.mem_cons.mp inRest with isOperator | inRest
      · cases isOperator
      · exact restFormed.operands text inRest
  apart := by
    refine List.isChain_append.mpr ⟨firstFormed.apart, List.isChain_cons.mpr
      ⟨fun token _ => apart_operator_left operator token, restFormed.apart⟩, ?_⟩
    rintro last - _ ⟨⟩
    exact apart_operator_right last operator

theorem wellFormed_operandTokens {stretch : List Char}
    (free : ∀ character ∈ stretch, Operator.ofChar? character = none) :
    WellFormed (operandTokens stretch) := by
  rcases operandTokens_cases free with nothing | ⟨text, operand, one⟩
  · rw [nothing]
    exact ⟨nofun, .nil⟩
  · rw [one]
    refine ⟨fun other member => ?_, .singleton _⟩
    cases List.mem_singleton.mp member
    exact operand

/-- The stretch before the characters that are still to be read stays free of operators, since an
operator character empties it. -/
theorem wellFormed_tokensAfter (characters : List Char) {stretch : List Char}
    (free : ∀ character ∈ stretch, Operator.ofChar? character = none) :
    WellFormed (tokensAfter stretch characters) := by
  induction characters generalizing stretch with
  | nil => exact wellFormed_operandTokens free
  | cons character characters inductionHypothesis =>
    cases kind : Operator.ofChar? character with
    | none =>
      simp only [tokensAfter, kind]
      exact inductionHypothesis
        (List.forall_mem_append.mpr ⟨free, List.forall_mem_singleton.mpr kind⟩)
    | some operator =>
      simp only [tokensAfter, kind]
      exact wellFormed_append operator (wellFormed_operandTokens free) (inductionHypothesis nofun)

theorem tokensAfter_operator (operator : Operator) (characters : List Char) :
    tokensAfter [] (operator.symbol :: characters) =
      .operator operator :: tokensAfter [] characters :=
  tokensAfter_append operator.ofChar?_symbol [] [] characters

theorem tokensAfter_operand {text : String} (operand : IsOperand text) :
    tokensAfter [] text.toList = [.operand text] := by
  have read := tokensAfter_free_append operand.free [] []
  rw [List.append_nil, List.nil_append, tokensAfter,
    operandTokens_of_trimList operand operand.trimList_toList] at read
  exact read

/-- What is written is read back: an operand goes on to the operator after it, and no further. -/
theorem tokensAfter_written {list : List Token} (formed : WellFormed list) :
    tokensAfter [] (list.flatMap Token.written) = list := by
  induction list with
  | nil => rfl
  | cons token list inductionHypothesis =>
    have others := inductionHypothesis
      ⟨fun text member => formed.operands text (List.mem_cons_of_mem _ member),
        formed.apart.tail⟩
    rw [List.flatMap_cons]
    cases token with
    | operator operator => exact (tokensAfter_operator operator _).trans (congrArg _ others)
    | operand text =>
      have first := tokensAfter_operand (formed.operands text List.mem_cons_self)
      cases list with
      | nil => rw [List.flatMap_nil, List.append_nil]; exact first
      | cons next list =>
        cases next with
        | operand other => exact (List.isChain_cons_cons.mp formed.apart).1.elim
        | operator operator =>
          have rest : tokensAfter [] (list.flatMap Token.written) = list :=
            (List.cons.inj ((tokensAfter_operator operator _).symm.trans others)).2
          have divided := tokensAfter_append operator.ofChar?_symbol [] text.toList
            (list.flatMap Token.written)
          rw [first, rest] at divided
          exact divided

theorem tokens_render {list : List Token} (formed : WellFormed list) :
    tokens (render list) = list := by
  rw [tokens, render, String.toList_ofList, tokensAfter_written formed]

/-- An operator character divides the tokens of an expression, whatever stands around it; the tokens
of every expression are well-formed; and well-formed tokens are those of the expression in which
they are written one after the other. -/
theorem tokens_divide :
    (∀ (before after : String) (symbol : Char) (operator : Operator),
      Operator.ofChar? symbol = some operator →
        tokens (before ++ String.singleton symbol ++ after) =
          tokens before ++ .operator operator :: tokens after) ∧
    (∀ expression, WellFormed (tokens expression)) ∧
    ∀ list, WellFormed list → tokens (render list) = list :=
  ⟨fun before after _ _ isSymbol => tokens_append isSymbol before after,
    fun expression => wellFormed_tokensAfter expression.toList nofun,
    fun _ formed => tokens_render formed⟩

/-- The long minus divides like the short one, and blanks are kept inside of an operand only. -/
theorem tokens_divide_income :
    let written : List Token :=
      [.operator .subtract, .operand "net income", .operator .divide, .operator .subtract,
        .operand "7"]
    tokens ("\u2003net income " ++ String.singleton '−' ++ "\t−tax") =
        tokens "\u2003net income " ++ .operator .subtract :: tokens "\t−tax" ∧
      tokens "\u2003net income " = [.operand "net income"] ∧
      render written = "-net income/-7" ∧ tokens "-net income/-7" = written := by
  intro written
  obtain ⟨divides, -, readsBack⟩ := tokens_divide
  have isOperand : ∀ text ∈ ["net income", "7"], IsOperand text :=
    List.forall_mem_cons.mpr ⟨by decide +kernel, List.forall_mem_singleton.mpr (by decide +kernel)⟩
  have formed : WellFormed written :=
    ⟨fun text member => isOperand text (by simpa [written] using member), by
      simp [written, Token.Apart]⟩
  have spelled : render written = "-net income/-7" := by decide +kernel
  exact ⟨divides _ _ _ _ rfl, by decide +kernel, spelled, spelled ▸ readsBack written formed⟩

end Questionnaire.Expression

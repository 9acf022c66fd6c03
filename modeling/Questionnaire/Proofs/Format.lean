/-
This file proves that a form is read back from what it is written as. Every record is read back by
the members it is written with; where a field is left out, the blank record holds what was left
out. Operators and comparisons are read in several spellings and written in one. Of the thresholds
it is asked that they are finite, since nothing else has a number, and for the text of a form also
that their numbers are read back.
-/
import Questionnaire.Form.Decode
import Questionnaire.Proofs.Record

namespace Questionnaire

open Json

/-! ### Words -/

theorem TargetKind.decode_word (kind : TargetKind) : decode (.text kind.word) = .ok kind := by
  cases kind <;> exact asVariant_text rfl

theorem QuestionKind.decode_label (kind : QuestionKind) : decode (.text kind.label) = .ok kind := by
  cases kind <;> exact asVariant_text rfl

theorem Comparison.decode_symbol (comparison : Comparison) :
    decode (.text comparison.symbol) = .ok comparison := by
  cases comparison <;> exact asVariant_text rfl

theorem Expression.Operator.decode_symbol (operator : Expression.Operator) :
    decode (.text (String.ofList [operator.symbol])) = .ok operator := by
  cases operator <;> exact asVariant_text rfl

/-! ### Rules -/

theorem Condition.decode_encode (condition : Condition) :
    decode condition.encode = .ok condition := by
  have writes := (Writes.start slots ⟨"", ""⟩)
    |>.member "answer" ⟨_, rfl⟩ (asText_text condition.answer)
    |>.member "question" ⟨_, rfl⟩ (asText_text condition.question)
  exact asRecord_of_writes _ writes (by decide) (by simp [slots, Slot.required]) rfl

theorem VisibilityLogic.decode_encode (logic : VisibilityLogic) :
    decode logic.encode = .ok logic := by
  have decodes : asList Condition.decode (.array (logic.conditions.map Condition.encode)) =
      .ok logic.conditions := decodeAll_map fun condition _ => condition.decode_encode
  have writes := (Writes.start slots ⟨[]⟩)
    |>.member "conditions" ⟨_, rfl⟩ decodes
  exact asRecord_of_writes _ writes (by decide) (by simp [slots, Slot.defaulted]) rfl

/-- A number is no word: a jump target is read as the kind of target it was. -/
theorem JumpTarget.decode_encode (target : JumpTarget) : decode target.encode = .ok target := by
  cases target with
  | «section» id =>
    have small := id.toNat_lt_size
    rw [encode, Json.nat, decode, if_pos ⟨Int.natCast_nonneg _, by omega⟩, Int.toNat_natCast,
      UInt32.ofNat_toNat]
  | marker text => rfl

theorem Jump.decode_encode (jump : Jump) : decode jump.encode = .ok jump := by
  have writes := (Writes.start slots ⟨"", .marker ""⟩)
    |>.member "target" ⟨_, rfl⟩ jump.target.decode_encode
    |>.member "trigger" ⟨_, rfl⟩ (asText_text jump.trigger)
  exact asRecord_of_writes _ writes (by decide) (by simp [slots, Slot.required]) rfl

theorem Term.decode_encode (term : Term) : decode term.encode = .ok term := by
  have group : memberIfSome "op" (term.operator.map fun operator =>
      String.ofList [operator.symbol]) =
      (term.operator.map fun operator =>
        ("op", Json.text (String.ofList [operator.symbol]))).toList := by
    cases term.operator <;> rfl
  have writes := (Writes.start slots ⟨none, ""⟩)
    |>.member "field" ⟨_, rfl⟩ (asText_text term.field)
    |>.optional "op" ⟨_, rfl⟩ (fun operator => .text (String.ofList [operator.symbol]))
      term.operator (fun operator _ => ⟨nofun, operator.decode_symbol⟩) rfl
  rw [← group] at writes
  exact asRecord_of_writes _ writes (by decide) (by simp [slots, Slot.required, Slot.defaulted])
    rfl

theorem Outcome.decode_encode (outcome : Outcome) : decode outcome.encode = .ok outcome := by
  cases outcome <;> rfl

theorem Calculation.decode_encode (calculation : Calculation)
    (finite : calculation.threshold.isFinite = true) :
    decode calculation.encode = .ok calculation := by
  have decodes : asList Term.decode (.array (calculation.terms.map Term.encode)) =
      .ok calculation.terms := decodeAll_map fun term _ => term.decode_encode
  have writes := (Writes.start slots blank)
    |>.member "compare" ⟨_, rfl⟩ calculation.comparison.decode_symbol
    |>.member "outcome" ⟨_, rfl⟩ calculation.outcome.decode_encode
    |>.text "target" ⟨_, rfl⟩ calculation.target rfl
    |>.member "target_kind" ⟨_, rfl⟩ calculation.targetKind.decode_word
    |>.member "terms" ⟨_, rfl⟩ decodes
    |>.member "threshold" ⟨_, rfl⟩ (asFloat_ofFloat finite)
  have all := writes.regroup ((List.append_assoc _ _ _).trans (List.append_assoc _ _ _))
  exact asRecord_of_writes _ all (by decide) (by simp [slots, Slot.required, Slot.defaulted])
    rfl

/-! ### Questions -/

theorem Choice.decode_encode (choice : Choice) : decode choice.encode = .ok choice := by
  have writes := (Writes.start slots ⟨"", none, false, false⟩)
    |>.flag "amount" ⟨_, rfl⟩ choice.amount rfl
    |>.flag "exclusive" ⟨_, rfl⟩ choice.exclusive rfl
    |>.member "label" ⟨_, rfl⟩ (asText_text choice.label)
    |>.text "name" ⟨_, rfl⟩ choice.name rfl
  exact asRecord_of_writes _ writes (by decide) (by simp [slots, Slot.required, Slot.defaulted])
    rfl

theorem NumberRange.decode_encode (range : NumberRange) : decode range.encode = .ok range := by
  have writes := (Writes.start slots ⟨0, 0⟩)
    |>.member "max" ⟨_, rfl⟩ (asInt64_integer range.greatest)
    |>.member "min" ⟨_, rfl⟩ (asInt64_integer range.least)
  exact asRecord_of_writes _ writes (by decide) (by simp [slots, Slot.required]) rfl

theorem Question.decode_encode (question : Question)
    (finite : ∀ calculation ∈ question.calculations, calculation.threshold.isFinite = true) :
    decode question.encode = .ok question := by
  have writes := (Writes.start slots blank)
    |>.text "default_value" ⟨_, rfl⟩ question.preset rfl
    |>.text "description" ⟨_, rfl⟩ question.description rfl
    |>.member "id" ⟨_, rfl⟩ (asText_text question.id)
    |>.list "jump" ⟨_, rfl⟩ question.jumps (fun jump _ => jump.decode_encode) rfl
    |>.optional "logic" ⟨_, rfl⟩ VisibilityLogic.encode question.logic
      (fun logic _ => ⟨nofun, logic.decode_encode⟩) rfl
    |>.list "options" ⟨_, rfl⟩ question.options (fun choice _ => choice.decode_encode) rfl
    |>.list "pdf_logic" ⟨_, rfl⟩ question.calculations
      (fun calculation member => calculation.decode_encode (finite calculation member)) rfl
    |>.optional "range" ⟨_, rfl⟩ NumberRange.encode question.range
      (fun range _ => ⟨nofun, range.decode_encode⟩) rfl
    |>.member "text" ⟨_, rfl⟩ (asText_text question.text)
    |>.member "type" ⟨_, rfl⟩ question.kind.decode_label
  have all := writes.regroup (List.append_assoc _ _ _)
  exact asRecord_of_writes _ all (by decide) (by simp [slots, Slot.required, Slot.defaulted])
    rfl

/-! ### Forms -/

theorem FormSection.decode_encode (part : FormSection)
    (finite : ∀ question ∈ part.questions, ∀ calculation ∈ question.calculations,
      calculation.threshold.isFinite = true) :
    decode part.encode = .ok part := by
  have decodes : asList Question.decode (.array (part.questions.map Question.encode)) =
      .ok part.questions :=
    decodeAll_map fun question member => question.decode_encode (finite question member)
  have writes := (Writes.start slots ⟨0, "", []⟩)
    |>.member "id" ⟨_, rfl⟩ (asWord32_nat part.id)
    |>.member "name" ⟨_, rfl⟩ (asText_text part.name)
    |>.member "questions" ⟨_, rfl⟩ decodes
  exact asRecord_of_writes _ writes (by decide) (by simp [slots, Slot.required, Slot.defaulted])
    rfl

theorem HiddenField.decode_encode (field : HiddenField)
    (finite : ∀ calculation ∈ field.calculations, calculation.threshold.isFinite = true) :
    decode field.encode = .ok field := by
  have writes := (Writes.start slots ⟨"", .text, none, []⟩)
    |>.text "default_value" ⟨_, rfl⟩ field.preset rfl
    |>.list "hidden_logic" ⟨_, rfl⟩ field.calculations
      (fun calculation member => calculation.decode_encode (finite calculation member)) rfl
    |>.member "kind" ⟨_, rfl⟩ field.kind.decode_word
    |>.member "name" ⟨_, rfl⟩ (asText_text field.name)
  have all := writes.regroup (List.append_assoc _ _ _)
  exact asRecord_of_writes _ all (by decide) (by simp [slots, Slot.required, Slot.defaulted])
    rfl

theorem Link.decode_encode (link : Link) : decode link.encode = .ok link := by
  have writes := (Writes.start slots ⟨"", ""⟩)
    |>.member "a" ⟨_, rfl⟩ (asText_text link.first)
    |>.member "b" ⟨_, rfl⟩ (asText_text link.second)
  exact asRecord_of_writes _ writes (by decide) (by simp [slots, Slot.required]) rfl

/-- The thresholds of all calculations of a form. -/
def Form.thresholds (form : Form) : List Float :=
  (form.sections.flatMap fun part => part.questions.flatMap fun question =>
    question.calculations.map (·.threshold)) ++
  form.hiddenFields.flatMap fun field => field.calculations.map (·.threshold)

/-- Something holds of all thresholds of a form if it holds of those in its sections and in its
hidden fields. -/
theorem Form.forall_thresholds (form : Form) (property : Float → Prop) :
    (∀ threshold ∈ form.thresholds, property threshold) ↔
      (∀ part ∈ form.sections, ∀ question ∈ part.questions,
        ∀ calculation ∈ question.calculations, property calculation.threshold) ∧
      ∀ field ∈ form.hiddenFields, ∀ calculation ∈ field.calculations,
        property calculation.threshold := by
  simp only [thresholds, List.mem_append, List.mem_flatMap, List.mem_map]
  grind

/-- Whether all thresholds of a form are finite. -/
def Form.IsFinite (form : Form) : Prop :=
  ∀ threshold ∈ form.thresholds, threshold.isFinite = true

/-- A form with finite thresholds is read back from the value it is written as. -/
theorem Form.decode_encode (form : Form) (finite : form.IsFinite) :
    decode form.encode = .ok form := by
  obtain ⟨inSections, inFields⟩ := (form.forall_thresholds _).mp finite
  have decodes : asList FormSection.decode (.array (form.sections.map FormSection.encode)) =
      .ok form.sections :=
    decodeAll_map fun part member => part.decode_encode (inSections part member)
  have writes := (Writes.start slots ⟨"", "", none, [], [], []⟩)
    |>.text "description" ⟨_, rfl⟩ form.description rfl
    |>.list "hidden_fields" ⟨_, rfl⟩ form.hiddenFields
      (fun field member => field.decode_encode (inFields field member)) rfl
    |>.member "id" ⟨_, rfl⟩ (asText_text form.id)
    |>.list "linking" ⟨_, rfl⟩ form.links (fun link _ => link.decode_encode) rfl
    |>.member "sections" ⟨_, rfl⟩ decodes
    |>.member "title" ⟨_, rfl⟩ (asText_text form.title)
  have all := writes.regroup (List.append_assoc _ _ _)
  exact asRecord_of_writes _ all (by decide) (by simp [slots, Slot.required, Slot.defaulted])
    rfl

/-! ### The text of a form -/

variable {levels : Nat}

theorem Condition.printable (condition : Condition) : Printable (levels + 1) condition.encode :=
  .object (printable_cons (.text _) (printable_cons (.text _) printable_nil))

theorem VisibilityLogic.printable (logic : VisibilityLogic) :
    Printable (levels + 3) logic.encode :=
  .object (printable_cons (printable_array fun condition _ => condition.printable) printable_nil)

theorem JumpTarget.printable (target : JumpTarget) : Printable levels target.encode := by
  cases target with
  | «section» id => exact printable_word id
  | marker text => exact .text text

theorem Jump.printable (jump : Jump) : Printable (levels + 1) jump.encode :=
  .object (printable_cons jump.target.printable (printable_cons (.text _) printable_nil))

theorem Term.printable (term : Term) : Printable (levels + 1) term.encode :=
  .object (printable_cons (.text _) (printable_memberIfSome "op" _))

theorem Outcome.printable (outcome : Outcome) : Printable (levels + 1) outcome.encode := by
  cases outcome with
  | checked => exact .object (printable_cons (.text _) printable_nil)
  | unchecked => exact .object (printable_cons (.text _) printable_nil)
  | text value => exact .object (printable_cons (.text _) (printable_cons (.text _) printable_nil))

theorem Calculation.printable {calculation : Calculation}
    (exact : (Number.float calculation.threshold).IsExact) :
    Printable (levels + 3) calculation.encode :=
  .object
    (printable_append
      (printable_append
        (printable_cons (.text _) (printable_cons calculation.outcome.printable printable_nil))
        (printable_memberIfSome "target" _))
      (printable_cons (.text _)
        (printable_cons (printable_array fun term _ => term.printable)
          (printable_cons (printable_float exact) printable_nil))))

theorem Choice.printable (choice : Choice) : Printable (levels + 1) choice.encode :=
  .object
    (printable_append
      (printable_append
        (printable_append (printable_memberIfTrue "amount" _)
          (printable_memberIfTrue "exclusive" _))
        (printable_cons (.text _) printable_nil))
      (printable_memberIfSome "name" _))

theorem NumberRange.printable (range : NumberRange) : Printable (levels + 1) range.encode :=
  .object (printable_cons (printable_int64 _) (printable_cons (printable_int64 _) printable_nil))

theorem Question.printable {question : Question}
    (exact : ∀ calculation ∈ question.calculations,
      (Number.float calculation.threshold).IsExact) :
    Printable (levels + 5) question.encode := by
  refine .object ?_
  refine printable_append ?_ (printable_cons (.text _) (printable_cons (.text _) printable_nil))
  refine printable_append ?_ (printable_optional "range" _ fun range => range.printable)
  refine printable_append ?_ (printable_memberIfAny "pdf_logic" fun calculation member =>
    Calculation.printable (exact calculation member))
  refine printable_append ?_ (printable_memberIfAny "options" fun choice _ => choice.printable)
  refine printable_append ?_ (printable_optional "logic" _ fun logic => logic.printable)
  refine printable_append ?_ (printable_memberIfAny "jump" fun jump _ => jump.printable)
  refine printable_append ?_ (printable_cons (.text _) printable_nil)
  exact printable_append (printable_memberIfSome "default_value" _)
    (printable_memberIfSome "description" _)

theorem FormSection.printable {part : FormSection}
    (exact : ∀ question ∈ part.questions, ∀ calculation ∈ question.calculations,
      (Number.float calculation.threshold).IsExact) :
    Printable (levels + 7) part.encode :=
  .object (printable_cons (printable_word _) (printable_cons (.text _) (printable_cons
    (printable_array fun question member => Question.printable (exact question member))
    printable_nil)))

theorem HiddenField.printable {field : HiddenField}
    (exact : ∀ calculation ∈ field.calculations, (Number.float calculation.threshold).IsExact) :
    Printable (levels + 5) field.encode :=
  .object
    (printable_append
      (printable_append (printable_memberIfSome "default_value" _)
        (printable_memberIfAny "hidden_logic" fun calculation member =>
          Calculation.printable (exact calculation member)))
      (printable_cons (.text _) (printable_cons (.text _) printable_nil)))

theorem Link.printable (link : Link) : Printable (levels + 1) link.encode :=
  .object (printable_cons (.text _) (printable_cons (.text _) printable_nil))

/-- Whether the numbers of all thresholds of a form are read back. -/
def Form.IsExact (form : Form) : Prop :=
  ∀ threshold ∈ form.thresholds, (Number.float threshold).IsExact

theorem Form.printable {form : Form} (exact : form.IsExact) :
    Printable (levels + 9) form.encode := by
  obtain ⟨inSections, inFields⟩ := (form.forall_thresholds _).mp exact
  refine .object ?_
  refine printable_append ?_ (printable_cons (printable_array fun part member =>
    FormSection.printable (inSections part member)) (printable_cons (.text _) printable_nil))
  refine printable_append ?_ (printable_memberIfAny "linking" fun link _ => link.printable)
  refine printable_append ?_ (printable_cons (.text _) printable_nil)
  exact printable_append (printable_memberIfSome "description" _)
    (printable_memberIfAny "hidden_fields" fun field member =>
      HiddenField.printable (inFields field member))

/-! ### Thresholds of forms that were read -/

theorem Calculation.isFinite_of_decode {value : Json} {calculation : Calculation}
    (finite : value.Finite) (decoded : decode value = .ok calculation) :
    calculation.threshold.isFinite = true := by
  let invariant (calculation : Calculation) : Prop := calculation.threshold.isFinite = true
  have keeps : ∀ slot ∈ slots, Slot.Keeps invariant slot := by
    simp only [slots, List.forall_mem_cons]
    refine ⟨?_, ?_, ?_, ?_, Slot.keeps_of_put isFinite_asFloat fun read _ => read, ?_,
      List.forall_mem_nil _⟩ <;> exact Slot.keeps_apart fun _ _ holds => holds
  exact asRecord_keeps invariant keeps (by decide +kernel) finite decoded

theorem Question.isFinite_of_decode {value : Json} {question : Question}
    (finite : value.Finite) (decoded : decode value = .ok question) :
    ∀ calculation ∈ question.calculations, calculation.threshold.isFinite = true := by
  let invariant (question : Question) : Prop :=
    ∀ calculation ∈ question.calculations, calculation.threshold.isFinite = true
  have keeps : ∀ slot ∈ slots, Slot.Keeps invariant slot := by
    simp only [slots, List.forall_mem_cons]
    refine ⟨?_, ?_, ?_, ?_, ?_, ?_, ?_, ?_, ?_, ?calculations, List.forall_mem_nil _⟩
    case calculations =>
      exact Slot.keeps_of_put (forall_of_asList Calculation.isFinite_of_decode) fun read _ => read
    all_goals exact Slot.keeps_apart fun _ _ holds => holds
  exact asRecord_keeps invariant keeps (List.forall_mem_nil _) finite decoded

theorem FormSection.isFinite_of_decode {value : Json} {part : FormSection}
    (finite : value.Finite) (decoded : decode value = .ok part) :
    ∀ question ∈ part.questions, ∀ calculation ∈ question.calculations,
      calculation.threshold.isFinite = true := by
  let invariant (part : FormSection) : Prop :=
    ∀ question ∈ part.questions, ∀ calculation ∈ question.calculations,
      calculation.threshold.isFinite = true
  have keeps : ∀ slot ∈ slots, Slot.Keeps invariant slot := by
    simp only [slots, List.forall_mem_cons]
    refine ⟨?_, ?_, ?questions, List.forall_mem_nil _⟩
    case questions =>
      exact Slot.keeps_of_put (forall_of_asList Question.isFinite_of_decode) fun read _ => read
    all_goals exact Slot.keeps_apart fun _ _ holds => holds
  exact asRecord_keeps invariant keeps (List.forall_mem_nil _) finite decoded

theorem HiddenField.isFinite_of_decode {value : Json} {field : HiddenField}
    (finite : value.Finite) (decoded : decode value = .ok field) :
    ∀ calculation ∈ field.calculations, calculation.threshold.isFinite = true := by
  let invariant (field : HiddenField) : Prop :=
    ∀ calculation ∈ field.calculations, calculation.threshold.isFinite = true
  have keeps : ∀ slot ∈ slots, Slot.Keeps invariant slot := by
    simp only [slots, List.forall_mem_cons]
    refine ⟨?_, ?_, ?_, ?calculations, List.forall_mem_nil _⟩
    case calculations =>
      exact Slot.keeps_of_put (forall_of_asList Calculation.isFinite_of_decode) fun read _ => read
    all_goals exact Slot.keeps_apart fun _ _ holds => holds
  exact asRecord_keeps invariant keeps (List.forall_mem_nil _) finite decoded

/-- A form that was read from finite numbers has finite thresholds. -/
theorem Form.isFinite_of_decode {value : Json} {form : Form} (finite : value.Finite)
    (decoded : decode value = .ok form) : form.IsFinite := by
  let invariant (form : Form) : Prop :=
    (∀ part ∈ form.sections, ∀ question ∈ part.questions,
      ∀ calculation ∈ question.calculations, calculation.threshold.isFinite = true) ∧
    ∀ field ∈ form.hiddenFields, ∀ calculation ∈ field.calculations,
      calculation.threshold.isFinite = true
  have keeps : ∀ slot ∈ slots, Slot.Keeps invariant slot := by
    simp only [slots, List.forall_mem_cons]
    refine ⟨?_, ?_, ?_, ?sections, ?hiddenFields, ?_, List.forall_mem_nil _⟩
    case sections =>
      exact Slot.keeps_of_put (forall_of_asList FormSection.isFinite_of_decode)
        fun read holds => ⟨read, holds.2⟩
    case hiddenFields =>
      exact Slot.keeps_of_put (forall_of_asList HiddenField.isFinite_of_decode)
        fun read holds => ⟨holds.1, read⟩
    all_goals exact Slot.keeps_apart fun _ _ holds => holds
  exact (form.forall_thresholds _).mpr
    (asRecord_keeps invariant keeps ⟨List.forall_mem_nil _, List.forall_mem_nil _⟩ finite decoded)

theorem Form.isFinite_of_ofSource {source : String} {form : Form}
    (read : ofSource source = .ok form) : form.IsFinite := by
  unfold ofSource decodeSource at read
  split at read
  next => cases read
  next value readsValue =>
    split at read
    next content decoded =>
      cases read
      exact isFinite_of_decode (finite_of_read readsValue) decoded
    next => cases read

/-! ### Reading and writing -/

/-- The sign that an operator is written as. -/
def Expression.Operator.sign (operator : Expression.Operator) : String :=
  String.ofList [operator.symbol]

/-- The text of a form, read and written again. -/
def Form.rewrite (source : String) : Except DecodeError String :=
  (ofSource source).map fun form => form.encode.compact

theorem Form.ofSource_encode {form : Form} (finite : form.IsFinite) (exact : form.IsExact) :
    ofSource form.encode.compact = .ok form := by
  have printable : Printable greatestDepth form.encode := form.printable exact
  unfold ofSource decodeSource
  rw [read?_compact printable]
  simp only
  rw [form.decode_encode finite]

/-- A form whose thresholds are finite is read back from its value, and from its text if the
numbers of the thresholds are. Every form that was read from a text is such a form, so writing it
again changes nothing any more. The spellings of operators and comparisons become one: each is
written as a sign that is read as the same one again. -/
theorem Form.format_round_trips :
    (∀ form : Form, form.IsFinite → decode form.encode = .ok form ∧
      (form.IsExact → ofSource form.encode.compact = .ok form)) ∧
    (∀ value form, value.Finite → decode value = .ok form → decode form.encode = .ok form) ∧
    (∀ source form, ofSource source = .ok form → decode form.encode = .ok form ∧
      (form.IsExact → rewrite source = .ok form.encode.compact ∧
        rewrite form.encode.compact = .ok form.encode.compact)) ∧
    (∀ spelling sign,
      (Expression.Operator.decode (.text spelling)).map Expression.Operator.sign = .ok sign ↔
        (spelling, sign) ∈ [("+", "+"), ("-", "-"), ("−", "-"), ("*", "*"), ("x", "*"),
          ("×", "*"), ("/", "/"), ("÷", "/")]) ∧
    (∀ spelling sign, (Comparison.decode (.text spelling)).map Comparison.symbol = .ok sign ↔
      (spelling, sign) ∈ [("=", "="), ("==", "="), ("<", "<"), (">", ">")]) := by
  refine ⟨fun form finite => ⟨form.decode_encode finite, ofSource_encode finite⟩,
    fun value form finite decoded => form.decode_encode (isFinite_of_decode finite decoded),
    fun source form read => ?_, fun spelling sign => ?_, fun spelling sign => ?_⟩
  · have finite := isFinite_of_ofSource read
    refine ⟨form.decode_encode finite, fun exact => ?_⟩
    rw [rewrite, rewrite, read, ofSource_encode finite exact]
    exact ⟨rfl, rfl⟩
  · exact map_variantOf Expression.Operator.sign (by decide) spelling sign
  · exact map_variantOf Comparison.symbol (by decide) spelling sign

/-- A form with sections, hidden fields and links, in which no field is left out everywhere. -/
def Form.survey : Form :=
  let alone : Calculation := ⟨some "alone", .checkbox,
    [⟨none, "cats"⟩, ⟨some .multiply, "dogs"⟩, ⟨some .divide, "birds"⟩], .greater, 0.5, .checked⟩
  ⟨"pets", "Pets", some "About \"pets\"",
    [⟨1, "First",
      [⟨"pets", .checkboxGroup, "Pets", some "All of them",
        [⟨"Cat", none, false, true⟩, ⟨"None", some "none", true, false⟩], none, none,
        some ⟨[⟨"rooms", "2"⟩]⟩, [⟨"Cat", .section 2⟩, ⟨"None", .marker "end"⟩], [alone]⟩,
      ⟨"rooms", .numberedDropdown, "Rooms", none, [], some ⟨-1, 12⟩, some "2", none, [], []⟩]⟩,
    ⟨2, "Second", []⟩],
    [⟨"total", .text, some "0", [{ alone with target := none, outcome := .text "##total##" }]⟩],
    [⟨"pets", "rooms"⟩]⟩

theorem Form.format_round_trips_of_survey :
    decode survey.encode = .ok survey ∧ ofSource survey.encode.compact = .ok survey ∧
    rewrite survey.encode.compact = .ok survey.encode.compact ∧
    (Expression.Operator.decode (.text "×")).map Expression.Operator.sign = .ok "*" ∧
    (Comparison.decode (.text "==")).map Comparison.symbol = .ok "=" := by
  have finite : survey.IsFinite := by
    unfold IsFinite
    decide +kernel
  have exact : survey.IsExact := by
    have half : (Number.float 0.5).IsExact := rfl
    have same : ∀ threshold ∈ survey.thresholds, threshold = 0.5 := by decide +kernel
    exact fun threshold member => same threshold member ▸ half
  obtain ⟨forms, values, sources, operators, comparisons⟩ := format_round_trips
  have read := (forms survey finite).2 exact
  have finiteValue : survey.encode.Finite := finite_of_read (read?_compact (survey.printable exact))
  exact ⟨values survey.encode survey finiteValue (forms survey finite).1, read,
    ((sources survey.encode.compact survey read).2 exact).2, (operators "×" "*").mpr (by decide),
    (comparisons "==" "=").mpr (by decide)⟩

end Questionnaire

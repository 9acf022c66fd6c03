/-
This file proves what the members of an object make of a record. Members that are written one group
after the other are read one group after the other: a field that is there gets its content, a field
that is left out keeps that of the blank record, and no name comes twice. So a record is read back
if every member of it is read back and no field that has to be there is left out. What is read from
finite numbers keeps whatever each field keeps.
-/
import Mathlib.Data.List.Nodup
import Questionnaire.Form.Encode
import Questionnaire.Json.Decode
import Questionnaire.Proofs.Finite

namespace Questionnaire.Json

variable {σ α : Type} {slots : List (Slot σ)} {names : List String}
  {members : List (String × Json)} {before record : σ}

/-! ### Plain values -/

theorem asText_text (content : String) : asText (.text content) = .ok content := rfl

/-- A variant is read from its word if the word stands for no other one before it. -/
theorem asVariant_text {α : Type} {known : List (String × α)} {word : String} {variant : α}
    (found : known.find? (fun entry => entry.1 == word) = some (word, variant)) :
    asVariant known (.text word) = .ok variant := by
  show variantOf known word = _
  rw [variantOf, found]

/-- What the variants are written as that names are read as. -/
theorem map_variantOf {α : Type} {known : List (String × α)} (write : α → String)
    (different : (known.map (·.1)).Nodup) (name word : String) :
    (variantOf known name).map write = .ok word ↔
      (name, word) ∈ known.map fun entry => (entry.1, write entry.2) := by
  rw [variantOf]
  constructor
  · intro written
    split at written
    next entry found =>
      cases written
      have named : entry.1 = name := by simpa using List.find?_some found
      exact List.mem_map.mpr ⟨entry, List.mem_of_find?_eq_some found, by rw [named]⟩
    next => cases written
  · intro member
    obtain ⟨entry, isEntry, equal⟩ := List.mem_map.mp member
    cases equal
    split
    next other found =>
      have named : other.1 = entry.1 := by simpa using List.find?_some found
      rw [List.inj_on_of_nodup_map different (List.mem_of_find?_eq_some found) isEntry named]
      rfl
    next missing =>
      exact absurd (List.find?_eq_none.mp missing entry isEntry) (by simp)

theorem asWord32_nat (word : UInt32) : asWord32 (.nat word.toNat) = .ok word := by
  have small := word.toNat_lt_size
  rw [Json.nat, asWord32, if_pos ⟨Int.natCast_nonneg _, by omega⟩, Int.toNat_natCast,
    UInt32.ofNat_toNat]

theorem asInt64_integer (value : Int64) :
    asInt64 (.number (.integer value.toInt)) = .ok value := by
  rw [asInt64, if_pos ⟨Int64.minValue_le_toInt value, Int64.toInt_le value⟩, Int64.ofInt_toInt]

theorem asFloat_ofFloat {value : Float} (finite : value.isFinite = true) :
    asFloat (ofFloat value) = .ok value := by
  rw [ofFloat, if_pos finite]
  rfl

/-! ### Lists and options -/

/-- Elements are decoded to what each of them is the encoding of. -/
theorem decodeAll_map {encode : α → Json} {decode : Decoder α} {values : List α}
    (each : ∀ value ∈ values, decode (encode value) = .ok value) :
    decodeAll decode (values.map encode) = .ok values := by
  induction values with
  | nil => rfl
  | cons value values inductionHypothesis =>
    obtain ⟨head, tail⟩ := List.forall_mem_cons.mp each
    rw [List.map_cons, decodeAll, head, inductionHypothesis tail]
    rfl

theorem asOption_of_ne_null {decode : Decoder α} {value : Json} {content : α}
    (notNull : value ≠ .null) (decodes : decode value = .ok content) :
    asOption decode value = .ok (some content) := by
  unfold asOption
  split
  next => exact absurd rfl notNull
  next => rw [decodes]; rfl

/-! ### Groups of members -/

theorem fillMembers_append (slots : List (Slot σ)) (first second : List (String × Json))
    (seen : List String) (record : σ) :
    fillMembers slots (first ++ second) seen record =
      (fillMembers slots first seen record).bind fun (seen, record) =>
        fillMembers slots second seen record := by
  induction first generalizing seen record with
  | nil => rfl
  | cons member first inductionHypothesis =>
    obtain ⟨name, value⟩ := member
    rw [List.cons_append, fillMembers, fillMembers]
    split
    next => exact inductionHypothesis seen record
    next slot _ =>
      split
      · rfl
      · cases slot.fill value record with
        | error reason => rfl
        | ok record => exact inductionHypothesis (name :: seen) record

/-- Members whose names are some of the given ones, and what they change about the record that was
there before them. -/
structure Writes (slots : List (Slot σ)) (names : List String) (members : List (String × Json))
    (before : σ) (change : σ → σ) : Prop where
  sublist : (members.map (·.1)).Sublist names
  fills : ∀ seen, names.Nodup → (∀ name ∈ names, name ∉ seen) →
    fillMembers slots members seen before =
      .ok ((members.map (·.1)).reverse ++ seen, change before)

/-- The same members, put together in another way. -/
theorem Writes.regroup {before : σ} {change : σ → σ} {regrouped : List (String × Json)}
    (writes : Writes slots names members before change) (same : members = regrouped) :
    Writes slots names regrouped before change :=
  same ▸ writes

/-- No members leave the record as it is. -/
theorem Writes.start (slots : List (Slot σ)) (record : σ) : Writes slots [] [] record id :=
  ⟨List.nil_sublist _, fun _ _ _ => rfl⟩

/-- The field of a name, as it is found among the fields. -/
def IsSlot (slots : List (Slot σ)) (name : String) (decode : Decoder α) (put : α → σ → σ) : Prop :=
  ∃ optional, slots.find? (fun slot => slot.name == name) =
    some ⟨name, optional, fun value record => (decode value).map fun content => put content record⟩

variable {change : σ → σ} (writes : Writes slots names members before change) (name : String)

include writes

/-- A field that is left out after other members, where it holds what its absence means. -/
theorem Writes.nothing {put : σ → σ} (absent : put (change before) = change before) :
    Writes slots (names ++ [name]) (members ++ []) before (put ∘ change) where
  sublist := by
    rw [List.append_nil]
    exact writes.sublist.trans (List.sublist_append_left _ _)
  fills seen different fresh := by
    rw [List.append_nil, Function.comp_apply, absent]
    exact writes.fills seen (List.nodup_append.mp different).1 fun other member =>
      fresh other (List.mem_append_left _ member)

/-- A field that is there after other members. -/
theorem Writes.member {decode : Decoder α} {put : α → σ → σ}
    (found : IsSlot slots name decode put) {value : Json} {content : α}
    (decodes : decode value = .ok content) :
    Writes slots (names ++ [name]) (members ++ [(name, value)]) before
      (put content ∘ change) where
  sublist := by
    rw [List.map_append]
    exact writes.sublist.append (List.Sublist.refl _)
  fills seen different fresh := by
    obtain ⟨optional, found⟩ := found
    obtain ⟨differentBefore, -, apart⟩ := List.nodup_append.mp different
    have unseen : ((members.map (·.1)).reverse ++ seen).contains name = false := by
      rw [Bool.eq_false_iff]
      intro inSeen
      rcases List.mem_append.mp (List.contains_iff_mem.mp inSeen) with inMembers | inSeen
      · exact apart name (writes.sublist.subset (List.mem_reverse.mp inMembers)) name
          List.mem_cons_self rfl
      · exact fresh name (List.mem_append_right _ List.mem_cons_self) inSeen
    rw [fillMembers_append, writes.fills seen differentBefore fun other member =>
      fresh other (List.mem_append_left _ member)]
    show fillMembers slots [(name, value)] _ (change before) = _
    rw [fillMembers, found]
    simp only [unseen, Bool.false_eq_true, if_false, decodes]
    rw [List.map_append, List.reverse_append]
    rfl

/-- A field for what there may be, left out where there is nothing. -/
theorem Writes.optional {decode : Decoder α} {put : Option α → σ → σ}
    (found : IsSlot slots name (asOption decode) put) (encode : α → Json) (content : Option α)
    (decodes : ∀ value ∈ content, encode value ≠ .null ∧ decode (encode value) = .ok value)
    (absent : put none (change before) = change before) :
    Writes slots (names ++ [name])
      (members ++ (content.map fun value => (name, encode value)).toList) before
      (put content ∘ change) := by
  cases content with
  | none => exact writes.nothing name absent
  | some value =>
    obtain ⟨notNull, decodes⟩ := decodes value rfl
    exact writes.member name found (asOption_of_ne_null notNull decodes)

/-- A field for a text, left out where there is none. -/
theorem Writes.text {put : Option String → σ → σ}
    (found : IsSlot slots name (asOption asText) put) (content : Option String)
    (absent : put none (change before) = change before) :
    Writes slots (names ++ [name]) (members ++ memberIfSome name content) before
      (put content ∘ change) := by
  have group : memberIfSome name content =
      (content.map fun value => (name, Json.text value)).toList := by
    cases content <;> rfl
  rw [group]
  exact writes.optional name found Json.text content (fun _ _ => ⟨nofun, rfl⟩) absent

/-- A field for a list, left out where the list is empty. -/
theorem Writes.list {decode : Decoder α} {put : List α → σ → σ}
    (found : IsSlot slots name (asList decode) put) {encode : α → Json} (contents : List α)
    (decodes : ∀ value ∈ contents, decode (encode value) = .ok value)
    (absent : put [] (change before) = change before) :
    Writes slots (names ++ [name]) (members ++ memberIfAny name encode contents) before
      (put contents ∘ change) := by
  cases contents with
  | nil => exact writes.nothing name absent
  | cons value values =>
    have decoded : asList decode (.array ((value :: values).map encode)) = .ok (value :: values) :=
      decodeAll_map decodes
    exact writes.member name found decoded

/-- A field for a flag, left out where the flag is not set. -/
theorem Writes.flag {put : Bool → σ → σ} (found : IsSlot slots name asBoolean put) (content : Bool)
    (absent : put false (change before) = change before) :
    Writes slots (names ++ [name]) (members ++ memberIfTrue name content) before
      (put content ∘ change) := by
  cases content with
  | false => exact writes.nothing name absent
  | true => exact writes.member name found rfl

omit writes

/-! ### Records -/

/-- Members that make a record of the blank one are read as the record, if their names are all
different and no field that has to be there is left out. -/
theorem asRecord_of_writes {blank : σ} {change : σ → σ} (type : String)
    (writes : Writes slots names members blank change) (different : names.Nodup)
    (complete : ∀ slot ∈ slots, slot.optional = false → slot.name ∈ members.map (·.1))
    (makes : change blank = record) :
    asRecord type slots blank (.object members) = .ok record := by
  let seen := (members.map (·.1)).reverse ++ []
  have noneLeft : slots.find? (fun slot => !slot.optional && !seen.contains slot.name) = none := by
    rw [List.find?_eq_none]
    intro slot member missing
    simp only [Bool.and_eq_true, Bool.not_eq_true'] at missing
    have written : slot.name ∈ seen :=
      List.mem_append_left _ (List.mem_reverse.mpr (complete slot member missing.1))
    rw [List.contains_iff_mem.mpr written] at missing
    exact absurd missing.2 nofun
  show ofMembers slots blank members = _
  unfold ofMembers
  rw [writes.fills [] different (fun _ _ => List.not_mem_nil), makes]
  simp only [bind, Except.bind]
  rw [noneLeft]

/-! ### Records of finite values -/

/-- Whether filling in a finite value keeps what holds of a record. -/
def Slot.Keeps (invariant : σ → Prop) (slot : Slot σ) : Prop :=
  ∀ (value : Json) (record after : σ), value.Finite → invariant record →
    slot.fill value record = .ok after → invariant after

variable {invariant : σ → Prop}

/-- A field keeps what holds of a record if putting in what it can be decoded to does. -/
theorem Slot.keeps_of_put {name : String} {optional : Bool} {decode : Decoder α}
    {put : α → σ → σ} {property : α → Prop}
    (decodes : ∀ {value content}, value.Finite → decode value = .ok content → property content)
    (keeps : ∀ {content record}, property content → invariant record →
      invariant (put content record)) :
    Slot.Keeps invariant
      ⟨name, optional, fun value record => (decode value).map fun content =>
        put content record⟩ := by
  intro value record after finite holds filled
  replace filled : (decode value).map (fun content => put content record) = .ok after := filled
  cases decoded : decode value with
  | error reason => rw [decoded] at filled; cases filled
  | ok content =>
    rw [decoded] at filled
    cases filled
    exact keeps (decodes finite decoded) holds

/-- A field that what holds of a record says nothing about. -/
theorem Slot.keeps_apart {name : String} {optional : Bool} {decode : Decoder α}
    {put : α → σ → σ}
    (apart : ∀ content record, invariant record → invariant (put content record)) :
    Slot.Keeps invariant
      ⟨name, optional, fun value record => (decode value).map fun content =>
        put content record⟩ :=
  Slot.keeps_of_put (fun _ _ => trivial) fun _ holds => apart _ _ holds

theorem fillMembers_keeps {slots : List (Slot σ)}
    (keeps : ∀ slot ∈ slots, Slot.Keeps invariant slot) {members : List (String × Json)}
    (finite : ∀ member ∈ members, Finite member.2) {seen seenAfter : List String}
    {record after : σ} (holds : invariant record)
    (filled : fillMembers slots members seen record = .ok (seenAfter, after)) :
    invariant after := by
  induction members generalizing seen record with
  | nil => cases filled; exact holds
  | cons member members inductionHypothesis =>
    obtain ⟨name, value⟩ := member
    obtain ⟨finiteValue, finiteRest⟩ := List.forall_mem_cons.mp finite
    rw [fillMembers] at filled
    split at filled
    next => exact inductionHypothesis finiteRest holds filled
    next slot found =>
      split at filled
      next => cases filled
      next =>
        cases put : slot.fill value record with
        | error reason => rw [put] at filled; cases filled
        | ok record =>
          rw [put] at filled
          have isSlot := List.mem_of_find?_eq_some found
          exact inductionHypothesis finiteRest
            (keeps slot isSlot value _ record finiteValue holds put) filled

theorem fillElements_keeps {expected : String} {slots : List (Slot σ)}
    (keeps : ∀ slot ∈ slots, Slot.Keeps invariant slot) {elements : List Json}
    (finite : ∀ element ∈ elements, Finite element) {count : Nat} {record after : σ}
    (holds : invariant record)
    (filled : fillElements expected slots elements count record = .ok after) :
    invariant after := by
  induction slots generalizing elements count record with
  | nil =>
    cases elements with
    | nil => cases filled; exact holds
    | cons element elements => cases filled
  | cons slot slots inductionHypothesis =>
    obtain ⟨keepsSlot, keepsRest⟩ := List.forall_mem_cons.mp keeps
    cases elements with
    | nil =>
      rw [fillElements] at filled
      split at filled
      next => exact inductionHypothesis keepsRest (List.forall_mem_nil _) holds filled
      next => cases filled
    | cons element elements =>
      obtain ⟨finiteElement, finiteRest⟩ := List.forall_mem_cons.mp finite
      rw [fillElements] at filled
      cases put : slot.fill element record with
      | error reason => rw [put] at filled; cases filled
      | ok record =>
        rw [put] at filled
        exact inductionHypothesis keepsRest finiteRest
          (keepsSlot element _ record finiteElement holds put) filled

/-- What holds of the blank record and is kept by every field holds of a record that was read from
a finite value. -/
theorem asRecord_keeps (invariant : σ → Prop) {type : String} {slots : List (Slot σ)}
    {blank record : σ} (keeps : ∀ slot ∈ slots, Slot.Keeps invariant slot)
    (holds : invariant blank) {value : Json} (finite : value.Finite)
    (decoded : asRecord type slots blank value = .ok record) : invariant record := by
  cases finite with
  | array each => exact fillElements_keeps keeps each holds decoded
  | object each =>
    rename_i members
    replace decoded : ofMembers slots blank members = .ok record := decoded
    unfold ofMembers at decoded
    cases filled : fillMembers slots members [] blank with
    | error reason => rw [filled] at decoded; cases decoded
    | ok result =>
      obtain ⟨seen, after⟩ := result
      rw [filled] at decoded
      simp only [bind, Except.bind] at decoded
      split at decoded
      next => cases decoded
      next => cases decoded; exact fillMembers_keeps keeps each holds filled
  | _ => cases decoded

/-- What holds of everything an element is decoded to holds of the elements of a list. -/
theorem forall_of_asList {decode : Decoder α} {property : α → Prop}
    (decodes : ∀ {value content}, value.Finite → decode value = .ok content → property content)
    {value : Json} {contents : List α} (finite : value.Finite)
    (decoded : asList decode value = .ok contents) : ∀ content ∈ contents, property content := by
  cases finite with
  | array each =>
    rename_i elements
    replace decoded : decodeAll decode elements = .ok contents := decoded
    induction elements generalizing contents with
    | nil => cases decoded; nofun
    | cons element elements inductionHypothesis =>
      obtain ⟨finiteElement, finiteRest⟩ := List.forall_mem_cons.mp each
      rw [decodeAll] at decoded
      cases first : decode element with
      | error reason => rw [first] at decoded; cases decoded
      | ok content =>
        rw [first] at decoded
        cases others : decodeAll decode elements with
        | error reason => rw [others] at decoded; cases decoded
        | ok rest =>
          rw [others] at decoded
          cases decoded
          exact List.forall_mem_cons.mpr
            ⟨decodes finiteElement first, inductionHypothesis finiteRest others⟩
  | _ => cases decoded

/-- A float that was read is finite. -/
theorem isFinite_asFloat {value : Json} {content : Float} (finite : value.Finite)
    (decoded : asFloat value = .ok content) : content.isFinite = true := by
  cases finite with
  | integer word =>
    cases decoded
    exact Decimal.isFinite_nearest _ (Nat.lt_of_le_of_lt word (by decide))
  | float finite => cases decoded; exact finite
  | _ => cases decoded

/-! ### Printable members -/

variable {levels : Nat}

theorem printable_memberIfSome (name : String) (content : Option String) :
    ∀ member ∈ memberIfSome name content, Printable levels member.2 := by
  cases content with
  | none => nofun
  | some content => exact List.forall_mem_singleton.mpr (.text content)

theorem printable_memberIfTrue (name : String) (flag : Bool) :
    ∀ member ∈ memberIfTrue name flag, Printable levels member.2 := by
  cases flag with
  | false => nofun
  | true => exact List.forall_mem_singleton.mpr (.boolean true)

theorem printable_array {α : Type} {encode : α → Json} {values : List α}
    (each : ∀ value ∈ values, Printable levels (encode value)) :
    Printable (levels + 1) (.array (values.map encode)) :=
  .array fun _ member => by
    obtain ⟨value, isValue, rfl⟩ := List.mem_map.mp member
    exact each value isValue

theorem printable_memberIfAny {α : Type} (name : String) {encode : α → Json} {values : List α}
    (each : ∀ value ∈ values, Printable levels (encode value)) :
    ∀ member ∈ memberIfAny name encode values, Printable (levels + 1) member.2 := by
  cases values with
  | nil => nofun
  | cons value values => exact List.forall_mem_singleton.mpr (printable_array each)

theorem printable_optional {α : Type} (name : String) {encode : α → Json} (content : Option α)
    (each : ∀ value, Printable levels (encode value)) :
    ∀ member ∈ (content.map fun value => (name, encode value)).toList,
      Printable levels member.2 := by
  cases content with
  | none => nofun
  | some content => exact List.forall_mem_singleton.mpr (each content)

/-- Something holds of the members of two groups if it holds of those of each. -/
theorem printable_append {first second : List (String × Json)}
    (inFirst : ∀ member ∈ first, Printable levels member.2)
    (inSecond : ∀ member ∈ second, Printable levels member.2) :
    ∀ member ∈ first ++ second, Printable levels member.2 :=
  List.forall_mem_append.mpr ⟨inFirst, inSecond⟩

theorem printable_cons {name : String} {value : Json} {others : List (String × Json)}
    (first : Printable levels value) (inOthers : ∀ member ∈ others, Printable levels member.2) :
    ∀ member ∈ (name, value) :: others, Printable levels member.2 :=
  List.forall_mem_cons.mpr ⟨first, inOthers⟩

theorem printable_nil : ∀ member ∈ ([] : List (String × Json)), Printable levels member.2 :=
  List.forall_mem_nil _

theorem printable_word (word : UInt32) : Printable levels (.nat word.toNat) :=
  .nat (Nat.lt_trans word.toNat_lt_size (by decide))

theorem printable_int64 (value : Int64) : Printable levels (.number (.integer value.toInt)) :=
  .number (isExact_integer (Int64.le_toInt value)
    (Int.lt_trans (Int64.toInt_lt value) (by decide)))

theorem printable_float {value : Float} (exact : (Number.float value).IsExact) :
    Printable levels (ofFloat value) := by
  unfold ofFloat
  split
  · exact .number exact
  · exact .null

end Questionnaire.Json

/-
This file proves that a fresh name is fresh. The numbered forms of a name differ from each other, so
among one more of them than there are taken names one is not taken, and the search stops there; so
does a loop that counts without a bound, before its counter is too large for a word. Two names of a
pair that are both made fresh before either counts as taken differ because one continues the other
by more than a number.
-/
import Mathlib.Algebra.Group.Nat.Defs
import Mathlib.Data.List.Nodup
import Questionnaire.FreshName

namespace Questionnaire.FreshName

/-! ### Numbered forms -/

theorem numeral_injective {first second : Nat}
    (equal : Text.numeral first = Text.numeral second) : first = second := by
  have digits : Nat.toDigits 10 first = Nat.toDigits 10 second := String.ofList_injective equal
  rw [← Nat.ofDigitChars_ten_toDigits (n := first), digits, Nat.ofDigitChars_ten_toDigits]

/-- Every numbered form is the name, or the name with an underscore and digits after it. -/
theorem toList_numbered (base : String) (count : Nat) :
    (numbered base count).toList = base.toList ∨
      ∃ digits : List Char, (∀ digit ∈ digits, digit.isDigit = true) ∧
        (numbered base count).toList = base.toList ++ '_' :: digits := by
  unfold numbered
  split
  · exact .inl rfl
  · refine .inr ⟨Nat.toDigits 10 count, fun digit member => ?_, ?_⟩
    · exact Nat.isDigit_of_mem_toDigits (by decide) (by decide) member
    · simp [Text.numeral]

/-- Different counts from one on give different forms. -/
theorem numbered_injective (base : String) {first second : Nat} (firstPositive : 1 ≤ first)
    (secondPositive : 1 ≤ second) (equal : numbered base first = numbered base second) :
    first = second := by
  unfold numbered at equal
  have lists := congrArg String.toList equal
  split at lists <;> split at lists
  · omega
  · simp at lists
  · simp at lists
  · simp only [String.toList_append] at lists
    exact numeral_injective (String.toList_inj.mp (List.append_cancel_left lists))

/-! ### The search -/

/-- Where the search ends at a taken name, all forms that it went through are taken. -/
theorem mem_of_seek_mem (taken : List String) (base : String) (refusals count : Nat)
    (found : seek taken base refusals count ∈ taken) (step : Nat) (inRange : step ≤ refusals) :
    numbered base (count + step) ∈ taken := by
  induction refusals generalizing count step with
  | zero =>
    obtain rfl : step = 0 := by omega
    exact found
  | succ refusals inductionHypothesis =>
    rw [seek] at found
    split at found
    next refused =>
      cases step with
      | zero => exact List.contains_iff_mem.mp refused
      | succ step =>
        rw [show count + (step + 1) = count + 1 + step by omega]
        exact inductionHypothesis (count + 1) found step (by omega)
    next free => exact absurd found fun member => free (List.contains_iff_mem.mpr member)

/-- The search ends at a form before which it went through taken ones only. -/
theorem seek_eq_numbered (taken : List String) (base : String) (refusals count : Nat) :
    ∃ step, seek taken base refusals count = numbered base (count + step) ∧
      ∀ earlier < step, numbered base (count + earlier) ∈ taken := by
  induction refusals generalizing count with
  | zero => exact ⟨0, rfl, fun _ less => absurd less (Nat.not_lt_zero _)⟩
  | succ refusals inductionHypothesis =>
    rw [seek]
    split
    next refused =>
      obtain ⟨step, equal, passed⟩ := inductionHypothesis (count + 1)
      refine ⟨step + 1, by rw [equal, Nat.add_assoc, Nat.add_comm 1], fun earlier less => ?_⟩
      cases earlier with
      | zero => exact List.contains_iff_mem.mp refused
      | succ earlier =>
        rw [show count + (earlier + 1) = count + 1 + earlier by omega]
        exact passed earlier (by omega)
    next => exact ⟨0, rfl, fun _ less => absurd less (Nat.not_lt_zero _)⟩

/-- No more forms of a name are taken than there are taken names. -/
theorem le_length_of_forms_mem {taken : List String} {base : String} {count : Nat}
    (passed : ∀ step < count, numbered base (1 + step) ∈ taken) : count ≤ taken.length := by
  have covered : (List.range' 1 count).map (numbered base) ⊆ taken := by
    intro name member
    obtain ⟨form, inRange, rfl⟩ := List.mem_map.mp member
    rw [List.mem_range'_1] at inRange
    rw [show form = 1 + (form - 1) by omega]
    exact passed (form - 1) (by omega)
  have different : ((List.range' 1 count).map (numbered base)).Nodup := by
    refine List.Nodup.map_on ?_ List.nodup_range'
    intro first firstIn second secondIn equal
    rw [List.mem_range'_1] at firstIn secondIn
    exact numbered_injective base firstIn.1 secondIn.1 equal
  have short := different.length_le_of_subset covered
  rwa [List.length_map, List.length_range'] at short

/-- A fresh name is not taken. -/
theorem fresh_not_mem (taken : List String) (base : String) : fresh taken base ∉ taken := by
  intro found
  have many := le_length_of_forms_mem fun step less =>
    mem_of_seek_mem taken base taken.length 1 found step (Nat.le_of_lt_succ less)
  omega

/-! ### The search as a loop -/

/-- The search as a loop that nothing bounds: as long as the candidate is taken, the next one is
made of the name and a number, which is counted up as a signed 32-bit word. -/
inductive Search (taken : List String) (base : String) : String → Int32 → String → Prop where
  | stop {candidate : String} {number : Int32} (free : candidate ∉ taken) :
    Search taken base candidate number candidate
  | next {candidate found : String} {number : Int32} (refused : candidate ∈ taken)
    (rest : Search taken base (base ++ "_" ++ Text.signedNumeral number.toInt) (number + 1) found) :
    Search taken base candidate number found

/-- The loop ends with one name at most. -/
theorem Search.unique {taken : List String} {base candidate first second : String} {number : Int32}
    (one : Search taken base candidate number first)
    (other : Search taken base candidate number second) : first = second := by
  induction one with
  | stop free =>
    cases other with
    | stop => rfl
    | next refused => exact absurd refused free
  | next refused _ inductionHypothesis =>
    cases other with
    | stop free => exact absurd refused free
    | next _ rest => exact inductionHypothesis rest

/-- A number that fits into a word stands in the candidate as it is. -/
theorem numbered_of_word {base : String} {count : Nat} (more : 2 ≤ count) (few : count < 2 ^ 31) :
    base ++ "_" ++ Text.signedNumeral (Int32.ofNat count).toInt = numbered base count := by
  rw [Int32.toInt_ofNat_of_lt few, numbered, if_neg (by omega)]
  rfl

/-- The loop goes from a form through the taken ones after it. -/
theorem search_of_forms {taken : List String} {base : String} {count left : Nat}
    (positive : 1 ≤ count) (few : count + left < 2 ^ 31)
    (passed : ∀ step < left, numbered base (count + step) ∈ taken)
    (free : numbered base (count + left) ∉ taken) :
    Search taken base (numbered base count) (Int32.ofNat (count + 1))
      (numbered base (count + left)) := by
  induction left generalizing count with
  | zero => exact .stop free
  | succ left inductionHypothesis =>
    have shift : ∀ step, count + (step + 1) = count + 1 + step := by omega
    refine .next (passed 0 (by omega)) ?_
    rw [numbered_of_word (by omega) (by omega), show (1 : Int32) = Int32.ofNat 1 from rfl,
      ← Int32.ofNat_add, shift left]
    refine inductionHypothesis (by omega) (by omega) (fun step less => ?_) (shift left ▸ free)
    exact shift step ▸ passed (step + 1) (by omega)

/-- The loop ends with the fresh name, if the number of the last form that may be tried is a word.
-/
theorem search_iff {taken : List String} (few : taken.length + 1 < 2 ^ 31) (base found : String) :
    Search taken base base 2 found ↔ found = fresh taken base := by
  obtain ⟨step, equal, passed⟩ := seek_eq_numbered taken base taken.length 1
  have isFresh : fresh taken base = numbered base (1 + step) := equal
  have short := le_length_of_forms_mem passed
  have ends : Search taken base base 2 (fresh taken base) := by
    rw [isFresh]
    exact search_of_forms Nat.le.refl (by omega) passed (isFresh ▸ fresh_not_mem taken base)
  exact ⟨fun other => other.unique ends, fun same => same ▸ ends⟩

/-! ### Pairs of fresh names -/

/-- No numbered form of a name is one of a longer name, unless what the longer one has more is a
number: an underscore and a digit. -/
theorem numbered_ne_numbered_append (base : String) (letter : Char) (rest : List Char)
    (noDigit : letter.isDigit = false) (first second : Nat) :
    numbered base first ≠ numbered (base ++ String.ofList ('_' :: letter :: rest)) second := by
  intro equal
  -- After the base, the longer name goes on with the letter, the shorter one at most with digits.
  have longer : ∃ more, (numbered base first).toList = base.toList ++ '_' :: letter :: more := by
    rw [equal]
    rcases toList_numbered (base ++ String.ofList ('_' :: letter :: rest)) second with
      plain | ⟨digits, -, numbered⟩
    · exact ⟨rest, by rw [plain]; simp⟩
    · exact ⟨rest ++ '_' :: digits, by rw [numbered]; simp⟩
  obtain ⟨more, longer⟩ := longer
  rcases toList_numbered base first with plain | ⟨digits, areDigits, numbered⟩
  · rw [plain] at longer
    simp at longer
  · rw [numbered] at longer
    have tails := List.append_cancel_left longer
    have isDigit := areDigits letter (by rw [(List.cons.inj tails).2]; exact List.mem_cons_self)
    rw [noDigit] at isDigit
    cases isDigit

/-- So a fresh name is not the fresh name of such a longer one. -/
theorem fresh_ne_fresh_append (taken : List String) (base : String) (letter : Char)
    (rest : List Char) (noDigit : letter.isDigit = false) :
    fresh taken base ≠ fresh taken (base ++ String.ofList ('_' :: letter :: rest)) := by
  obtain ⟨first, firstEqual, -⟩ := seek_eq_numbered taken base taken.length 1
  obtain ⟨second, secondEqual, -⟩ :=
    seek_eq_numbered taken (base ++ String.ofList ('_' :: letter :: rest)) taken.length 1
  unfold fresh
  rw [firstEqual, secondEqual]
  exact numbered_ne_numbered_append base letter rest noDigit _ _

/-- A fresh name is longer than any part of it that it continues. -/
theorem fresh_append_ne (taken : List String) (base : String) (letter : Char) (rest : List Char) :
    fresh taken (base ++ String.ofList (letter :: rest)) ≠ base := by
  obtain ⟨step, equal, -⟩ :=
    seek_eq_numbered taken (base ++ String.ofList (letter :: rest)) taken.length 1
  unfold fresh
  rw [equal]
  intro same
  have lengths := congrArg (fun name => name.toList.length) same
  rcases toList_numbered (base ++ String.ofList (letter :: rest)) (1 + step) with
    plain | ⟨digits, -, numbered⟩
  · rw [plain] at lengths
    simp at lengths
  · rw [numbered] at lengths
    simp at lengths

end Questionnaire.FreshName

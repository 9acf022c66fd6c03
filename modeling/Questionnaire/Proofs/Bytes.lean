/-
This file proves that exported values are read back from their bytes. A head is read in any of its
widths, the number in it big-endian, and so tells how many bytes of a text or how many entries of a
map come next; whatever stands after them is left alone. The entries therefore come back one by one,
whatever their names and texts are made of, and a map takes just the bytes that it was written as.
-/
import Questionnaire.Proofs.Persistence

namespace Questionnaire

namespace Cbor

/-! ### Numbers -/

theorem length_bigEndian (count value : Nat) : (bigEndian count value).length = count := by
  induction count with
  | zero => rfl
  | succ count inductionHypothesis => rw [bigEndian, List.length_cons, inductionHypothesis]

/-- The bytes of a number go on with a number before them. Of the number itself they hold as much as
their count has room for. -/
theorem foldl_bigEndian (count value before : Nat) :
    (bigEndian count value).foldl (fun value byte => 256 * value + byte.toNat) before =
      256 ^ count * before + value % 256 ^ count := by
  induction count generalizing before with
  | zero => simp [bigEndian, Nat.mod_one]
  | succ count inductionHypothesis =>
    have shifted : value >>> (8 * count) = value / 256 ^ count := by
      rw [Nat.shiftRight_eq_div_pow, Nat.pow_mul]
    have last : (UInt8.ofNat (value / 256 ^ count)).toNat = value / 256 ^ count % 256 :=
      UInt8.toNat_ofNat'
    rw [bigEndian, List.foldl_cons, inductionHypothesis, shifted, last, Nat.pow_succ, Nat.mod_mul,
      Nat.mul_add, Nat.mul_assoc, Nat.add_right_comm, Nat.add_assoc]

theorem ofBigEndian_bigEndian {count value : Nat} (small : value < 256 ^ count) :
    ofBigEndian (bigEndian count value) = value := by
  rw [ofBigEndian, foldl_bigEndian, Nat.mul_zero, Nat.zero_add, Nat.mod_eq_of_lt small]

/-- The bytes that stand first are taken, and the rest is left. -/
theorem takeBytes_append (bytes rest : Bytes) :
    takeBytes bytes.length (bytes ++ rest) = some (bytes, rest) := by
  rw [takeBytes, if_neg (by simp), List.take_left, List.drop_left]

theorem readNumber_bigEndian {count value : Nat} (small : value < 256 ^ count) (rest : Bytes) :
    readNumber count (bigEndian count value ++ rest) = some (value, rest) := by
  have taken := takeBytes_append (bigEndian count value) rest
  rw [length_bigEndian] at taken
  rw [readNumber, taken, Option.map_some]
  simp only [ofBigEndian_bigEndian small]

/-! ### Heads -/

theorem Major.ofCode_code (major : Major) : ofCode major.code = major := by
  cases major <;> rfl

/-- The kind and the lower five bits are found in the first byte. -/
theorem toNat_firstByte (major : Major) {low : Nat} (small : low < 32) :
    Major.ofCode ((firstByte major low).toNat / 32) = major ∧
      (firstByte major low).toNat % 32 = low := by
  have code : major.code < 8 := by cases major <;> decide
  have whole : (firstByte major low).toNat = 32 * major.code + low := by
    rw [firstByte, UInt8.toNat_ofNat', Nat.mod_eq_of_lt (by omega)]
  rw [whole, Nat.mul_add_div (by decide), Nat.div_eq_of_lt small, Nat.add_zero, Nat.mul_add_mod,
    Nat.mod_eq_of_lt small]
  exact ⟨major.ofCode_code, rfl⟩

/-- A number below 24 is its own head. -/
theorem readHead_short (major : Major) {value : Nat} (small : value < 24) (rest : Bytes) :
    readHead (firstByte major value :: rest) = some (⟨major, some value⟩, rest) := by
  have isLow : value < 32 := by omega
  obtain ⟨kind, low⟩ := toNat_firstByte major isLow
  unfold readHead
  simp only [kind, low]
  split <;> first | omega | rfl

/-- The widths of longer heads, by the lower five bits of their first byte. -/
def widths : List (Nat × Nat) := [(24, 1), (25, 2), (26, 4), (27, 8)]

/-- A longer number follows the first byte. -/
theorem readHead_long (major : Major) {low count value : Nat} (width : (low, count) ∈ widths)
    (small : value < 256 ^ count) (rest : Bytes) :
    readHead (firstByte major low :: (bigEndian count value ++ rest)) =
      some (⟨major, some value⟩, rest) := by
  have isLow : low < 32 := by
    simp only [widths, List.mem_cons, Prod.mk.injEq, List.not_mem_nil, or_false] at width
    omega
  obtain ⟨kind, low⟩ := toNat_firstByte major isLow
  have number := readNumber_bigEndian small rest
  simp only [widths, List.mem_cons, Prod.mk.injEq, List.not_mem_nil, or_false] at width
  unfold readHead
  simp only [kind, low]
  rcases width with ⟨rfl, rfl⟩ | ⟨rfl, rfl⟩ | ⟨rfl, rfl⟩ | ⟨rfl, rfl⟩ <;>
    simp only [number, Option.map_some]

/-- A head is read as it was written. -/
theorem readHead_writeHead (major : Major) {value : Nat} (small : value < UInt64.size)
    (rest : Bytes) :
    readHead (writeHead major value ++ rest) = some (⟨major, some value⟩, rest) := by
  unfold writeHead
  split
  next short => exact readHead_short major short rest
  next =>
    split
    next short => exact readHead_long major (by decide) short rest
    next =>
      split
      next short => exact readHead_long major (by decide) short rest
      next =>
        split
        next short => exact readHead_long major (by decide) short rest
        next => exact readHead_long major (by decide) small rest

/-- No tag stands before what is written. -/
theorem readTagged_writeHead {major : Major} (plain : (major != .tag) = true) {value : Nat}
    (small : value < UInt64.size) (room : Nat) (rest : Bytes) :
    readTagged room (writeHead major value ++ rest) = some (⟨major, some value⟩, room, rest) := by
  cases room <;> rw [readTagged, readHead_writeHead major small] <;> exact if_pos plain

/-! ### Texts and maps -/

theorem fromUTF8?_utf8 (text : String) :
    String.fromUTF8? (utf8 text).toByteArray = some text := by
  have same : (utf8 text).toByteArray = text.toByteArray :=
    ByteArray.ext (List.data_toByteArray.trans Array.toArray_toList)
  unfold String.fromUTF8?
  rw [same, dif_pos text.isValidUTF8]
  rfl

theorem readText_writeText {text : String} (small : (utf8 text).length < UInt64.size) (room : Nat)
    (rest : Bytes) : readText room (writeText text ++ rest) = some (text, rest) := by
  have isText : (Major.text != .tag) = true := rfl
  have tagged := readTagged_writeHead isText small room (utf8 text ++ rest)
  have content : readContent ⟨.text, some (utf8 text).length⟩ (utf8 text ++ rest) =
      some (utf8 text, rest) := takeBytes_append (utf8 text) rest
  unfold readText writeText
  simp only [List.append_assoc, tagged, Option.bind_eq_bind, Option.bind_some, content,
    fromUTF8?_utf8, Option.pure_def]

/-- Whether the lengths of the texts of an entry are numbers that a head has room for. -/
abbrev FitsEntry (entry : String × String) : Prop :=
  (utf8 entry.1).length < UInt64.size ∧ (utf8 entry.2).length < UInt64.size

theorem readEntry_writeEntry {entry : String × String} (fits : FitsEntry entry) (room : Nat)
    (map : NameMap String) (rest : Bytes) :
    readEntry room map (writeEntry entry ++ rest) = some (map.insert entry.1 entry.2, rest) := by
  unfold readEntry writeEntry
  simp only [List.append_assoc, readText_writeText fits.1, readText_writeText fits.2,
    Option.bind_eq_bind, Option.bind_some, Option.pure_def]

/-- Entries are put into the map one after the other. -/
theorem readEntries_flatMap {entries : List (String × String)}
    (fits : ∀ entry ∈ entries, FitsEntry entry) (room : Nat) (map : NameMap String)
    (rest : Bytes) :
    readEntries room entries.length map (entries.flatMap writeEntry ++ rest) =
      some (entries.foldl (fun map entry => map.insert entry.1 entry.2) map, rest) := by
  induction entries generalizing map with
  | nil => rfl
  | cons entry entries inductionHypothesis =>
    obtain ⟨fitsHead, fitsRest⟩ := List.forall_mem_cons.mp fits
    rw [List.flatMap_cons, List.append_assoc, List.length_cons, readEntries,
      readEntry_writeEntry fitsHead]
    exact inductionHypothesis fitsRest _

/-- A map is read as it was written, if nothing comes after it. -/
theorem readMap?_writeMap {map : NameMap String} (sized : map.size < UInt64.size)
    (fits : ∀ entry ∈ map.entries, FitsEntry entry) (rest : Bytes) :
    readMap? (writeMap map ++ rest) = if rest.isEmpty then some map else none := by
  have entries := readEntries_flatMap fits (greatestDepth - 1) NameMap.empty rest
  have all : map.entries.foldl (fun map entry => map.insert entry.1 entry.2) NameMap.empty = map :=
    map.ofList_entries
  have deep : ¬((Major.map != .map) || decide (greatestDepth = 0)) = true := by decide
  rw [all] at entries
  unfold readMap? writeMap
  rw [List.append_assoc, readTagged_writeHead rfl sized]
  simp only [Option.bind_eq_bind, Option.bind_some, if_neg deep, NameMap.size, entries,
    Option.pure_def]

end Cbor

namespace Snapshot

/-! ### Exported values -/

/-- Whether the number of values and the lengths of their names and texts have 64 bits, as the size
of whatever a memory holds. -/
structure Storable (snapshot : Snapshot) : Prop where
  size : snapshot.size < UInt64.size
  entries : ∀ entry ∈ snapshot.entries, Cbor.FitsEntry entry

/-- Exported values come back from their bytes, so that no others have the same bytes; and no bytes
that go on after them are read. -/
theorem bytes_round_trip (snapshot : Snapshot) (storable : Storable snapshot) :
    ofCbor? (toCbor snapshot) = some snapshot ∧
    (∀ other, Storable other → toCbor other = toCbor snapshot → other = snapshot) ∧
    ∀ more, more ≠ [] → ofCbor? (toCbor snapshot ++ more) = none := by
  have reads : ∀ {written : Snapshot}, Storable written → ∀ more,
      ofCbor? (toCbor written ++ more) = if more.isEmpty then some written else none :=
    fun fits more => Cbor.readMap?_writeMap fits.size fits.entries more
  have whole : ∀ {written : Snapshot}, Storable written →
      ofCbor? (toCbor written) = some written := by
    intro written fits
    have alone := reads fits []
    rwa [List.append_nil] at alone
  refine ⟨whole storable, fun other fits same => ?_, fun more isMore => ?_⟩
  · have found := whole fits
    rw [same, whole storable] at found
    exact (Option.some.inj found).symm
  · rw [reads storable, if_neg (by simpa using isMore)]

/-- Values with an empty name, a name of other letters than ASCII, and a text of 256 bytes. -/
def long : Snapshot :=
  NameMap.ofList [("größe", String.ofList (List.replicate 128 'ß')), ("", "")]

/-- The heads are of one byte and of three. -/
theorem bytes_round_trip_of_long :
    Storable long ∧
    (toCbor long).take 15 = [162, 96, 96, 103, 103, 114, 195, 182, 195, 159, 101, 121, 1, 0, 195] ∧
    ofCbor? (toCbor long) = some long ∧ ofCbor? (toCbor long ++ [0]) = none := by
  have storable : Storable long := ⟨by decide +kernel, by decide +kernel⟩
  obtain ⟨same, -, nothingElse⟩ := bytes_round_trip long storable
  exact ⟨storable, by decide +kernel, same, nothingElse [0] (by decide)⟩

end Snapshot

end Questionnaire

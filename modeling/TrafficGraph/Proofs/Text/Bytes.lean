import TrafficGraph.Text.Letters

/-!
# The bytes of a text

A text is stored as bytes, in UTF-8, and what stands in front of it can be asked for byte by byte
instead of character by character. The answer is the same, for two reasons. No character is encoded
like the beginning of another one, so what is a first part of the bytes is a first part of the text
(`TrafficGraph.Text.bytes_prefix_iff`). And an ASCII byte is always a character of its own: bytes
can be taken to lower case one by one, and this takes the text to lower case
(`TrafficGraph.Text.bytes_lower`).

Only when bytes are cut off, they have to end where a character ends. Where they do not,
`TrafficGraph.Text.front?` has nothing to give (`TrafficGraph.Text.exists_front?_iff`), and
`TrafficGraph.Text.beginsLike_iff_bytes` says that nothing is lost by this: bytes that are like
those of a word end where a character does.
-/

namespace TrafficGraph

namespace Text

/-! ### Encoded characters -/

/-- The bytes of a text in UTF-8. -/
def bytes (s : String) : List UInt8 := s.toUTF8.data.toList

/-- The byte of an ASCII letter in lower case, and any other byte as it is. -/
def lowerByte (b : UInt8) : UInt8 := if 65 ≤ b ∧ b ≤ 90 then b + 32 else b

theorem bytes_eq_flatMap (s : String) : bytes s = s.toList.flatMap String.utf8EncodeChar := by
  rw [bytes, String.toUTF8_eq_toByteArray, ← String.utf8Encode_toList]
  exact List.toList_data_toByteArray

@[simp] theorem bytes_append (s t : String) : bytes (s ++ t) = bytes s ++ bytes t := by
  simp [bytes_eq_flatMap]

theorem length_bytes (s : String) : (bytes s).length = s.utf8ByteSize := by
  rw [bytes, Array.length_toList]
  rfl

/-- **A first part of the bytes is a first part of the text.** -/
theorem bytes_prefix_iff {front s : String} :
    bytes front <+: bytes s ↔ ∃ back, s = front ++ back := by
  constructor
  · rintro ⟨r, hr⟩
    have hencode : front.toList.utf8Encode ++ r.toByteArray = s.toList.utf8Encode := by
      rw [bytes_eq_flatMap, bytes_eq_flatMap] at hr
      rw [List.utf8Encode, List.utf8Encode, ← hr, List.toByteArray_append]
    obtain ⟨back, hback⟩ := List.isPrefix_of_utf8Encode_append_eq_utf8Encode _ hencode
    refine ⟨String.ofList back, String.toList_inj.mp ?_⟩
    rw [String.toList_append, String.toList_ofList, hback]
  · rintro ⟨back, rfl⟩
    rw [bytes_append]
    exact List.prefix_append _ _

/-- The same, with the bytes counted. -/
theorem take_bytes_eq_iff {front s : String} :
    (bytes s).take front.utf8ByteSize = bytes front ↔ ∃ back, s = front ++ back := by
  rw [← bytes_prefix_iff, List.prefix_iff_eq_take, length_bytes, eq_comm]

/-! ### Lower case -/

/-- The bytes of a character beyond ASCII are beyond ASCII. -/
theorem le_of_mem_utf8EncodeChar {c : Char} (hc : 127 < c.toNat) {b : UInt8}
    (hb : b ∈ String.utf8EncodeChar c) : 128 ≤ b.toNat := by
  have hval : ¬c.val.toNat ≤ 127 := Nat.not_le_of_lt hc
  simp only [String.utf8EncodeChar, if_neg hval] at hb
  split at hb
  · simp only [List.mem_cons, List.not_mem_nil, or_false] at hb
    rcases hb with rfl | rfl <;> simp <;> omega
  · split at hb
    · simp only [List.mem_cons, List.not_mem_nil, or_false] at hb
      rcases hb with rfl | rfl | rfl <;> simp <;> omega
    · simp only [List.mem_cons, List.not_mem_nil, or_false] at hb
      rcases hb with rfl | rfl | rfl | rfl <;> simp <;> omega

theorem lowerByte_of_le {b : UInt8} (h : 128 ≤ b.toNat) : lowerByte b = b := by
  refine if_neg fun hb => ?_
  have hle : b.toNat ≤ 90 := hb.2
  omega

/-- An ASCII character is encoded as its code, and so is its lower case. -/
theorem lowerByte_toUInt8 {c : Char} (hc : c.toNat ≤ 127) :
    lowerByte c.val.toUInt8 = c.toLower.val.toUInt8 := by
  have hval : c.val.toNat ≤ 127 := hc
  have hbyte : c.val.toUInt8.toNat = c.val.toNat := by
    rw [UInt32.toNat_toUInt8]
    omega
  have hiff : 65 ≤ c.val.toUInt8 ∧ c.val.toUInt8 ≤ 90 ↔ c.val ≥ 'A'.val ∧ c.val ≤ 'Z'.val := by
    rw [UInt8.le_iff_toNat_le, UInt8.le_iff_toNat_le, hbyte, ge_iff_le, UInt32.le_iff_toNat_le,
      UInt32.le_iff_toNat_le]
    rfl
  rw [lowerByte]
  split
  · rename_i h
    rw [val_toLower (hiff.mp h), UInt32.toUInt8_add]
    rfl
  · rename_i h
    rw [toLower_of_not_upper (mt hiff.mpr h)]

/-- **The bytes of a character in lower case** are its bytes in lower case. -/
theorem utf8EncodeChar_toLower (c : Char) :
    String.utf8EncodeChar c.toLower = (String.utf8EncodeChar c).map lowerByte := by
  rcases Nat.lt_or_ge 127 c.toNat with hc | hc
  · -- no letter, and none of its bytes is that of a letter
    have hlower : c.toLower = c := by
      refine toLower_of_not_upper fun h => ?_
      have hle : c.toNat ≤ 90 := h.2
      omega
    rw [hlower]
    refine (List.map_congr_left fun b hb => ?_).trans (List.map_id _) |>.symm
    exact lowerByte_of_le (le_of_mem_utf8EncodeChar hc hb)
  · have hsize : c.utf8Size = 1 := Char.utf8Size_eq_one_iff.mpr hc
    have hsize' : c.toLower.utf8Size = 1 := (utf8Size_toLower c).trans hsize
    rw [String.utf8EncodeChar_eq_singleton hsize, String.utf8EncodeChar_eq_singleton hsize',
      List.map_singleton, lowerByte_toUInt8 hc]

/-- **The bytes of a text in lower case** are its bytes in lower case. -/
theorem bytes_lower (s : String) : bytes (lower s) = (bytes s).map lowerByte := by
  rw [bytes_eq_flatMap, bytes_eq_flatMap, toList_lower, List.flatMap_map, List.map_flatMap]
  exact congrArg (List.flatMap · s.toList) (funext utf8EncodeChar_toLower)

/-! ### Beginnings -/

/-- Whether a word is in front of a text can be told from the text in lower case. -/
theorem exists_lower_eq_append_iff {word s : String} :
    (∃ back, lower s = lower word ++ back) ↔
      ∃ front back, s = front ++ back ∧ lower front = lower word := by
  constructor
  · rintro ⟨rest, hrest⟩
    rw [← String.toList_inj, toList_lower, String.toList_append, List.map_eq_append_iff] at hrest
    obtain ⟨front, back, hs, hfront, -⟩ := hrest
    refine ⟨String.ofList front, String.ofList back, ?_, ?_⟩
    · rw [← String.ofList_append, ← hs, String.ofList_toList]
    · rw [← String.toList_inj, toList_lower, String.toList_ofList, hfront]
  · rintro ⟨front, back, rfl, hfront⟩
    refine ⟨lower back, ?_⟩
    rw [← hfront, ← String.toList_inj]
    simp

/-- **A beginning up to case, told from its bytes.** -/
theorem beginsLike_iff_bytes {word s : String} :
    beginsLike word s = true ↔
      ((bytes s).take word.utf8ByteSize).map lowerByte = (bytes word).map lowerByte := by
  rw [beginsLike_iff, ← exists_lower_eq_append_iff, ← take_bytes_eq_iff, utf8ByteSize_lower,
    bytes_lower, bytes_lower, List.map_take]

/-- A beginning letter for letter, told from its bytes. -/
theorem beginsWith_iff_bytes {word s : String} :
    beginsWith word s = true ↔ (bytes s).take word.utf8ByteSize = bytes word := by
  rw [beginsWith_iff, take_bytes_eq_iff]

/-- **Bytes can be cut off where a character ends** and nowhere else. -/
theorem exists_front?_iff {n : Nat} {s : String} :
    (∃ front, front? n s = some front) ↔ (String.Pos.Raw.mk n).IsValid s := by
  rw [String.Pos.Raw.isValid_iff_exists_append]
  constructor
  · rintro ⟨front, h⟩
    obtain ⟨⟨back, hs⟩, rfl⟩ := front?_eq_some_iff.mp h
    exact ⟨front, back, hs, rfl⟩
  · rintro ⟨front, back, hs, hsize⟩
    exact ⟨front, front?_eq_some_iff.mpr ⟨⟨back, hs⟩, congrArg String.Pos.Raw.byteIdx hsize.symm⟩⟩

/-- The bytes that are cut off are the first ones. -/
theorem bytes_of_front?_eq_some {n : Nat} {s front : String} (h : front? n s = some front) :
    bytes front = (bytes s).take n := by
  obtain ⟨hback, rfl⟩ := front?_eq_some_iff.mp h
  exact (take_bytes_eq_iff.mpr hback).symm

end Text

end TrafficGraph

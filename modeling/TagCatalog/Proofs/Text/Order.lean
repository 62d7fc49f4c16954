/-!
# The order of texts

Texts are compared character by character.  Their bytes in UTF-8 come in the same
order: of two characters the lesser has the lesser bytes, whatever follows them.
-/

namespace TagCatalog.Text

/-- Whether the bytes of a text in UTF-8 come before those of another. -/
def BytesBefore (first second : String) : Prop :=
  List.Lex (· < ·) first.toUTF8.data.toList second.toUTF8.data.toList

theorem toList_toUTF8 (text : String) :
    text.toUTF8.data.toList = text.toList.flatMap String.utf8EncodeChar := by
  rw [String.toUTF8_eq_toByteArray, ← String.utf8Encode_toList, List.utf8Encode,
    List.toList_data_toByteArray]

theorem lex_ofNat_cons_iff {first second : Nat} {rest more : List UInt8} (firstByte : first < 256)
    (secondByte : second < 256) :
    List.Lex (· < ·) (UInt8.ofNat first :: rest) (UInt8.ofNat second :: more) ↔
      first < second ∨ first = second ∧ List.Lex (· < ·) rest more := by
  rw [List.cons_lex_cons_iff, UInt8.lt_iff_toNat_lt, ← UInt8.toNat_inj,
    UInt8.toNat_ofNat_of_lt' firstByte, UInt8.toNat_ofNat_of_lt' secondByte]

/-- A character with fewer bytes has a lesser first byte.  With as many bytes, the bytes
are the digits of the characters to the base 64, with the same marks. -/
theorem lex_utf8EncodeChar {first second : Char} (below : first < second)
    (rest more : List UInt8) : List.Lex (· < ·) (String.utf8EncodeChar first ++ rest)
      (String.utf8EncodeChar second ++ more) := by
  have numbers : first.val.toNat < second.val.toNat := UInt32.lt_iff_toNat_lt.mp below
  have bound : second.val.toNat < 0x110000 := by
    have valid := second.valid
    simp only [UInt32.isValidChar, Nat.isValidChar] at valid
    omega
  have digits {number : Nat} (bound : number < 0x110000) :
      number / 64 = 64 * (number / 4096) + number / 64 % 64 ∧
      number / 4096 = 64 * (number / 262144) + number / 4096 % 64 ∧
      number / 262144 % 8 = number / 262144 := by
    omega
  obtain ⟨_, _, _⟩ := digits bound
  obtain ⟨_, _, _⟩ := digits (Nat.lt_trans numbers bound)
  simp only [String.utf8EncodeChar]
  repeat' split
  all_goals
    simp (disch := omega) only [List.cons_append, List.nil_append, lex_ofNat_cons_iff]
    omega

theorem lex_flatMap_utf8EncodeChar {first second : List Char} (below : first < second) :
    List.Lex (· < ·) (first.flatMap String.utf8EncodeChar)
      (second.flatMap String.utf8EncodeChar) := by
  induction below with
  | @nil character rest =>
      rw [List.flatMap_nil, List.flatMap_cons]
      obtain ⟨byte, bytes, encoded⟩ :=
        List.exists_cons_of_ne_nil (String.utf8EncodeChar_ne_nil (c := character))
      rw [encoded]
      exact .nil
  | rel less => exact lex_utf8EncodeChar less _ _
  | cons _ inductionHypothesis => exact List.append_left_lt inductionHypothesis

theorem bytesBefore_of_lt {first second : String} (below : first < second) :
    BytesBefore first second := by
  rw [BytesBefore, toList_toUTF8, toList_toUTF8]
  exact lex_flatMap_utf8EncodeChar below

end TagCatalog.Text

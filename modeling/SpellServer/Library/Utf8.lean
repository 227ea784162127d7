import Mathlib.Data.Nat.Notation
import SpellServer.Library.Text

/-!
# Bytes of a text

A byte below 128 is a character of its own, so that a text can be cut on either
side of it.
-/

namespace Library

/-- The UTF-8 bytes of a text. -/
def encode (text : List Char) : List UInt8 := text.flatMap String.utf8EncodeChar

theorem encode_append (text later : List Char) :
    encode (text ++ later) = encode text ++ encode later := List.flatMap_append

theorem encode_cons (c : Char) (text : List Char) :
    encode (c :: text) = String.utf8EncodeChar c ++ encode text := List.flatMap_cons

theorem length_encode (text : List Char) : (encode text).length = byteLength text := by
  induction text with
  | nil => rfl
  | cons c text induction =>
      rw [encode_cons, List.length_append, String.length_utf8EncodeChar, induction, byteLength_cons]

theorem data_toUTF8 (s : String) : s.toUTF8.data.toList = encode s.toList := by
  have bytes : s.toList.utf8Encode = s.toUTF8 := String.utf8Encode_toList
  rw [← bytes, List.utf8Encode, List.data_toByteArray]
  rfl

theorem getElem?_toUTF8 (s : String) (index : ℕ) :
    s.toUTF8.data[index]? = (encode s.toList)[index]? := by
  rw [← data_toUTF8, Array.getElem?_toList]

theorem size_toUTF8 (s : String) : s.toUTF8.size = byteLength s.toList := by
  rw [← length_encode, ← data_toUTF8, Array.length_toList]
  rfl

/-- A byte below 128 stands for itself. -/
theorem utf8EncodeChar_of_ascii {c : Char} {byte : UInt8} (member : byte ∈ String.utf8EncodeChar c)
    (ascii : byte.toNat < 128) : String.utf8EncodeChar c = [byte] ∧ c.toNat = byte.toNat := by
  unfold String.utf8EncodeChar at member ⊢
  dsimp only at member ⊢
  split
  · rename_i small
    rw [if_pos small] at member
    cases List.mem_singleton.mp member
    refine ⟨rfl, ?_⟩
    rw [UInt8.toNat_ofNat']
    have code : c.toNat = c.val.toNat := rfl
    omega
  · rename_i large
    rw [if_neg large] at member
    split at member
    · simp only [List.mem_cons, List.not_mem_nil, or_false] at member
      rcases member with rfl | rfl <;> rw [UInt8.toNat_ofNat'] at ascii <;> omega
    · split at member
      · simp only [List.mem_cons, List.not_mem_nil, or_false] at member
        rcases member with rfl | rfl | rfl <;> rw [UInt8.toNat_ofNat'] at ascii <;> omega
      · simp only [List.mem_cons, List.not_mem_nil, or_false] at member
        rcases member with rfl | rfl | rfl | rfl <;> rw [UInt8.toNat_ofNat'] at ascii <;> omega

theorem utf8EncodeChar_eq_of_ascii {c : Char} (ascii : c.toNat < 128) :
    String.utf8EncodeChar c = [UInt8.ofNat c.toNat] := by
  have small : c.val.toNat ≤ 0x7f := by
    have code : c.toNat = c.val.toNat := rfl
    omega
  unfold String.utf8EncodeChar
  exact if_pos small

theorem utf8Size_of_ascii {c : Char} (ascii : c.toNat < 128) : c.utf8Size = 1 := by
  rw [← String.length_utf8EncodeChar, utf8EncodeChar_eq_of_ascii ascii, List.length_singleton]

/-- A text is cut at a byte below 128. -/
theorem exists_char_of_byte {text : List Char} {index : ℕ} {byte : UInt8}
    (found : (encode text)[index]? = some byte) (ascii : byte.toNat < 128) :
    ∃ front c back, text = front ++ c :: back ∧ byteLength front = index ∧
      c.toNat = byte.toNat := by
  induction text generalizing index with
  | nil => cases found
  | cons c text induction =>
      rw [encode_cons] at found
      by_cases inside : index < (String.utf8EncodeChar c).length
      · rw [List.getElem?_append_left inside] at found
        obtain ⟨single, code⟩ := utf8EncodeChar_of_ascii (List.mem_of_getElem? found) ascii
        rw [single, List.length_singleton] at inside
        exact ⟨[], c, text, rfl, (Nat.lt_one_iff.mp inside).symm, code⟩
      · rw [List.getElem?_append_right (Nat.not_lt.mp inside)] at found
        obtain ⟨front, d, back, parts, length, code⟩ := induction found
        refine ⟨c :: front, d, back, by rw [parts]; rfl, ?_, code⟩
        rw [String.length_utf8EncodeChar] at inside length
        rw [byteLength_cons, length]
        omega

/-- The byte of a character that is one byte long. -/
theorem getElem?_encode (front back : List Char) {c : Char} (ascii : c.toNat < 128) :
    (encode (front ++ c :: back))[byteLength front]? = some (UInt8.ofNat c.toNat) := by
  rw [encode_append, encode_cons, utf8EncodeChar_eq_of_ascii ascii, ← length_encode,
    List.getElem?_append_right (Nat.le_refl _), Nat.sub_self]
  rfl

end Library

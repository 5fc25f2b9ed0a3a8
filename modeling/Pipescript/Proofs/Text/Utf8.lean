import Mathlib.Data.List.Basic
import Pipescript.Text.Utf8

/-!
# ASCII bytes

The bytes of a character that is not ASCII are all beyond ASCII.  So an ASCII byte of a text is the
whole of the character with its number, and bytes may be cut there before they are decoded.
-/

namespace Pipescript

namespace Text

/-- A character is one byte with its number, or all its bytes are beyond ASCII. -/
theorem utf8EncodeChar_cases (c : Char) :
    String.utf8EncodeChar c = [UInt8.ofNat c.toNat] ∧ c.toNat < 128 ∨
      ∀ byte ∈ String.utf8EncodeChar c, 128 ≤ byte.toNat := by
  have number : c.val.toNat = c.toNat := rfl
  rw [String.utf8EncodeChar.eq_1, number]
  by_cases ascii : c.toNat ≤ 127
  · rw [if_pos ascii]
    exact .inl ⟨rfl, Nat.lt_succ_of_le ascii⟩
  · rw [if_neg ascii]
    refine .inr fun byte member => ?_
    split_ifs at member <;> simp only [List.mem_cons, List.not_mem_nil, or_false] at member <;>
      rcases member with rfl | rfl | rfl | rfl <;> simp only [UInt8.toNat_ofNat'] <;> omega

/-- An ASCII byte of a character is the character. -/
theorem eq_of_mem_utf8EncodeChar
    {c d : Char}
    (ascii : d.toNat < 128)
    (member : UInt8.ofNat d.toNat ∈ String.utf8EncodeChar c) :
    c = d := by
  have byteNumber : ∀ {e : Char}, e.toNat < 128 → (UInt8.ofNat e.toNat).toNat = e.toNat :=
    fun small => UInt8.toNat_ofNat_of_lt' (Nat.lt_trans small (by decide))
  rcases utf8EncodeChar_cases c with ⟨alone, small⟩ | beyond
  · rw [alone, List.mem_singleton] at member
    have sameNumber := congrArg UInt8.toNat member
    rw [byteNumber ascii, byteNumber small] at sameNumber
    exact Char.toNat_inj.1 sameNumber.symm
  · have large := beyond _ member
    rw [byteNumber ascii] at large
    omega

@[simp]
theorem utf8Bytes_nil : utf8Bytes [] = [] := rfl

theorem utf8Bytes_cons (c : Char) (rest : Text) :
    utf8Bytes (c :: rest) = String.utf8EncodeChar c ++ utf8Bytes rest := rfl

theorem utf8Bytes_append (left right : Text) :
    utf8Bytes (left ++ right) = utf8Bytes left ++ utf8Bytes right :=
  List.flatMap_append

/-- A text whose last byte is an ASCII byte ends in that character. -/
theorem exists_of_getLast?_utf8Bytes
    {text : Text} {d : Char}
    (ascii : d.toNat < 128)
    (last : text.utf8Bytes.getLast? = some (UInt8.ofNat d.toNat)) :
    ∃ front, text = front ++ [d] := by
  rcases List.eq_nil_or_concat text with rfl | ⟨front, c, rfl⟩
  · cases last
  · rw [List.concat_eq_append] at last ⊢
    have single : utf8Bytes [c] = String.utf8EncodeChar c := List.flatMap_singleton _ _
    rw [utf8Bytes_append, single,
      List.getLast?_append_of_ne_nil _ String.utf8EncodeChar_ne_nil] at last
    obtain rfl := eq_of_mem_utf8EncodeChar ascii (List.mem_of_getLast? last)
    exact ⟨front, rfl⟩

/-- The bytes that make up a text are those of its UTF-8 form. -/
theorem ofUtf8?_eq_some_iff {bytes : List UInt8} {text : Text} :
    ofUtf8? bytes = some text ↔ bytes = text.utf8Bytes := by
  constructor
  · intro decoded
    obtain ⟨chars, found, rfl⟩ := Option.map_eq_some_iff.1 decoded
    have encoded := @ByteArray.utf8Encode_get_utf8Decode? bytes.toByteArray (by rw [found]; rfl)
    simp only [found, Option.get_some] at encoded
    exact (List.toByteArray_inj.1 encoded).symm
  · rintro rfl
    exact ofUtf8?_utf8Bytes text

end Text

end Pipescript

import Pipescript.Text.Basic

/-!
# UTF-8

The bytes of a text, and the text of bytes that are well-formed UTF-8.  Where only ASCII characters
matter, bytes may be read before it is known whether they are well-formed; where bytes have to be
shown, what is not well-formed is replaced.
-/

namespace Pipescript

namespace Text

/-- The bytes of the UTF-8 form. -/
def utf8Bytes (text : Text) : List UInt8 :=
  text.flatMap String.utf8EncodeChar

/-- The text whose UTF-8 form the bytes are. -/
def ofUtf8? (bytes : List UInt8) : Option Text :=
  bytes.toByteArray.utf8Decode?.map Array.toList

/-- One character for each byte, the one with its number.  Bytes that are no ASCII characters become
characters that are none. -/
def ofBytes (bytes : List UInt8) : Text :=
  bytes.map fun byte => Char.ofNat byte.toNat

/-- The character whose UTF-8 form bytes begin with. -/
def firstOfUtf8? (bytes : List UInt8) : Option Char :=
  bytes.toByteArray.utf8DecodeChar? 0

/-- Whether a byte can only go on with a character. -/
def isContinuation (byte : UInt8) : Bool :=
  0x80 ≤ byte && byte ≤ 0xBF

/-- Whether two bytes begin the form of a character that has more of them. -/
def beginsLongForm (first second : UInt8) : Bool :=
  (0xE0 ≤ first && first ≤ 0xF4) && isContinuation second &&
    (first != 0xE0 || 0xA0 ≤ second) && (first != 0xED || second ≤ 0x9F) &&
    (first != 0xF0 || 0x90 ≤ second) && (first != 0xF4 || second ≤ 0x8F)

/-- How many bytes in front of bytes are replaced together, if no character is there: as many as
begin the form of one, or a single byte. -/
def brokenSize : List UInt8 → Nat
  | first :: second :: later =>
      if beginsLongForm first second then
        if 0xF0 ≤ first && later.head?.any isContinuation then 3 else 2
      else
        1
  | _ => 1

/-- The text of bytes, a replacement character standing for each part that is broken. -/
def ofBroken : List UInt8 → Text
  | [] => []
  | byte :: later =>
      match firstOfUtf8? (byte :: later) with
      | some c => c :: ofBroken (later.drop (c.utf8Size - 1))
      | none => '\uFFFD' :: ofBroken (later.drop (brokenSize (byte :: later) - 1))
termination_by bytes => bytes.length
decreasing_by
  all_goals
    simp only [List.length_drop, List.length_cons]
    omega

theorem ofUtf8?_utf8Bytes (text : Text) : ofUtf8? text.utf8Bytes = some text := by
  have decoded := @List.utf8Decode?_utf8Encode text
  rw [List.utf8Encode] at decoded
  simp [ofUtf8?, utf8Bytes, decoded]

/-- In the bytes of a text nothing is broken. -/
theorem ofBroken_utf8Bytes (text : Text) : ofBroken text.utf8Bytes = text := by
  induction text with
  | nil => rw [utf8Bytes, List.flatMap_nil, ofBroken]
  | cons c rest inductionHypothesis =>
      have whole : utf8Bytes (c :: rest) = String.utf8EncodeChar c ++ utf8Bytes rest := rfl
      have size : (String.utf8EncodeChar c).length = c.utf8Size := String.length_utf8EncodeChar c
      have found : firstOfUtf8? (utf8Bytes (c :: rest)) = some c := by
        have decoded := @List.utf8DecodeChar?_utf8Encode_cons rest c
        rwa [List.utf8Encode] at decoded
      obtain ⟨byte, others, encoded⟩ :=
        List.exists_cons_of_ne_nil (String.utf8EncodeChar_ne_nil (c := c))
      rw [whole, encoded, List.cons_append] at found ⊢
      rw [encoded, List.length_cons] at size
      rw [ofBroken, found]
      dsimp only
      rw [← size, Nat.add_sub_cancel, List.drop_left, inductionHypothesis]

end Text

end Pipescript

import Mathlib.Data.Char
import Mathlib.Tactic.SplitIfs

/-!
# The bytes of a text

Texts are compared character by character. Their UTF-8 encodings stand in the same order byte by
byte, since the encoding of a greater character is greater and no encoding begins another one.
-/

namespace DocStore.Text

/-- The UTF-8 encoding. -/
def bytes (text : String) : List UInt8 := text.toUTF8.data.toList

theorem bytes_eq (text : String) : bytes text = text.toList.flatMap String.utf8EncodeChar := by
  obtain ⟨chars, rfl⟩ := text.exists_eq_ofList
  rw [bytes, String.toUTF8_eq_toByteArray, String.toByteArray_ofList, String.toList_ofList,
    List.utf8Encode, List.toList_data_toByteArray]

theorem cons_ofNat_lt_iff {m n : Nat} (small : m < 256) (smallOther : n < 256)
    (rest others : List UInt8) :
    UInt8.ofNat m :: rest < UInt8.ofNat n :: others ↔ m < n ∨ m = n ∧ rest < others := by
  rw [List.cons_lt_cons_iff, UInt8.lt_iff_toNat_lt, ← UInt8.toNat_inj,
    UInt8.toNat_ofNat_of_lt' small, UInt8.toNat_ofNat_of_lt' smallOther]

/-- What follows two different characters does not matter for the order of their bytes. -/
theorem encoding_lt {a b : Char} (less : a < b) (rest others : List UInt8) :
    String.utf8EncodeChar a ++ rest < String.utf8EncodeChar b ++ others := by
  have below : a.val.toNat < b.val.toNat := less
  have bound : b.val.toNat < 0x110000 := by
    have valid : b.val.toNat < 0xd800 ∨ 0xdfff < b.val.toNat ∧ b.val.toNat < 0x110000 := b.valid
    omega
  -- The bytes are digits to the base 64, so quotients are taken one digit at a time.
  have twoDigits (n : Nat) : n / 4096 = n / 64 / 64 := (Nat.div_div_eq_div_mul n 64 64).symm
  have threeDigits (n : Nat) : n / 262144 = n / 64 / 64 / 64 := by omega
  rw [String.utf8EncodeChar, String.utf8EncodeChar]
  generalize a.val.toNat = m at *
  generalize b.val.toNat = n at *
  simp only [twoDigits, threeDigits]
  split_ifs <;>
    simp (disch := omega) only [List.cons_append, List.nil_append, cons_ofNat_lt_iff] <;> omega

theorem append_lt_append_iff (start rest others : List UInt8) :
    start ++ rest < start ++ others ↔ rest < others := by
  induction start with
  | nil => rfl
  | cons byte start ih => simp [ih]

theorem flatMap_encoding_lt_iff (chars others : List Char) :
    chars.flatMap String.utf8EncodeChar < others.flatMap String.utf8EncodeChar ↔
      chars < others := by
  induction chars generalizing others with
  | nil =>
      cases others with
      | nil => simp
      | cons b others =>
          obtain ⟨byte, rest, encoded⟩ :=
            List.exists_cons_of_ne_nil (String.utf8EncodeChar_ne_nil (c := b))
          simp [encoded]
  | cons a chars ih =>
      cases others with
      | nil => simp
      | cons b others =>
          rw [List.flatMap_cons, List.flatMap_cons, List.cons_lt_cons_iff]
          rcases lt_trichotomy a b with less | rfl | greater
          · exact iff_of_true (encoding_lt less _ _) (.inl less)
          · rw [append_lt_append_iff, ih]
            simp
          · refine iff_of_false (fun below => ?_) ?_
            · exact List.lt_asymm below (encoding_lt greater _ _)
            · rintro (less | ⟨rfl, _⟩)
              · exact lt_asymm less greater
              · exact lt_irrefl a greater

/-- Texts are ordered bytewise. -/
theorem lt_iff_bytes_lt (a b : String) : a < b ↔ bytes a < bytes b := by
  rw [bytes_eq, bytes_eq, flatMap_encoding_lt_iff]
  rfl

end DocStore.Text

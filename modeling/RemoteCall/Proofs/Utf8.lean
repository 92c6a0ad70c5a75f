import Mathlib.Data.List.Basic
import Mathlib.Tactic.SplitIfs

namespace RemoteCall

/-- The bytes of a text in UTF-8. -/
def utf8Bytes (s : String) : List UInt8 :=
  s.toUTF8.data.toList

theorem utf8Bytes_eq_flatMap (s : String) : utf8Bytes s = s.toList.flatMap String.utf8EncodeChar := by
  rw [utf8Bytes, String.toUTF8_eq_toByteArray, ← String.utf8Encode_toList, List.utf8Encode,
    List.toList_data_toByteArray]

/-- The first difference between the bytes of two characters points the same way as the characters, for each pair of
lengths. -/
theorem utf8EncodeChar_append_lt {c d : Char} (below : c < d) (xs ys : List UInt8) :
    String.utf8EncodeChar c ++ xs < String.utf8EncodeChar d ++ ys := by
  have less : c.val.toNat < d.val.toNat := UInt32.lt_iff_toNat_lt.mp below
  have valid : d.val.toNat < 0x110000 := by
    rcases d.valid with low | high <;> omega
  have digit (n : Nat) : (n % 64 + 128) % 256 = n % 64 + 128 := by omega
  have lead (n : Nat) : (n % 8 + 240) % 256 = n % 8 + 240 := by omega
  have two (n : Nat) : n / 4096 = n / 64 / 64 := by omega
  have three (n : Nat) : n / 262144 = n / 64 / 64 / 64 := by omega
  -- one case for each pair of lengths: the leading bytes differ in it, or the digits to base 64 do
  simp only [String.utf8EncodeChar]
  split_ifs <;>
    simp only [List.cons_append, List.nil_append, List.cons_lt_cons_iff, UInt8.lt_iff_toNat_lt, ← UInt8.toNat_inj,
      UInt8.toNat_ofNat', Nat.reducePow, digit, lead, two, three] <;> omega

theorem flatMap_utf8EncodeChar_lt {cs ds : List Char} (below : cs < ds) :
    cs.flatMap String.utf8EncodeChar < ds.flatMap String.utf8EncodeChar := by
  induction below with
  | @nil d rest =>
    rw [List.flatMap_nil, List.flatMap_cons]
    obtain ⟨b, more, bytes⟩ := List.exists_cons_of_ne_nil (String.utf8EncodeChar_ne_nil (c := d))
    rw [bytes, List.cons_append]
    exact List.Lex.nil
  | @cons c xs ys later ih =>
    rw [List.flatMap_cons, List.flatMap_cons]
    exact List.append_left_lt ih
  | @rel c xs d ys first =>
    rw [List.flatMap_cons, List.flatMap_cons]
    exact utf8EncodeChar_append_lt first _ _

/-- The order of texts by their characters is the order by their bytes. -/
theorem utf8Bytes_lt {a b : String} (below : a < b) : utf8Bytes a < utf8Bytes b := by
  rw [utf8Bytes_eq_flatMap, utf8Bytes_eq_flatMap]
  exact flatMap_utf8EncodeChar_lt (String.lt_iff.mp below)

end RemoteCall

import Mathlib.Data.List.Basic
import TunnelKeeper.Text.Utf8

/-!
# Written characters are read back

The bytes of a text are read as its characters, none of them broken. So no two texts have the same
bytes.
-/
namespace TunnelKeeper.Text

theorem toNat_byte {n : Nat} (h : n < 0x100) : (UInt8.ofNat n).toNat = n :=
  UInt8.toNat_ofNat_of_lt' h

/-- The next byte of a character adds its six bits to the value. -/
theorem readTail_ofNat {value missing low high n : Nat} (h : n < 0x40) (lower : low ≤ n + 0x80)
    (upper : n + 0x80 ≤ high) (bs : List UInt8) :
    readTail value (missing + 1) low high (UInt8.ofNat (n + 0x80) :: bs) =
      readTail (64 * value + n) missing 0x80 0xbf bs := by
  have byte : (UInt8.ofNat (n + 0x80)).toNat = n + 0x80 := toNat_byte (by omega)
  rw [readTail, byte, if_pos ⟨lower, upper⟩, Nat.add_sub_cancel]

theorem readTail_zero {value : Nat} {c : Char} (h : value = c.toNat) (low high : Nat)
    (bs : List UInt8) : readTail value 0 low high bs = (some c, bs) := by
  rw [readTail, h, Char.ofNat_toNat]

theorem isValidChar_toNat (c : Char) :
    c.toNat < 0xd800 ∨ 0xdfff < c.toNat ∧ c.toNat < 0x110000 := c.valid

/-- A character is read from its own bytes, and no further. -/
theorem readChar_utf8EncodeChar (c : Char) (rest : List UInt8) :
    ∃ b bs, String.utf8EncodeChar c = b :: bs ∧ readChar b (bs ++ rest) = (some c, rest) := by
  have valid := isValidChar_toNat c
  have value : c.val.toNat = c.toNat := rfl
  simp only [String.utf8EncodeChar, value]
  split_ifs with one two three
  · refine ⟨_, _, rfl, ?_⟩
    simp only [readChar]
    rw [toNat_byte (by omega), if_pos (by omega), Char.ofNat_toNat]
    rfl
  · refine ⟨_, _, rfl, ?_⟩
    simp only [readChar]
    rw [toNat_byte (by omega), if_neg (by omega), if_pos (by omega), Nat.add_sub_cancel,
      List.cons_append, readTail_ofNat (by omega) (by omega) (by omega),
      readTail_zero (c := c) (by omega)]
    rfl
  · refine ⟨_, _, rfl, ?_⟩
    simp only [readChar]
    rw [toNat_byte (by omega), if_neg (by omega), if_neg (by omega), if_pos (by omega),
      Nat.add_sub_cancel, List.cons_append,
      readTail_ofNat (by omega) (by split <;> omega) (by split <;> omega), List.cons_append,
      readTail_ofNat (by omega) (by omega) (by omega), readTail_zero (c := c) (by omega)]
    rfl
  · refine ⟨_, _, rfl, ?_⟩
    simp only [readChar]
    rw [toNat_byte (by omega), if_neg (by omega), if_neg (by omega), if_neg (by omega),
      if_pos (by omega), Nat.add_sub_cancel, List.cons_append,
      readTail_ofNat (by omega) (by split <;> omega) (by split <;> omega), List.cons_append,
      readTail_ofNat (by omega) (by omega) (by omega), List.cons_append,
      readTail_ofNat (by omega) (by omega) (by omega), readTail_zero (c := c) (by omega)]
    rfl

/-- A byte of the first 128 stands for the character with its number alone. -/
theorem toNat_of_mem_utf8EncodeChar {c : Char} {b : UInt8} (h : b ∈ String.utf8EncodeChar c)
    (ascii : b.toNat < 0x80) : c.toNat = b.toNat := by
  have valid := isValidChar_toNat c
  have value : c.val.toNat = c.toNat := rfl
  simp only [String.utf8EncodeChar, value] at h
  split_ifs at h with one two three <;>
    simp only [List.mem_cons, List.not_mem_nil, or_false] at h
  · rw [h, toNat_byte (by omega)]
  · rcases h with rfl | rfl <;> rw [toNat_byte (by omega)] at ascii <;> omega
  · rcases h with rfl | rfl | rfl <;> rw [toNat_byte (by omega)] at ascii <;> omega
  · rcases h with rfl | rfl | rfl | rfl <;> rw [toNat_byte (by omega)] at ascii <;> omega

theorem utf8EncodeChar_ascii {c : Char} (h : c.toNat < 0x80) :
    String.utf8EncodeChar c = [UInt8.ofNat c.toNat] := by
  have value : c.val.toNat = c.toNat := rfl
  simp only [String.utf8EncodeChar, value]
  rw [if_pos (by omega)]

theorem readChars_encode (cs : List Char) : readChars (encode cs) = cs.map some := by
  induction cs with
  | nil => rw [encode, List.flatMap_nil, readChars, List.map_nil]
  | cons c cs ih =>
    obtain ⟨b, bs, written, read⟩ := readChar_utf8EncodeChar c (encode cs)
    rw [encode, List.flatMap_cons, ← encode, written, List.cons_append, readChars, read, ih,
      List.map_cons]

theorem decodeLenient_encode (cs : List Char) : decodeLenient (encode cs) = cs := by
  simp [decodeLenient, readChars_encode, Function.comp_def]

/-- No two texts have the same bytes. -/
theorem encode_injective : Function.Injective encode := by
  intro cs ds same
  rw [← decodeLenient_encode cs, same, decodeLenient_encode]

end TunnelKeeper.Text

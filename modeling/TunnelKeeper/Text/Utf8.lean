/-!
# UTF-8

Bytes are read character by character. Where they are no UTF-8, the longest run of bytes that could
still have begun a character counts as one broken character, and reading goes on after it. A lenient
reader shows a broken character as U+FFFD, a strict one refuses the text.
-/
namespace TunnelKeeper.Text

/-- The bytes that follow the first one of a character: `missing` more of them, of which the next
lies between `low` and `high`, and `value` is what the bytes so far stand for. -/
def readTail (value : Nat) : (missing low high : Nat) → List UInt8 → Option Char × List UInt8
  | 0, _, _, bs => (some (Char.ofNat value), bs)
  | _ + 1, _, _, [] => (none, [])
  | missing + 1, low, high, b :: bs =>
    if low ≤ b.toNat ∧ b.toNat ≤ high then
      readTail (64 * value + (b.toNat - 0x80)) missing 0x80 0xbf bs
    else (none, b :: bs)

/-- The character that starts with `b`, or nothing for a broken one, and the bytes after it. -/
def readChar (b : UInt8) (bs : List UInt8) : Option Char × List UInt8 :=
  let n := b.toNat
  if n < 0x80 then (some (Char.ofNat n), bs)
  else if 0xc2 ≤ n ∧ n ≤ 0xdf then readTail (n - 0xc0) 1 0x80 0xbf bs
  else if 0xe0 ≤ n ∧ n ≤ 0xef then
    readTail (n - 0xe0) 2 (if n = 0xe0 then 0xa0 else 0x80) (if n = 0xed then 0x9f else 0xbf) bs
  else if 0xf0 ≤ n ∧ n ≤ 0xf4 then
    readTail (n - 0xf0) 3 (if n = 0xf0 then 0x90 else 0x80) (if n = 0xf4 then 0x8f else 0xbf) bs
  else (none, bs)

theorem length_readTail (value missing low high : Nat) (bs : List UInt8) :
    (readTail value missing low high bs).2.length ≤ bs.length := by
  induction bs generalizing value missing low high with
  | nil => cases missing <;> simp [readTail]
  | cons b bs ih =>
    cases missing with
    | zero => simp [readTail]
    | succ missing =>
      simp only [readTail]
      split
      · exact Nat.le_succ_of_le (ih ..)
      · simp

theorem length_readChar (b : UInt8) (bs : List UInt8) : (readChar b bs).2.length ≤ bs.length := by
  unfold readChar
  simp only
  split
  · exact Nat.le_refl _
  · split
    · exact length_readTail ..
    · split
      · exact length_readTail ..
      · split
        · exact length_readTail ..
        · exact Nat.le_refl _

/-- The characters of a byte sequence, each broken one as nothing. -/
def readChars : List UInt8 → List (Option Char)
  | [] => []
  | b :: bs =>
    let step := readChar b bs
    step.1 :: readChars step.2
termination_by bs => bs.length
decreasing_by
  have := length_readChar b bs
  simp only [List.length_cons]
  omega

/-- Every broken character is shown as U+FFFD. -/
def decodeLenient (bs : List UInt8) : List Char := (readChars bs).map (·.getD '\ufffd')

/-- Nothing if a character is broken. -/
def decodeStrict? (bs : List UInt8) : Option (List Char) := (readChars bs).mapM id

def encode (cs : List Char) : List UInt8 := cs.flatMap String.utf8EncodeChar

end TunnelKeeper.Text

/-!
# Numbers in decimal and hexadecimal text

Numbers are written with the fewest digits. They are read from a run of ASCII digits; where a
reader has an upper bound, leading zeros are harmless and one plus sign may come first.
-/
namespace TunnelKeeper.Text

/-- The fewest decimal digits of a number. -/
def decimal (n : Nat) : List Char := Nat.toDigits 10 n

/-- The fewest lower-case hexadecimal digits of a number. -/
def hexadecimal (n : Nat) : List Char := Nat.toDigits 16 n

/-- The value of a non-empty run of decimal digits. -/
def natural? (cs : List Char) : Option Nat :=
  if !cs.isEmpty && cs.all Char.isDigit then some (Nat.ofDigitChars 10 cs 0) else none

/-- The value of a run of decimal digits that is at most `max`. -/
def naturalUpTo? (max : Nat) (cs : List Char) : Option Nat :=
  (natural? cs).filter (· ≤ max)

/-- As `naturalUpTo?`, with one plus sign allowed in front. -/
def signedUpTo? (max : Nat) : List Char → Option Nat
  | [] => none
  | c :: cs => if c = '+' then naturalUpTo? max cs else naturalUpTo? max (c :: cs)

def hexDigit? (c : Char) : Option Nat :=
  if '0' ≤ c ∧ c ≤ '9' then some (c.toNat - 48)
  else if 'a' ≤ c ∧ c ≤ 'f' then some (c.toNat - 87)
  else if 'A' ≤ c ∧ c ≤ 'F' then some (c.toNat - 55)
  else none

def hexValue? (cs : List Char) : Option Nat :=
  cs.foldlM (fun n c => (hexDigit? c).map (16 * n + ·)) 0

/-- A number with at least `width` decimal digits, filled with zeros. -/
def padded (width n : Nat) : List Char :=
  let ds := decimal n
  List.replicate (width - ds.length) '0' ++ ds

theorem decimal_ne_nil (n : Nat) : decimal n ≠ [] := by
  unfold decimal
  rw [Nat.toDigits_eq_if (by decide)]
  split <;> simp

theorem all_isDigit_decimal (n : Nat) : (decimal n).all Char.isDigit = true := by
  rw [List.all_eq_true]
  exact fun c hc => Nat.isDigit_of_mem_toDigits (by decide) (by decide) hc

@[simp] theorem natural?_decimal (n : Nat) : natural? (decimal n) = some n := by
  have hne : (decimal n).isEmpty = false := by
    simpa using decimal_ne_nil n
  simp only [natural?, hne, all_isDigit_decimal, Bool.not_false, Bool.and_self, if_true]
  rw [decimal, Nat.ofDigitChars_toDigits (by decide) (by decide)]

theorem naturalUpTo?_decimal {n max : Nat} (h : n ≤ max) :
    naturalUpTo? max (decimal n) = some n := by
  simp [naturalUpTo?, Option.filter, h]

end TunnelKeeper.Text

import Mathlib.Tactic.IntervalCases
import TunnelKeeper.Text.Blank
import TunnelKeeper.Text.Digits

/-!
# Written numbers

Numbers in decimal and in hexadecimal consist of the sixteen digits that are written, none of which
is a mark of punctuation or a blank character. A hexadecimal number reads back as itself, and so
does a decimal one that was filled with zeros.
-/
namespace TunnelKeeper.Text

/-- The sixteen characters that numbers are written with. -/
def IsDigit (c : Char) : Prop := ∃ d < 16, c = Nat.digitChar d

theorem hexDigit?_digitChar {d : Nat} (h : d < 16) : hexDigit? (Nat.digitChar d) = some d := by
  interval_cases d <;> decide

theorem IsDigit.isBlank {c : Char} (h : IsDigit c) : isBlank c = false := by
  obtain ⟨d, hd, rfl⟩ := h
  interval_cases d <;> decide

/-- No mark of punctuation is a digit. -/
theorem IsDigit.ne {c : Char} (h : IsDigit c) :
    c ≠ '.' ∧ c ≠ ':' ∧ c ≠ '/' ∧ c ≠ ',' ∧ c ≠ '+' := by
  obtain ⟨d, hd, rfl⟩ := h
  interval_cases d <;> decide

theorem isDigit_of_mem_toDigits {b n : Nat} (one_lt : 1 < b) (le : b ≤ 16) {c : Char}
    (h : c ∈ Nat.toDigits b n) : IsDigit c := by
  induction n using Nat.strongRecOn with
  | ind n ih =>
    rw [Nat.toDigits_eq_if one_lt] at h
    split at h
    case isTrue lt => exact ⟨n, by omega, List.mem_singleton.1 h⟩
    case isFalse ge =>
      rcases List.mem_append.1 h with h | h
      · exact ih (n / b) (Nat.div_lt_self (by omega) one_lt) h
      · have last := Nat.mod_lt n (Nat.zero_lt_of_lt one_lt)
        exact ⟨n % b, by omega, List.mem_singleton.1 h⟩

theorem isDigit_of_mem_decimal {n : Nat} {c : Char} (h : c ∈ decimal n) : IsDigit c :=
  isDigit_of_mem_toDigits (by decide) (by decide) h

theorem isDigit_of_mem_hexadecimal {n : Nat} {c : Char} (h : c ∈ hexadecimal n) : IsDigit c :=
  isDigit_of_mem_toDigits (by decide) (by decide) h

theorem hexadecimal_ne_nil (n : Nat) : hexadecimal n ≠ [] := Nat.toDigits_ne_nil

theorem length_hexadecimal_le {n : Nat} (h : n < 65536) : (hexadecimal n).length ≤ 4 :=
  (Nat.length_toDigits_le_iff (by decide) (by decide)).2 h

theorem hexValue?_concat (cs : List Char) (c : Char) :
    hexValue? (cs ++ [c]) =
      (hexValue? cs).bind fun n => (hexDigit? c).map (16 * n + ·) := by
  simp [hexValue?, List.foldlM_append]

@[simp] theorem hexValue?_hexadecimal (n : Nat) : hexValue? (hexadecimal n) = some n := by
  induction n using Nat.strongRecOn with
  | ind n ih =>
    rw [hexadecimal, Nat.toDigits_eq_if (by decide)]
    split
    case isTrue lt => simp [hexValue?, hexDigit?_digitChar lt]
    case isFalse ge =>
      have front := ih (n / 16) (Nat.div_lt_self (by omega) (by decide))
      have last := hexDigit?_digitChar (Nat.mod_lt n (by decide : 0 < 16))
      rw [hexadecimal] at front
      rw [hexValue?_concat, front, Option.bind_some, last, Option.map_some, Nat.div_add_mod]

theorem toNat_of_isDigit {c : Char} (h : c.isDigit = true) : 48 ≤ c.toNat ∧ c.toNat ≤ 57 := by
  simpa [Char.isDigit, UInt32.le_iff_toNat_le] using h

theorem toNat_of_isAlpha {c : Char} (h : c.isAlpha = true) :
    65 ≤ c.toNat ∧ c.toNat ≤ 90 ∨ 97 ≤ c.toNat ∧ c.toNat ≤ 122 := by
  have letter : (decide (65 ≤ c.val ∧ c.val ≤ 90) ||
      decide (97 ≤ c.val) && decide (c.val ≤ 122)) = true := h
  simpa [UInt32.le_iff_toNat_le] using letter

theorem isBlank_of_isDigit {c : Char} (h : c.isDigit = true) : isBlank c = false := by
  have range := toNat_of_isDigit h
  unfold isBlank
  simp
  omega

theorem isDigit_of_mem_padded {width n : Nat} {c : Char} (h : c ∈ padded width n) :
    c.isDigit = true := by
  rcases List.mem_append.1 h with h | h
  · rw [List.eq_of_mem_replicate h]
    rfl
  · exact List.all_eq_true.1 (all_isDigit_decimal n) c h

theorem padded_ne_nil (width n : Nat) : padded width n ≠ [] :=
  List.append_ne_nil_of_right_ne_nil _ (decimal_ne_nil n)

theorem length_padded {width n : Nat} (pos : 0 < width) (h : n < Nat.pow 10 width) :
    (padded width n).length = width := by
  have short : (decimal n).length ≤ width := (Nat.length_toDigits_le_iff (by decide) pos).2 h
  simp only [padded, List.length_append, List.length_replicate]
  omega

theorem ofDigitChars_zeros (k : Nat) (cs : List Char) :
    Nat.ofDigitChars 10 (List.replicate k '0' ++ cs) 0 = Nat.ofDigitChars 10 cs 0 := by
  induction k with
  | zero => rfl
  | succ k ih => exact ih

@[simp] theorem ofDigitChars_padded (width n : Nat) :
    Nat.ofDigitChars 10 (padded width n) 0 = n := by
  rw [padded, ofDigitChars_zeros, decimal, Nat.ofDigitChars_toDigits (by decide) (by decide)]

end TunnelKeeper.Text

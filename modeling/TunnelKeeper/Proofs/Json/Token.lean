import Mathlib.Data.List.Basic
import Mathlib.Data.List.TakeWhile
import Mathlib.Tactic.IntervalCases
import TunnelKeeper.Json.Printer
import TunnelKeeper.Json.Reader
import TunnelKeeper.Proofs.Text.Digits

/-!
# Written tokens

String literals, integers and words are read back from their text. The text of a string ends with
its quote; numbers and words end where a mark or nothing follows.
-/
namespace TunnelKeeper.Json
open TunnelKeeper

theorem hexValue?_zeros (k : Nat) (cs : List Char) :
    Text.hexValue? (List.replicate k '0' ++ cs) = Text.hexValue? cs := by
  induction k with
  | zero => rfl
  | succ k ih => exact ih

theorem exists_fourHex {n : Nat} (h : n < 65536) :
    ∃ a b c d, fourHex n = [a, b, c, d] ∧ Text.hexValue? [a, b, c, d] = some n := by
  have short := Text.length_hexadecimal_le h
  have four : (fourHex n).length = 4 := by
    simp only [fourHex, List.length_append, List.length_replicate]
    omega
  obtain ⟨a, b, c, d, eq⟩ := List.length_eq_four.1 four
  have value : Text.hexValue? (fourHex n) = some n := by
    rw [fourHex, hexValue?_zeros, Text.hexValue?_hexadecimal]
  exact ⟨a, b, c, d, eq, eq ▸ value⟩

/-- Whether an element of a string literal stands for a character whatever follows it. -/
def StringPart.Denotes (part : StringPart) (c : Char) : Prop :=
  ∀ parts, joinUnits (part :: parts) = (joinUnits parts).map (c :: ·)

theorem denotes_char (c : Char) : (StringPart.char c).Denotes c := fun _ => by rw [joinUnits]

theorem denotes_unit {c : Char} (h : c.toNat < 0xd800) : (StringPart.unit c.toNat).Denotes c := by
  have low : isLowSurrogate c.toNat = false := by simp [isLowSurrogate]; omega
  have high : isHighSurrogate c.toNat = false := by simp [isHighSurrogate]; omega
  intro parts
  rcases parts with _ | ⟨_ | _, parts⟩ <;> simp [joinUnits, low, high]

theorem stringParts_simple {e c : Char} (h : simpleEscape? e = some c) (cs : List Char) :
    stringParts ('\\' :: e :: cs) = (stringParts cs).map fun r => (.char c :: r.1, r.2) := by
  have other : e ≠ 'u' := by
    rintro rfl
    contradiction
  rw [stringParts.eq_def]
  simp [h, other]
  cases stringParts cs <;> rfl

theorem stringParts_unit {n : Nat} (h : n < 65536) (cs : List Char) :
    stringParts ('\\' :: 'u' :: fourHex n ++ cs) =
      (stringParts cs).map fun r => (.unit n :: r.1, r.2) := by
  obtain ⟨a, b, c, d, eq, value⟩ := exists_fourHex h
  rw [eq]
  simp only [List.cons_append, List.nil_append, stringParts, value]
  cases stringParts cs <;> rfl

theorem stringParts_char {c : Char} (quote : c ≠ '\x22') (backslash : c ≠ '\\')
    (h : ¬ c.toNat < 0x20) (cs : List Char) :
    stringParts (c :: cs) = (stringParts cs).map fun r => (.char c :: r.1, r.2) := by
  rw [stringParts.eq_def]
  simp [backslash, h]
  cases stringParts cs <;> rfl

/-- A character is written as one element that stands for it. -/
theorem stringParts_escapedChar (c : Char) (cs : List Char) :
    ∃ part : StringPart, part.Denotes c ∧
      stringParts (escapedChar c ++ cs) = (stringParts cs).map fun r => (part :: r.1, r.2) := by
  have simple {e : Char} (h : simpleEscape? e = some c) :
      ∃ part : StringPart, part.Denotes c ∧
        stringParts ('\\' :: e :: cs) = (stringParts cs).map fun r => (part :: r.1, r.2) :=
    ⟨_, denotes_char c, stringParts_simple h cs⟩
  by_cases special : c = '\x22' ∨ c = '\\'
  · rw [escapedChar, if_pos special]
    rcases special with rfl | rfl <;> exact simple rfl
  · rw [escapedChar, if_neg special]
    split
    case isTrue h => exact simple (h ▸ rfl)
    split
    case isTrue h => exact simple (h ▸ rfl)
    split
    case isTrue h => exact simple (h ▸ rfl)
    split
    case isTrue h => exact simple (h ▸ rfl)
    split
    case isTrue h => exact simple (h ▸ rfl)
    split
    case isTrue h => exact ⟨_, denotes_unit (by omega), stringParts_unit (by omega) cs⟩
    case isFalse h =>
      exact ⟨_, denotes_char c, stringParts_char (mt .inl special) (mt .inr special) h cs⟩

theorem stringParts_stringLiteral (cs rest : List Char) :
    ∃ parts, stringParts (cs.flatMap escapedChar ++ '\x22' :: rest) = some (parts, rest) ∧
      joinUnits parts = some cs := by
  induction cs with
  | nil => exact ⟨[], rfl, rfl⟩
  | cons c cs ih =>
    obtain ⟨parts, read, joined⟩ := ih
    obtain ⟨part, denotes, first⟩ :=
      stringParts_escapedChar c (cs.flatMap escapedChar ++ '\x22' :: rest)
    refine ⟨part :: parts, ?_, ?_⟩
    · rw [List.flatMap_cons, List.append_assoc, first, read]
      rfl
    · rw [denotes, joined]
      rfl

theorem eq_zero_of_head?_decimal {n : Nat} (h : (Text.decimal n).head? = some '0') : n = 0 := by
  induction n using Nat.strongRecOn with
  | ind n ih =>
    rw [Text.decimal, Nat.toDigits_eq_if (by decide)] at h
    split at h
    case isTrue lt =>
      interval_cases n
      all_goals first | rfl | contradiction
    case isFalse ge =>
      have front : (Text.decimal (n / 10)).head? = some '0' := by
        rwa [List.head?_append_of_ne_nil (Nat.toDigits 10 (n / 10)) Nat.toDigits_ne_nil] at h
      have := ih (n / 10) (by omega) front
      omega

theorem magnitude?_decimal {negative : Bool} {n : Nat} (h : negative = true → n ≠ 0) :
    magnitude? negative (Text.decimal n) =
      some (.integer (if negative then -(n : Int) else n)) := by
  have digits := List.all_eq_true.1 (Text.all_isDigit_decimal n)
  have whole : (Text.decimal n).takeWhile Char.isDigit = Text.decimal n :=
    List.takeWhile_eq_self_iff.2 digits
  have rest : (Text.decimal n).dropWhile Char.isDigit = [] := List.dropWhile_eq_nil_iff.2 digits
  have value : Nat.ofDigitChars 10 (Text.decimal n) 0 = n :=
    Nat.ofDigitChars_toDigits (by decide) (by decide)
  have given : (Text.decimal n).isEmpty = false := by simpa using Text.decimal_ne_nil n
  have zeros : ((Text.decimal n).head? == some '0' && (Text.decimal n).length != 1) = false := by
    by_cases hz : (Text.decimal n).head? = some '0'
    · rw [eq_zero_of_head?_decimal hz]
      rfl
    · simp [hz]
  have sign : (negative && n == 0) = false := by
    cases negative with
    | false => rfl
    | true => simpa using h rfl
  simp only [magnitude?, whole, rest, given, zeros, value, sign]
  rfl

theorem number?_of_isDigit {cs : List Char} (h : ∀ c ∈ cs, c.isDigit = true) :
    number? cs = magnitude? false cs := by
  rw [number?.eq_def]
  split
  · have := h '-' List.mem_cons_self
    contradiction
  · rfl

theorem number?_integerLiteral (n : Int) : number? (integerLiteral n) = some (.integer n) := by
  unfold integerLiteral
  split
  case isTrue neg =>
    change magnitude? true _ = _
    rw [magnitude?_decimal (fun _ => by omega)]
    have value : -(n.natAbs : Int) = n := by omega
    rw [if_pos rfl, value]
  case isFalse nonneg =>
    have value : (n.natAbs : Int) = n := by omega
    rw [number?_of_isDigit (List.all_eq_true.1 (Text.all_isDigit_decimal _)),
      magnitude?_decimal (fun h => by contradiction), if_neg (by decide), value]

def EndsScalar (cs : List Char) : Prop :=
  ∀ c ∈ cs.head?, isNumberChar c = false ∧ c.isAlpha = false

theorem takeWhile_of_head? {p : Char → Bool} {cs : List Char} (h : ∀ c ∈ cs.head?, p c = false) :
    cs.takeWhile p = [] ∧ cs.dropWhile p = cs := by
  cases cs with
  | nil => simp
  | cons c cs => simp [h c rfl]

theorem tokens?_punctuation {c : Char} {t : Token} (h : punctuation? c = some t) (cs : List Char) :
    tokens? (c :: cs) = (tokens? cs).map (t :: ·) := by
  have space : isSpace c = false := by
    unfold punctuation? at h
    grind [isSpace]
  rw [tokens?]
  simp [space, h]

theorem tokens?_stringLiteral (s : String) (rest : List Char) :
    tokens? (stringLiteral s ++ rest) = (tokens? rest).map (.scalar (.text s) :: ·) := by
  obtain ⟨parts, read, joined⟩ := stringParts_stringLiteral s.toList rest
  simp only [stringLiteral, List.cons_append, List.append_assoc, List.nil_append]
  rw [tokens?, if_neg (by decide)]
  split
  case h_1 t found => contradiction
  case h_2 =>
    rw [if_pos rfl]
    split
    case h_1 ps after found =>
      cases read.symm.trans found
      rw [joined, Option.map_some, String.ofList_toList]
      rfl
    case h_2 missing =>
      rw [read] at missing
      contradiction

/-- The characters with which a number may begin are told from all others. -/
theorem of_numberStart {c : Char} (h : c.isDigit = true ∨ c = '-') :
    isSpace c = false ∧ punctuation? c = none ∧ c ≠ '\x22' ∧
      (isNumberChar c && c != 'e' && c != 'E') = true := by
  rcases h with digit | rfl
  · have other (x : Char) (hx : x.isDigit = false) : c ≠ x := by
      rintro rfl
      rw [hx] at digit
      contradiction
    simp [isSpace, punctuation?, isNumberChar, other, digit]
  · decide

theorem tokens?_number {c : Char} {cs rest : List Char} {j : Json}
    (first : c.isDigit = true ∨ c = '-') (h : ∀ d ∈ cs, d.isDigit = true)
    (number : number? (c :: cs) = some j) (ends : EndsScalar rest) :
    tokens? (c :: cs ++ rest) = (tokens? rest).map (.scalar j :: ·) := by
  obtain ⟨space, punctuation, quote, start⟩ := of_numberStart first
  have digits : ∀ d ∈ cs, isNumberChar d = true := fun d hd => by simp [isNumberChar, h d hd]
  have stop := takeWhile_of_head? fun c hc => (ends c hc).1
  have whole : (cs ++ rest).takeWhile isNumberChar = cs := by
    rw [List.takeWhile_append_of_pos digits, stop.1, List.append_nil]
  have after : (cs ++ rest).dropWhile isNumberChar = rest := by
    rw [List.dropWhile_append_of_pos digits, stop.2]
  rw [List.cons_append, tokens?]
  simp only [space, punctuation, quote, start, whole, number, after]
  rfl

theorem tokens?_integerLiteral (n : Int) {rest : List Char} (ends : EndsScalar rest) :
    tokens? (integerLiteral n ++ rest) = (tokens? rest).map (.scalar (.integer n) :: ·) := by
  have digits := List.all_eq_true.1 (Text.all_isDigit_decimal n.natAbs)
  have number := number?_integerLiteral n
  unfold integerLiteral at number ⊢
  split
  case isTrue neg =>
    rw [if_pos neg] at number
    exact tokens?_number (.inr rfl) digits number ends
  case isFalse nonneg =>
    rw [if_neg nonneg] at number
    obtain ⟨c, cs, eq⟩ := List.exists_cons_of_ne_nil (Text.decimal_ne_nil n.natAbs)
    rw [eq] at digits number ⊢
    rw [List.forall_mem_cons] at digits
    exact tokens?_number (.inl digits.1) digits.2 number ends

theorem of_word {c : Char} {cs : List Char} {j : Json} (h : word? (c :: cs) = some j) :
    cs.all Char.isAlpha = true ∧ isSpace c = false ∧ punctuation? c = none ∧ c ≠ '\x22' ∧
      isNumberChar c = false := by
  unfold word? at h
  split at h
  case isTrue null => cases null; decide
  split at h
  case isTrue true => cases true; decide
  split at h
  case isTrue false => cases false; decide
  case isFalse => contradiction

theorem tokens?_word {c : Char} {cs rest : List Char} {j : Json} (word : word? (c :: cs) = some j)
    (ends : EndsScalar rest) :
    tokens? (c :: cs ++ rest) = (tokens? rest).map (.scalar j :: ·) := by
  obtain ⟨letters, space, punctuation, quote, number⟩ := of_word word
  have alpha := List.all_eq_true.1 letters
  have stop := takeWhile_of_head? fun c hc => (ends c hc).2
  have whole : (cs ++ rest).takeWhile Char.isAlpha = cs := by
    rw [List.takeWhile_append_of_pos alpha, stop.1, List.append_nil]
  have after : (cs ++ rest).dropWhile Char.isAlpha = rest := by
    rw [List.dropWhile_append_of_pos alpha, stop.2]
  rw [List.cons_append, tokens?]
  simp only [space, punctuation, quote, number, whole, word, after]
  rfl

theorem endsScalar_cons {c : Char} {t : Token} (h : punctuation? c = some t) (cs : List Char) :
    EndsScalar (c :: cs) := by
  have mark : isNumberChar c = false ∧ c.isAlpha = false := by
    unfold punctuation? at h
    repeat' split at h
    all_goals first | (subst c; decide) | contradiction
  simpa [EndsScalar] using mark

end TunnelKeeper.Json

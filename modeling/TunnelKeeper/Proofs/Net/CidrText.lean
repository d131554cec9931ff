import TunnelKeeper.Net.CidrText
import TunnelKeeper.Proofs.Net.AddressText

/-!
# Written CIDRs are read back

The text of a CIDR is read as that CIDR, and a written list as the same CIDRs in ascending order.
-/
namespace TunnelKeeper.Net.Cidr
open TunnelKeeper Text

theorem isMark_of_mem_decimal {n : Nat} {c : Char} (h : c ∈ decimal n) : Address.IsMark c :=
  .inr (.inr (isDigit_of_mem_decimal h))

/-- A CIDR is written with marks of addresses and slashes. -/
theorem of_mem_text {c : Cidr} : ∀ d ∈ c.text.toList, Address.IsMark d ∨ d = '/' := by
  intro d hd
  rw [text, String.toList_ofList, List.mem_append, List.mem_cons] at hd
  rcases hd with hd | rfl | hd
  · exact .inl (Address.isMark_of_mem_text d hd)
  · exact .inr rfl
  · exact .inl (isMark_of_mem_decimal hd)

theorem isBlank_of_mem_text {c : Cidr} : ∀ d ∈ c.text.toList, isBlank d = false := by
  intro d hd
  rcases of_mem_text d hd with (rfl | rfl | digit) | rfl
  · decide
  · decide
  · exact digit.isBlank
  · decide

theorem comma_not_mem_text (c : Cidr) : ',' ∉ c.text.toList := by
  intro comma
  rcases of_mem_text ',' comma with (h | h | digit) | h
  · contradiction
  · contradiction
  · exact digit.ne.2.2.2.1 rfl
  · contradiction

theorem slash_not_isMark : ¬ Address.IsMark '/' := by
  rintro (h | h | digit)
  · contradiction
  · contradiction
  · exact digit.ne.2.2.1 rfl

theorem signedUpTo?_decimal {n max : Nat} (h : n ≤ max) : signedUpTo? max (decimal n) = some n := by
  obtain ⟨d, ds, hd⟩ := List.exists_cons_of_ne_nil (decimal_ne_nil n)
  have digit : IsDigit d := isDigit_of_mem_decimal (hd ▸ List.mem_cons_self)
  rw [hd, signedUpTo?, if_neg digit.ne.2.2.2.2, ← hd, naturalUpTo?_decimal h]

theorem length?_decimal {family : Family} {n : Nat} (h : n ≤ family.width) :
    length? family (decimal n) = some n := by
  have small : n ≤ 255 := by cases family <;> simp only [Family.width] at h <;> omega
  simp [length?, signedUpTo?_decimal small, Option.filter, h]

theorem v4Length?_decimal {n : Nat} (h : n ≤ 32) : v4Length? (decimal n) = some n := by
  have word : '.' ∉ decimal n := fun dot => (isDigit_of_mem_decimal dot).ne.1 rfl
  rw [v4Length?, Address.v4Value?_of_not_mem word]
  exact length?_decimal h

theorem ofParts?_text (c : Cidr) : ofParts? c.addr.text (decimal c.length) = some c := by
  obtain ⟨⟨family, value, value_lt⟩, length, length_le⟩ := c
  cases family with
  | v4 =>
    have same : Address.ofValue .v4 value = ⟨.v4, value, value_lt⟩ :=
      Address.ext' rfl (Address.value_ofValue value_lt)
    have read : Address.v4Value? (Address.v4Text value) = some value := by
      rw [Address.v4Value?_v4Text]
      exact congrArg some (Nat.mod_eq_of_lt value_lt)
    simp only [ofParts?, Address.text, read, v4Length?_decimal length_le, same]
    rw [make, dif_pos length_le]
    rfl
  | v6 =>
    have same : Address.ofValue .v6 value = ⟨.v6, value, value_lt⟩ :=
      Address.ext' rfl (Address.value_ofValue value_lt)
    simp only [ofParts?, Address.text, Address.v4Value?_v6Text, Address.v6Value?_v6Text value_lt,
      length?_decimal length_le, same]
    rw [make, dif_pos length_le]
    rfl

theorem ofText?_text (c : Cidr) : ofText? c.text.toList = some c := by
  have before : '/' ∉ c.addr.text := fun slash =>
    slash_not_isMark (Address.isMark_of_mem_text _ slash)
  have after : '/' ∉ decimal c.length := fun slash =>
    slash_not_isMark (isMark_of_mem_decimal slash)
  rw [text, String.toList_ofList, ofText?, List.splitOn_append_cons_self_of_not_mem before,
    List.splitOn_eq_singleton after]
  exact ofParts?_text c

@[simp] theorem parse_text (c : Cidr) : parse c.text = .ok c := by
  have trimmed : trim c.text = c.text := by
    rw [trim, trimList_of_not_blank isBlank_of_mem_text, String.ofList_toList]
  have slash : c.text.toList.contains '/' = true := by simp [text]
  simp only [parse, trimmed, slash, if_true, ofText?_text]

/-- A written list is read as the same CIDRs in ascending order. -/
theorem parseList_listText (cs : List Cidr) : parseList (listText cs) = .ok (sort cs) := by
  have elements : listElements (listText cs) = cs.map text := by
    apply listElements_intercalate
    · simp [text]
    · simpa using fun c _ => comma_not_mem_text c
    · simpa using fun c _ => isBlank_of_mem_text (c := c)
  have read : (cs.map text).mapM parse = pure cs := mapM_map_eq_pure fun c _ => parse_text c
  rw [parseList, elements, read]
  rfl

end TunnelKeeper.Net.Cidr

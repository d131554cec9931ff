import TunnelKeeper.Proofs.Net.ListText

/-!
# Comparing CIDRs

Two CIDRs are compared by family, IPv4 before IPv6, then by the bytes of their addresses from the
first one on, then by length. This is the order in which lists are sorted. It is total, and only
equal CIDRs are equal in it.
-/
namespace TunnelKeeper.Net

/-- One list of digits comes before another if the first digit that differs is smaller. -/
theorem compare_eq_lt_iff_lex {ds es : List Nat} :
    compare ds es = .lt ↔ List.Lex (· < ·) ds es := by
  induction ds generalizing es with
  | nil => cases es <;> simp
  | cons d ds ih =>
    cases es with
    | nil => simp
    | cons e es =>
      rw [List.compare_cons_cons, Ordering.then_eq_lt, Nat.compare_eq_lt, Nat.compare_eq_eq, ih,
        List.cons_lex_cons_iff]

namespace Cidr

def compareKeys : Cidr → Cidr → Ordering :=
  compareLex (compareOn fun c => !c.addr.isV4)
    (compareLex (compareOn fun c => c.addr.bytes) (compareOn Cidr.length))

instance : Std.TransCmp compareKeys :=
  inferInstanceAs <| Std.TransCmp <| compareLex (compareOn fun c : Cidr => !c.addr.isV4)
    (compareLex (compareOn fun c : Cidr => c.addr.bytes) (compareOn Cidr.length))

/-- The keys of a CIDR say which one it is. -/
theorem eq_of_keys {c d : Cidr} (family : c.addr.isV4 = d.addr.isV4)
    (bytes : c.addr.bytes = d.addr.bytes) (length : c.length = d.length) : c = d := by
  have atMost : AtMost c d := .inr ⟨family, .inr ⟨bytes, length.le⟩⟩
  exact atMost.antisymm (.inr ⟨family.symm, .inr ⟨bytes.symm, length.ge⟩⟩)

instance : Std.LawfulEqCmp compareKeys where
  eq_of_compare := by
    intro c d h
    obtain ⟨family, rest⟩ := compareLex_eq_eq.1 h
    obtain ⟨bytes, length⟩ := compareLex_eq_eq.1 rest
    refine eq_of_keys ?_ ?_ ?_
    · exact Bool.not_inj (Std.compare_eq_iff_eq.1 family)
    · exact Std.compare_eq_iff_eq.1 bytes
    · exact Std.compare_eq_iff_eq.1 length

theorem compareKeys_isLE_iff {c d : Cidr} : (compareKeys c d).isLE = true ↔ AtMost c d := by
  have earlier (a b : Bool) : Ord.compare (!a) (!b) = .lt ↔ a = true ∧ b = false := by
    cases a <;> cases b <;> decide
  simp only [compareKeys, compareLex, compareOn, Ordering.isLE_then_iff_or, earlier,
    Std.compare_eq_iff_eq, Bool.not_inj_iff, compare_eq_lt_iff_lex, Nat.isLE_compare, AtMost]

/-- CIDRs are compared by their keys. -/
theorem compare_eq_compareKeys : compare = compareKeys := by
  funext c d
  have le : c.le d = true ↔ (compareKeys c d).isLE = true := by
    rw [compareKeys_isLE_iff, atMost_iff]
  unfold compare
  -- `compare` asks for equality first, the keys find it out at the end
  by_cases same : c = d
  · rw [if_pos same, same]
    exact Std.ReflCmp.compare_self.symm
  · rw [if_neg same]
    cases order : compareKeys c d with
    | lt => rw [if_pos (le.2 (by rw [order]; rfl))]
    | eq => exact absurd (Std.LawfulEqCmp.eq_of_compare order) same
    | gt =>
      rw [if_neg]
      rw [le, order]
      decide

instance : Std.TransCmp compare := compare_eq_compareKeys ▸ inferInstance

instance : Std.LawfulEqCmp compare := compare_eq_compareKeys ▸ inferInstance

/-- Lists are sorted in this order. -/
theorem isLE_compare (c d : Cidr) : (c.compare d).isLE = c.le d := by
  rw [Bool.eq_iff_iff, compare_eq_compareKeys, compareKeys_isLE_iff, atMost_iff]

/-- In one family the CIDR with the lower address comes first. -/
theorem compare_eq_lt {c d : Cidr} (family : c.addr.family = d.addr.family)
    (lower : c.addr.value < d.addr.value) : c.compare d = .lt := by
  have ne : c ≠ d := by
    rintro rfl
    exact Nat.lt_irrefl _ lower
  have le : c.le d = true := le_iff.2 (.inr ⟨congrArg Family.width family, .inl lower⟩)
  rw [compare, if_neg ne, if_pos le]

end Cidr

end TunnelKeeper.Net

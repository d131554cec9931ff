import Mathlib.Data.List.Basic
import TunnelKeeper.Service.Search

/-!
# Sorted listings

Sorting keeps what is listed and puts it in order. It does not move equal elements past one another,
so they stay in the order in which they were listed before.
-/
namespace TunnelKeeper.Listing

variable {α : Type} {l : Listing α} {compare : α → α → Ordering}

theorem mem_sortBy {a : α} : a ∈ (l.sortBy compare).elements ↔ a ∈ l.elements :=
  List.mem_mergeSort

variable [Std.TransCmp compare]

theorem isLE_total (a b : α) : ((compare a b).isLE || (compare b a).isLE) = true := by
  have swap : compare b a = (compare a b).swap := Std.OrientedCmp.eq_swap
  rw [swap]
  cases compare a b <;> rfl

theorem isLE_trans (a b c : α) (hab : (compare a b).isLE = true) (hbc : (compare b c).isLE = true) :
    (compare a c).isLE = true :=
  Std.TransCmp.isLE_trans hab hbc

/-- Those of which none is greater than another stay as they stood. -/
theorem filter_sortBy (l : Listing α) {p : α → Bool}
    (equal : ∀ a b, p a = true → p b = true → (compare a b).isLE = true) :
    (l.sortBy compare).elements.filter p = l.elements.filter p := by
  have sorted : (l.elements.filter p).Pairwise fun a b => (compare a b).isLE = true := by
    apply List.pairwise_of_forall_mem_list
    intro a ha b hb
    exact equal a b (List.mem_filter.1 ha).2 (List.mem_filter.1 hb).2
  have kept : (l.elements.filter p).Sublist ((l.sortBy compare).elements.filter p) := by
    have kept := (List.sublist_mergeSort isLE_trans isLE_total sorted List.filter_sublist).filter p
    change (l.elements.filter p).Sublist ((l.elements.mergeSort _).filter p)
    simpa only [List.filter_filter, Bool.and_self] using kept
  have same := ((List.mergeSort_perm l.elements fun a b => (compare a b).isLE).filter p).length_eq
  exact (kept.eq_of_length same.symm).symm

/-- Of two elements of a sorted listing the first is smaller, or they are equal and stood in this
order before. -/
theorem pairwise_sortBy {r : α → α → Prop} (before : l.elements.Pairwise r) :
    (l.sortBy compare).elements.Pairwise fun a b =>
      compare a b = .lt ∨ compare a b = .eq ∧ r a b := by
  have sorted : (l.sortBy compare).elements.Pairwise fun a b => (compare a b).isLE = true :=
    List.pairwise_mergeSort isLE_trans isLE_total l.elements
  rw [List.pairwise_iff_forall_sublist] at before sorted ⊢
  intro a b pair
  have le : (compare a b).isLE = true := sorted pair
  cases order : compare a b with
  | lt => exact .inl rfl
  | gt =>
    rw [order] at le
    contradiction
  | eq =>
    have equal : ∀ c d, (compare a c == .eq) = true → (compare a d == .eq) = true →
        (compare c d).isLE = true := by
      intro c d hc hd
      rw [beq_iff_eq] at hc hd
      rw [Std.TransCmp.eq_trans (Std.OrientedCmp.eq_symm hc) hd]
      rfl
    have both := pair.filter fun c => compare a c == .eq
    rw [filter_sortBy l equal] at both
    have self : compare a a = .eq := Std.ReflCmp.compare_self
    simp only [List.filter_cons, List.filter_nil, self, order, beq_self_eq_true, if_true] at both
    exact .inr ⟨rfl, before (both.trans List.filter_sublist)⟩

end TunnelKeeper.Listing

import Mathlib.Data.List.Forall2
import Mathlib.Data.List.Sort
import TunnelKeeper.Net.CidrText
import TunnelKeeper.Proofs.Text.Trimmed

/-!
# Lists of CIDRs

The order of CIDRs is total, so that sorting arranges every list. Several lists that can be read are
read from one text as well when their elements are written one behind the other: as the same CIDRs,
in ascending order.
-/
namespace TunnelKeeper.Net

theorem Family.width_inj {f g : Family} : f.width = g.width ↔ f = g := by
  cases f <;> cases g <;> decide

namespace Cidr
open TunnelKeeper Text

theorem ext' {c d : Cidr} (addr : c.addr = d.addr) (length : c.length = d.length) : c = d := by
  cases c
  cases d
  cases addr
  cases length
  rfl

theorem le_iff {c d : Cidr} : c.le d = true ↔
    c.addr.family.width < d.addr.family.width ∨ c.addr.family.width = d.addr.family.width ∧
      (c.addr.value < d.addr.value ∨ c.addr.value = d.addr.value ∧ c.length ≤ d.length) := by
  have same : c.addr = d.addr ↔
      c.addr.family.width = d.addr.family.width ∧ c.addr.value = d.addr.value := by
    rw [Family.width_inj]
    exact ⟨fun h => by simp [h], fun h => Address.ext' h.1 h.2⟩
  have lt : c.addr < d.addr ↔ c.addr.family.width < d.addr.family.width ∨
      c.addr.family.width = d.addr.family.width ∧ c.addr.value < d.addr.value := by
    rw [Family.width_inj]
    rfl
  simp only [le, Bool.or_eq_true, Bool.and_eq_true, decide_eq_true_eq, lt, same]
  omega

theorem le_trans {c d e : Cidr} (h : c.le d = true) (h' : d.le e = true) : c.le e = true := by
  rw [le_iff] at *
  omega

theorem le_total (c d : Cidr) : (c.le d || d.le c) = true := by
  rw [Bool.or_eq_true, le_iff, le_iff]
  omega

theorem sort_perm (cs : List Cidr) : (sort cs).Perm cs := List.mergeSort_perm _ _

theorem sorted_sort (cs : List Cidr) : (sort cs).Pairwise fun c d => c.le d = true := by
  apply List.pairwise_mergeSort
  · exact fun _ _ _ => le_trans
  · exact le_total

/-- A pass succeeds where every element does. -/
theorem mapM_eq_ok_iff {ε α β : Type} {f : α → Except ε β} {as : List α} {bs : List β} :
    as.mapM f = .ok bs ↔ List.Forall₂ (fun a b => f a = .ok b) as bs := by
  induction as generalizing bs with
  | nil =>
    rw [List.forall₂_nil_left_iff]
    exact ⟨fun h => by cases h; rfl, fun h => by rw [h]; rfl⟩
  | cons a as ih =>
    rw [List.mapM_cons, List.forall₂_cons_left_iff]
    simp only [← ih]
    cases f a with
    | error e => simp [bind, Except.bind]
    | ok b => cases as.mapM f <;> simp [bind, Except.bind, pure, Except.pure, eq_comm]

/-- In lists that are related element by element every element has a partner. -/
theorem partners_of_forall₂ {α β : Type} {R : α → β → Prop} {as : List α} {bs : List β}
    (h : List.Forall₂ R as bs) :
    (∀ a ∈ as, ∃ b ∈ bs, R a b) ∧ ∀ b ∈ bs, ∃ a ∈ as, R a b := by
  induction h with
  | nil => simp
  | @cons a b as bs head _ ih =>
    obtain ⟨left, right⟩ := ih
    simp only [List.forall_mem_cons, List.exists_mem_cons_iff]
    refine ⟨⟨.inl head, fun c hc => .inr (left c hc)⟩, .inl head, fun c hc => .inr (right c hc)⟩

theorem parseList_eq_ok_iff {s : String} {cs : List Cidr} : parseList s = .ok cs ↔
    ∃ ds, List.Forall₂ (fun w d => parse w = .ok d) (listElements s) ds ∧ cs = sort ds := by
  simp only [← mapM_eq_ok_iff, parseList]
  cases (listElements s).mapM parse <;> simp [Except.map, eq_comm]

/-- The elements of several lists, read one by one. -/
theorem forall₂_parse_elements {lists : List String} {dss : List (List Cidr)}
    (h : List.Forall₂ (fun s cs => parseList s = .ok cs) lists dss) :
    ∃ ds, List.Forall₂ (fun w d => parse w = .ok d) (lists.flatMap listElements) ds ∧
      ds.Perm dss.flatten := by
  induction h with
  | nil => exact ⟨[], .nil, .refl _⟩
  | cons first _ ih =>
    obtain ⟨ds, hds, rfl⟩ := parseList_eq_ok_iff.1 first
    obtain ⟨es, hes, perm⟩ := ih
    exact ⟨ds ++ es, List.rel_append hds hes, (sort_perm ds).symm.append perm⟩

/-- Lists that can be read are read as one. -/
theorem parseList_join {lists : List String} {dss : List (List Cidr)}
    (h : List.Forall₂ (fun s cs => parseList s = .ok cs) lists dss) :
    ∃ cs, parseList (", ".intercalate (lists.flatMap listElements)) = .ok cs ∧
      cs.Perm dss.flatten ∧ (cs.Pairwise fun c d => c.le d = true) ∧
      (lists.flatMap listElements = [] ↔ cs = []) := by
  obtain ⟨ds, hds, perm⟩ := forall₂_parse_elements h
  refine ⟨sort ds, ?_, (sort_perm ds).trans perm, sorted_sort ds, ?_⟩
  · rw [parseList_eq_ok_iff, listElements_join isElement_of_mem_lists]
    exact ⟨ds, hds, rfl⟩
  · have count : (lists.flatMap listElements).length = (sort ds).length :=
      hds.length_eq.trans (sort_perm ds).length_eq.symm
    rw [← List.length_eq_zero_iff, count, List.length_eq_zero_iff]

end Cidr

end TunnelKeeper.Net

import TunnelKeeper.Proofs.Net.CidrLists
import TunnelKeeper.Proofs.Net.CidrText

/-!
# Written lists are read back

The order in which a list of CIDRs is read is the one of its records: IPv4 before IPv6, then the
sixteen bytes of the address one after the other, then the length. There is one list in this order
for every collection of CIDRs, and a written list is read as that one, so that reading what was
written changes nothing any more.
-/
namespace TunnelKeeper.Net

/-- Which of two numbers is larger is seen at the first digit that differs. -/
theorem add_mul_lt_iff {m r r' q q' : Nat} (hr : r < m) (hr' : r' < m) :
    r + m * q < r' + m * q' ↔ q < q' ∨ q = q' ∧ r < r' := by
  rcases Nat.lt_trichotomy q q' with below | rfl | above
  · have step := Nat.mul_le_mul_left m (Nat.succ_le_of_lt below)
    rw [Nat.mul_succ] at step
    omega
  · omega
  · have step := Nat.mul_le_mul_left m (Nat.succ_le_of_lt above)
    rw [Nat.mul_succ] at step
    omega

namespace Address

theorem groups_succ_eq_cons (bits count value : Nat) :
    groups bits (count + 1) value =
      value / blockSize (bits * count) % blockSize bits :: groups bits count value := by
  simp only [groups, List.range_succ_eq_map, List.map_cons, List.map_map]
  congr 1
  refine List.map_congr_left fun i _ => ?_
  simp only [Function.comp_apply, Nat.succ_eq_add_one]
  congr 4
  omega

/-- Digits are compared as the numbers that they stand for. -/
theorem lex_groups_iff (bits count v w : Nat) :
    List.Lex (· < ·) (groups bits count v) (groups bits count w) ↔
      v % blockSize (bits * count) < w % blockSize (bits * count) := by
  induction count with
  | zero => simp [groups, blockSize, Nat.mod_one]
  | succ count ih =>
    rw [groups_succ_eq_cons, groups_succ_eq_cons, List.cons_lex_cons_iff, ih, Nat.mul_succ,
      blockSize_add, Nat.mod_mul, Nat.mod_mul]
    have pos := blockSize_pos (bits * count)
    exact (add_mul_lt_iff (Nat.mod_lt _ pos) (Nat.mod_lt _ pos)).symm

/-- The sixteen bytes of an address, the most significant one first. An IPv4 address is in the last
four. -/
def bytes (a : Address) : List Nat := groups 8 16 a.value

theorem value_lt_whole (a : Address) : a.value < blockSize (8 * 16) := by
  have bound := a.value_lt
  cases h : a.family <;> rw [h] at bound
  · exact Nat.lt_trans bound (by decide)
  · exact bound

theorem ofGroups_bytes (a : Address) : ofGroups 8 a.bytes = a.value := by
  rw [bytes, ofGroups_groups, Nat.mod_eq_of_lt a.value_lt_whole]

theorem bytes_eq_iff {a b : Address} : a.bytes = b.bytes ↔ a.value = b.value := by
  constructor
  · intro same
    rw [← ofGroups_bytes a, same, ofGroups_bytes]
  · intro same
    rw [bytes, same, bytes]

theorem lex_bytes_iff {a b : Address} :
    List.Lex (· < ·) a.bytes b.bytes ↔ a.value < b.value := by
  rw [bytes, bytes, lex_groups_iff, Nat.mod_eq_of_lt a.value_lt_whole,
    Nat.mod_eq_of_lt b.value_lt_whole]

end Address

namespace Cidr
open Text

/-- The order of lists: IPv4 before IPv6, then by the bytes of the address, then by length. -/
def AtMost (c d : Cidr) : Prop :=
  c.addr.isV4 = true ∧ d.addr.isV4 = false ∨ c.addr.isV4 = d.addr.isV4 ∧
    (List.Lex (· < ·) c.addr.bytes d.addr.bytes ∨
      c.addr.bytes = d.addr.bytes ∧ c.length ≤ d.length)

theorem atMost_iff {c d : Cidr} : AtMost c d ↔ c.le d = true := by
  have earlier : c.addr.isV4 = true ∧ d.addr.isV4 = false ↔
      c.addr.family.width < d.addr.family.width := by
    simp only [Address.isV4]
    cases c.addr.family <;> cases d.addr.family <;> decide
  have same : c.addr.isV4 = d.addr.isV4 ↔ c.addr.family.width = d.addr.family.width := by
    rw [Family.width_inj, Address.isV4, Address.isV4]
    cases c.addr.family <;> cases d.addr.family <;> decide
  rw [AtMost, le_iff, earlier, same, Address.lex_bytes_iff, Address.bytes_eq_iff]

theorem AtMost.antisymm {c d : Cidr} (h : AtMost c d) (h' : AtMost d c) : c = d := by
  rw [atMost_iff, le_iff] at h h'
  have family : c.addr.family = d.addr.family := Family.width_inj.1 (by omega)
  exact ext' (Address.ext' family (by omega)) (by omega)

theorem pairwise_atMost_sort (cs : List Cidr) : (sort cs).Pairwise AtMost :=
  (sorted_sort cs).imp atMost_iff.2

/-- A collection of CIDRs has one list in ascending order. -/
theorem eq_sort_of_perm {cs ds : List Cidr} (perm : ds.Perm cs) (sorted : ds.Pairwise AtMost) :
    ds = sort cs := by
  have same : ds.Perm (sort cs) := perm.trans (sort_perm cs).symm
  apply same.eq_of_pairwise ?_ sorted (pairwise_atMost_sort cs)
  intro c d _ _
  exact AtMost.antisymm

/-- A text is read as its elements in ascending order, however that order was found. -/
theorem parseList_of_sorted {s : String} {cs ds : List Cidr}
    (elements : (listElements s).mapM parse = .ok ds) (perm : cs.Perm ds)
    (sorted : cs.Pairwise fun c d => c.le d = true) : parseList s = .ok cs :=
  parseList_eq_ok_iff.2
    ⟨ds, mapM_eq_ok_iff.1 elements, eq_sort_of_perm perm (sorted.imp atMost_iff.2)⟩

theorem sort_sort (cs : List Cidr) : sort (sort cs) = sort cs :=
  (eq_sort_of_perm (.refl _) (pairwise_atMost_sort cs)).symm

/-- A written list is read as the one list of its CIDRs that is in ascending order, and a list that
was read once is read again as it is. -/
theorem lists_survive_text :
    (∀ cs : List Cidr, ∃ ds, parseList (listText cs) = .ok ds ∧ ds.Perm cs ∧
        ds.Pairwise AtMost ∧ ∀ es : List Cidr, es.Perm cs → es.Pairwise AtMost → es = ds) ∧
      ∀ {s : String} {cs : List Cidr}, parseList s = .ok cs → parseList (listText cs) = .ok cs := by
  constructor
  · intro cs
    refine ⟨sort cs, parseList_listText cs, sort_perm cs, pairwise_atMost_sort cs, ?_⟩
    exact fun _ => eq_sort_of_perm
  · intro s cs h
    obtain ⟨ds, -, rfl⟩ := parseList_eq_ok_iff.1 h
    rw [parseList_listText, sort_sort]

def pool : Cidr := ⟨.ofValue .v4 0x0A000002, 24, by decide⟩

def embedded : Cidr := ⟨.ofValue .v6 0xFFFF0A000001, 120, by decide⟩

theorem lists_survive_text_mixed :
    ∃ cs, parseList "::ffff:10.0.0.1/120, 10.0.0.2/24,,10.0.0.2/024" = .ok cs ∧
      listText cs = "10.0.0.2/24,10.0.0.2/24,::ffff:10.0.0.1/120" ∧
      parseList (listText cs) = .ok cs := by
  have elements : (listElements "::ffff:10.0.0.1/120, 10.0.0.2/24,,10.0.0.2/024").mapM parse =
      .ok [embedded, pool, pool] := by
    decide +kernel
  have sorted : [pool, pool, embedded].Pairwise fun c d => c.le d = true := by decide
  have read := parseList_of_sorted elements (by decide) sorted
  exact ⟨_, read, by decide +kernel, lists_survive_text.2 read⟩

end Cidr

end TunnelKeeper.Net

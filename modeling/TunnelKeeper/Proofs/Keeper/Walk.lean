import Mathlib.Data.List.Range
import TunnelKeeper.Keeper.Allocation
import TunnelKeeper.Proofs.Net.Comparison
import TunnelKeeper.Proofs.Net.Mask

/-!
# Walks through blocks

A walk through a block starts at the network address and goes on to the next address as long as it
stays in the block. It comes to every address of the block once, in ascending order, and ends at the
broadcast address, also where that is the last address of the family and there is no next one. The
search for a free address is a search along this walk.
-/
namespace TunnelKeeper.Net.Cidr
open TunnelKeeper Net

/-- The next CIDR has the next number, and nothing else changes. -/
theorem next?_eq_some_iff {c d : Cidr} :
    c.next? = some d ↔ d.addr.family = c.addr.family ∧ d.length = c.length ∧
      d.addr.value = c.addr.value + 1 := by
  rw [next?_eq]
  constructor
  · intro h
    split at h
    case isTrue =>
      cases h
      exact ⟨rfl, rfl, rfl⟩
    case isFalse => contradiction
  · rintro ⟨family, length, value⟩
    have fits : c.addr.value + 1 < blockSize c.addr.family.width := by
      rw [← value, ← family]
      exact d.addr.value_lt
    rw [dif_pos fits]
    exact congrArg some (ext' (Address.ext' family.symm value.symm) length.symm)

/-- Only the address whose bits are all ones has no next one. -/
theorem next?_eq_none_iff {c : Cidr} :
    c.next? = none ↔ ∀ i < c.addr.family.width, c.addr.value.testBit i = true := by
  have bound := c.addr.value_lt
  rw [← succ_eq_blockSize_iff bound, next?_eq]
  by_cases fits : c.addr.value + 1 < blockSize c.addr.family.width
  · rw [dif_pos fits]
    exact ⟨nofun, fun last => absurd last fits.ne⟩
  · rw [dif_neg fits]
    exact ⟨fun _ => by omega, fun _ => rfl⟩

/-- The CIDR whose address is so many steps after the network address. -/
def nth (c : Cidr) (i : Nat) : Cidr :=
  c.withAddress (.ofValue c.addr.family (c.network.addr.value + i)) rfl

variable {c : Cidr} {i : Nat}

theorem value_nth (h : i < blockSize c.hostBits) :
    (c.nth i).addr.value = c.network.addr.value + i := by
  have le := c.block_le_width
  rw [← value_network] at le
  exact Address.value_ofValue (by omega)

theorem nth_zero (c : Cidr) : c.nth 0 = c.network :=
  ext' (Address.ext' rfl (value_nth (blockSize_pos _))) rfl

theorem nth_last (h : i + 1 = blockSize c.hostBits) : c.nth i = c.broadcast := by
  refine ext' (Address.ext' rfl ?_) rfl
  rw [value_nth (by omega), value_broadcast]
  omega

theorem contains_nth (h : i < blockSize c.hostBits) : c.contains (c.nth i).addr = true := by
  rw [contains_iff, value_nth h, value_broadcast]
  exact ⟨rfl, by omega, by omega⟩

theorem exists_nth {a : Address} (h : c.contains a = true) :
    ∃ i < blockSize c.hostBits, (c.nth i).addr = a := by
  obtain ⟨family, first, last⟩ := contains_iff.1 h
  have pos := blockSize_pos c.hostBits
  rw [value_broadcast] at last
  have number : a.value - c.network.addr.value < blockSize c.hostBits := by omega
  refine ⟨_, number, Address.ext' family.symm ?_⟩
  rw [value_nth number, Nat.add_sub_cancel' first]

theorem next?_nth (h : i + 1 < blockSize c.hostBits) : (c.nth i).next? = some (c.nth (i + 1)) := by
  rw [next?_eq_some_iff, value_nth h, value_nth (by omega)]
  exact ⟨rfl, rfl, rfl⟩

theorem contains_next?_broadcast {d : Cidr} (h : c.broadcast.next? = some d) :
    c.contains d.addr = false := by
  have value := (next?_eq_some_iff.1 h).2.2
  rw [Bool.eq_false_iff]
  intro inside
  have last := (contains_iff.1 inside).2.2
  omega

theorem compare_nth {j : Nat} (h : i < j) (hj : j < blockSize c.hostBits) :
    (c.nth i).compare (c.nth j) = .lt := by
  refine compare_eq_lt rfl ?_
  rw [value_nth (h.trans hj), value_nth hj]
  omega

/-- The CIDRs that a walk comes to from a candidate on, each one followed by its next one. -/
def walkFrom (c : Cidr) : Option Cidr → List Cidr
  | none => []
  | some d => if c.contains d.addr then d :: walkFrom c d.next? else []
termination_by candidate => Memory.remaining candidate
decreasing_by exact Memory.remaining_next?_lt d

def walk (c : Cidr) : List Cidr := walkFrom c (some c.network)

theorem walkFrom_of_contains {d : Cidr} (h : c.contains d.addr = true) :
    walkFrom c (some d) = d :: walkFrom c d.next? := by
  rw [walkFrom, if_pos h]

/-- A walk does not go on after the broadcast address. -/
theorem walkFrom_broadcast (c : Cidr) : walkFrom c c.broadcast.next? = [] := by
  cases next : c.broadcast.next? with
  | none => rw [walkFrom]
  | some d => rw [walkFrom, contains_next?_broadcast next, if_neg Bool.false_ne_true]

theorem walkFrom_nth {n : Nat} (h : i + n + 1 = blockSize c.hostBits) :
    walkFrom c (some (c.nth i)) = (List.range' i (n + 1)).map c.nth := by
  -- on the number of steps that are left, as an address after the last one need not exist
  induction n generalizing i with
  | zero =>
    rw [walkFrom_of_contains (contains_nth (by omega)), nth_last h, walkFrom_broadcast,
      ← nth_last h]
    rfl
  | succ n ih =>
    rw [walkFrom_of_contains (contains_nth (by omega)), next?_nth (by omega), ih (by omega),
      List.range'_succ (n := n + 1), List.map_cons]

/-- The walk counts the addresses of the block. -/
theorem walk_eq (c : Cidr) : c.walk = (List.range (blockSize c.hostBits)).map c.nth := by
  have pos := blockSize_pos c.hostBits
  have all : 0 + (blockSize c.hostBits - 1) + 1 = blockSize c.hostBits := by omega
  rw [walk, ← nth_zero, walkFrom_nth all, Nat.sub_add_cancel pos, List.range_eq_range']

/-- The last block of a family is left where there is no next address. -/
example : (walk ⟨.ofValue .v4 0xFFFFFFFE, 30, by decide⟩).map (Address.octets ·.addr.value) =
    [[255, 255, 255, 252], [255, 255, 255, 253], [255, 255, 255, 254], [255, 255, 255, 255]] := by
  rw [walk_eq]
  decide

/-- A list that goes through a block from end to end, one step at a time, without leaving out or
repeating any of its addresses. -/
structure Traverses (c : Cidr) (ds : List Cidr) : Prop where
  first : ds.head? = some c.network
  linked : ds.IsChain fun d e => d.next? = some e
  last : ds.getLast? = some c.broadcast
  stops : ∀ d, c.broadcast.next? = some d → c.contains d.addr = false
  ascending : ds.Pairwise fun d e => d.compare e = .lt
  covers : ∀ a, a ∈ ds.map Cidr.addr ↔ c.contains a = true
  count : ds.length = blockSize c.hostBits
  alike : ∀ d ∈ ds, d.addr.family = c.addr.family ∧ d.length = c.length

theorem traverses_walk (c : Cidr) : Traverses c c.walk := by
  have pos := blockSize_pos c.hostBits
  rw [walk_eq]
  constructor
  case first =>
    rw [List.head?_map, List.head?_range, if_neg (by omega), Option.map_some, nth_zero]
  case linked =>
    rw [List.isChain_map, List.isChain_range]
    exact fun i hi => next?_nth (Nat.add_lt_of_lt_sub hi)
  case last =>
    rw [List.getLast?_map, List.getLast?_range, if_neg (by omega), Option.map_some,
      nth_last (Nat.sub_add_cancel pos)]
  case stops => exact fun _ => contains_next?_broadcast
  case ascending =>
    rw [List.pairwise_map]
    exact List.pairwise_lt_range.imp_of_mem fun _ hj lt => compare_nth lt (List.mem_range.1 hj)
  case covers =>
    intro a
    simp only [List.map_map, List.mem_map, List.mem_range, Function.comp_apply]
    constructor
    · rintro ⟨i, hi, rfl⟩
      exact contains_nth hi
    · exact exists_nth
  case count => rw [List.length_map, List.length_range]
  case alike =>
    intro d hd
    obtain ⟨i, -, rfl⟩ := List.mem_map.1 hd
    exact ⟨rfl, rfl⟩

/-- The search for a free address goes along the walk. -/
theorem firstFree?_eq_find? (c : Cidr) (taken : Address → Bool) (candidate : Option Cidr) :
    Memory.firstFree? c taken candidate = (walkFrom c candidate).find? fun d => !taken d.addr := by
  fun_induction Memory.firstFree? c taken candidate with
  | case1 => rw [walkFrom, List.find?_nil]
  | case2 d inside isTaken ih =>
    rw [ih, walkFrom_of_contains inside, List.find?_cons_of_neg]
    rw [isTaken]
    decide
  | case3 d inside free =>
    rw [walkFrom_of_contains inside, List.find?_cons_of_pos]
    rw [Bool.eq_false_iff.2 free]
    rfl
  | case4 d outside => rw [walkFrom, if_neg outside, List.find?_nil]

/-- Every block is walked through from its network to its broadcast address, one address after the
other in ascending order. The bounds of the block are those of its mask, the next address is the
next number in big-endian bytes, which only the address of ones does not have, and the order is the
total order by family, bytes and length in which lists are sorted. -/
theorem blocks_walked_in_order :
    (∀ c : Cidr, Traverses c c.walk ∧ ∀ taken, Memory.firstFree? c taken (some c.network) =
        c.walk.find? fun d => !taken d.addr) ∧
      (∀ c : Cidr, c.network.addr.value = c.addr.value &&& c.mask ∧
        c.broadcast.addr.value = c.addr.value ||| c.hostMask ∧
        ∀ a, c.contains a = true ↔
          a.family = c.addr.family ∧ a.value &&& c.mask = c.addr.value &&& c.mask) ∧
      (∀ c d : Cidr, c.next? = some d ↔ d.addr.family = c.addr.family ∧ d.length = c.length ∧
        Address.ofGroups 8 d.addr.bytes = Address.ofGroups 8 c.addr.bytes + 1) ∧
      (∀ c : Cidr, c.next? = none ↔
        ∀ i < c.addr.family.width, c.addr.value.testBit i = true) ∧
      Std.TransCmp compare ∧ Std.LawfulEqCmp compare ∧ compare = compareKeys ∧
      ∀ c d : Cidr, (c.compare d).isLE = c.le d := by
  refine ⟨?_, ?_, ?_, fun _ => next?_eq_none_iff, inferInstance, inferInstance,
    compare_eq_compareKeys, isLE_compare⟩
  · intro c
    exact ⟨traverses_walk c, fun taken => firstFree?_eq_find? c taken _⟩
  · intro c
    exact ⟨network_eq_and_mask c, broadcast_eq_or_hostMask c, fun _ => contains_iff_mask⟩
  · intro c d
    rw [Address.ofGroups_bytes, Address.ofGroups_bytes]
    exact next?_eq_some_iff

end TunnelKeeper.Net.Cidr

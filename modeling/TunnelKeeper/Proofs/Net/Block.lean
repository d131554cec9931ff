import TunnelKeeper.Net.Cidr

/-!
# Blocks of addresses

The block of a CIDR is the range of addresses of its family from its network address to its
broadcast address. No bits are lost at either end, also where the block is the whole family or one
address.
-/
namespace TunnelKeeper.Net.Cidr
open TunnelKeeper Net

/-- The blocks of one length fill the family. -/
theorem blockSize_width (c : Cidr) :
    blockSize c.addr.family.width = blockSize c.length * blockSize c.hostBits := by
  rw [← blockSize_add, hostBits, Nat.add_sub_cancel' c.length_le]

theorem block_le_width (c : Cidr) :
    c.addr.value / blockSize c.hostBits * blockSize c.hostBits + blockSize c.hostBits ≤
      blockSize c.addr.family.width := by
  have bound := c.addr.value_lt
  rw [blockSize_width] at bound ⊢
  rw [← Nat.succ_mul]
  exact Nat.mul_le_mul_right _ (Nat.div_lt_of_lt_mul (Nat.mul_comm _ _ ▸ bound))

theorem value_network (c : Cidr) :
    c.network.addr.value = c.addr.value / blockSize c.hostBits * blockSize c.hostBits := by
  have le := c.block_le_width
  have pos := blockSize_pos c.hostBits
  exact Address.value_ofValue (by omega)

theorem value_broadcast (c : Cidr) :
    c.broadcast.addr.value = c.network.addr.value + (blockSize c.hostBits - 1) := by
  have le := c.block_le_width
  have pos := blockSize_pos c.hostBits
  rw [value_network]
  exact Address.value_ofValue (by omega)

/-- A block holds the addresses of its family from the network to the broadcast address. -/
theorem contains_iff {c : Cidr} {a : Address} :
    c.contains a = true ↔ a.family = c.addr.family ∧
      c.network.addr.value ≤ a.value ∧ a.value ≤ c.broadcast.addr.value := by
  have pos := blockSize_pos c.hostBits
  rw [contains, Bool.and_eq_true, decide_eq_true_eq, decide_eq_true_eq, value_broadcast,
    value_network, Nat.div_eq_iff pos, Nat.add_sub_assoc pos]

end TunnelKeeper.Net.Cidr

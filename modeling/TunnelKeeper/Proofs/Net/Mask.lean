import TunnelKeeper.Proofs.Net.Block

/-!
# Masks

A mask has ones where the addresses of a block agree and zeros where they vary. What the block does
with divisions is the arithmetic of masks, bit by bit: the network address clears the bits that the
mask leaves out, the broadcast address sets them, and an address is in the block if it agrees with
the CIDR under the mask.
-/
namespace TunnelKeeper.Net

@[simp] theorem testBit_blockSize_sub_one (bits i : Nat) :
    (blockSize bits - 1).testBit i = decide (i < bits) :=
  Nat.testBit_two_pow_sub_one bits i

@[simp] theorem testBit_mul_blockSize (n bits i : Nat) :
    (n * blockSize bits).testBit i = (decide (bits ≤ i) && n.testBit (i - bits)) :=
  Nat.testBit_mul_two_pow n i bits

@[simp] theorem testBit_div_blockSize (n bits i : Nat) :
    (n / blockSize bits).testBit i = n.testBit (i + bits) :=
  Nat.testBit_div_two_pow n i

theorem lt_of_testBit {bits n i : Nat} (bound : n < blockSize bits) (h : n.testBit i = true) :
    i < bits := by
  apply Nat.lt_of_not_le
  intro beyond
  have small := Nat.lt_of_lt_of_le bound (Nat.pow_le_pow_right (by decide) beyond)
  rw [Nat.testBit_lt_two_pow small] at h
  contradiction

/-- All bits of a number are ones if it is the last one of its width. -/
theorem succ_eq_blockSize_iff {bits n : Nat} (bound : n < blockSize bits) :
    n + 1 = blockSize bits ↔ ∀ i < bits, n.testBit i = true := by
  constructor
  · intro last i hi
    have same : n = blockSize bits - 1 := by omega
    rw [same, testBit_blockSize_sub_one, decide_eq_true hi]
  · intro set
    have same : n = blockSize bits - 1 := by
      apply Nat.eq_of_testBit_eq
      intro i
      rw [Bool.eq_iff_iff, testBit_blockSize_sub_one, decide_eq_true_eq]
      exact ⟨lt_of_testBit bound, set i⟩
    have pos := blockSize_pos bits
    omega

namespace Cidr

/-- Ones in the part of an address that names the block. -/
def mask (c : Cidr) : Nat := blockSize c.addr.family.width - blockSize c.hostBits

/-- Ones in the part of an address that varies inside the block. -/
def hostMask (c : Cidr) : Nat := blockSize c.hostBits - 1

theorem mask_eq (c : Cidr) : c.mask = (blockSize c.length - 1) * blockSize c.hostBits := by
  rw [mask, blockSize_width, Nat.sub_mul, Nat.one_mul]

theorem testBit_mask (c : Cidr) (i : Nat) :
    c.mask.testBit i = true ↔ c.hostBits ≤ i ∧ i < c.addr.family.width := by
  have whole : c.length + c.hostBits = c.addr.family.width := Nat.add_sub_cancel' c.length_le
  simp only [mask_eq, testBit_mul_blockSize, testBit_blockSize_sub_one, Bool.and_eq_true,
    decide_eq_true_eq]
  omega

theorem testBit_hostMask (c : Cidr) (i : Nat) : c.hostMask.testBit i = true ↔ i < c.hostBits := by
  rw [hostMask, testBit_blockSize_sub_one, decide_eq_true_eq]

/-- The mask keeps the part of an address that names the block. -/
theorem and_mask {c : Cidr} {a : Address} (h : a.family = c.addr.family) :
    a.value &&& c.mask = a.value / blockSize c.hostBits * blockSize c.hostBits := by
  apply Nat.eq_of_testBit_eq
  intro i
  rw [Bool.eq_iff_iff, Nat.testBit_and, Bool.and_eq_true, testBit_mask, testBit_mul_blockSize,
    testBit_div_blockSize, Bool.and_eq_true, decide_eq_true_eq]
  constructor
  · rintro ⟨set, inside, -⟩
    rw [Nat.sub_add_cancel inside]
    exact ⟨inside, set⟩
  · rintro ⟨inside, set⟩
    rw [Nat.sub_add_cancel inside] at set
    exact ⟨set, inside, h ▸ lt_of_testBit a.value_lt set⟩

/-- The network address clears the bits that vary. -/
theorem network_eq_and_mask (c : Cidr) : c.network.addr.value = c.addr.value &&& c.mask := by
  rw [value_network, and_mask rfl]

/-- The broadcast address sets the bits that vary. -/
theorem broadcast_eq_or_hostMask (c : Cidr) :
    c.broadcast.addr.value = c.addr.value ||| c.hostMask := by
  have host : c.hostMask < blockSize c.hostBits := Nat.sub_lt (blockSize_pos _) Nat.one_pos
  have parts : c.broadcast.addr.value = c.network.addr.value ||| c.hostMask := by
    rw [value_broadcast, value_network, Nat.mul_comm]
    exact Nat.two_pow_add_eq_or_of_lt host _
  rw [parts, network_eq_and_mask]
  apply Nat.eq_of_testBit_eq
  intro i
  rw [Bool.eq_iff_iff, Nat.testBit_or, Nat.testBit_or, Nat.testBit_and]
  simp only [Bool.or_eq_true, Bool.and_eq_true, testBit_mask, testBit_hostMask]
  constructor
  · exact Or.imp_left And.left
  · rintro (set | varies)
    · have bound := lt_of_testBit c.addr.value_lt set
      exact (Nat.lt_or_ge i c.hostBits).symm.imp_left fun inside => ⟨set, inside, bound⟩
    · exact .inr varies

/-- An address is in the block if it agrees with the CIDR under the mask. -/
theorem contains_iff_mask {c : Cidr} {a : Address} :
    c.contains a = true ↔
      a.family = c.addr.family ∧ a.value &&& c.mask = c.addr.value &&& c.mask := by
  rw [contains, Bool.and_eq_true, decide_eq_true_eq, decide_eq_true_eq]
  refine and_congr_right fun family => ?_
  rw [and_mask family, and_mask rfl]
  constructor
  · exact fun same => congrArg (· * _) same
  · exact Nat.eq_of_mul_eq_mul_right (blockSize_pos c.hostBits)

end Cidr

end TunnelKeeper.Net

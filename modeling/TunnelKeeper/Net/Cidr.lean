import TunnelKeeper.Net.Address

/-!
# CIDRs

A CIDR is an address together with the length of its network part. It keeps the whole address, host
bits included, and names the block of addresses that share the network part. Lists of CIDRs are kept
in ascending order: by family, then by address, then by length.
-/
namespace TunnelKeeper.Net

structure Cidr where
  addr : Address
  length : Nat
  length_le : length ≤ addr.family.width
deriving DecidableEq, Repr

namespace Cidr

/-- The number of bits that vary inside the block. -/
def hostBits (c : Cidr) : Nat := c.addr.family.width - c.length

/-- The CIDR of the same length at another address of the family. -/
def withAddress (c : Cidr) (a : Address) (h : a.family = c.addr.family) : Cidr :=
  ⟨a, c.length, h ▸ c.length_le⟩

def network (c : Cidr) : Cidr := c.withAddress (c.addr.blockStart c.hostBits) rfl

def broadcast (c : Cidr) : Cidr := c.withAddress (c.addr.blockEnd c.hostBits) rfl

/-- Whether an address lies in the block; one of the other family never does. -/
def contains (c : Cidr) (a : Address) : Bool :=
  a.family = c.addr.family &&
    a.value / blockSize c.hostBits = c.addr.value / blockSize c.hostBits

theorem family_next? {a b : Address} (h : a.next? = some b) : b.family = a.family := by
  rw [Address.next?_eq] at h
  split at h
  · cases h
    rfl
  · contradiction

def next? (c : Cidr) : Option Cidr :=
  match h : c.addr.next? with
  | some a => some (c.withAddress a (family_next? h))
  | none => none

theorem next?_eq (c : Cidr) :
    c.next? = if h : c.addr.value + 1 < blockSize c.addr.family.width then
      some (c.withAddress ⟨c.addr.family, c.addr.value + 1, h⟩ rfl) else none := by
  unfold next?
  split
  case h_1 a ha =>
    rw [Address.next?_eq] at ha
    split at ha
    case isTrue h =>
      cases ha
      rw [dif_pos h]
    case isFalse => contradiction
  case h_2 ha =>
    rw [Address.next?_eq] at ha
    split at ha
    case isTrue => contradiction
    case isFalse h => rw [dif_neg h]

def sameAddress (c d : Cidr) : Bool := c.addr = d.addr

/-- At most: by family, then address, then length. -/
def le (c d : Cidr) : Bool :=
  decide (c.addr < d.addr) || (c.addr = d.addr && c.length ≤ d.length)

def compare (c d : Cidr) : Ordering :=
  if c = d then .eq else if c.le d then .lt else .gt

def sort (cs : List Cidr) : List Cidr := cs.mergeSort le

end Cidr

end TunnelKeeper.Net

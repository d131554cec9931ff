import Mathlib.Data.List.Basic
import TunnelKeeper.Proofs.Kernel.Application
import TunnelKeeper.Proofs.Memory.Slots

/-!
# Keys of committed peers

Which keys the committed peers of an interface have, and how they compare with the keys that were
sent. When a peer is filed and its key is sent, every key in use is still sent, and only a key of
the record that was replaced can go out of use. When a peer is removed and its key with it, every
key that was sent is still in use, and only that key can be gone while another peer has it.
-/
namespace TunnelKeeper
open Kernel

namespace Memory

def Uses (m : Memory) (id : InterfaceId) (key : Key) : Prop :=
  ∃ k p, (m.peersOf id).find? k = some p ∧ p.isPrepared = false ∧
    Key.parse p.keys.publicKey = .ok key

variable {m : Memory} {id : InterfaceId} {key : Key} {p : Peer}

theorem uses_iff : m.Uses id key ↔ ∃ p ∈ (m.peersOf id).records, p.isPrepared = false ∧
    Key.parse p.keys.publicKey = .ok key := by
  simp only [Uses, Directory.mem_records_iff]
  constructor
  · rintro ⟨k, p, hp, used⟩
    exact ⟨p, ⟨k, hp⟩, used⟩
  · rintro ⟨p, ⟨k, hp⟩, used⟩
    exact ⟨k, p, hp, used⟩

instance : Decidable (m.Uses id key) := decidable_of_iff _ uses_iff.symm

theorem Uses.of_addPeer (h : (m.addPeer p.tunnel.interfaceId p).Uses id key) :
    (id = p.tunnel.interfaceId ∧ Key.parse p.keys.publicKey = .ok key) ∨ m.Uses id key := by
  obtain ⟨k, q, hq, used⟩ := h
  rw [find?_peersOf_addPeer] at hq
  split at hq
  case isTrue new =>
    cases hq
    exact .inl ⟨new.1, used.2⟩
  case isFalse => exact .inr ⟨k, q, hq, used⟩

theorem uses_addPeer_self (committed : p.isPrepared = false)
    (keyed : Key.parse p.keys.publicKey = .ok key) :
    (m.addPeer p.tunnel.interfaceId p).Uses p.tunnel.interfaceId key := by
  refine ⟨p.id, p, ?_, committed, keyed⟩
  rw [find?_peersOf_addPeer, if_pos ⟨rfl, rfl⟩]

/-- A key stays in use when a peer is filed, unless its only user is replaced. -/
theorem Uses.addPeer (h : m.Uses id key)
    (kept : ∀ q, id = p.tunnel.interfaceId → (m.peersOf id).find? p.id = some q →
      Key.parse q.keys.publicKey = .ok key → (m.addPeer p.tunnel.interfaceId p).Uses id key) :
    (m.addPeer p.tunnel.interfaceId p).Uses id key := by
  obtain ⟨k, q, hq, used⟩ := h
  by_cases new : id = p.tunnel.interfaceId ∧ k = p.id
  · exact kept q new.1 (new.2 ▸ hq) used.2
  · exact ⟨k, q, by rw [find?_peersOf_addPeer, if_neg new, hq], used⟩

theorem Uses.of_removePeer {j : InterfaceId} {k : PeerId} (h : (m.removePeer j k).Uses id key) :
    m.Uses id key := by
  obtain ⟨l, q, hq, used⟩ := h
  rw [find?_peersOf_removePeer] at hq
  split at hq
  case isTrue => contradiction
  case isFalse => exact ⟨l, q, hq, used⟩

/-- A key stays in use when a peer with another key is removed. -/
theorem Uses.removePeer {k : PeerId} {own : Key} (h : m.Uses id key)
    (known : (m.peersOf p.tunnel.interfaceId).find? k = some p)
    (keyed : Key.parse p.keys.publicKey = .ok own)
    (other : ¬ (id = p.tunnel.interfaceId ∧ own = key)) :
    (m.removePeer p.tunnel.interfaceId k).Uses id key := by
  obtain ⟨l, q, hq, committed, used⟩ := h
  refine ⟨l, q, ?_, committed, used⟩
  rw [find?_peersOf_removePeer, if_neg, hq]
  rintro ⟨rfl, rfl⟩
  cases hq.symm.trans known
  exact other ⟨rfl, Except.ok.inj (keyed.symm.trans used)⟩

/-- Every key in use was sent, and not to be removed the last time. -/
def AllPushed (m : Memory) (sent : List (String × DeviceChange)) : Prop :=
  ∀ i key, m.Uses i key → ∃ c, lastChange? i.text key sent = some c ∧ c.remove = false

/-- Every key that was sent, and not to be removed the last time, is in use. -/
def AllUsed (m : Memory) (sent : List (String × DeviceChange)) : Prop :=
  ∀ i key c, lastChange? i.text key sent = some c → c.remove = false → m.Uses i key

variable {sent : List (String × DeviceChange)} {c : PeerChange}

theorem lastChange?_push (i j : InterfaceId) :
    lastChange? i.text key (sent ++ [(j.text, { peers := [c] })]) =
      if j = i ∧ c.publicKey = key then some c else lastChange? i.text key sent := by
  have same : j.text = i.text ∧ c.publicKey = key ↔ j = i ∧ c.publicKey = key :=
    and_congr_left' ⟨Id.ext', congrArg Id.text⟩
  rw [lastChange?_append, lastChange?_single, if_congr same rfl rfl]
  split <;> rfl

theorem AllPushed.addPeer (h : m.AllPushed sent)
    (keyed : Key.parse p.keys.publicKey = .ok c.publicKey) (kept : c.remove = false) :
    (m.addPeer p.tunnel.interfaceId p).AllPushed
      (sent ++ [(p.tunnel.interfaceId.text, { peers := [c] })]) := by
  intro i key used
  rw [lastChange?_push]
  split
  case isTrue => exact ⟨c, rfl, kept⟩
  case isFalse other =>
    apply h
    refine used.of_addPeer.resolve_left fun ⟨here, own⟩ => other ⟨here.symm, ?_⟩
    exact Except.ok.inj (keyed.symm.trans own)

theorem AllUsed.addPeer (h : m.AllUsed sent) (committed : p.isPrepared = false)
    (keyed : Key.parse p.keys.publicKey = .ok c.publicKey)
    (replaced : ∀ q key, (m.peersOf p.tunnel.interfaceId).find? p.id = some q →
      Key.parse q.keys.publicKey = .ok key →
      (m.addPeer p.tunnel.interfaceId p).Uses p.tunnel.interfaceId key) :
    (m.addPeer p.tunnel.interfaceId p).AllUsed
      (sent ++ [(p.tunnel.interfaceId.text, { peers := [c] })]) := by
  intro i key d last kept
  rw [lastChange?_push] at last
  split at last
  case isTrue own =>
    obtain ⟨rfl, rfl⟩ := own
    exact uses_addPeer_self committed keyed
  case isFalse =>
    apply (h i key d last kept).addPeer
    rintro q rfl known own
    exact replaced q key known own

theorem AllPushed.removePeer {k : PeerId} {own : Key} (h : m.AllPushed sent)
    (freed : ¬ (m.removePeer id k).Uses id own) :
    (m.removePeer id k).AllPushed (sent ++ [(id.text, { peers := [.removal own] })]) := by
  intro i key used
  rw [lastChange?_push]
  split
  case isTrue revoked =>
    obtain ⟨rfl, rfl⟩ := revoked
    exact absurd used freed
  case isFalse => exact h i key used.of_removePeer

theorem AllUsed.removePeer {k : PeerId} {own : Key} (h : m.AllUsed sent)
    (known : (m.peersOf p.tunnel.interfaceId).find? k = some p)
    (keyed : Key.parse p.keys.publicKey = .ok own) :
    (m.removePeer p.tunnel.interfaceId k).AllUsed
      (sent ++ [(p.tunnel.interfaceId.text, { peers := [.removal own] })]) := by
  intro i key d last kept
  rw [lastChange?_push] at last
  split at last
  case isTrue =>
    cases last
    contradiction
  case isFalse other =>
    exact (h i key d last kept).removePeer known keyed fun ⟨here, same⟩ => other ⟨here.symm, same⟩

end Memory

end TunnelKeeper

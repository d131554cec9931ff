import TunnelKeeper.Proofs.Keeper.FreshAddresses
import TunnelKeeper.Proofs.Memory.Filing

/-!
# Held addresses

A peer holds addresses on an interface when it stands in the slot of the interface and its own text
names them, as far as that text can be read at all. No fresh address of the interface is then one
of them: the search reads the texts of all peers, and it fails where one of them cannot be read.
Changes of memory that leave the peer in its slot leave the addresses held.
-/
namespace TunnelKeeper.Memory
open TunnelKeeper Net

/-- Whether the text of a peer, if it can be read, names all addresses that another text names. -/
def Retains (p : Peer) (text : String) : Prop :=
  Legible p.tunnel.addresses.value → ∀ a, Names text a → Names p.tunnel.addresses.value a

/-- Whether the peer with an identifier holds the addresses in a text on an interface. -/
structure Holds (id : InterfaceId) (peer : PeerId) (text : String) (m : Memory) : Prop where
  filed : m.Filed
  held : ∃ p, (m.peersOf id).find? peer = some p ∧ Retains p text

variable {m : Memory} {id j : InterfaceId} {peer k : PeerId} {text : String}

namespace Holds

/-- The peer that is known by the identifier is the one that holds the addresses. -/
theorem retains (h : Holds id peer text m) {p : Peer} (hp : (m.peersOf j).find? peer = some p) :
    j = id ∧ Retains p text := by
  obtain ⟨q, hq, retains⟩ := h.held
  cases h.filed.single (Directory.contains_of_find? hp) (Directory.contains_of_find? hq)
  cases hp.symm.trans hq
  exact ⟨rfl, retains⟩

/-- Nothing but the slots counts. -/
theorem congr {m' : Memory} (h : Holds id peer text m) (filed : m'.Filed)
    (same : (m'.peersOf id).find? peer = (m.peersOf id).find? peer) : Holds id peer text m' := by
  obtain ⟨p, hp, retains⟩ := h.held
  exact ⟨filed, p, same.trans hp, retains⟩

theorem addInterface (h : Holds id peer text m) (i : Interface) :
    Holds id peer text (m.addInterface i) := by
  apply h.congr (h.filed.addInterface i)
  rw [peersOf_addInterface]

theorem addPeer {p : Peer} (h : Holds id peer text m) (fits : Fits m j p)
    (retains : p.id = peer → Retains p text) : Holds id peer text (m.addPeer j p) := by
  have filed := h.filed.addPeer fits
  by_cases same : id = j ∧ peer = p.id
  · refine ⟨filed, p, ?_, retains same.2.symm⟩
    rw [find?_peersOf_addPeer, if_pos same]
  · apply h.congr filed
    rw [find?_peersOf_addPeer, if_neg same]

theorem addPeers {ps : List Peer} (h : Holds id peer text m) (fits : ∀ p ∈ ps, Fits m j p)
    (retains : ∀ p ∈ ps, p.id = peer → Retains p text) :
    Holds id peer text (m.addPeers j ps) := by
  induction ps generalizing m with
  | nil => exact h
  | cons p ps ih =>
    rw [List.forall_mem_cons] at fits retains
    apply ih (h.addPeer fits.1 retains.1)
    · intro q hq
      exact (fits.2 q hq).addPeer
    · exact retains.2

/-- A pass over peers leaves the addresses held wherever it stops. -/
theorem addPeersUpTo {ps done rest : List Peer} {p : Peer} (h : Holds id peer text m)
    (split : ps = done ++ p :: rest) (fits : ∀ q ∈ ps, Fits m j q)
    (retains : ∀ q ∈ ps, q.id = peer → Retains q text) :
    Holds id peer text ((m.addPeers j done).addPeer j p) := by
  have within {q : Peer} (hq : q ∈ done ++ [p]) : q ∈ ps := by
    rw [split, List.append_cons]
    exact List.mem_append_left rest hq
  rw [← addPeers_concat]
  exact h.addPeers (fun q hq => fits q (within hq)) fun q hq => retains q (within hq)

theorem removePeer (h : Holds id peer text m) (other : k ≠ peer) :
    Holds id peer text (m.removePeer j k) := by
  apply h.congr (h.filed.removePeer j k)
  rw [find?_peersOf_removePeer, if_neg fun both => other both.2.symm]

theorem removeInterface (h : Holds id peer text m) (other : j ≠ id) :
    Holds id peer text (m.removeInterface j) := by
  apply h.congr (h.filed.removeInterface j)
  rw [peersOf_removeInterface, if_neg other.symm]

theorem dropStale {cutoff : Instant} (h : Holds id peer text m)
    (young : ∀ p, m.findPeer? peer = some p → Keeper.isStale cutoff p = false) :
    Holds id peer text (Keeper.dropStale cutoff m) := by
  obtain ⟨p, hp, retains⟩ := h.held
  refine ⟨h.filed.dropStale cutoff, p, ?_, retains⟩
  rw [peersOf_dropStale, Directory.find?_filter, hp, Option.filter_some,
    young p (h.filed.findPeer?_of_find? hp)]
  rfl

variable {subnet c : Cidr} {reserved : List Cidr}

/-- A fresh address is none that is held. -/
theorem not_names (h : Holds id peer text m) (found : m.freshAddress id subnet reserved = .ok c) :
    ¬ Names text c.addr := by
  intro named
  obtain ⟨p, hp, retains⟩ := h.held
  have known := Directory.mem_records_iff.2 ⟨peer, hp⟩
  obtain ⟨-, legible⟩ := isFree_of_freshAddress found
  exact not_names_of_freshAddress known found (retains (legible p known) _ named)

/-- A text of fresh addresses names none that is held. -/
theorem apart (h : Holds id peer text m) (legible : Legible text) {fresh : String}
    (found : m.freshAddresses id = .ok fresh) : Apart fresh text := by
  refine ⟨legible_of_freshAddresses found, legible, fun {a} named held => ?_⟩
  obtain ⟨subnet, c, hc, rfl⟩ := exists_freshAddress found named
  exact h.not_names hc held

end Holds

end TunnelKeeper.Memory

import TunnelKeeper.Proofs.Memory.Slots

/-!
# Filing

Memory is filed when every interface stands under its own identifier, exactly the managed interfaces
have a slot for peers, every peer stands under its own identifier in the slot of the interface that
it names, and no peer stands in two slots. Every change of memory keeps this, a new peer provided
that its interface is managed and that it stands in no other slot.
-/
namespace TunnelKeeper.Memory
open TunnelKeeper

/-- Every record stands where it says that it belongs. -/
structure Filed (m : Memory) : Prop where
  interface {id : InterfaceId} {i : Interface} : m.interfaces.find? id = some i → i.id = id
  slots (id : InterfaceId) : m.peers.contains id = m.interfaces.contains id
  peer {i : InterfaceId} {id : PeerId} {p : Peer} :
    (m.peersOf i).find? id = some p → p.id = id ∧ p.tunnel.interfaceId = i
  single {i j : InterfaceId} {id : PeerId} :
    (m.peersOf i).contains id = true → (m.peersOf j).contains id = true → i = j

/-- Whether a peer may stand under an interface: the interface is managed and its own, and the peer
stands in no other slot. -/
structure Fits (m : Memory) (id : InterfaceId) (p : Peer) : Prop where
  managed : m.interfaces.contains id = true
  home : p.tunnel.interfaceId = id
  alone {j : InterfaceId} (hj : j ≠ id) : (m.peersOf j).contains p.id = false

variable {m : Memory}

theorem Fits.addPeer {id : InterfaceId} {p q : Peer} (h : Fits m id q) :
    Fits (m.addPeer id p) id q := by
  constructor
  · exact h.managed
  · exact h.home
  · intro j hj
    rw [peersOf_addPeer, if_neg hj]
    exact h.alone hj

namespace Filed

theorem empty : Filed {} where
  interface h := nomatch h
  slots _ := rfl
  peer h := nomatch h
  single h := nomatch h

/-- Whether memory is filed does not depend on the statistics. -/
theorem congr {m' : Memory} (hm : Filed m) (hi : m'.interfaces = m.interfaces)
    (hp : m'.peers = m.peers) : Filed m' := by
  constructor
  · intro id i h
    exact hm.interface (hi ▸ h)
  · intro id
    rw [hi, hp]
    exact hm.slots id
  · intro i id p h
    exact hm.peer (peersOf_congr hp i ▸ h)
  · intro i j id hi hj
    exact hm.single (peersOf_congr hp i ▸ hi) (peersOf_congr hp j ▸ hj)

/-- A filed memory from which peers are taken away is filed if the slots are in order. -/
theorem shrink {m' : Memory} (hm : Filed m)
    (interface : ∀ id i, m'.interfaces.find? id = some i → m.interfaces.find? id = some i)
    (slots : ∀ id, m'.peers.contains id = m'.interfaces.contains id)
    (peers : ∀ i id p, (m'.peersOf i).find? id = some p → (m.peersOf i).find? id = some p) :
    Filed m' := by
  have known {i : InterfaceId} {id : PeerId} (h : (m'.peersOf i).contains id = true) :
      (m.peersOf i).contains id = true := by
    obtain ⟨p, hp⟩ := Directory.contains_iff_find?.1 h
    exact Directory.contains_of_find? (peers i id p hp)
  constructor
  · exact fun h => hm.interface (interface _ _ h)
  · exact slots
  · exact fun h => hm.peer (peers _ _ _ h)
  · exact fun hi hj => hm.single (known hi) (known hj)

theorem addInterface (hm : Filed m) (i : Interface) : Filed (m.addInterface i) := by
  constructor
  · intro id j h
    rcases Directory.of_find?_insert h with ⟨hid, rfl⟩ | h
    · exact hid.symm
    · exact hm.interface h
  · intro id
    change (m.peers.insert _ _).contains id = (m.interfaces.insert _ _).contains id
    rw [Directory.contains_insert, Directory.contains_insert, hm.slots]
  · intro j id p h
    exact hm.peer (by simpa using h)
  · intro j k id hj hk
    exact hm.single (by simpa using hj) (by simpa using hk)

/-- A managed interface may be replaced by another record with its identifier. -/
theorem replaceInterface {i : Interface} (hm : Filed m)
    (managed : m.interfaces.contains i.id = true) :
    Filed { m with interfaces := m.interfaces.insert i.id i } := by
  constructor
  · intro id j h
    rcases Directory.of_find?_insert h with ⟨hid, rfl⟩ | h
    · exact hid.symm
    · exact hm.interface h
  · intro id
    rw [Directory.contains_insert, hm.slots]
    by_cases hid : id = i.id
    · simp [hid, managed]
    · simp [hid]
  · exact hm.peer
  · exact hm.single

theorem addPeer {id : InterfaceId} {p : Peer} (hm : Filed m) (fits : Fits m id p) :
    Filed (m.addPeer id p) := by
  have known {j : InterfaceId} {k : PeerId} (h : ((m.addPeer id p).peersOf j).contains k = true) :
      (j = id ∧ k = p.id) ∨ (m.peersOf j).contains k = true := by
    rw [peersOf_addPeer] at h
    split at h
    case isTrue hj =>
      rw [Directory.contains_insert, Bool.or_eq_true, decide_eq_true_eq] at h
      exact h.imp (fun hk => ⟨hj, hk⟩) fun hk => hj ▸ hk
    case isFalse => exact .inr h
  have here {j : InterfaceId} (h : (m.peersOf j).contains p.id = true) : j = id := by
    by_cases hj : j = id
    · exact hj
    · rw [fits.alone hj] at h
      contradiction
  constructor
  · exact hm.interface
  · intro j
    change (m.peers.insert _ _).contains j = m.interfaces.contains j
    rw [Directory.contains_insert, hm.slots]
    by_cases hj : j = id
    · simp [hj, fits.managed]
    · simp [hj]
  · intro j k q h
    rw [peersOf_addPeer] at h
    split at h
    case isTrue hj =>
      rcases Directory.of_find?_insert h with ⟨hk, rfl⟩ | h
      · exact ⟨hk.symm, fits.home.trans hj.symm⟩
      · exact hj ▸ hm.peer h
    case isFalse => exact hm.peer h
  · intro j k pid hj hk
    rcases known hj with ⟨rfl, rfl⟩ | hj' <;> rcases known hk with ⟨hk', hp⟩ | hk'
    · exact hk'.symm
    · exact (here hk').symm
    · exact (here (hp ▸ hj')).trans hk'.symm
    · exact hm.single hj' hk'

theorem addPeers {id : InterfaceId} {ps : List Peer} (hm : Filed m)
    (fits : ∀ p ∈ ps, Fits m id p) : Filed (m.addPeers id ps) := by
  induction ps generalizing m with
  | nil => exact hm
  | cons p ps ih =>
    rw [List.forall_mem_cons] at fits
    apply ih (hm.addPeer fits.1)
    intro q hq
    exact (fits.2 q hq).addPeer

/-- A pass over peers that fit keeps memory filed wherever it stops. -/
theorem addPeersUpTo {id : InterfaceId} {ps done rest : List Peer} {p : Peer} (hm : Filed m)
    (split : ps = done ++ p :: rest) (fits : ∀ q ∈ ps, Fits m id q) :
    Filed ((m.addPeers id done).addPeer id p) := by
  rw [← addPeers_concat]
  apply hm.addPeers
  intro q hq
  apply fits
  rw [split, List.append_cons]
  exact List.mem_append_left rest hq

theorem removePeer (hm : Filed m) (id : InterfaceId) (peer : PeerId) :
    Filed (m.removePeer id peer) := by
  apply hm.shrink
  · exact fun _ _ h => h
  · intro j
    rw [contains_peers_removePeer, hm.slots]
    rfl
  · intro j k p h
    rw [peersOf_removePeer] at h
    split at h
    case isTrue hj => exact hj ▸ (Directory.of_find?_erase h).2
    case isFalse => exact h

theorem removeInterface (hm : Filed m) (id : InterfaceId) : Filed (m.removeInterface id) := by
  apply hm.shrink
  · exact fun _ _ h => (Directory.of_find?_erase h).2
  · intro j
    change (m.peers.erase id).contains j = (m.interfaces.erase id).contains j
    rw [Directory.contains_erase, Directory.contains_erase, hm.slots]
  · intro j k p h
    rw [peersOf_removeInterface] at h
    split at h
    case isTrue => contradiction
    case isFalse => exact h

theorem dropStale (hm : Filed m) (cutoff : Instant) : Filed (Keeper.dropStale cutoff m) := by
  apply hm.shrink
  · exact fun _ _ h => h
  · intro j
    exact (Directory.contains_map m.peers _ j).trans (hm.slots j)
  · intro j k p h
    rw [peersOf_dropStale, Directory.find?_filter] at h
    exact (Option.filter_eq_some_iff.1 h).1

theorem of_mem_records {i : InterfaceId} {p : Peer} (hm : Filed m)
    (h : p ∈ (m.peersOf i).records) :
    p.tunnel.interfaceId = i ∧ (m.peersOf i).find? p.id = some p := by
  obtain ⟨id, hid⟩ := Directory.mem_records_iff.1 h
  obtain ⟨rfl, hi⟩ := hm.peer hid
  exact ⟨hi, hid⟩

theorem findPeer?_of_find? {i : InterfaceId} {id : PeerId} {p : Peer} (hm : Filed m)
    (h : (m.peersOf i).find? id = some p) : m.findPeer? id = some p := by
  cases hf : m.findPeer? id with
  | none =>
    rw [findPeer?_eq_none_iff.1 hf i] at h
    contradiction
  | some q =>
    obtain ⟨j, hj⟩ := exists_of_findPeer? hf
    cases hm.single (Directory.contains_of_find? h) (Directory.contains_of_find? hj)
    rw [← hj, h]

/-- What stands in some slot under an identifier is the peer that is known by it. -/
theorem slot_of_known {i : InterfaceId} {id : PeerId} {p q : Peer} (hm : Filed m)
    (known : m.findPeer? id = some p) (hq : (m.peersOf i).find? id = some q) :
    q = p ∧ i = p.tunnel.interfaceId := by
  cases (hm.findPeer?_of_find? hq).symm.trans known
  exact ⟨rfl, (hm.peer hq).2.symm⟩

/-- What is known by an identifier stands in the slot of its interface. -/
theorem find?_of_findPeer? {id : PeerId} {p : Peer} (hm : Filed m)
    (known : m.findPeer? id = some p) : (m.peersOf p.tunnel.interfaceId).find? id = some p := by
  obtain ⟨i, hi⟩ := exists_of_findPeer? known
  rwa [(hm.peer hi).2]

/-- A known peer stands in no slot but its own. -/
theorem alone {i j : InterfaceId} {id : PeerId} (hm : Filed m)
    (h : (m.peersOf i).contains id = true) (hj : j ≠ i) : (m.peersOf j).contains id = false := by
  cases hc : (m.peersOf j).contains id with
  | false => rfl
  | true => exact absurd (hm.single hc h) hj

end Filed

end TunnelKeeper.Memory

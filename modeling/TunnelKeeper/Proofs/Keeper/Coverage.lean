import TunnelKeeper.Proofs.Keeper.Joining
import TunnelKeeper.Proofs.Memory.Loading

/-!
# Memory is never behind the store

Memory covers the stored records when every stored interface is managed and every stored peer stands
in memory under the same interface and committed. Memory may know more: an operation that fails half
way leaves it ahead of the store. A deletion takes the records out of the store first, and expiry
takes prepared peers out of memory only.
-/
namespace TunnelKeeper
open Effect Step Store

/-- Whether memory knows all that is stored. -/
structure Memory.Covers (m : Memory) (r : Records) : Prop where
  interface {id : InterfaceId} : r.interfaces.contains id = true → m.interfaces.contains id = true
  peer {id : PeerId} {p : Peer} : r.peers.find? id = some p →
    ∃ q, (m.peersOf p.tunnel.interfaceId).find? id = some q ∧ q.isPrepared = false

namespace Memory.Covers

variable {m : Memory} {r : Records}

/-- What is loaded covers what is stored if the interface of every stored peer is stored. -/
theorem ofRecords (hr : r.Written) (complete : r.Complete) : (Memory.ofRecords r).Covers r := by
  constructor
  · intro id h
    rw [interfaces_ofRecords hr.filed, h]
  · intro id p hp
    have loaded := (find?_peersOf_ofRecords hr.filed).2 ⟨hp, rfl, complete hp⟩
    exact ⟨p, loaded, hr.committed hp⟩

theorem shrink {r' : Records} (h : m.Covers r)
    (interface : ∀ id, r'.interfaces.contains id = true → r.interfaces.contains id = true)
    (peer : ∀ id p, r'.peers.find? id = some p → r.peers.find? id = some p) : m.Covers r' :=
  ⟨fun hi => h.interface (interface _ hi), fun hp => h.peer (peer _ _ hp)⟩

theorem congr {m' : Memory} (h : m.Covers r) (hi : m'.interfaces = m.interfaces)
    (same : m'.peers = m.peers) : m'.Covers r := by
  constructor
  · intro id hid
    rw [hi, h.interface hid]
  · intro id p hp
    rw [peersOf_congr same]
    exact h.peer hp

theorem replaceInterface (h : m.Covers r) (i : Interface) :
    (Keeper.withInterface m i).Covers r := by
  constructor
  · intro _ hid
    rw [Keeper.withInterface, Directory.contains_insert, h.interface hid, Bool.or_true]
  · exact h.peer

theorem addInterface (h : m.Covers r) (i : Interface) : (m.addInterface i).Covers r := by
  constructor
  · exact (h.replaceInterface i).interface
  · intro id p hp
    rw [peersOf_addInterface]
    exact h.peer hp

theorem saveInterface {i : Interface} (h : m.Covers r)
    (managed : m.interfaces.contains i.id = true) : m.Covers (r.saveInterface i) := by
  constructor
  · intro id hid
    rw [Records.saveInterface, Directory.contains_insert, Bool.or_eq_true, decide_eq_true_eq] at hid
    rcases hid with rfl | hid
    · exact managed
    · exact h.interface hid
  · exact h.peer

/-- A peer that joins may be filed before it is stored. -/
theorem addPeer {id : InterfaceId} {p : Peer} (h : m.Covers r) (joins : Joins m id p) :
    (m.addPeer id p).Covers r := by
  constructor
  · exact h.interface
  · intro k s hs
    obtain ⟨q, hq, committed⟩ := h.peer hs
    rw [find?_peersOf_addPeer]
    by_cases new : s.tunnel.interfaceId = id ∧ k = p.id
    · rw [if_pos new]
      refine ⟨p, rfl, ?_⟩
      obtain ⟨hid, rfl⟩ := new
      rw [hid] at hq
      cases hp : p.isPrepared with
      | false => rfl
      | true => exact (joins.hidesNone hp hq).symm.trans committed
    · rw [if_neg new]
      exact ⟨q, hq, committed⟩

theorem savePeer {p : Peer} (h : m.Covers r) (committed : p.isPrepared = false)
    (known : (m.peersOf p.tunnel.interfaceId).find? p.id = some p) : m.Covers (r.savePeer p) := by
  constructor
  · exact h.interface
  · intro k s hs
    rcases Directory.of_find?_insert hs with ⟨rfl, rfl⟩ | hs
    · exact ⟨p, known, committed⟩
    · exact h.peer hs

theorem survivesJoining : SurvivesJoining Covers := by
  intro m r id p h joins
  cases hp : p.isPrepared with
  | true => simpa [saves, hp] using h.addPeer joins
  | false =>
    have stored : (m.addPeer id p).Covers (r.savePeer p) := by
      refine (h.addPeer joins).savePeer hp ?_
      rw [find?_peersOf_addPeer, if_pos ⟨joins.home, rfl⟩]
    simpa [saves, hp, Change.apply] using stored

theorem removePrepared {id : PeerId} {p : Peer} (h : m.Covers r) (hm : m.Filed)
    (known : m.findPeer? id = some p) (prepared : p.isPrepared = true) :
    (m.removePeer p.tunnel.interfaceId id).Covers r := by
  constructor
  · exact h.interface
  · intro k s hs
    obtain ⟨q, hq, committed⟩ := h.peer hs
    rw [find?_peersOf_removePeer, if_neg]
    · exact ⟨q, hq, committed⟩
    · rintro ⟨-, rfl⟩
      cases (hm.findPeer?_of_find? hq).symm.trans known
      rw [prepared] at committed
      contradiction

theorem deletePeer (h : m.Covers r) (id : PeerId) (i : InterfaceId) :
    (m.removePeer i id).Covers (r.deletePeer id) := by
  constructor
  · exact h.interface
  · intro k s hs
    obtain ⟨hk, hs⟩ := Directory.of_find?_erase hs
    rw [find?_peersOf_removePeer, if_neg fun new => hk new.2]
    exact h.peer hs

theorem deletions (h : m.Covers r) (ps : List Peer) :
    m.Covers (Change.applyAll (deletions ps) r) := by
  apply h.shrink
  · intro id hid
    rwa [interfaces_deletions] at hid
  · intro id p hp
    rw [find?_deletions] at hp
    split at hp
    case isTrue => contradiction
    case isFalse => exact hp

/-- Once the committed peers of an interface are deleted, no stored peer names it. -/
theorem foreign_of_deletions (h : m.Covers r) (hm : m.Filed) {id : InterfaceId} {k : PeerId}
    {s : Peer}
    (hs : (Change.applyAll (Store.deletions (Keeper.committedPeers m id)) r).peers.find? k =
      some s) : s.tunnel.interfaceId ≠ id := by
  rintro rfl
  rw [find?_deletions] at hs
  split at hs
  case isTrue => contradiction
  case isFalse kept =>
    obtain ⟨q, hq, committed⟩ := h.peer hs
    exact kept ⟨q, Keeper.mem_committedPeers hq committed, (hm.peer hq).1⟩

theorem deleteInterface (h : m.Covers r) (hm : m.Filed) (id : InterfaceId) :
    (m.removeInterface id).Covers
      ((Change.applyAll (Store.deletions (Keeper.committedPeers m id)) r).deleteInterface id) := by
  constructor
  · intro j hj
    change (m.interfaces.erase id).contains j = true
    rw [Records.deleteInterface, Directory.contains_erase, Bool.and_eq_true] at hj
    rw [Directory.contains_erase, Bool.and_eq_true]
    exact ⟨hj.1, (h.deletions _).interface hj.2⟩
  · intro k s hs
    rw [peersOf_removeInterface, if_neg (h.foreign_of_deletions hm hs)]
    exact (h.deletions _).peer hs

theorem dropStale (h : m.Covers r) (cutoff : Instant) : (Keeper.dropStale cutoff m).Covers r := by
  constructor
  · exact h.interface
  · intro k s hs
    obtain ⟨q, hq, committed⟩ := h.peer hs
    exact ⟨q, Keeper.find?_dropStale_of_committed hq committed cutoff, committed⟩

end Memory.Covers

namespace Keeper
open Memory

variable {s : Keeper}

theorem covers_createInterface (id : InterfaceId) (h : s.memory.Covers s.store.records) :
    Ends (createInterface id) s fun _ t => t.memory.Covers t.store.records := by
  apply (createInterface_ends id s).mono
  intro r t ht
  cases ht with
  | refused => exact h
  | notPushed => exact h
  | notStored => exact h.addInterface _
  | done => exact (h.addInterface _).saveInterface (contains_addInterface s.memory { id := id })

theorem covers_updateInterface (i : Interface) (h : s.memory.Covers s.store.records) :
    Ends (updateInterface i) s fun _ t => t.memory.Covers t.store.records := by
  apply (updateInterface_ends i s).mono
  intro r t ht
  cases ht with
  | refused => exact h
  | notPushed => exact h
  | notStored => exact h.replaceInterface i
  | done managed =>
    apply (h.replaceInterface i).saveInterface
    rw [withInterface, Directory.contains_insert, managed, Bool.or_true]

theorem covers_deleteInterface (id : InterfaceId) (hm : s.memory.Filed)
    (h : s.memory.Covers s.store.records) :
    Ends (deleteInterface id) s fun _ t => t.memory.Covers t.store.records := by
  apply (deleteInterface_ends id s).mono
  intro r t ht
  cases ht with
  | refused => exact h
  | notPushed => exact h
  | peerNotDeleted => simpa using h.deletions _
  | notDeleted => simpa using h.deletions _
  | done => simpa [Change.apply] using h.deleteInterface hm id

theorem covers_applyDefaults (id : InterfaceId) (hm : s.memory.Filed)
    (h : s.memory.Covers s.store.records) :
    Ends (applyDefaults id) s fun _ t => t.memory.Covers t.store.records := by
  apply (applyDefaults_ends id s).mono
  intro r t ht
  cases ht with
  | refused => exact h
  | notStored managed split _ _ =>
    obtain ⟨kept, joins⟩ := kept_renewed Covers.survivesJoining hm managed split h
    simpa using kept.addPeer (joins _ List.mem_cons_self)
  | done managed =>
    simpa [withPeers] using kept_allRenewed Covers.survivesJoining hm managed h

theorem covers_savePeer {p : Peer} (hm : s.memory.Filed) (h : s.memory.Covers s.store.records)
    (allowed : MayBeSaved s.memory p) :
    Ends (savePeer p) s fun _ t => t.memory.Covers t.store.records := by
  apply (savePeer_ends p s).mono
  intro r t ht
  cases ht with
  | refused => exact h
  | prepared fits => exact h.addPeer (joins_of_fits hm fits allowed)
  | notPushed fits => exact h.addPeer (joins_of_fits hm fits allowed)
  | notStored fits => exact h.addPeer (joins_of_fits hm fits allowed)
  | done fits committed =>
    have stored := Covers.survivesJoining _ _ _ _ h (joins_of_fits hm fits allowed)
    simpa [saves, committed] using stored

theorem covers_removePeer (id : PeerId) (hm : s.memory.Filed)
    (h : s.memory.Covers s.store.records) :
    Ends (removePeer id) s fun _ t => t.memory.Covers t.store.records := by
  apply (removePeer_ends id s).mono
  intro r t ht
  cases ht with
  | refused => exact h
  | prepared known prepared => exact h.removePrepared hm known prepared
  | notPushed => exact h
  | notStored => exact h
  | done known _ => exact h.deletePeer id _

theorem covers_importInterface {c : ImportCandidate} (hc : Committed c)
    (h : s.memory.Covers s.store.records) :
    Ends (importInterface c) s fun _ t => t.memory.Covers t.store.records := by
  have begun : (s.memory.addInterface c.interface).Covers
      (s.store.records.saveInterface c.interface) :=
    (h.addInterface _).saveInterface (contains_addInterface s.memory c.interface)
  apply (importInterface_ends c s).mono
  intro r t ht
  cases ht with
  | refused => exact h
  | interfaceNotStored => exact h.addInterface _
  | peerNotStored importable split _ =>
    obtain ⟨kept, joins⟩ := kept_adopted Covers.survivesJoining hc importable split begun
    simpa [Change.apply] using kept.addPeer (joins _ List.mem_cons_self)
  | done importable =>
    simpa [Change.apply] using kept_allAdopted Covers.survivesJoining hc importable begun

theorem covers_expirePrepared (maxAge : Int) (h : s.memory.Covers s.store.records) :
    Ends (expirePrepared maxAge) s fun _ t => t.memory.Covers t.store.records := by
  apply (expirePrepared_ends maxAge s).mono
  intro r t ht
  cases ht with
  | undated => exact h
  | dropped cutoff => exact h.dropStale cutoff

theorem covers_refreshStats (h : s.memory.Covers s.store.records) :
    Ends refreshStats s fun _ t => t.memory.Covers t.store.records := by
  apply (refreshStats_ends s).mono
  intro r t ht
  obtain ⟨k, ps, is, rfl⟩ := ht
  exact h.congr rfl rfl

end Keeper

end TunnelKeeper

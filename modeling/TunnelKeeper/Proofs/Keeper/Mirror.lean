import TunnelKeeper.Proofs.Keeper.Joining
import TunnelKeeper.Proofs.Memory.Loading

/-!
# The store mirrors memory

The store mirrors memory when it holds the managed interfaces and the committed peers, record for
record. An operation in which no write and no change of a device is lost keeps it so: what it files
it also stores, and what it forgets it also deletes, but for prepared peers, which are never stored.
-/
namespace TunnelKeeper
open Effect Step Store

/-- Whether the records are those of the managed interfaces and of the committed peers. -/
structure Memory.Mirrors (m : Memory) (r : Records) : Prop where
  interfaces : r.interfaces = m.interfaces
  peer {id : PeerId} {p : Peer} : r.peers.find? id = some p ↔
    ∃ i, (m.peersOf i).find? id = some p ∧ p.isPrepared = false

namespace Memory.Mirrors

variable {m : Memory} {r : Records}

/-- What is stored mirrors what is loaded if the interface of every stored peer is stored. -/
theorem ofRecords (hr : r.Written) (complete : r.Complete) : (Memory.ofRecords r).Mirrors r := by
  constructor
  · exact (interfaces_ofRecords hr.filed).symm
  · intro id p
    constructor
    · intro hp
      have loaded := (find?_peersOf_ofRecords hr.filed).2 ⟨hp, rfl, complete hp⟩
      exact ⟨p.tunnel.interfaceId, loaded, hr.committed hp⟩
    · rintro ⟨i, hp, -⟩
      exact ((find?_peersOf_ofRecords hr.filed).1 hp).1

theorem congr {m' : Memory} (h : m.Mirrors r) (hi : m'.interfaces = m.interfaces)
    (hp : m'.peers = m.peers) : m'.Mirrors r := by
  constructor
  · exact hi ▸ h.interfaces
  · intro id p
    simp only [peersOf_congr hp]
    exact h.peer

theorem replaceInterface (h : m.Mirrors r) (i : Interface) :
    (Keeper.withInterface m i).Mirrors (r.saveInterface i) := by
  constructor
  · rw [Records.saveInterface, h.interfaces]
    rfl
  · exact h.peer

theorem addInterface (h : m.Mirrors r) (i : Interface) :
    (m.addInterface i).Mirrors (r.saveInterface i) := by
  constructor
  · exact (h.replaceInterface i).interfaces
  · intro id p
    simp only [peersOf_addInterface]
    exact h.peer

/-- A prepared peer may join without being stored. -/
theorem addPrepared {id : InterfaceId} {p : Peer} (h : m.Mirrors r) (joins : Joins m id p)
    (prepared : p.isPrepared = true) : (m.addPeer id p).Mirrors r := by
  constructor
  · exact h.interfaces
  · intro k q
    rw [h.peer]
    constructor
    · rintro ⟨i, hq, committed⟩
      refine ⟨i, ?_, committed⟩
      rw [find?_peersOf_addPeer, if_neg]
      · exact hq
      · rintro ⟨rfl, rfl⟩
        rw [joins.hidesNone prepared hq] at committed
        contradiction
    · rintro ⟨i, hq, committed⟩
      rw [find?_peersOf_addPeer] at hq
      split at hq
      case isTrue =>
        cases hq
        rw [prepared] at committed
        contradiction
      case isFalse => exact ⟨i, hq, committed⟩

/-- A committed peer joins and is stored. -/
theorem addCommitted {id : InterfaceId} {p : Peer} (h : m.Mirrors r) (joins : Joins m id p)
    (committed : p.isPrepared = false) : (m.addPeer id p).Mirrors (r.savePeer p) := by
  constructor
  · exact h.interfaces
  · intro k q
    rw [Records.savePeer, unmarked_of_committed committed, Directory.find?_insert]
    by_cases hk : k = p.id
    · subst hk
      rw [if_pos rfl]
      constructor
      · rintro ⟨⟩
        exact ⟨id, by rw [find?_peersOf_addPeer, if_pos ⟨rfl, rfl⟩], committed⟩
      · rintro ⟨i, hq, -⟩
        rw [find?_peersOf_addPeer] at hq
        split at hq
        case isTrue => exact hq
        case isFalse elsewhere =>
          have alone := joins.alone fun hi => elsewhere ⟨hi, rfl⟩
          rw [Directory.contains_eq_false_iff.1 alone] at hq
          contradiction
    · simp only [find?_peersOf_addPeer, hk, and_false, if_false]
      exact h.peer

theorem survivesJoining : SurvivesJoining Mirrors := by
  intro m r id p h joins
  cases hp : p.isPrepared with
  | true => simpa [saves, hp] using h.addPrepared joins hp
  | false => simpa [saves, hp, Change.apply] using h.addCommitted joins hp

theorem removePrepared {id : PeerId} {p : Peer} (h : m.Mirrors r) (hm : m.Filed)
    (known : m.findPeer? id = some p) (prepared : p.isPrepared = true) :
    (m.removePeer p.tunnel.interfaceId id).Mirrors r := by
  constructor
  · exact h.interfaces
  · intro k q
    rw [h.peer]
    constructor
    · rintro ⟨i, hq, committed⟩
      refine ⟨i, ?_, committed⟩
      rw [find?_peersOf_removePeer, if_neg]
      · exact hq
      · rintro ⟨-, rfl⟩
        rw [(hm.slot_of_known known hq).1, prepared] at committed
        contradiction
    · rintro ⟨i, hq, committed⟩
      rw [find?_peersOf_removePeer] at hq
      split at hq
      case isTrue => contradiction
      case isFalse => exact ⟨i, hq, committed⟩

theorem deletePeer {id : PeerId} {p : Peer} (h : m.Mirrors r) (hm : m.Filed)
    (known : m.findPeer? id = some p) :
    (m.removePeer p.tunnel.interfaceId id).Mirrors (r.deletePeer id) := by
  constructor
  · exact h.interfaces
  · intro k q
    rw [Records.deletePeer, Directory.find?_erase]
    by_cases hk : k = id
    · subst hk
      rw [if_pos rfl]
      constructor
      · rintro ⟨⟩
      · rintro ⟨i, hq, -⟩
        rw [find?_peersOf_removePeer] at hq
        split at hq
        case isTrue => contradiction
        case isFalse elsewhere => exact absurd ⟨(hm.slot_of_known known hq).2, rfl⟩ elsewhere
    · simp only [find?_peersOf_removePeer, hk, and_false, if_false]
      exact h.peer

theorem deleteInterface (h : m.Mirrors r) (hm : m.Filed) (id : InterfaceId) :
    (m.removeInterface id).Mirrors
      ((Change.applyAll (deletions (Keeper.committedPeers m id)) r).deleteInterface id) := by
  constructor
  · rw [Records.deleteInterface, interfaces_deletions, h.interfaces]
    rfl
  intro k q
  rw [Records.deleteInterface, find?_deletions]
  constructor
  · intro hq
    split at hq
    case isTrue => contradiction
    case isFalse kept =>
      obtain ⟨i, hq, committed⟩ := h.peer.1 hq
      refine ⟨i, ?_, committed⟩
      rw [peersOf_removeInterface, if_neg]
      · exact hq
      · rintro rfl
        exact kept ⟨q, Keeper.mem_committedPeers hq committed, (hm.peer hq).1⟩
  · rintro ⟨i, hq, committed⟩
    rw [peersOf_removeInterface] at hq
    split at hq
    case isTrue => contradiction
    case isFalse foreign =>
      rw [if_neg]
      · exact h.peer.2 ⟨i, hq, committed⟩
      · rintro ⟨p, hp, rfl⟩
        have found := (hm.of_mem_records (List.mem_of_mem_filter hp)).2
        have here := Directory.contains_of_find? hq
        exact foreign (hm.single here (Directory.contains_of_find? found))

theorem dropStale (h : m.Mirrors r) (cutoff : Instant) :
    (Keeper.dropStale cutoff m).Mirrors r := by
  constructor
  · exact h.interfaces
  · intro k q
    rw [h.peer]
    constructor
    · rintro ⟨i, hq, committed⟩
      exact ⟨i, Keeper.find?_dropStale_of_committed hq committed cutoff, committed⟩
    · rintro ⟨i, hq, committed⟩
      rw [peersOf_dropStale, Directory.find?_filter] at hq
      exact ⟨i, (Option.filter_eq_some_iff.1 hq).1, committed⟩

end Memory.Mirrors

namespace Keeper
open Memory

variable {s : Keeper}

theorem mirrors_createInterface (id : InterfaceId) (h : s.memory.Mirrors s.store.records) :
    Ends (createInterface id) s fun r t =>
      (t.memory.Mirrors t.store.records ∨ s.store.LostWrite t.store) ∧
        (r = .ok () → t.memory.Mirrors t.store.records ∧ s.store.Later t.store) := by
  apply (createInterface_ends id s).mono
  intro r t ht
  cases ht with
  | refused => exact ⟨.inl h, nofun⟩
  | notPushed => exact ⟨.inl h, nofun⟩
  | notStored _ fault => exact ⟨.inr (.of_fault? (.refl _) fault), nofun⟩
  | done =>
    have kept : (s.memory.addInterface { id := id }).Mirrors _ := h.addInterface _
    exact ⟨.inl kept, fun _ => ⟨kept, .changed _ _⟩⟩

theorem mirrors_updateInterface {s₀ : Store} (later : s₀.Later s.store) (i : Interface)
    (h : s.memory.Mirrors s.store.records) :
    Ends (updateInterface i) s fun _ t =>
      t.memory.Mirrors t.store.records ∨ s₀.LostWrite t.store := by
  apply (updateInterface_ends i s).mono
  intro r t ht
  cases ht with
  | refused => exact .inl h
  | notPushed => exact .inl h
  | notStored _ fault => exact .inr (.of_fault? later fault)
  | done => exact .inl (h.replaceInterface i)

theorem mirrors_deleteInterface (id : InterfaceId) (hm : s.memory.Filed)
    (h : s.memory.Mirrors s.store.records) :
    Ends (deleteInterface id) s fun _ t =>
      t.memory.Mirrors t.store.records ∨ s.store.LostWrite t.store := by
  apply (deleteInterface_ends id s).mono
  intro r t ht
  cases ht with
  | refused => exact .inl h
  | notPushed => exact .inl h
  | peerNotDeleted _ _ fault => exact .inr (.of_fault? (.changedAll _ _) fault)
  | notDeleted _ fault => exact .inr (.of_fault? (.changedAll _ _) fault)
  | done => exact .inl (by simpa [Change.apply] using h.deleteInterface hm id)

theorem mirrors_applyDefaults (id : InterfaceId) (hm : s.memory.Filed)
    (h : s.memory.Mirrors s.store.records) :
    Ends (applyDefaults id) s fun _ t =>
      t.memory.Mirrors t.store.records ∨ s.store.LostWrite t.store := by
  apply (applyDefaults_ends id s).mono
  intro r t ht
  cases ht with
  | refused => exact .inl h
  | notStored _ _ _ fault => exact .inr (.of_fault? (.changedAll _ _) fault)
  | done managed =>
    exact .inl (by simpa [withPeers] using kept_allRenewed Mirrors.survivesJoining hm managed h)

theorem mirrors_savePeer {p : Peer} (hm : s.memory.Filed) (h : s.memory.Mirrors s.store.records)
    (allowed : MayBeSaved s.memory p) :
    Ends (savePeer p) s fun _ t => t.memory.Mirrors t.store.records ∨
      s.store.LostWrite t.store ∨ s.kernel.LostChange t.kernel := by
  apply (savePeer_ends p s).mono
  intro r t ht
  cases ht with
  | refused => exact .inl h
  | prepared fits prepared => exact .inl (h.addPrepared (joins_of_fits hm fits allowed) prepared)
  | notPushed _ _ lost => exact .inr (.inr lost)
  | notStored _ _ fault => exact .inr (.inl (.of_fault? (.refl _) fault))
  | done fits committed => exact .inl (h.addCommitted (joins_of_fits hm fits allowed) committed)

theorem mirrors_removePeer (id : PeerId) (hm : s.memory.Filed)
    (h : s.memory.Mirrors s.store.records) :
    Ends (removePeer id) s fun _ t =>
      t.memory.Mirrors t.store.records ∨ s.store.LostWrite t.store := by
  apply (removePeer_ends id s).mono
  intro r t ht
  cases ht with
  | refused => exact .inl h
  | prepared known prepared => exact .inl (h.removePrepared hm known prepared)
  | notPushed => exact .inl h
  | notStored fault => exact .inr (.of_fault? (.refl _) fault)
  | done known _ => exact .inl (h.deletePeer hm known)

theorem mirrors_importInterface {c : ImportCandidate} (hc : Committed c)
    (h : s.memory.Mirrors s.store.records) :
    Ends (importInterface c) s fun _ t =>
      t.memory.Mirrors t.store.records ∨ s.store.LostWrite t.store := by
  apply (importInterface_ends c s).mono
  intro r t ht
  cases ht with
  | refused => exact .inl h
  | interfaceNotStored _ fault => exact .inr (.of_fault? (.refl _) fault)
  | peerNotStored _ _ fault =>
    exact .inr (.of_fault? ((Later.changed _ _).trans (.changedAll _ _)) fault)
  | done importable =>
    have kept := kept_allAdopted Mirrors.survivesJoining hc importable (h.addInterface c.interface)
    exact .inl (by simpa [Change.apply] using kept)

theorem mirrors_expirePrepared (maxAge : Int) (h : s.memory.Mirrors s.store.records) :
    Ends (expirePrepared maxAge) s fun _ t => t.memory.Mirrors t.store.records := by
  apply (expirePrepared_ends maxAge s).mono
  intro r t ht
  cases ht with
  | undated => exact h
  | dropped cutoff => exact h.dropStale cutoff

theorem mirrors_refreshStats (h : s.memory.Mirrors s.store.records) :
    Ends refreshStats s fun _ t => t.memory.Mirrors t.store.records := by
  apply (refreshStats_ends s).mono
  intro r t ht
  obtain ⟨k, ps, is, rfl⟩ := ht
  exact h.congr rfl rfl

end Keeper

end TunnelKeeper

import Mathlib.Data.List.Perm.Subperm
import TunnelKeeper.Proofs.Memory.AllPeers
import TunnelKeeper.Proofs.Memory.Loading

/-!
# How many peers are loaded

Records that stand under their own identifiers are told apart, so lists of them can be compared by
their lengths. As many peers are loaded as are stored if and only if the interface of every stored
peer is stored.
-/
namespace TunnelKeeper

namespace Memory

variable {r : Store.Records}

/-- Every loaded peer is stored. -/
theorem allPeers_ofRecords_subset (hr : r.Filed) : (ofRecords r).allPeers ⊆ r.peers.records := by
  intro p hp
  obtain ⟨i, k, loaded⟩ := mem_allPeers_iff.1 hp
  exact Directory.mem_records_iff.2 ⟨k, ((find?_peersOf_ofRecords hr).1 loaded).1⟩

end Memory

/-- As many peers are loaded as are stored if and only if every stored peer can be reached. -/
theorem Store.Records.Filed.complete_iff {r : Records} (hr : r.Filed) :
    r.Complete ↔ (Memory.ofRecords r).allPeers.length = r.peers.size := by
  have counted : r.peers.size = r.peers.records.length := by
    rw [Directory.size, Directory.records, List.length_map]
  have loaded : (Memory.ofRecords r).allPeers.Nodup := (Memory.Filed.ofRecords hr).nodup_allPeers
  have stored : r.peers.records.Nodup := Directory.nodup_records Peer.id fun _ _ => hr.peer
  have among := Memory.allPeers_ofRecords_subset hr
  rw [counted]
  constructor
  · intro complete
    have all : r.peers.records ⊆ (Memory.ofRecords r).allPeers := by
      intro p hp
      obtain ⟨k, hk⟩ := Directory.mem_records_iff.1 hp
      have found := (Memory.find?_peersOf_ofRecords hr).2 ⟨hk, rfl, complete hk⟩
      exact Memory.mem_allPeers_iff.2 ⟨_, k, found⟩
    have most := (List.subperm_of_subset loaded among).length_le
    exact Nat.le_antisymm most (List.subperm_of_subset stored all).length_le
  · intro same k p hp
    have sublist := List.subperm_of_subset loaded among
    have all := (sublist.perm_of_length_le (Nat.le_of_eq same.symm)).symm.subset
    obtain ⟨i, l, found⟩ := Memory.mem_allPeers_iff.1 (all (Directory.mem_records_iff.2 ⟨k, hp⟩))
    obtain ⟨-, rfl, contained⟩ := (Memory.find?_peersOf_ofRecords hr).1 found
    exact contained

end TunnelKeeper

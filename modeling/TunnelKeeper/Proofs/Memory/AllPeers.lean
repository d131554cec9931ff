import Mathlib.Data.List.Basic
import TunnelKeeper.Proofs.Memory.Filing

/-!
# The list of all peers

All managed peers are listed interface by interface, and those of one interface in the order of
their identifiers. No peer is listed twice.
-/
namespace TunnelKeeper

/-- Records that know their identifiers stand in a directory in the order of these. -/
theorem Directory.pairwise_records {kind : IdKind} {α : Type} {d : Directory kind α}
    (id : α → Id kind) (own : ∀ i a, d.find? i = some a → id a = i) :
    d.records.Pairwise fun a b => id a < id b := by
  apply List.pairwise_map.2
  apply d.sorted.imp_of_mem
  intro e f he hf less
  rwa [own _ _ (mem_entries_iff.1 he), own _ _ (mem_entries_iff.1 hf)]

theorem Directory.nodup_records {kind : IdKind} {α : Type} {d : Directory kind α} (id : α → Id kind)
    (own : ∀ i a, d.find? i = some a → id a = i) : d.records.Nodup := by
  apply (pairwise_records id own).imp
  rintro a _ less rfl
  exact Id.lt_irrefl _ less

/-- Whether a peer belongs to an earlier interface, or to the same one under an earlier
identifier. -/
def Peer.FiledBefore (a b : Peer) : Prop :=
  a.tunnel.interfaceId.text < b.tunnel.interfaceId.text ∨
    a.tunnel.interfaceId = b.tunnel.interfaceId ∧ a.id.text < b.id.text

theorem Peer.FiledBefore.asymm {a b : Peer} (h : a.FiledBefore b) : ¬ b.FiledBefore a := by
  rintro (less | ⟨same, less⟩)
  · rcases h with before | ⟨same, -⟩
    · exact Id.lt_irrefl _ (Id.lt_trans before less)
    · exact Id.lt_irrefl _ (same ▸ less)
  · rcases h with before | ⟨-, before⟩
    · exact Id.lt_irrefl _ (same ▸ before)
    · exact Id.lt_irrefl _ (Id.lt_trans before less)

namespace Memory

variable {m : Memory} {p : Peer}

theorem mem_allPeers_iff_find? :
    p ∈ m.allPeers ↔ ∃ i ps k, m.peers.find? i = some ps ∧ ps.find? k = some p := by
  simp only [allPeers, List.mem_flatMap, Directory.mem_records_iff]
  constructor
  · rintro ⟨ps, ⟨i, hi⟩, k, hk⟩
    exact ⟨i, ps, k, hi, hk⟩
  · rintro ⟨i, ps, k, hi, hk⟩
    exact ⟨ps, ⟨i, hi⟩, k, hk⟩

theorem mem_allPeers_iff : p ∈ m.allPeers ↔ ∃ i k, (m.peersOf i).find? k = some p := by
  rw [mem_allPeers_iff_find?]
  constructor
  · rintro ⟨i, ps, k, hi, hk⟩
    exact ⟨i, k, by rw [peersOf_of_find? hi, hk]⟩
  · rintro ⟨i, k, hk⟩
    cases hi : m.peers.find? i with
    | none =>
      rw [peersOf, hi] at hk
      contradiction
    | some ps =>
      rw [peersOf_of_find? hi] at hk
      exact ⟨i, ps, k, hi, hk⟩

namespace Filed

/-- The peers of one interface stand in the order of their identifiers. -/
theorem pairwise_peersOf (hm : Filed m) (i : InterfaceId) :
    (m.peersOf i).records.Pairwise Peer.FiledBefore := by
  have ordered := Directory.pairwise_records (d := m.peersOf i) Peer.id fun _ _ h => (hm.peer h).1
  apply ordered.imp_of_mem
  intro a b ha hb less
  exact .inr ⟨(hm.of_mem_records ha).1.trans (hm.of_mem_records hb).1.symm, less⟩

theorem pairwise_allPeers (hm : Filed m) : m.allPeers.Pairwise Peer.FiledBefore := by
  have slot {e : InterfaceId × Directory .peer Peer} (he : e ∈ m.peers.entries) :
      m.peersOf e.1 = e.2 :=
    peersOf_of_find? (Directory.mem_entries_iff.1 he)
  rw [allPeers, Directory.records, List.flatMap_map, List.pairwise_flatMap]
  constructor
  · intro e he
    rw [← slot he]
    exact hm.pairwise_peersOf e.1
  · apply m.peers.sorted.imp_of_mem
    intro e f he hf less p hpe q hqf
    rw [← slot he] at hpe
    rw [← slot hf] at hqf
    rw [Peer.FiledBefore, (hm.of_mem_records hpe).1, (hm.of_mem_records hqf).1]
    exact .inl less

/-- No peer is managed twice. -/
theorem nodup_allPeers (hm : Filed m) : m.allPeers.Nodup := by
  apply hm.pairwise_allPeers.imp
  rintro p _ before rfl
  exact before.asymm before

/-- The peers of an interface are those that name it. -/
theorem mem_peersOf_iff (hm : Filed m) {i : InterfaceId} :
    p ∈ (m.peersOf i).records ↔ p ∈ m.allPeers ∧ p.tunnel.interfaceId = i := by
  rw [mem_allPeers_iff, Directory.mem_records_iff]
  constructor
  · rintro ⟨k, hk⟩
    exact ⟨⟨i, k, hk⟩, (hm.peer hk).2⟩
  · rintro ⟨⟨j, k, hk⟩, rfl⟩
    exact ⟨k, by rwa [(hm.peer hk).2]⟩

end Filed

end Memory

end TunnelKeeper

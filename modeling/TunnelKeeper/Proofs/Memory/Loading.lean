import Mathlib.Data.List.Basic
import TunnelKeeper.Proofs.Memory.Filing
import TunnelKeeper.Proofs.Store.Change

/-!
# Loading

What is managed after the stored records were loaded: the stored interfaces, and under each of them
the stored peers that name it. What is loaded is filed. A stored peer whose interface is not stored
is left out.
-/
namespace TunnelKeeper
open Store

namespace Store.Records

variable {r : Records}

theorem Filed.mem_peers_iff (h : Filed r) {p : Peer} :
    p ∈ r.peers.records ↔ r.peers.find? p.id = some p := by
  rw [Directory.mem_records_iff]
  constructor
  · rintro ⟨id, hp⟩
    rw [h.peer hp, hp]
  · exact fun hp => ⟨p.id, hp⟩

theorem Filed.mem_interfaces_iff (h : Filed r) {i : Interface} :
    i ∈ r.interfaces.records ↔ r.interfaces.find? i.id = some i := by
  rw [Directory.mem_records_iff]
  constructor
  · rintro ⟨id, hi⟩
    rw [h.interface hi, hi]
  · exact fun hi => ⟨i.id, hi⟩

theorem Filed.mem_peersOf_iff (h : Filed r) {id : InterfaceId} {p : Peer} :
    p ∈ r.peersOf id ↔ r.peers.find? p.id = some p ∧ p.tunnel.interfaceId = id := by
  rw [peersOf, List.mem_filter, h.mem_peers_iff, decide_eq_true_eq]

/-- All stored interfaces are loaded with their peers. -/
theorem load_ids (r : Records) :
    r.load r.interfaces.ids = r.interfaces.records.map fun i => (i, r.peersOf i.id) := by
  rw [load, Directory.ids, Directory.records, List.filterMap_map, List.map_map,
    ← List.filterMap_eq_map]
  apply List.filterMap_congr
  intro e he
  simp [Directory.mem_entries_iff.1 he]

end Store.Records

namespace Memory

variable {m : Memory} {r : Records}

/-- Memory after a stored interface was loaded with its peers. -/
def takeUp (r : Records) (m : Memory) (i : Interface) : Memory :=
  (m.addInterface i).addPeers i.id (r.peersOf i.id)

def ofRecords (r : Records) : Memory := ofLoaded (r.load r.interfaces.ids)

theorem ofRecords_eq_foldl (r : Records) :
    ofRecords r = r.interfaces.records.foldl (takeUp r) {} := by
  rw [ofRecords, Records.load_ids, ofLoaded, List.foldl_map]
  rfl

theorem interfaces_foldl_takeUp (is : List Interface) :
    (is.foldl (takeUp r) m).interfaces = m.interfaces.insertAll (·.id) is := by
  induction is generalizing m with
  | nil => rfl
  | cons i is ih =>
    rw [List.foldl_cons, ih, takeUp, interfaces_addPeers]
    rfl

theorem peersOf_foldl_takeUp (is : List Interface) (j : InterfaceId) :
    (is.foldl (takeUp r) m).peersOf j =
      (m.peersOf j).insertAll (·.id) ((is.filter (·.id = j)).flatMap fun i => r.peersOf i.id) := by
  induction is generalizing m with
  | nil => rfl
  | cons i is ih =>
    rw [List.foldl_cons, ih, takeUp, peersOf_addPeers]
    by_cases h : i.id = j
    · simp [h, Directory.insertAll_append]
    · simp [h, Ne.symm h]

theorem Filed.foldl_takeUp {is : List Interface} (hr : r.Filed) (hm : Filed m)
    (alone : ∀ i ∈ is, ∀ p ∈ r.peersOf i.id, ∀ j, j ≠ i.id → (m.peersOf j).contains p.id = false) :
    Filed (is.foldl (takeUp r) m) := by
  induction is generalizing m with
  | nil => exact hm
  | cons i is ih =>
    rw [List.forall_mem_cons] at alone
    have fits (p : Peer) (hp : p ∈ r.peersOf i.id) : Fits (m.addInterface i) i.id p := by
      constructor
      · exact contains_addInterface m i
      · exact (hr.mem_peersOf_iff.1 hp).2
      · intro j hj
        rw [peersOf_addInterface]
        exact alone.1 p hp j hj
    have taken : Filed (takeUp r m i) := (hm.addInterface i).addPeers fits
    apply ih taken
    intro k hk p hp j hj
    have before := alone.2 k hk p hp j hj
    rw [takeUp, peersOf_addPeers, peersOf_addInterface]
    split
    case isFalse => simpa using before
    case isTrue h =>
      subst h
      rw [Bool.eq_false_iff, ne_eq, Directory.contains_insertAll_iff]
      rintro (⟨q, hq, hqp⟩ | hc)
      -- a peer that was just loaded under the same identifier is the same stored record
      · obtain ⟨hq, hqi⟩ := hr.mem_peersOf_iff.1 hq
        obtain ⟨hp, hpk⟩ := hr.mem_peersOf_iff.1 hp
        rw [hqp, hp] at hq
        cases hq
        exact hj (hqi.symm.trans hpk)
      · rw [before] at hc
        contradiction

/-- What is loaded is filed. -/
theorem Filed.ofRecords (hr : r.Filed) : Filed (Memory.ofRecords r) := by
  rw [ofRecords_eq_foldl]
  exact foldl_takeUp hr .empty fun _ _ _ _ _ _ => rfl

theorem interfaces_ofRecords (hr : r.Filed) : (ofRecords r).interfaces = r.interfaces := by
  rw [ofRecords_eq_foldl, interfaces_foldl_takeUp]
  ext id : 1
  cases h : r.interfaces.find? id with
  | some i =>
    cases hr.interface h
    refine Directory.find?_insertAll_of_mem (fun b hb hid => ?_) (hr.mem_interfaces_iff.2 h)
    have hb := hr.mem_interfaces_iff.1 hb
    rw [hid, h] at hb
    exact (Option.some.inj hb).symm
  | none =>
    rw [← Directory.contains_eq_false_iff, Bool.eq_false_iff, ne_eq,
      Directory.contains_insertAll_iff]
    rintro (⟨i, hi, rfl⟩ | hc)
    · rw [hr.mem_interfaces_iff.1 hi] at h
      contradiction
    · exact absurd hc Bool.false_ne_true

/-- The loaded peers are the stored ones whose interface is stored. -/
theorem find?_peersOf_ofRecords (hr : r.Filed) {j : InterfaceId} {id : PeerId} {p : Peer} :
    ((ofRecords r).peersOf j).find? id = some p ↔
      r.peers.find? id = some p ∧ p.tunnel.interfaceId = j ∧ r.interfaces.contains j = true := by
  have mem (q : Peer) : q ∈ ((r.interfaces.records.filter (·.id = j)).flatMap
      fun i => r.peersOf i.id) ↔ r.peers.find? q.id = some q ∧ q.tunnel.interfaceId = j ∧
        r.interfaces.contains j = true := by
    simp only [List.mem_flatMap, List.mem_filter, decide_eq_true_eq, hr.mem_peersOf_iff,
      Directory.contains_iff_find?]
    constructor
    · rintro ⟨i, ⟨hi, rfl⟩, hq, hqi⟩
      exact ⟨hq, hqi, i, hr.mem_interfaces_iff.1 hi⟩
    · rintro ⟨hq, hqj, i, hi⟩
      cases hr.interface hi
      exact ⟨i, ⟨hr.mem_interfaces_iff.2 hi, rfl⟩, hq, hqj⟩
  rw [ofRecords_eq_foldl, peersOf_foldl_takeUp]
  constructor
  · intro h
    rcases Directory.of_find?_insertAll h with ⟨hp, rfl⟩ | h
    · exact (mem p).1 hp
    · contradiction
  · rintro ⟨hp, hpj, hj⟩
    cases hr.peer hp
    refine Directory.find?_insertAll_of_mem (fun q hq hid => ?_) ((mem p).2 ⟨hp, hpj, hj⟩)
    have hq := ((mem q).1 hq).1
    rw [hid, hp] at hq
    exact (Option.some.inj hq).symm

end Memory

end TunnelKeeper

import TunnelKeeper.Keeper.Housekeeping
import TunnelKeeper.Keeper.Peers
import TunnelKeeper.Proofs.Directory

/-!
# Slots of what is managed

What each change of memory does to the peers under an interface. A slot that is not there counts as
empty, so that every change has one equation for all interfaces.
-/
namespace TunnelKeeper.Memory
open TunnelKeeper

variable {m : Memory}

theorem peersOf_of_find? {id : InterfaceId} {ps : Directory .peer Peer}
    (h : m.peers.find? id = some ps) : m.peersOf id = ps := by
  rw [peersOf, h, Option.getD_some]

theorem peersOf_congr {m' : Memory} (h : m'.peers = m.peers) (id : InterfaceId) :
    m'.peersOf id = m.peersOf id := by
  rw [peersOf, h]
  rfl

@[simp] theorem peersOf_empty (id : InterfaceId) : ({} : Memory).peersOf id = .empty := rfl

private theorem getD_find?_insert (d : Directory .interface (Directory .peer Peer))
    (i j : InterfaceId) (ps : Directory .peer Peer) :
    ((d.insert i ps).find? j).getD .empty = if j = i then ps else (d.find? j).getD .empty := by
  by_cases h : j = i <;> simp [Directory.find?_insert, h]

@[simp] theorem peersOf_addInterface (m : Memory) (i : Interface) (j : InterfaceId) :
    (m.addInterface i).peersOf j = m.peersOf j := by
  change ((m.peers.insert i.id (m.peersOf i.id)).find? j).getD .empty = _
  rw [getD_find?_insert]
  split
  case isTrue h => rw [h]
  case isFalse => rfl

theorem contains_addInterface (m : Memory) (i : Interface) :
    (m.addInterface i).interfaces.contains i.id = true := by
  change (m.interfaces.insert i.id i).contains i.id = true
  rw [Directory.contains_insert, decide_eq_true rfl, Bool.true_or]

theorem peersOf_addPeer (m : Memory) (id j : InterfaceId) (p : Peer) :
    (m.addPeer id p).peersOf j = if j = id then (m.peersOf id).insert p.id p else m.peersOf j :=
  getD_find?_insert m.peers id j ((m.peersOf id).insert p.id p)

theorem peersOf_removePeer (m : Memory) (id j : InterfaceId) (peer : PeerId) :
    (m.removePeer id peer).peersOf j =
      if j = id then (m.peersOf id).erase peer else m.peersOf j := by
  unfold peersOf removePeer
  cases h : m.peers.find? id with
  | some ps => exact getD_find?_insert m.peers id j (ps.erase peer)
  | none =>
    by_cases hj : j = id
    · simp [hj, h, Directory.erase_empty]
    · simp [hj]

theorem peersOf_removeInterface (m : Memory) (id j : InterfaceId) :
    (m.removeInterface id).peersOf j = if j = id then .empty else m.peersOf j := by
  change ((m.peers.erase id).find? j).getD .empty = _
  rw [Directory.find?_erase]
  split <;> rfl

@[simp] theorem peersOf_dropStale (m : Memory) (cutoff : Instant) (j : InterfaceId) :
    (Keeper.dropStale cutoff m).peersOf j =
      (m.peersOf j).filter fun _ p => !Keeper.isStale cutoff p := by
  rw [peersOf, Keeper.dropStale, Directory.find?_map, peersOf]
  cases m.peers.find? j <;> rfl

theorem find?_peersOf_addPeer (m : Memory) (id j : InterfaceId) (p : Peer) (k : PeerId) :
    ((m.addPeer id p).peersOf j).find? k =
      if j = id ∧ k = p.id then some p else (m.peersOf j).find? k := by
  rw [peersOf_addPeer]
  by_cases hj : j = id
  · simp [hj, Directory.find?_insert]
  · simp [hj]

theorem find?_peersOf_removePeer (m : Memory) (id j : InterfaceId) (peer k : PeerId) :
    ((m.removePeer id peer).peersOf j).find? k =
      if j = id ∧ k = peer then none else (m.peersOf j).find? k := by
  rw [peersOf_removePeer]
  by_cases hj : j = id
  · simp [hj, Directory.find?_erase]
  · simp [hj]

def addPeers (m : Memory) (id : InterfaceId) (ps : List Peer) : Memory :=
  ps.foldl (fun m p => m.addPeer id p) m

@[simp] theorem addPeers_nil (m : Memory) (id : InterfaceId) : m.addPeers id [] = m := rfl

@[simp] theorem addPeers_cons (m : Memory) (id : InterfaceId) (p : Peer) (ps : List Peer) :
    m.addPeers id (p :: ps) = (m.addPeer id p).addPeers id ps := rfl

theorem addPeers_concat (m : Memory) (id : InterfaceId) (ps : List Peer) (p : Peer) :
    m.addPeers id (ps ++ [p]) = (m.addPeers id ps).addPeer id p := by
  rw [addPeers, List.foldl_append]
  rfl

theorem peersOf_addPeers (m : Memory) (id j : InterfaceId) (ps : List Peer) :
    (m.addPeers id ps).peersOf j =
      if j = id then (m.peersOf id).insertAll (·.id) ps else m.peersOf j := by
  induction ps generalizing m with
  | nil =>
    split
    case isTrue h => rw [h]; rfl
    case isFalse => rfl
  | cons p ps ih =>
    rw [addPeers_cons, ih, peersOf_addPeer, if_pos rfl, peersOf_addPeer]
    split <;> rfl

/-- Filing peers changes slots and nothing else. -/
theorem addPeers_eq (m : Memory) (id : InterfaceId) (ps : List Peer) :
    m.addPeers id ps = { m with peers := (m.addPeers id ps).peers } := by
  induction ps generalizing m with
  | nil => rfl
  | cons p ps ih => exact ih (m.addPeer id p)

@[simp] theorem interfaces_addPeers (m : Memory) (id : InterfaceId) (ps : List Peer) :
    (m.addPeers id ps).interfaces = m.interfaces := by
  rw [addPeers_eq]

theorem contains_peers_removePeer (m : Memory) (id j : InterfaceId) (peer : PeerId) :
    (m.removePeer id peer).peers.contains j = m.peers.contains j := by
  unfold removePeer
  cases h : m.peers.find? id with
  | none => rfl
  | some ps =>
    by_cases hj : j = id
    · simp [hj, Directory.contains_insert, Directory.contains_of_find? h]
    · simp [hj, Directory.contains_insert]

/-- A peer is known when it stands in some slot. -/
theorem exists_of_findPeer? {id : PeerId} {p : Peer} (h : m.findPeer? id = some p) :
    ∃ i, (m.peersOf i).find? id = some p := by
  obtain ⟨ps, hps, hp⟩ := List.exists_of_findSome?_eq_some h
  obtain ⟨i, hi⟩ := Directory.mem_records_iff.1 hps
  exact ⟨i, by rw [peersOf_of_find? hi, hp]⟩

theorem findPeer?_eq_none_iff {id : PeerId} :
    m.findPeer? id = none ↔ ∀ i, (m.peersOf i).find? id = none := by
  rw [findPeer?, List.findSome?_eq_none_iff]
  constructor
  · intro h i
    cases hi : m.peers.find? i with
    | none => rw [peersOf, hi]; rfl
    | some ps =>
      rw [peersOf_of_find? hi]
      exact h ps (Directory.mem_records_iff.2 ⟨i, hi⟩)
  · intro h ps hps
    obtain ⟨i, hi⟩ := Directory.mem_records_iff.1 hps
    rw [← peersOf_of_find? hi, h i]

theorem isElsewhere_eq_false_iff {p : Peer} :
    Keeper.isElsewhere m p = false ↔
      ∀ i, i ≠ p.tunnel.interfaceId → (m.peersOf i).contains p.id = false := by
  rw [Keeper.isElsewhere, List.any_eq_false]
  constructor
  · intro h i hi
    cases hf : m.peers.find? i with
    | none => rw [peersOf, hf]; rfl
    | some ps =>
      rw [peersOf_of_find? hf]
      simpa [hi] using h (i, ps) (Directory.mem_entries_iff.2 hf)
  · rintro h ⟨i, ps⟩ he
    by_cases hi : i = p.tunnel.interfaceId
    · simp [hi]
    · have := h i hi
      rw [peersOf_of_find? (Directory.mem_entries_iff.1 he)] at this
      simp [this]

end TunnelKeeper.Memory

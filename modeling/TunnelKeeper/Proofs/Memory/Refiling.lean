import TunnelKeeper.Proofs.Memory.Filing

/-!
# Filing again

Peers that were filed before are filed in the same places once more, so filing some of them first
makes no difference. The defaults of an interface are pushed into its peers for good: pushing them
into peers of which some are renewed already leaves what pushing them into the old ones leaves.
-/
namespace TunnelKeeper

@[simp] theorem Setting.push_push {α : Type} (v w : α) (x : Setting α) :
    (x.push v).push w = x.push w := by
  cases x <;> rfl

@[simp] theorem Peer.applyDefaults_applyDefaults (i : Interface) (p : Peer) :
    (p.applyDefaults i).applyDefaults i = p.applyDefaults i := by
  simp [applyDefaults]

namespace Memory

variable {m : Memory}

theorem addPeer_of_find? {id : InterfaceId} {p : Peer}
    (h : (m.peersOf id).find? p.id = some p) : m.addPeer id p = m := by
  have slot : m.peers.find? id = some (m.peersOf id) := by
    cases hs : m.peers.find? id with
    | none => simp [peersOf, hs] at h
    | some ps => rw [peersOf_of_find? hs]
  rw [addPeer, Directory.insert_of_find? h, Directory.insert_of_find? slot]

/-- Peers that are filed already are filed again without any change. -/
theorem addPeers_of_find? {id : InterfaceId} {ps : List Peer}
    (h : ∀ p ∈ ps, (m.peersOf id).find? p.id = some p) : m.addPeers id ps = m := by
  induction ps with
  | nil => rfl
  | cons p ps ih =>
    rw [List.forall_mem_cons] at h
    rw [addPeers_cons, addPeer_of_find? h.1, ih h.2]

def fileAll (m : Memory) (home : Peer → InterfaceId) (ps : List Peer) : Memory :=
  ps.foldl (fun m p => m.addPeer (home p) p) m

variable (home : Peer → InterfaceId)

/-- Filing changes slots and nothing else. -/
theorem fileAll_eq (m : Memory) (ps : List Peer) :
    m.fileAll home ps = { m with peers := (m.fileAll home ps).peers } := by
  induction ps generalizing m with
  | nil => rfl
  | cons p ps ih => exact ih (m.addPeer (home p) p)

/-- A slot under which peers are filed holds them beside those that it held before. -/
theorem find?_peers_fileAll (ps : List Peer) (j : InterfaceId) :
    (m.fileAll home ps).peers.find? j =
      if ∃ p ∈ ps, home p = j then
        some ((m.peersOf j).insertAll (·.id) (ps.filter fun p => home p = j))
      else m.peers.find? j := by
  induction ps generalizing m with
  | nil => simp [fileAll]
  | cons p ps ih =>
    have first : (m.addPeer (home p) p).peers.find? j =
        if j = home p then some ((m.peersOf (home p)).insert p.id p) else m.peers.find? j :=
      Directory.find?_insert ..
    refine (ih (m := m.addPeer (home p) p)).trans ?_
    rw [peersOf_addPeer, first]
    by_cases hp : home p = j
    · subst hp
      by_cases more : ∃ q ∈ ps, home q = home p
      · simp [more, Directory.insertAll]
      · have none : ps.filter (fun q => home q = home p) = [] := by
          simpa [List.filter_eq_nil_iff] using more
        simp [more, none, Directory.insertAll]
    · simp [hp, Ne.symm hp]

theorem peers_fileAll_again {ps qs : List Peer} (h : qs ⊆ ps) :
    ((m.fileAll home qs).fileAll home ps).peers = (m.fileAll home ps).peers := by
  ext j : 1
  rw [find?_peers_fileAll, find?_peers_fileAll, find?_peers_fileAll]
  by_cases here : ∃ p ∈ ps, home p = j
  · rw [if_pos here, if_pos here, peersOf, find?_peers_fileAll]
    split
    case isFalse => rfl
    case isTrue =>
      rw [Option.getD_some, Directory.insertAll_insertAll]
      intro q hq
      obtain ⟨known, hj⟩ := List.mem_filter.1 hq
      exact ⟨q, List.mem_filter.2 ⟨h known, hj⟩, rfl⟩
  · have nowhere : ¬ ∃ q ∈ qs, home q = j := by
      rintro ⟨q, hq, hj⟩
      exact here ⟨q, h hq, hj⟩
    rw [if_neg here, if_neg here, if_neg nowhere]

/-- Peers that are filed again need not have been filed before. -/
theorem fileAll_again {ps qs : List Peer} (h : qs ⊆ ps) :
    (m.fileAll home qs).fileAll home ps = m.fileAll home ps := by
  rw [fileAll_eq home _ ps, peers_fileAll_again home h, fileAll_eq home m qs]
  exact (fileAll_eq home m ps).symm

end Memory

end TunnelKeeper

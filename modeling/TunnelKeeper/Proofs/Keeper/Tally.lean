import TunnelKeeper.Proofs.Keeper.Run

/-!
# Statistics under their identifiers

The statistics of a peer stand under the identifier that they name. A keeper starts without any,
readings file them so, and every other operation can only take some away.
-/
namespace TunnelKeeper
open Effect

/-- Whether the statistics of all peers stand under the identifiers that they name. -/
def Memory.Tallied (m : Memory) : Prop :=
  ∀ (k : PeerId) (st : PeerStats), m.peerStats.find? k = some st → st.id = k

namespace Memory.Tallied

variable {m : Memory}

theorem congr {m' : Memory} (h : m.Tallied) (same : m'.peerStats = m.peerStats) :
    m'.Tallied := by
  intro k st found
  exact h k st (same ▸ found)

theorem addPeers (h : m.Tallied) (id : InterfaceId) (ps : List Peer) : (m.addPeers id ps).Tallied :=
  h.congr (congrArg (·.peerStats) (addPeers_eq m id ps))

theorem removePeer (h : m.Tallied) (id : InterfaceId) (k : PeerId) : (m.removePeer id k).Tallied :=
  fun _ _ found => h _ _ (Directory.of_find?_erase found).2

theorem removeInterface (h : m.Tallied) (id : InterfaceId) : (m.removeInterface id).Tallied := by
  intro k st found
  change (m.peerStats.filter fun peer _ => !(m.peersOf id).contains peer).find? k = some st at found
  rw [Directory.find?_filter, Option.filter_eq_some_iff] at found
  exact h k st found.1

theorem insertAll (h : m.Tallied) (sts : List PeerStats) :
    { m with peerStats := m.peerStats.insertAll (·.id) sts }.Tallied := by
  intro k st found
  rcases Directory.of_find?_insertAll found with ⟨-, own⟩ | before
  · exact own
  · exact h k st before

/-- Loaded records come without statistics. -/
theorem ofRecords (r : Store.Records) : (Memory.ofRecords r).Tallied := by
  have loaded (is : List Interface) {m : Memory} (h : m.Tallied) :
      (is.foldl (takeUp r) m).Tallied := by
    induction is generalizing m with
    | nil => exact h
    | cons i is ih => exact ih ((h.congr rfl : (m.addInterface i).Tallied).addPeers _ _)
  rw [ofRecords_eq_foldl]
  exact loaded _ fun _ _ found => nomatch found

end Memory.Tallied

namespace Keeper

variable {s : Keeper}

theorem tallied_createInterface (id : InterfaceId) (h : s.memory.Tallied) :
    Ends (createInterface id) s fun _ t => t.memory.Tallied := by
  apply (createInterface_ends id s).mono
  intro r t ht
  cases ht <;> exact h.congr rfl

theorem tallied_updateInterface (i : Interface) (h : s.memory.Tallied) :
    Ends (updateInterface i) s fun _ t => t.memory.Tallied := by
  apply (updateInterface_ends i s).mono
  intro r t ht
  cases ht <;> exact h.congr rfl

theorem tallied_deleteInterface (id : InterfaceId) (h : s.memory.Tallied) :
    Ends (deleteInterface id) s fun _ t => t.memory.Tallied := by
  apply (deleteInterface_ends id s).mono
  intro r t ht
  cases ht with
  | done => exact h.removeInterface id
  | _ => exact h

theorem tallied_applyDefaults (id : InterfaceId) (h : s.memory.Tallied) :
    Ends (applyDefaults id) s fun _ t => t.memory.Tallied := by
  apply (applyDefaults_ends id s).mono
  intro r t ht
  cases ht with
  | refused => exact h
  | notStored => exact (h.addPeers _ _).congr rfl
  | done => exact h.addPeers _ _

theorem tallied_savePeer (p : Peer) (h : s.memory.Tallied) :
    Ends (savePeer p) s fun _ t => t.memory.Tallied := by
  apply (savePeer_ends p s).mono
  intro r t ht
  cases ht <;> exact h.congr rfl

theorem tallied_removePeer (id : PeerId) (h : s.memory.Tallied) :
    Ends (removePeer id) s fun _ t => t.memory.Tallied := by
  apply (removePeer_ends id s).mono
  intro r t ht
  cases ht with
  | prepared => exact h.removePeer _ id
  | done => exact h.removePeer _ id
  | _ => exact h

theorem tallied_importInterface (c : ImportCandidate) (h : s.memory.Tallied) :
    Ends (importInterface c) s fun _ t => t.memory.Tallied := by
  have added : (s.memory.addInterface c.interface).Tallied := h.congr rfl
  apply (importInterface_ends c s).mono
  intro r t ht
  cases ht with
  | refused => exact h
  | interfaceNotStored => exact added
  | peerNotStored => exact (added.addPeers _ _).congr rfl
  | done => exact added.addPeers _ _

theorem tallied_expirePrepared (maxAge : Int) (h : s.memory.Tallied) :
    Ends (expirePrepared maxAge) s fun _ t => t.memory.Tallied := by
  apply (expirePrepared_ends maxAge s).mono
  intro r t ht
  cases ht <;> exact h.congr rfl

theorem tallied_refreshStats (h : s.memory.Tallied) :
    Ends refreshStats s fun _ t => t.memory.Tallied := by
  unfold Ends
  rw [run_refreshStats, recordAll_eq]
  exact (h.insertAll _).congr rfl

/-- Every operation keeps the statistics under their identifiers, however it ends. -/
theorem tallied_after (a : Action) (h : s.memory.Tallied) : (a.after s).memory.Tallied := by
  cases a with
  | createInterface id => exact tallied_createInterface id h
  | updateInterface i => exact tallied_updateInterface i h
  | deleteInterface id => exact tallied_deleteInterface id h
  | applyDefaults id => exact tallied_applyDefaults id h
  | savePeers ps => exact keeps_forM (fun p _ _ => tallied_savePeer p) h
  | removePeer id => exact tallied_removePeer id h
  | importInterface c => exact tallied_importInterface c h
  | expirePrepared maxAge => exact tallied_expirePrepared maxAge h
  | refreshStats => exact tallied_refreshStats h

theorem tallied_of_run {s t : Keeper} (started : Started s)
    (run : Relation.ReflTransGen Move s t) : t.memory.Tallied := by
  induction run with
  | refl =>
    obtain ⟨-, loaded⟩ := started.written_and_memory
    rw [loaded]
    exact .ofRecords _
  | tail _ move ih =>
    cases move with
    | act e a => exact tallied_after a ih

end Keeper

end TunnelKeeper

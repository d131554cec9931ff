import TunnelKeeper.Proofs.Keeper.Commitment

/-!
# Committed peers are stored as they are

While neither the kernel nor the store fails, every peer that memory holds as committed stands in
the store with the same data. A prepared peer may stand in the place of a stored one, so the
converse fails; which operations bring that about is told in the module on commitment.
-/
namespace TunnelKeeper
open Effect Step Store

/-- Whether every committed peer in memory is stored as it is. -/
structure Memory.Recorded (m : Memory) (r : Records) : Prop where
  peer {i : InterfaceId} {k : PeerId} {p : Peer} : (m.peersOf i).find? k = some p →
    p.isPrepared = false → r.peers.find? k = some p

namespace Memory.Recorded

variable {m : Memory} {r r' : Records} {id : InterfaceId} {p : Peer} {ps : List Peer}

theorem ofRecords (hr : r.Filed) : (Memory.ofRecords r).Recorded r := by
  constructor
  intro _ _ _ loaded _
  exact ((find?_peersOf_ofRecords hr).1 loaded).1

/-- Interfaces do not matter. -/
theorem congr {m' : Memory} (h : m.Recorded r) (same : ∀ i, m'.peersOf i = m.peersOf i)
    (stored : r'.peers = r.peers) : m'.Recorded r' := by
  constructor
  intro i k p known
  rw [same] at known
  rw [stored]
  exact h.peer known

theorem addInterface (h : m.Recorded r) (i : Interface) (stored : r'.peers = r.peers) :
    (m.addInterface i).Recorded r' :=
  h.congr (peersOf_addInterface m i) stored

theorem removePrepared (h : m.Recorded r) (k : PeerId) : (m.removePeer id k).Recorded r := by
  constructor
  intro j l q known
  rw [find?_peersOf_removePeer] at known
  split at known
  case isTrue => contradiction
  case isFalse => exact h.peer known

theorem dropStale (h : m.Recorded r) (cutoff : Instant) :
    (Keeper.dropStale cutoff m).Recorded r := by
  constructor
  intro j k p known
  rw [peersOf_dropStale, Directory.find?_filter] at known
  exact h.peer (Option.filter_eq_some_iff.1 known).1

/-- A peer that is filed has to be stored if it is committed; the other records stay. -/
theorem addPeer (h : m.Recorded r) (fits : Fits m id p)
    (own : p.isPrepared = false → r'.peers.find? p.id = some p)
    (others : ∀ k, k ≠ p.id → r'.peers.find? k = r.peers.find? k) :
    (m.addPeer id p).Recorded r' := by
  constructor
  intro j k q known committed
  rw [find?_peersOf_addPeer] at known
  split at known
  case isTrue new =>
    cases known
    rw [new.2]
    exact own committed
  case isFalse old =>
    -- no other slot holds the identifier that is filed
    have other : k ≠ p.id := by
      rintro rfl
      have here := Directory.contains_of_find? known
      rw [fits.alone fun hj => old ⟨hj, rfl⟩] at here
      contradiction
    rw [others k other]
    exact h.peer known committed

theorem find?_savePeer (r : Records) (p : Peer) (k : PeerId) :
    (r.savePeer p).peers.find? k =
      if k = p.id then some { p with preparedAt := none } else r.peers.find? k :=
  Directory.find?_insert ..

/-- A peer that is stored whether or not it is prepared. -/
theorem adoptPeer (h : m.Recorded r) (fits : Fits m id p) :
    (m.addPeer id p).Recorded (r.savePeer p) := by
  apply h.addPeer fits
  · intro committed
    rw [find?_savePeer, if_pos rfl, unmarked_of_committed committed]
  · intro k other
    rw [find?_savePeer, if_neg other]

theorem savePeer (h : m.Recorded r) (fits : Fits m id p) :
    (m.addPeer id p).Recorded (Change.applyAll (saves [p]) r) := by
  cases prepared : p.isPrepared with
  | false => simpa [saves, prepared, Change.apply] using h.adoptPeer fits
  | true =>
    rw [saves_of_prepared prepared]
    refine h.addPeer fits (fun committed => ?_) fun _ _ => rfl
    rw [prepared] at committed
    contradiction

theorem survivesJoining : SurvivesJoining Recorded :=
  fun _ _ _ _ h joins => h.savePeer joins.toFits

theorem adoptPeers (h : m.Recorded r) (fits : ∀ p ∈ ps, Fits m id p) :
    (m.addPeers id ps).Recorded (Change.applyAll (ps.map .savePeer) r) := by
  induction ps generalizing m r with
  | nil => exact h
  | cons p ps ih =>
    rw [List.forall_mem_cons] at fits
    apply ih (h.adoptPeer fits.1)
    intro q hq
    exact (fits.2 q hq).addPeer

theorem deletePeer {k : PeerId} (h : m.Recorded r) (hm : m.Filed) (known : m.findPeer? k = some p) :
    (m.removePeer p.tunnel.interfaceId k).Recorded (r.deletePeer k) := by
  constructor
  intro j l q here committed
  rw [find?_peersOf_removePeer] at here
  split at here
  case isTrue => contradiction
  case isFalse kept =>
    have other : l ≠ k := by
      rintro rfl
      exact kept ⟨(hm.slot_of_known known here).2, rfl⟩
    rw [Records.deletePeer, Directory.find?_erase, if_neg other]
    exact h.peer here committed

/-- The peers of other interfaces stay stored when those of one interface are deleted. -/
theorem deleteInterface (h : m.Recorded r) (hm : m.Filed) (id : InterfaceId) :
    (m.removeInterface id).Recorded
      ((Change.applyAll (deletions (Keeper.committedPeers m id)) r).deleteInterface id) := by
  constructor
  intro j k p here committed
  rw [peersOf_removeInterface] at here
  split at here
  case isTrue => contradiction
  case isFalse other =>
    refine (find?_deletions _ _ _).trans ?_
    rw [if_neg]
    · exact h.peer here committed
    · rintro ⟨q, hq, rfl⟩
      have there := (hm.of_mem_records (List.mem_filter.1 hq).1).2
      exact other (hm.single (Directory.contains_of_find? here) (Directory.contains_of_find? there))

end Memory.Recorded

namespace Keeper
open Memory

variable {s : Keeper}

theorem recorded_createInterface (id : InterfaceId) (h : s.memory.Recorded s.store.records) :
    Ends (createInterface id) s fun _ t => t.memory.Recorded t.store.records := by
  apply (createInterface_ends id s).mono
  intro r t ht
  cases ht with
  | refused => exact h
  | notPushed => exact h
  | notStored => exact h.addInterface _ rfl
  | done => exact h.addInterface _ rfl

theorem recorded_updateInterface (i : Interface) (h : s.memory.Recorded s.store.records) :
    Ends (updateInterface i) s fun _ t => t.memory.Recorded t.store.records := by
  apply (updateInterface_ends i s).mono
  intro r t ht
  cases ht with
  | refused => exact h
  | notPushed => exact h
  | notStored => exact h.congr (fun _ => rfl) rfl
  | done => exact h.congr (fun _ => rfl) rfl

/-- A write that fails where nothing fails. -/
theorem Healthy.no_fault {c : Change} {st : Store} {cause : StoreError} (h : s.Healthy)
    (later : s.store.Later st) (fault : st.fault? c = some cause) : False := by
  rw [h.fault?_eq_none later] at fault
  contradiction

theorem recorded_deleteInterface (id : InterfaceId) (healthy : s.Healthy) (hm : s.memory.Filed)
    (h : s.memory.Recorded s.store.records) :
    Ends (deleteInterface id) s fun _ t => t.memory.Recorded t.store.records := by
  apply (deleteInterface_ends id s).mono
  intro r t ht
  cases ht with
  | refused => exact h
  | notPushed => exact h
  | peerNotDeleted _ _ fault => exact (healthy.no_fault (.changedAll _ _) fault).elim
  | notDeleted _ fault => exact (healthy.no_fault (.changedAll _ _) fault).elim
  | done => simpa [Change.apply] using h.deleteInterface hm id

theorem recorded_applyDefaults (id : InterfaceId) (healthy : s.Healthy) (hm : s.memory.Filed)
    (h : s.memory.Recorded s.store.records) :
    Ends (applyDefaults id) s fun _ t => t.memory.Recorded t.store.records := by
  apply (applyDefaults_ends id s).mono
  intro r t ht
  cases ht with
  | refused => exact h
  | notStored _ _ _ fault => exact (healthy.no_fault (.changedAll _ _) fault).elim
  | done managed => simpa [withPeers] using kept_allRenewed Recorded.survivesJoining hm managed h

/-- What holds between the operations of a batch where nothing fails. -/
structure RecordedHealthy (s : Keeper) : Prop where
  healthy : s.Healthy
  recorded : s.memory.Recorded s.store.records

theorem recorded_savePeer (p : Peer) (h : s.RecordedHealthy) :
    Ends (savePeer p) s fun _ t => t.RecordedHealthy := by
  unfold savePeer
  apply look_then
  · intro _ _
    exact h
  intro change needed
  obtain ⟨fits, prepared⟩ := of_neededChange needed
  have kept := h.recorded.savePeer fits
  refine changeMemory_then ?_
  cases change with
  | none =>
    rw [saves_of_prepared prepared] at kept
    exact ⟨⟨h.healthy.kernel, h.healthy.store⟩, kept⟩
  | some c =>
    rw [saves_of_committed (List.forall_mem_singleton.2 prepared)] at kept
    refine unfailing_then ?_ (yields_request (Kernel.yields_attempt .healthy _) _ _ _) ?_
    · exact h.healthy.kernel
    intro _ k hk
    apply healthy_persist (c := .savePeer p)
    · exact h.healthy.store
    exact ⟨⟨hk, h.healthy.store⟩, kept⟩

theorem recorded_removePeer (id : PeerId) (hm : s.memory.Filed)
    (h : s.memory.Recorded s.store.records) :
    Ends (removePeer id) s fun _ t => t.memory.Recorded t.store.records := by
  apply (removePeer_ends id s).mono
  intro r t ht
  cases ht with
  | refused => exact h
  | prepared => exact h.removePrepared id
  | notPushed => exact h
  | notStored => exact h
  | done known => exact h.deletePeer hm known

theorem recorded_importInterface (c : ImportCandidate) (healthy : s.Healthy)
    (h : s.memory.Recorded s.store.records) :
    Ends (importInterface c) s fun _ t => t.memory.Recorded t.store.records := by
  apply (importInterface_ends c s).mono
  intro r t ht
  cases ht with
  | refused => exact h
  | interfaceNotStored => exact h.addInterface _ rfl
  | peerNotStored _ _ fault =>
    have begun := Later.changed s.store (.saveInterface c.interface)
    exact (healthy.no_fault (begun.trans (.changedAll _ _)) fault).elim
  | done importable =>
    have begun : (s.memory.addInterface c.interface).Recorded
        (s.store.records.saveInterface c.interface) := h.addInterface _ rfl
    simpa [Change.apply] using begun.adoptPeers fun p hp => (importable.joins hp).toFits

theorem recorded_expirePrepared (maxAge : Int) (h : s.memory.Recorded s.store.records) :
    Ends (expirePrepared maxAge) s fun _ t => t.memory.Recorded t.store.records := by
  apply (expirePrepared_ends maxAge s).mono
  intro r t ht
  cases ht with
  | undated => exact h
  | dropped cutoff => exact h.dropStale cutoff

theorem recorded_refreshStats (h : s.memory.Recorded s.store.records) :
    Ends refreshStats s fun _ t => t.memory.Recorded t.store.records := by
  apply (refreshStats_ends s).mono
  intro r t ht
  obtain ⟨k, ps, is, rfl⟩ := ht
  exact h.congr (fun _ => rfl) rfl

/-- Where nothing fails, every operation leaves committed peers stored as they are. -/
theorem recorded_after (a : Action) (healthy : s.Healthy) (hm : s.memory.Filed)
    (h : s.memory.Recorded s.store.records) :
    (a.after s).memory.Recorded (a.after s).store.records := by
  cases a with
  | createInterface id => exact recorded_createInterface id h
  | updateInterface i => exact recorded_updateInterface i h
  | deleteInterface id => exact recorded_deleteInterface id healthy hm h
  | applyDefaults id => exact recorded_applyDefaults id healthy hm h
  | savePeers ps =>
    have kept : Ends (savePeers ps) s fun _ t => t.RecordedHealthy :=
      keeps_forM (fun p _ _ => recorded_savePeer p) ⟨healthy, h⟩
    exact kept.recorded
  | removePeer id => exact recorded_removePeer id hm h
  | importInterface c => exact recorded_importInterface c healthy h
  | expirePrepared maxAge => exact recorded_expirePrepared maxAge h
  | refreshStats => exact recorded_refreshStats h

end Keeper

end TunnelKeeper

import TunnelKeeper.Proofs.Keeper.Run
import TunnelKeeper.Proofs.Memory.Holding

/-!
# Operations and held addresses

Whatever fails on the way, an operation leaves the addresses of a peer held unless it removes the
peer or its interface, finds the peer stale, or saves another record of it that can be read and
lacks one of the addresses.
-/
namespace TunnelKeeper.Keeper
open TunnelKeeper Effect Memory

variable {s : Keeper} {id : InterfaceId} {peer : PeerId} {text : String}

theorem holds_createInterface (j : InterfaceId) (h : s.memory.Holds id peer text) :
    Ends (createInterface j) s fun _ t => t.memory.Holds id peer text := by
  apply (createInterface_ends j s).mono
  intro r t ht
  cases ht with
  | refused => exact h
  | notPushed => exact h
  | notStored => exact h.addInterface _
  | done => exact h.addInterface _

theorem holds_updateInterface (i : Interface) (h : s.memory.Holds id peer text) :
    Ends (updateInterface i) s fun _ t => t.memory.Holds id peer text := by
  apply (updateInterface_ends i s).mono
  intro r t ht
  cases ht with
  | refused => exact h
  | notPushed => exact h
  | notStored managed => exact h.congr (h.filed.replaceInterface managed) rfl
  | done managed => exact h.congr (h.filed.replaceInterface managed) rfl

theorem holds_deleteInterface (j : InterfaceId) (h : s.memory.Holds id peer text) :
    Ends (deleteInterface j) s fun r t =>
      (j = id → r ≠ .ok ()) → t.memory.Holds id peer text := by
  apply (deleteInterface_ends j s).mono
  intro r t ht kept
  cases ht with
  | refused => exact h
  | notPushed => exact h
  | peerNotDeleted => exact h
  | notDeleted => exact h
  | done => exact h.removeInterface fun same => kept same rfl

/-- Defaults do not touch addresses. -/
theorem retains_of_renewed {m : Memory} {i : Interface} {j : InterfaceId}
    (h : m.Holds id peer text) {p : Peer} (hp : p ∈ renewedPeers m i j) (same : p.id = peer) :
    Retains p text := by
  obtain ⟨old, hold, rfl⟩ := List.mem_map.1 hp
  obtain ⟨-, found⟩ := h.filed.of_mem_records hold
  have known : (m.peersOf j).find? peer = some old := same ▸ found
  exact (h.retains known).2

theorem holds_applyDefaults (j : InterfaceId) (h : s.memory.Holds id peer text) :
    Ends (applyDefaults j) s fun _ t => t.memory.Holds id peer text := by
  apply (applyDefaults_ends j s).mono
  intro r t ht
  cases ht with
  | refused => exact h
  | notStored managed split =>
    apply h.addPeersUpTo split
    · intro p hp
      exact (joins_of_renewed h.filed managed hp).toFits
    · intro p hp
      exact retains_of_renewed h hp
  | done managed =>
    apply h.addPeers
    · intro p hp
      exact (joins_of_renewed h.filed managed hp).toFits
    · intro p hp
      exact retains_of_renewed h hp

/-- A record that is refused changes nothing. -/
theorem holds_savePeer (p : Peer) (h : s.memory.Holds id peer text) :
    Ends (savePeer p) s fun r t =>
      (p.id = peer → (∀ e, r = .error e → e.isRefusal = false) → Retains p text) →
        t.memory.Holds id peer text := by
  apply (savePeer_ends p s).mono
  intro r t ht retains
  cases ht with
  | refused => exact h
  | prepared fits => exact h.addPeer fits fun same => retains same nofun
  | notPushed fits => exact h.addPeer fits fun same => retains same (by rintro _ ⟨⟩; rfl)
  | notStored fits => exact h.addPeer fits fun same => retains same (by rintro _ ⟨⟩; rfl)
  | done fits => exact h.addPeer fits fun same => retains same nofun

theorem holds_removePeer (k : PeerId) (h : s.memory.Holds id peer text) :
    Ends (removePeer k) s fun r t =>
      (k = peer → r ≠ .ok ()) → t.memory.Holds id peer text := by
  apply (removePeer_ends k s).mono
  intro r t ht kept
  cases ht with
  | refused => exact h
  | prepared => exact h.removePeer fun same => kept same rfl
  | notPushed => exact h
  | notStored => exact h
  | done => exact h.removePeer fun same => kept same rfl

/-- No peer of a candidate is known before. -/
theorem retains_of_adopted {m : Memory} {c : ImportCandidate} (h : m.Holds id peer text)
    (importable : Importable m c) {p : Peer} (hp : p ∈ adoptedPeers c) (same : p.id = peer) :
    Retains p text := by
  obtain ⟨q, hq, -⟩ := h.held
  have unknown := findPeer?_eq_none_iff.1 (importable.unknown hp) id
  rw [same, hq] at unknown
  contradiction

theorem holds_importInterface (c : ImportCandidate) (h : s.memory.Holds id peer text) :
    Ends (importInterface c) s fun _ t => t.memory.Holds id peer text := by
  apply (importInterface_ends c s).mono
  intro r t ht
  cases ht with
  | refused => exact h
  | interfaceNotStored => exact h.addInterface _
  | peerNotStored importable split =>
    apply (h.addInterface _).addPeersUpTo split
    · intro p hp
      exact (importable.joins hp).toFits
    · intro p hp
      exact retains_of_adopted h importable hp
  | done importable =>
    apply (h.addInterface _).addPeers
    · intro p hp
      exact (importable.joins hp).toFits
    · intro p hp
      exact retains_of_adopted h importable hp

theorem holds_expirePrepared (maxAge : Int) (h : s.memory.Holds id peer text)
    (young : ∀ cutoff p, staleBefore? s.clock maxAge = some cutoff →
      s.memory.findPeer? peer = some p → isStale cutoff p = false) :
    Ends (expirePrepared maxAge) s fun _ t => t.memory.Holds id peer text := by
  unfold expirePrepared
  rw [ends_bind, ends_get, andThen_ok]
  cases due : staleBefore? s.clock maxAge with
  | none => exact h
  | some cutoff => exact h.dropStale fun p hp => young cutoff p due hp

theorem holds_refreshStats (h : s.memory.Holds id peer text) :
    Ends refreshStats s fun _ t => t.memory.Holds id peer text := by
  apply (refreshStats_ends s).mono
  rintro r _ ⟨k, ps, is, rfl⟩
  exact h.congr (h.filed.congr rfl rfl) rfl

end TunnelKeeper.Keeper

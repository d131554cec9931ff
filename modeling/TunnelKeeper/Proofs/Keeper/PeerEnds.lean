import TunnelKeeper.Keeper.Housekeeping
import TunnelKeeper.Proofs.Keeper.InterfaceEnds
import TunnelKeeper.Proofs.Kernel.Lost
import TunnelKeeper.Proofs.Memory.Filing

/-!
# How operations on peers end

For each operation all ways in which it can end, with the state that it leaves. A committed peer is
filed before it is pushed and pushed before it is stored, so that each failure leaves the work of
the parts before it. An import goes on from peer to peer up to the first write that fails.
-/
namespace TunnelKeeper.Keeper
open TunnelKeeper Effect Step Memory

theorem rejected_of_checkPeer {p : Peer} {e : KeeperError} (h : checkPeer p = .error e) :
    ∃ cause, e = .rejected cause := by
  unfold checkPeer at h
  split at h
  case isTrue =>
    cases h
    exact ⟨_, rfl⟩
  case isFalse =>
    split at h
    case isTrue =>
      cases h
      exact ⟨_, rfl⟩
    case isFalse => contradiction

theorem refuses_checkPeer (p : Peer) : Refuses (checkPeer p) := by
  intro e h
  obtain ⟨cause, rfl⟩ := rejected_of_checkPeer h
  rfl

theorem refuses_presharedKey? (p : Peer) : Refuses p.presharedKey? := by
  unfold Peer.presharedKey?
  split
  · exact .ok none
  · split
    · exact .ok none
    · exact (refuses_parse _ _).map

theorem refuses_routes (role : Role) (p : Peer) : Refuses (p.routes role) := by
  apply (refuses_addressesAt _ _).bind
  intro allowed
  cases role with
  | client => exact .ok allowed
  | server => exact (refuses_addressesAt _ _).bind fun _ => .ok _

theorem refuses_change (role : Role) (p : Peer) : Refuses (p.change role) :=
  (refuses_parse _ _).bind fun _ => (refuses_presharedKey? p).bind fun _ =>
    (refuses_routes role p).bind fun _ => .ok _

/-- What is found out about a peer before it is filed. -/
inductive NeededChangeEnds (m : Memory) (p : Peer) :
    Except KeeperError (Option Kernel.PeerChange) → Prop
  | rejected {cause : Rejection} : NeededChangeEnds m p (.error (.rejected cause))
  | unmanaged (h : m.interfaces.find? p.tunnel.interfaceId = none) :
      NeededChangeEnds m p (.error (.interfaceNotFound p.tunnel.interfaceId))
  | prepared (fits : Fits m p.tunnel.interfaceId p) (h : p.isPrepared = true) :
      NeededChangeEnds m p (.ok none)
  | unread {i : Interface} {e : KeeperError}
      (managed : m.interfaces.find? p.tunnel.interfaceId = some i) (h : p.isPrepared = false)
      (asked : p.change i.role = .error e) : NeededChangeEnds m p (.error e)
  | needed {i : Interface} {c : Kernel.PeerChange} (fits : Fits m p.tunnel.interfaceId p)
      (managed : m.interfaces.find? p.tunnel.interfaceId = some i) (h : p.isPrepared = false)
      (asked : p.change i.role = .ok c) : NeededChangeEnds m p (.ok (some c))

theorem neededChange_ends (m : Memory) (p : Peer) : NeededChangeEnds m p (neededChange m p) := by
  rw [neededChange]
  cases checked : checkPeer p with
  | error e =>
    obtain ⟨cause, rfl⟩ := rejected_of_checkPeer checked
    exact .rejected
  | ok _ =>
    cases found : m.interface p.tunnel.interfaceId with
    | error e =>
      obtain ⟨unmanaged, rfl⟩ := interface_eq_error_iff.1 found
      exact .unmanaged unmanaged
    | ok i =>
      have managed := interface_eq_ok_iff.1 found
      cases elsewhere : isElsewhere m p with
      | true => exact .rejected
      | false =>
        have fits : Fits m p.tunnel.interfaceId p :=
          ⟨Directory.contains_of_find? managed, rfl,
            fun hj => isElsewhere_eq_false_iff.1 elsewhere _ hj⟩
        cases h : p.isPrepared with
        | true => exact .prepared fits h
        | false =>
          change NeededChangeEnds m p (p.change i.role >>= fun c => pure (some c))
          cases asked : p.change i.role with
          | error e => exact .unread managed h asked
          | ok c => exact .needed fits managed h asked

theorem refuses_neededChange (m : Memory) (p : Peer) : Refuses (neededChange m p) := by
  intro e he
  have ends := neededChange_ends m p
  rw [he] at ends
  cases ends with
  | rejected => rfl
  | unmanaged => rfl
  | unread _ _ asked => exact refuses_change _ p e asked

theorem of_neededChange {m : Memory} {p : Peer} {change : Option Kernel.PeerChange}
    (needed : neededChange m p = .ok change) :
    Fits m p.tunnel.interfaceId p ∧ p.isPrepared = change.isNone := by
  have ends := neededChange_ends m p
  rw [needed] at ends
  cases ends with
  | prepared fits h => exact ⟨fits, h⟩
  | needed fits _ h => exact ⟨fits, h⟩

theorem of_neededChange_some {m : Memory} {p : Peer} {c : Kernel.PeerChange}
    (h : neededChange m p = .ok (some c)) :
    ∃ i, m.interfaces.find? p.tunnel.interfaceId = some i ∧ p.change i.role = .ok c := by
  have ends := neededChange_ends m p
  rw [h] at ends
  cases ends with
  | needed _ managed _ asked => exact ⟨_, managed, asked⟩

inductive SavePeerEnds (p : Peer) (s : Keeper) : Except KeeperError Unit → Keeper → Prop
  | refused {e : KeeperError} (h : e.isRefusal = true) : SavePeerEnds p s (.error e) s
  | prepared (fits : Fits s.memory p.tunnel.interfaceId p) (h : p.isPrepared = true) :
      SavePeerEnds p s (.ok ()) { s with memory := s.memory.addPeer p.tunnel.interfaceId p }
  | notPushed {cause : KernelError} {k : Kernel} (fits : Fits s.memory p.tunnel.interfaceId p)
      (committed : p.isPrepared = false) (lost : s.kernel.LostChange k) :
      SavePeerEnds p s (.error (.kernel .configurePeer p.id.text cause))
        { s with
          kernel := k
          memory := s.memory.addPeer p.tunnel.interfaceId p }
  | notStored {cause : StoreError} {k : Kernel} (fits : Fits s.memory p.tunnel.interfaceId p)
      (committed : p.isPrepared = false) (fault : s.store.fault? (.savePeer p) = some cause) :
      SavePeerEnds p s (.error (.persistence .savePeer p.id.text cause))
        { s with
          kernel := k
          memory := s.memory.addPeer p.tunnel.interfaceId p
          store := s.store.noted (.savePeer p) }
  | done {k : Kernel} (fits : Fits s.memory p.tunnel.interfaceId p)
      (committed : p.isPrepared = false) :
      SavePeerEnds p s (.ok ())
        { s with
          kernel := k
          memory := s.memory.addPeer p.tunnel.interfaceId p
          store := s.store.changed (.savePeer p) }

theorem savePeer_ends (p : Peer) (s : Keeper) : Ends (savePeer p) s (SavePeerEnds p s) := by
  unfold savePeer
  apply look_then
  · intro e he
    exact .refused (refuses_neededChange _ p e he)
  intro change hc
  obtain ⟨fits, prepared⟩ := of_neededChange hc
  apply changeMemory_then
  cases change with
  | none => exact .prepared fits prepared
  | some c =>
    apply askKernel_then
    · intro _ _ h
      exact .notPushed fits prepared (.of_error h)
    intro _ _ _
    apply ends_persist (c := .savePeer p)
    · intro _
      exact .done fits prepared
    · intro _ fault
      exact .notStored fits prepared fault

theorem savePeers_singleton (p : Peer) : savePeers [p] = savePeer p := by
  change (savePeer p >>= fun _ => pure ()) = savePeer p
  exact bind_pure (savePeer p)

inductive RemovePeerEnds (id : PeerId) (s : Keeper) : Except KeeperError Unit → Keeper → Prop
  | refused {e : KeeperError} (h : e.isRefusal = true) : RemovePeerEnds id s (.error e) s
  | prepared {p : Peer} (known : s.memory.findPeer? id = some p) (h : p.isPrepared = true) :
      RemovePeerEnds id s (.ok ())
        { s with memory := s.memory.removePeer p.tunnel.interfaceId id }
  | notPushed {cause : KernelError} {k : Kernel} :
      RemovePeerEnds id s (.error (.kernel .removePeer id.text cause)) { s with kernel := k }
  | notStored {cause : StoreError} {k : Kernel}
      (fault : s.store.fault? (.deletePeer id) = some cause) :
      RemovePeerEnds id s (.error (.persistence .deletePeer id.text cause))
        { s with kernel := k, store := s.store.noted (.deletePeer id) }
  | done {p : Peer} {k : Kernel} (known : s.memory.findPeer? id = some p)
      (committed : p.isPrepared = false) :
      RemovePeerEnds id s (.ok ())
        { s with
          kernel := k
          memory := s.memory.removePeer p.tunnel.interfaceId id
          store := s.store.changed (.deletePeer id) }

theorem peer_eq_ok_iff {m : Memory} {id : PeerId} {p : Peer} :
    m.peer id = .ok p ↔ m.findPeer? id = some p := by
  unfold Memory.peer
  cases m.findPeer? id <;> simp

theorem peer_eq_error_iff {m : Memory} {id : PeerId} {e : KeeperError} :
    m.peer id = .error e ↔ m.findPeer? id = none ∧ e = .peerNotFound id := by
  unfold Memory.peer
  cases m.findPeer? id <;> simp [eq_comm]

theorem refuses_peer (m : Memory) (id : PeerId) : Refuses (m.peer id) := by
  intro e h
  rw [(peer_eq_error_iff.1 h).2]
  rfl

theorem removePeer_ends (id : PeerId) (s : Keeper) :
    Ends (removePeer id) s (RemovePeerEnds id s) := by
  unfold removePeer
  apply look_then
  · intro e he
    exact .refused (refuses_peer _ id e he)
  intro p hp
  have known := peer_eq_ok_iff.1 hp
  cases h : p.isPrepared with
  | true => exact .prepared known h
  | false =>
    apply check_then
    · intro e he
      exact .refused (refuses_parse _ _ e he)
    intro publicKey _
    apply askKernel_then
    · intro _ _ _
      exact .notPushed
    intro _ _ _
    apply persist_then (c := .deletePeer id)
    · intro _ fault
      exact .notStored fault
    intro _
    exact .done known h

/-- The peers of a candidate as they are taken over. -/
def adoptedPeers (c : ImportCandidate) : List Peer := c.peers.map (adopt c.interface.id)

/-- Whether a candidate may be taken over: neither it nor one of its peers is known, and its peers
belong to it. -/
structure Importable (m : Memory) (c : ImportCandidate) : Prop where
  absent : m.interfaces.contains c.interface.id = false
  home {p : Peer} : p ∈ adoptedPeers c → p.tunnel.interfaceId = c.interface.id
  unknown {p : Peer} : p ∈ adoptedPeers c → m.findPeer? p.id = none

theorem refuses_checkImportedPeer (m : Memory) (id : InterfaceId) (p : Peer) :
    Refuses (checkImportedPeer m id p) := by
  apply (refuses_checkPeer p).bind
  intro _
  by_cases home : p.tunnel.interfaceId = id
  · simp only [home, ne_eq, not_true_eq_false, if_false]
    cases m.findPeer? p.id with
    | none => exact .ok ()
    | some q => exact .error (e := .rejected (.peerExists p.id)) rfl
  · simp only [home, ne_eq, not_false_eq_true, if_true]
    exact .error (e := .rejected (.foreignPeer p.id id)) rfl

theorem of_checkImportedPeer {m : Memory} {id : InterfaceId} {p : Peer}
    (h : checkImportedPeer m id p = .ok ()) :
    p.tunnel.interfaceId = id ∧ m.findPeer? p.id = none := by
  obtain ⟨_, -, h⟩ := bind_eq_ok_iff.1 h
  by_cases home : p.tunnel.interfaceId = id
  · simp only [home, ne_eq, not_true_eq_false, if_false] at h
    cases hf : m.findPeer? p.id with
    | none => exact ⟨home, rfl⟩
    | some q =>
      rw [hf] at h
      contradiction
  · simp only [home, ne_eq, not_false_eq_true, if_true] at h
    contradiction

theorem forall_of_forM {β : Type} {f : β → Except KeeperError Unit} {bs : List β}
    (h : bs.forM f = .ok ()) : ∀ b ∈ bs, f b = .ok () := by
  induction bs with
  | nil => exact List.forall_mem_nil _
  | cons b bs ih =>
    obtain ⟨_, hb, hbs⟩ := bind_eq_ok_iff.1 h
    exact List.forall_mem_cons.2 ⟨hb, ih hbs⟩

inductive ImportInterfaceEnds (c : ImportCandidate) (s : Keeper) :
    Except KeeperError Unit → Keeper → Prop
  | refused {e : KeeperError} (h : e.isRefusal = true) : ImportInterfaceEnds c s (.error e) s
  | interfaceNotStored {cause : StoreError} (importable : Importable s.memory c)
      (fault : s.store.fault? (.saveInterface c.interface) = some cause) :
      ImportInterfaceEnds c s
        (.error (.persistence .saveImportedInterface c.interface.id.text cause))
        { s with
          memory := s.memory.addInterface c.interface
          store := s.store.noted (.saveInterface c.interface) }
  | peerNotStored {done rest : List Peer} {p : Peer} {cause : StoreError}
      (importable : Importable s.memory c) (split : adoptedPeers c = done ++ p :: rest)
      (fault : ((s.store.changed (.saveInterface c.interface)).changedAll
        (done.map .savePeer)).fault? (.savePeer p) = some cause) :
      ImportInterfaceEnds c s (.error (.persistence .saveImportedPeer p.id.text cause))
        { s with
          memory := ((s.memory.addInterface c.interface).addPeers c.interface.id done).addPeer
            c.interface.id p
          store := ((s.store.changed (.saveInterface c.interface)).changedAll
            (done.map .savePeer)).noted (.savePeer p) }
  | done (importable : Importable s.memory c) :
      ImportInterfaceEnds c s (.ok ())
        { s with
          memory := (s.memory.addInterface c.interface).addPeers c.interface.id (adoptedPeers c)
          store := (s.store.changed (.saveInterface c.interface)).changedAll
            ((adoptedPeers c).map .savePeer) }

theorem foldl_addPeer_changed (id : InterfaceId) (ps : List Peer) (s : Keeper) :
    ps.foldl (fun s p => { s with
      memory := s.memory.addPeer id p
      store := s.store.changed (.savePeer p) }) s =
      { s with
        memory := s.memory.addPeers id ps
        store := s.store.changedAll (ps.map .savePeer) } := by
  induction ps generalizing s with
  | nil => rfl
  | cons p ps ih => rw [List.foldl_cons, ih]; rfl

/-- Taking over peers stops at the first fault. -/
theorem importPeers_ends (id : InterfaceId) (ps : List Peer) (s : Keeper) :
    Ends (ps.forM fun p => do
        changeMemory (·.addPeer id p)
        persist .saveImportedPeer p.id.text (Store.savePeer p)) s
      (LoopEnds
        (fun p s => { s with
          memory := s.memory.addPeer id p
          store := s.store.changed (.savePeer p) })
        (fun p s e t => ∃ cause, s.store.fault? (.savePeer p) = some cause ∧
          e = .persistence .saveImportedPeer p.id.text cause ∧
          t = { s with
            memory := s.memory.addPeer id p
            store := s.store.noted (.savePeer p) }) ps s) := by
  apply ends_forM
  intro p t
  apply changeMemory_then
  apply ends_persist (c := .savePeer p)
  · intro _
    rfl
  · intro cause fault
    exact ⟨cause, fault, rfl, rfl⟩

theorem importInterface_ends (c : ImportCandidate) (s : Keeper) :
    Ends (importInterface c) s (ImportInterfaceEnds c s) := by
  unfold importInterface
  apply check_then
  · intro e he
    exact .refused (refuses_checkInterfaceId _ e he)
  intro _ _
  apply requireAbsent_then
  · intro _
    exact .refused rfl
  intro absent
  apply look_then
  · intro e he
    have refuses := Refuses.forM fun p (_ : p ∈ adoptedPeers c) =>
      refuses_checkImportedPeer s.memory c.interface.id p
    exact .refused (refuses e he)
  intro _ checked
  have importable : Importable s.memory c := by
    have passed := forall_of_forM checked
    exact ⟨absent, fun hp => (of_checkImportedPeer (passed _ hp)).1,
      fun hp => (of_checkImportedPeer (passed _ hp)).2⟩
  apply changeMemory_then
  apply persist_then (c := .saveInterface c.interface)
  · intro _ fault
    exact .interfaceNotStored importable fault
  intro _
  apply (importPeers_ends c.interface.id (adoptedPeers c) _).mono
  intro r t ht
  cases ht with
  | done =>
    rw [foldl_addPeer_changed]
    exact .done importable
  | stopped _ split h =>
    obtain ⟨cause, fault, rfl, rfl⟩ := h
    rw [foldl_addPeer_changed] at fault ⊢
    exact .peerNotStored importable split fault

end TunnelKeeper.Keeper

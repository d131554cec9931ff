import TunnelKeeper.Proofs.Keeper.PeerEnds
import TunnelKeeper.Proofs.Service.Job
import TunnelKeeper.Service.Peers

/-!
# How requests about peers end

A request to create or to update a peer is refused for what is known of it, or it saves one record,
and a peer that was saved is found again. A preparation saves the record that it answers with, whose
addresses were fresh.
-/
namespace TunnelKeeper.Service
open TunnelKeeper Effect Keeper

theorem exists_findPeer?_addPeer (m : Memory) (id : InterfaceId) (p : Peer) :
    ∃ q, (m.addPeer id p).findPeer? p.id = some q := by
  cases h : (m.addPeer id p).findPeer? p.id with
  | some q => exact ⟨q, rfl⟩
  | none =>
    have unknown := Memory.findPeer?_eq_none_iff.1 h id
    rw [Memory.find?_peersOf_addPeer, if_pos ⟨rfl, rfl⟩] at unknown
    contradiction

theorem exists_findPeer?_of_saved {p : Peer} {s t : Keeper}
    (saved : (savePeer p).run.run s = (.ok (), t)) : ∃ q, t.memory.findPeer? p.id = some q := by
  have ends := (savePeer_ends p s).of_run saved
  cases ends with
  | prepared => exact exists_findPeer?_addPeer _ _ p
  | done => exact exists_findPeer?_addPeer _ _ p

variable {s : Service}

/-- How a request ends that saves one record. -/
inductive SaveEnds (p : Peer) (s : Service) : Except ServiceError Peer → Service → Prop
  | refused {e : KeeperError} (h : e.isRefusal = true) : SaveEnds p s (.error (.keeper e)) s
  | failed {e : KeeperError} {k : Keeper}
      (saved : (savePeer p).run.run s.keeper = (.error e, k)) :
      SaveEnds p s (.error (.keeper e)) { s with keeper := k }
  | done {q : Peer} {k : Keeper} (saved : (savePeer p).run.run s.keeper = (.ok (), k))
      (known : k.memory.findPeer? p.id = some q) : SaveEnds p s (.ok q) { s with keeper := k }

theorem save_ends (p : Peer) (s : Service) :
    (Job.keep (savePeers [p]) >>= fun _ => Job.look (·.peer p.id)).Ends s (SaveEnds p s) := by
  rw [Job.ends_bind, savePeers_singleton]
  apply Job.ends_keep
  rcases saved : (savePeer p).run.run s.keeper with ⟨_ | _, k⟩ <;> unfold Ends <;> rw [saved]
  case error e => exact .failed saved
  case ok =>
    obtain ⟨q, known⟩ := exists_findPeer?_of_saved saved
    apply Job.ends_keep
    rw [Step.ends_look, peer_eq_ok_iff.2 known]
    exact .done saved known

def committed (p : Peer) : Peer := { p with preparedAt := none }

/-- How a creation ends: it is refused, or the peer is saved in the place of no committed one. -/
inductive CreateEnds (p : Peer) (s : Service) : Except ServiceError Peer → Service → Prop
  | refused {e : KeeperError} (h : e.isRefusal = true) : CreateEnds p s (.error (.keeper e)) s
  | saved {r : Except ServiceError Peer} {t : Service}
      (free : ∀ q, s.keeper.memory.findPeer? p.id = some q → q.isPrepared = true)
      (save : SaveEnds (committed p) s r t) : CreateEnds p s r t

theorem createPeer_creates (p : Peer) (s : Service) :
    (createPeer p).Ends s (CreateEnds p s) := by
  have commit := save_ends (committed p) s
  apply Job.attempt_look_then
  cases hp : s.keeper.memory.peer p.id with
  | ok known =>
    have found := peer_eq_ok_iff.1 hp
    dsimp only
    split
    case isTrue => exact .refused (e := .rejected (.peerExists p.id)) rfl
    case isFalse prepared =>
      apply commit.mono
      intro r t save
      refine .saved (fun q known => ?_) save
      cases found.symm.trans known
      simpa using prepared
  | error e =>
    dsimp only
    split
    case isTrue =>
      apply commit.mono
      intro r t save
      refine .saved (fun q known => ?_) save
      cases hp.symm.trans (peer_eq_ok_iff.2 known)
    case isFalse => exact .refused (refuses_peer _ _ e hp)

theorem createPeer_ends (p : Peer) (s : Service) :
    (createPeer p).Ends s (SaveEnds (committed p) s) := by
  apply (createPeer_creates p s).mono
  intro r t ends
  cases ends with
  | refused h => exact .refused h
  | saved _ save => exact save

/-- How an update ends: the peer is unknown, or it is saved and stays as it was in being prepared
or committed. -/
inductive UpdateEnds (p : Peer) (s : Service) : Except ServiceError Peer → Service → Prop
  | unknown (h : s.keeper.memory.findPeer? p.id = none) :
      UpdateEnds p s (.error (.keeper (.peerNotFound p.id))) s
  | known {q : Peer} {r : Except ServiceError Peer} {t : Service}
      (h : s.keeper.memory.findPeer? p.id = some q)
      (save : SaveEnds { p with preparedAt := q.preparedAt } s r t) : UpdateEnds p s r t

theorem updatePeer_ends (p : Peer) (s : Service) :
    (updatePeer p).Ends s (UpdateEnds p s) := by
  apply Job.look_then
  · intro e he
    obtain ⟨unknown, rfl⟩ := peer_eq_error_iff.1 he
    exact .unknown unknown
  · intro known hk
    apply (save_ends { p with preparedAt := known.preparedAt } s).mono
    intro r t ht
    exact .known (peer_eq_ok_iff.1 hk) ht

def nextPeer (s : Service) (i : Interface) (addresses : String) (user : Option UserId) : Peer :=
  preparedPeer i addresses user (s.keys.pair (s.keys.pairsGiven + 1))
    (s.keys.presharedKey (s.keys.presharedKeysGiven + 1)) s.keeper.clock

def keysAfter (s : Service) : KeySupply :=
  { s.keys with
    pairsGiven := s.keys.pairsGiven + 1
    presharedKeysGiven := s.keys.presharedKeysGiven + 1 }

/-- How saving a prepared peer ends: nothing can fail but the check. -/
inductive FilingEnds (p : Peer) (s : Keeper) : Except KeeperError Unit → Keeper → Prop
  | refused {e : KeeperError} (h : e.isRefusal = true) : FilingEnds p s (.error e) s
  | done (fits : Memory.Fits s.memory p.tunnel.interfaceId p) :
      FilingEnds p s (.ok ()) { s with memory := s.memory.addPeer p.tunnel.interfaceId p }

theorem savePeer_ends_of_prepared {p : Peer} (prepared : p.isPrepared = true) (s : Keeper) :
    Ends (savePeer p) s (FilingEnds p s) := by
  have clash (h : p.isPrepared = false) : False := Bool.false_ne_true (h.symm.trans prepared)
  apply (savePeer_ends p s).mono
  intro r t ht
  cases ht with
  | refused h => exact .refused h
  | prepared fits => exact .done fits
  | notPushed _ committed => exact (clash committed).elim
  | notStored _ committed => exact (clash committed).elim
  | done _ committed => exact (clash committed).elim

inductive PrepareEnds (id : InterfaceId) (user : Option UserId) (s : Service) :
    Except ServiceError Peer → Service → Prop
  | unmanaged {e : KeeperError} (h : s.keeper.memory.interface id = .error e) :
      PrepareEnds id user s (.error (.keeper e)) s
  | notFound {e : KeeperError} (h : s.keeper.memory.freshAddresses id = .error e) :
      PrepareEnds id user s (.error (.keeper e)) s
  | refused {i : Interface} {addresses : String} {e : KeeperError} (h : e.isRefusal = true)
      (managed : s.keeper.memory.interfaces.find? id = some i)
      (fresh : s.keeper.memory.freshAddresses id = .ok addresses)
      (saved : (savePeer (s.nextPeer i addresses user)).run.run s.keeper = (.error e, s.keeper)) :
      PrepareEnds id user s (.error (.keeper e)) ⟨s.keeper, s.keysAfter⟩
  | done {i : Interface} {addresses : String} {k : Keeper}
      (managed : s.keeper.memory.interfaces.find? id = some i)
      (fresh : s.keeper.memory.freshAddresses id = .ok addresses)
      (saved : (savePeer (s.nextPeer i addresses user)).run.run s.keeper = (.ok (), k)) :
      PrepareEnds id user s (.ok (s.nextPeer i addresses user)) ⟨k, s.keysAfter⟩

theorem preparePeer_ends (id : InterfaceId) (user : Option UserId) (s : Service) :
    (preparePeer id user).Ends s (PrepareEnds id user s) := by
  apply Job.look_then
  · intro e he
    exact .unmanaged he
  intro i hi
  have managed := interface_eq_ok_iff.1 hi
  apply Job.look_then
  · intro e he
    exact .notFound he
  intro addresses fresh
  change (Job.keep (savePeers [s.nextPeer i addresses user]) >>= fun _ =>
    pure (s.nextPeer i addresses user)).Ends ⟨s.keeper, s.keysAfter⟩ _
  rw [Job.ends_bind, savePeers_singleton]
  apply Job.ends_keep
  rcases saved : (savePeer (s.nextPeer i addresses user)).run.run s.keeper with ⟨_ | _, k⟩ <;>
    unfold Ends <;> rw [saved]
  case error e =>
    cases (savePeer_ends_of_prepared rfl s.keeper).of_run saved with
    | refused h => exact .refused h managed fresh saved
  case ok => exact .done managed fresh saved

theorem preparePeer_eq_ok {id : InterfaceId} {user : Option UserId} {i : Interface}
    {addresses : String} {k : Keeper} (managed : s.keeper.memory.interfaces.find? id = some i)
    (fresh : s.keeper.memory.freshAddresses id = .ok addresses)
    (saved : (savePeer (s.nextPeer i addresses user)).run.run s.keeper = (.ok (), k)) :
    (preparePeer id user).run s = (.ok (s.nextPeer i addresses user), ⟨k, s.keysAfter⟩) := by
  rcases run : (preparePeer id user).run s with ⟨r, t⟩
  have ends := (preparePeer_ends id user s).of_run run
  cases ends with
  | unmanaged h =>
    rw [interface_eq_ok_iff.2 managed] at h
    contradiction
  | notFound h =>
    rw [fresh] at h
    contradiction
  | refused _ managed' fresh' saved' =>
    cases managed.symm.trans managed'
    cases fresh.symm.trans fresh'
    cases saved.symm.trans saved'
  | done managed' fresh' saved' =>
    cases managed.symm.trans managed'
    cases fresh.symm.trans fresh'
    cases saved.symm.trans saved'
    rfl

end TunnelKeeper.Service

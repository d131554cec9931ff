import TunnelKeeper.Proofs.Keeper.Discovery
import TunnelKeeper.Proofs.Keeper.FreshAddresses
import TunnelKeeper.Proofs.Service.InterfaceEnds

/-!
# Turns of memory

What requests can do to memory, said once. A request changes memory in turns: a turn files one
interface or one peer, or it takes records away, and what it files was checked, was found in the
kernel or follows from what is managed. What every turn of every request keeps holds after every
run, whatever fails in it.
-/
namespace TunnelKeeper
open Effect Keeper Memory

/-- The record that a request saves. A prepared peer was given fresh addresses. -/
inductive Request.Saves (s : Service) : Request → Peer → Prop
  | created (p : Peer) : Saves s (.createPeer p) (Service.committed p)
  | updated {p old : Peer} (known : s.keeper.memory.findPeer? p.id = some old) :
      Saves s (.updatePeer p) { p with preparedAt := old.preparedAt }
  | prepared {id : InterfaceId} {user : Option UserId} {i : Interface} {addresses : String}
      (fresh : s.keeper.memory.freshAddresses id = .ok addresses) :
      Saves s (.preparePeer id user) (s.nextPeer i addresses user)

/-- Whether all records of one memory stand in another one. -/
structure Memory.Part (m' m : Memory) : Prop where
  interfaces {id : InterfaceId} {i : Interface} :
    m'.interfaces.find? id = some i → m.interfaces.find? id = some i
  peers {id : InterfaceId} {k : PeerId} {p : Peer} :
    (m'.peersOf id).find? k = some p → (m.peersOf id).find? k = some p

/-- What one turn of a request to a service makes of memory. -/
inductive Turn (s : Service) : Request → Memory → Memory → Prop
  | bare {m : Memory} {i : Interface} (vacant : m.peersOf i.id = .empty) :
      Turn s (.createInterface i) m (m.addInterface { id := i.id })
  | created {m : Memory} {i : Interface} (vacant : m.peersOf i.id = .empty)
      (legible : Legible i.addresses) : Turn s (.createInterface i) m (withInterface m i)
  | updated {i j : Interface} (managed : s.keeper.memory.interfaces.find? i.id = some j)
      (legible : Legible i.addresses) :
      Turn s (.updateInterface i) s.keeper.memory (withInterface s.keeper.memory i)
  | found {m : Memory} {now : Instant} {d : Kernel.Device} {link : Kernel.Link}
      {addresses : List Net.Cidr} (vacant : m.peersOf ⟨d.name⟩ = .empty) :
      Turn s (.importInterface ⟨d.name⟩) m (m.addInterface (importedInterface now d link addresses))
  | adopted {m : Memory} {i : Interface} {k : Kernel.DevicePeer}
      (managed : m.interfaces.find? i.id = some i) (serves : i.role = .server) :
      Turn s (.importInterface i.id) m (m.addPeer i.id (importedPeer i k))
  | renewed {m : Memory} {i : Interface} {p : Peer}
      (managed : s.keeper.memory.interfaces.find? i.id = some i)
      (same : m.interfaces = s.keeper.memory.interfaces)
      (filed : (s.keeper.memory.peersOf i.id).find? p.id = some p) :
      Turn s (.applyDefaults i.id) m (m.addPeer i.id (p.applyDefaults i))
  | saved {r : Request} {p : Peer} {change : Option Kernel.PeerChange} (saves : r.Saves s p)
      (needed : neededChange s.keeper.memory p = .ok change) :
      Turn s r s.keeper.memory (s.keeper.memory.addPeer p.tunnel.interfaceId p)
  | dropped {r : Request} {m m' : Memory} (part : m'.Part m) : Turn s r m m'

namespace Keeper

theorem memory_updateInterface (i : Interface) (s : Keeper) :
    Ends (updateInterface i) s fun _ t => t.memory = s.memory ∨
      s.memory.interfaces.contains i.id = true ∧ Legible i.addresses ∧
        t.memory = withInterface s.memory i := by
  have read : Ends (updateInterface i) s fun _ t => t.memory = s.memory ∨ Legible i.addresses := by
    unfold updateInterface
    apply Step.check_then
    · exact fun _ _ => .inl rfl
    intro _ _
    apply Step.check_then
    · exact fun _ _ => .inl rfl
    intro cs hcs
    exact Or.inr ⟨cs, addressesAt_eq_ok_iff.1 hcs⟩
  rcases run : (updateInterface i).run.run s with ⟨r, t⟩
  unfold Ends
  rw [run]
  rcases read.of_run run with same | legible
  · exact .inl same
  · cases (updateInterface_ends i s).of_run run with
    | refused => exact .inl rfl
    | notPushed => exact .inl rfl
    | notStored managed => exact .inr ⟨managed, legible, rfl⟩
    | done managed => exact .inr ⟨managed, legible, rfl⟩

theorem memory_savePeer (p : Peer) (s : Keeper) :
    Ends (savePeer p) s fun _ t => t.memory = s.memory ∨
      ∃ change, neededChange s.memory p = .ok change ∧
        t.memory = s.memory.addPeer p.tunnel.interfaceId p := by
  unfold savePeer
  apply Step.look_then
  · exact fun _ _ => .inl rfl
  intro change needed
  apply Step.changeMemory_then
  cases change with
  | none => exact .inr ⟨_, needed, rfl⟩
  | some c =>
    apply Step.askKernel_then
    · exact fun _ _ _ => .inr ⟨_, needed, rfl⟩
    intro _ _ _
    apply Step.ends_persist (c := .savePeer p)
    · exact fun _ => .inr ⟨_, needed, rfl⟩
    · exact fun _ _ => .inr ⟨_, needed, rfl⟩

end Keeper

namespace Memory.Part

theorem refl (m : Memory) : m.Part m := ⟨id, id⟩

theorem removeInterface (m : Memory) (id : InterfaceId) : (m.removeInterface id).Part m where
  interfaces h := (Directory.of_find?_erase h).2
  peers h := by
    rw [peersOf_removeInterface] at h
    split at h
    case isTrue => contradiction
    case isFalse => exact h

theorem removePeer (m : Memory) (id : InterfaceId) (peer : PeerId) :
    (m.removePeer id peer).Part m where
  interfaces h := h
  peers h := by
    rw [find?_peersOf_removePeer] at h
    split at h
    case isTrue => contradiction
    case isFalse => exact h

theorem dropStale (m : Memory) (cutoff : Instant) : (Keeper.dropStale cutoff m).Part m where
  interfaces h := h
  peers h := by
    rw [peersOf_dropStale, Directory.find?_filter] at h
    exact (Option.filter_eq_some_iff.1 h).1

end Memory.Part

/-- An interface that is not managed has no peers. -/
theorem Memory.Filed.peersOf_eq_empty {m : Memory} {id : InterfaceId} (hm : m.Filed)
    (absent : m.interfaces.contains id = false) : m.peersOf id = .empty := by
  rw [← hm.slots, Directory.contains_eq_false_iff] at absent
  rw [peersOf, absent]
  rfl

/-- Adopting does not change a peer that was found with its device. -/
theorem Keeper.adopt_importedPeer (i : Interface) (k : Kernel.DevicePeer) :
    adopt i.id (importedPeer i k) = importedPeer i k := by
  unfold adopt
  split <;> rfl

theorem Keeper.adoptedPeers_of_candidate? {s : Keeper} {d : Kernel.Device} {c : ImportCandidate}
    (h : s.candidate? d = some c) :
    ∃ link addresses, c.interface = importedInterface s.clock d link addresses ∧
      adoptedPeers c = d.peers.map (importedPeer c.interface) := by
  obtain ⟨link, -, rfl⟩ := Option.map_eq_some_iff.1 h
  refine ⟨link, _, rfl, ?_⟩
  rw [adoptedPeers, List.map_map]
  exact List.map_congr_left fun k _ => adopt_importedPeer _ k

namespace Request
open Service

variable {s : Service} {r : Request}

/-- Files one peer after the other. -/
theorem turns_addPeers {m : Memory} {id : InterfaceId} {ps : List Peer}
    (turn : ∀ m' : Memory, m'.interfaces = m.interfaces → ∀ p ∈ ps, Turn s r m' (m'.addPeer id p)) :
    Relation.ReflTransGen (Turn s r) m (m.addPeers id ps) := by
  induction ps generalizing m with
  | nil => exact .refl
  | cons p ps ih =>
    exact .head (turn m rfl p List.mem_cons_self)
      (ih fun m' same q hq => turn m' same q (List.mem_cons_of_mem p hq))

/-- Files peers up to one of them. -/
theorem turns_addPeersUpTo {m : Memory} {id : InterfaceId} {ps done rest : List Peer} {p : Peer}
    (split : ps = done ++ p :: rest)
    (turn : ∀ m' : Memory, m'.interfaces = m.interfaces → ∀ p ∈ ps, Turn s r m' (m'.addPeer id p)) :
    Relation.ReflTransGen (Turn s r) m ((m.addPeers id done).addPeer id p) := by
  rw [← addPeers_concat]
  apply turns_addPeers
  intro m' same q hq
  apply turn m' same
  rw [split, List.append_cons]
  exact List.mem_append_left rest hq

/-- The states of the keeper whose memory a request reaches turn by turn. -/
def Reaches (s : Service) (r : Request) (k : Keeper) : Prop :=
  Relation.ReflTransGen (Turn s r) s.keeper.memory k.memory

theorem reaches_updateInterface (i : Interface) :
    Ends (Keeper.updateInterface i) s.keeper fun _ t => Reaches s (.updateInterface i) t := by
  apply (memory_updateInterface i s.keeper).mono
  rintro r t (same | ⟨managed, legible, filed⟩)
  · rw [Reaches, same]
  · obtain ⟨j, known⟩ := Directory.contains_iff_find?.1 managed
    rw [Reaches, filed]
    exact .single (.updated known legible)

theorem reaches_createInterface (filed : s.keeper.memory.Filed) (i : Interface) :
    Ends (Keeper.createInterface i.id) s.keeper fun r t => Reaches s (.createInterface i) t ∧
      (r = .ok () → Ends (Keeper.updateInterface i) t fun _ u =>
        Reaches s (.createInterface i) u) := by
  apply (Keeper.createInterface_ends i.id s.keeper).mono
  intro r t ht
  have bare (absent : s.keeper.memory.interfaces.contains i.id = false) :
      Turn s (.createInterface i) s.keeper.memory (s.keeper.memory.addInterface { id := i.id }) :=
    .bare (filed.peersOf_eq_empty absent)
  cases ht with
  | refused => exact ⟨.refl, nofun⟩
  | notPushed => exact ⟨.refl, nofun⟩
  | notStored absent => exact ⟨.single (bare absent), nofun⟩
  | @done k absent =>
    refine ⟨.single (bare absent), fun _ => ?_⟩
    apply (memory_updateInterface i _).mono
    rintro r u (same | ⟨-, legible, updated⟩)
    · rw [Reaches, same]
      exact .single (bare absent)
    · rw [Reaches, updated]
      refine .tail (.single (bare absent)) (.created ?_ legible)
      exact (peersOf_addInterface _ _ _).trans (filed.peersOf_eq_empty absent)

theorem reaches_deleteInterface (id : InterfaceId) :
    Ends (Keeper.deleteInterface id) s.keeper fun _ t => Reaches s (.deleteInterface id) t := by
  apply (Keeper.deleteInterface_ends id s.keeper).mono
  intro r t ht
  cases ht with
  | refused => exact .refl
  | notPushed => exact .refl
  | peerNotDeleted => exact .refl
  | notDeleted => exact .refl
  | done => exact .single (.dropped (.removeInterface _ id))

theorem reaches_importInterface (filed : s.keeper.memory.Filed) {d : Kernel.Device}
    {c : ImportCandidate} (found : s.keeper.candidate? d = some c) (k : Kernel) :
    Ends (Keeper.importInterface c) { s.keeper with kernel := k } fun _ t =>
      Reaches s (.importInterface c.interface.id) t := by
  obtain ⟨link, addresses, here, peers⟩ := adoptedPeers_of_candidate? found
  have managed (vacant : s.keeper.memory.interfaces.contains c.interface.id = false) :
      Turn s (.importInterface c.interface.id) s.keeper.memory
        (s.keeper.memory.addInterface c.interface) := by
    rw [here] at vacant ⊢
    exact .found (filed.peersOf_eq_empty vacant)
  have adopted (m : Memory)
      (same : m.interfaces = (s.keeper.memory.addInterface c.interface).interfaces) :
      ∀ p ∈ adoptedPeers c,
        Turn s (.importInterface c.interface.id) m (m.addPeer c.interface.id p) := by
    rw [peers, List.forall_mem_map]
    intro k _
    have role : c.interface.role = .server := by rw [here]; rfl
    exact .adopted (by rw [same]; exact Directory.find?_insert_self _ _ _) role
  apply (Keeper.importInterface_ends c _).mono
  intro r t ht
  cases ht with
  | refused => exact .refl
  | interfaceNotStored importable => exact .single (managed importable.absent)
  | peerNotStored importable split =>
    exact .head (managed importable.absent) (turns_addPeersUpTo split adopted)
  | done importable => exact .head (managed importable.absent) (turns_addPeers adopted)

theorem reaches_applyDefaults (filed : s.keeper.memory.Filed) (id : InterfaceId) :
    Ends (Keeper.applyDefaults id) s.keeper fun _ t => Reaches s (.applyDefaults id) t := by
  have renewed {i : Interface} (managed : s.keeper.memory.interfaces.find? id = some i) (m : Memory)
      (same : m.interfaces = s.keeper.memory.interfaces) :
      ∀ p ∈ renewedPeers s.keeper.memory i id, Turn s (.applyDefaults id) m (m.addPeer i.id p) := by
    cases filed.interface managed
    rw [renewedPeers, List.forall_mem_map]
    intro p hp
    exact .renewed managed same (filed.of_mem_records hp).2
  apply (applyDefaults_ends id s.keeper).mono
  intro r t ht
  cases ht with
  | refused => exact .refl
  | notStored managed split => exact turns_addPeersUpTo split (renewed managed)
  | done managed => exact turns_addPeers (renewed managed)

theorem reaches_savePeer {p : Peer} (saves : r.Saves s p) :
    Ends (Keeper.savePeer p) s.keeper fun _ t => Reaches s r t := by
  apply (memory_savePeer p s.keeper).mono
  rintro _ t (same | ⟨change, needed, filed⟩)
  · rw [Reaches, same]
  · rw [Reaches, filed]
    exact .single (.saved saves needed)

theorem reaches_removePeer (id : PeerId) :
    Ends (Keeper.removePeer id) s.keeper fun _ t => Reaches s (.deletePeer id) t := by
  apply (removePeer_ends id s.keeper).mono
  intro r t ht
  cases ht with
  | refused => exact .refl
  | notPushed => exact .refl
  | notStored => exact .refl
  | prepared => exact .single (.dropped (.removePeer _ _ id))
  | done => exact .single (.dropped (.removePeer _ _ id))

theorem reaches_refreshStats {k : Keeper} (h : Reaches s r k) :
    Ends Keeper.refreshStats k fun _ t => Reaches s r t := by
  apply (refreshStats_ends k).mono
  rintro _ _ ⟨kernel, ps, is, rfl⟩
  exact .tail h (.dropped ⟨id, id⟩)

theorem reaches_expirePrepared (maxAge : Int) :
    Ends (Keeper.expirePrepared maxAge) s.keeper fun _ t => Reaches s r t := by
  apply (expirePrepared_ends maxAge s.keeper).mono
  intro _ t ht
  cases ht with
  | undated => exact .refl
  | dropped cutoff => exact .single (.dropped (.dropStale _ cutoff))

theorem reaches_import (filed : s.keeper.memory.Filed) (id : InterfaceId) :
    (Service.importInterface id).Ends s fun _ t => Reaches s (.importInterface id) t.keeper := by
  have searched {r : Except KeeperError (List ImportCandidate)} {k : Keeper}
      (listed : Keeper.importCandidates.run.run s.keeper = (r, k)) :
      Reaches s (.importInterface id) k := by
    obtain ⟨⟨k, -, rfl⟩, -, -⟩ := of_importCandidates listed
    exact .refl
  have taken {cs : List ImportCandidate} {c : ImportCandidate} {k k' : Keeper}
      {r : Except KeeperError Unit}
      (listed : Keeper.importCandidates.run.run s.keeper = (.ok cs, k))
      (found : (cs.find? fun c => c.interface.id = id) = some c)
      (imported : (Keeper.importInterface c).run.run k = (r, k')) :
      Reaches s (.importInterface id) k' := by
    obtain ⟨⟨k, -, rfl⟩, lists, -⟩ := of_importCandidates listed
    obtain ⟨d, -, candidate⟩ := (lists cs rfl).exists_device (List.mem_of_find?_eq_some found)
    cases named_of_found found
    exact (reaches_importInterface filed candidate k).of_run imported
  apply (importInterface_ends id s).mono
  intro r t ht
  cases ht with
  | notListed listed => exact searched listed
  | unknown listed => exact searched listed
  | notImported listed found imported => exact taken listed found imported
  | done listed found imported => exact taken listed found imported

theorem reaches_preparePeer (id : InterfaceId) (user : Option UserId) :
    (Service.preparePeer id user).Ends s fun _ t => Reaches s (.preparePeer id user) t.keeper := by
  apply (preparePeer_ends id user s).mono
  intro r t ht
  cases ht with
  | unmanaged => exact .refl
  | notFound => exact .refl
  | refused => exact .refl
  | done managed fresh saved => exact (reaches_savePeer (.prepared fresh)).of_run saved

/-- Whatever fails, a request changes memory turn by turn. -/
theorem turns (r : Request) (filed : s.keeper.memory.Filed) :
    Relation.ReflTransGen (Turn s r) s.keeper.memory (r.after s).keeper.memory := by
  change Reaches s r (r.after s).keeper
  have same (r : Request) : Reaches s r s.keeper := .refl
  cases r with
  | prepareInterface c id => exact after_prepareInterface (same _) c id
  | createInterface i => exact after_createInterface (reaches_createInterface filed i)
  | updateInterface i => exact after_keep_look (reaches_updateInterface i)
  | deleteInterface id => exact after_keep (reaches_deleteInterface id)
  | importCandidates =>
    exact after_importCandidates (P := Reaches s .importCandidates) fun _ => .refl
  | importInterface id => exact reaches_import filed id
  | applyDefaults id => exact after_keep (reaches_applyDefaults filed id)
  | preparePeer id user => exact reaches_preparePeer id user
  | createPeer p => exact after_createPeer (same _) (reaches_savePeer (.created p))
  | updatePeer p =>
    exact after_updatePeer (same _) fun q known => reaches_savePeer (.updated known)
  | deletePeer id => exact after_keep (reaches_removePeer id)
  | runBackground c =>
    refine after_runBackground (P := Reaches s (.runBackground c)) ?_
    apply (reaches_expirePrepared c.preparedTtl).mono
    exact fun _ _ ht => ⟨ht, reaches_refreshStats ht⟩

end Request

end TunnelKeeper

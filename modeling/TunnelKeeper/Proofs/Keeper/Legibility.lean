import TunnelKeeper.Proofs.Keeper.FreshAddresses
import TunnelKeeper.Proofs.Keeper.PeerEnds

/-!
# What cannot be read

A search for addresses reads the text of every peer of an interface and fails as a whole where one
of them cannot be read. Where the addresses of the interface itself can be read, nothing else makes
it fail in this way. Saving a peer fails for what cannot be read only where the change fails that
the peer asks for, and removing one only for its public key.
-/
namespace TunnelKeeper
open Effect

/-- Whether an operation was refused for a list of addresses or a key that cannot be read. -/
def KeeperError.isMisread : KeeperError → Bool
  | .addresses .. | .key .. => true
  | _ => false

def Misreads {α : Type} (r : Except KeeperError α) : Prop :=
  ∃ place cause, r = .error (.addresses place cause)

section

variable {α β : Type} {f : α → Except KeeperError β} {as : List α}

theorem not_misreads_ok (a : α) : ¬ Misreads (.ok a : Except KeeperError α) := by
  rintro ⟨_, _, impossible⟩
  cases impossible

theorem misreads_bind_iff {r : Except KeeperError α} :
    Misreads (r >>= f) ↔ Misreads r ∨ ∃ a, r = .ok a ∧ Misreads (f a) := by
  cases r with
  | error e => simp [Misreads, bind_eq_error_iff]
  | ok a => simp [Misreads, bind_eq_error_iff]

/-- What is made of what was read is not read. -/
theorem misreads_bind_pure_iff {r : Except KeeperError α} {g : α → β} :
    Misreads (r >>= fun a => pure (g a)) ↔ Misreads r := by
  rw [misreads_bind_iff]
  refine or_iff_left ?_
  rintro ⟨a, -, impossible⟩
  exact not_misreads_ok (g a) impossible

/-- A pass that fails has met an element that fails in this way. -/
theorem exists_of_mapM_eq_error {e : KeeperError} (h : as.mapM f = .error e) :
    ∃ a ∈ as, f a = .error e := by
  induction as with
  | nil => cases h
  | cons a as ih =>
    rw [List.mapM_cons] at h
    rcases bind_eq_error_iff.1 h with first | ⟨b, -, h⟩
    · exact ⟨a, List.mem_cons_self, first⟩
    rcases bind_eq_error_iff.1 h with rest | ⟨bs, -, impossible⟩
    · obtain ⟨c, hc, failed⟩ := ih rest
      exact ⟨c, List.mem_cons_of_mem a hc, failed⟩
    · cases impossible

/-- Where elements can fail in no other way, a pass cannot read what some element cannot. -/
theorem misreads_mapM_iff (only : ∀ a ∈ as, ∀ e, f a = .error e → Misreads (f a)) :
    Misreads (as.mapM f) ↔ ∃ a ∈ as, Misreads (f a) := by
  constructor
  · rintro ⟨place, cause, failed⟩
    obtain ⟨a, ha, failed⟩ := exists_of_mapM_eq_error failed
    exact ⟨a, ha, place, cause, failed⟩
  · rintro ⟨a, ha, place, cause, unread⟩
    cases all : as.mapM f with
    | ok bs =>
      obtain ⟨b, -, read⟩ := (Net.Cidr.partners_of_forall₂ (Net.Cidr.mapM_eq_ok_iff.1 all)).1 a ha
      cases unread.symm.trans read
    | error e =>
      obtain ⟨b, hb, failed⟩ := exists_of_mapM_eq_error all
      obtain ⟨place', cause', unread'⟩ := only b hb e failed
      cases failed.symm.trans unread'
      exact ⟨place', cause', rfl⟩

end

namespace Memory
open Net

theorem misreads_addressesAt_iff {place : AddressPlace} {s : String} :
    Misreads (addressesAt place s) ↔ ¬ Legible s := by
  unfold addressesAt Legible Misreads
  cases Cidr.parseList s <;> simp [Except.mapError]

/-- Reading a list of addresses fails in no other way. -/
theorem misreads_of_addressesAt {place : AddressPlace} {s : String} {e : KeeperError}
    (h : addressesAt place s = .error e) : Misreads (addressesAt place s) := by
  rw [misreads_addressesAt_iff]
  rintro ⟨cs, read⟩
  cases h.symm.trans (addressesAt_eq_ok_iff.2 read)

/-- Whether some peer of an interface has addresses that cannot be read. -/
def Blocked (m : Memory) (id : InterfaceId) : Prop :=
  ∃ p ∈ (m.peersOf id).records, ¬ Legible p.tunnel.addresses.value

variable {m : Memory} {id : InterfaceId} {i : Interface} {own : List Cidr}

theorem misreads_usedAddresses_iff (managed : m.interfaces.find? id = some i)
    (pass : Cidr → Bool) : Misreads (m.usedAddresses id pass) ↔ m.Blocked id := by
  have peers : m.peersOfInterface id = .ok (m.peersOf id).records :=
    if_pos (Directory.contains_of_find? managed)
  have read : Misreads ((m.peersOf id).records.mapM fun p =>
      addressesAt (.peer p.id) p.tunnel.addresses.value) ↔ m.Blocked id := by
    rw [misreads_mapM_iff fun _ _ _ => misreads_of_addressesAt]
    simp only [misreads_addressesAt_iff, Blocked]
  rw [usedAddresses, peers, ← read]
  exact misreads_bind_pure_iff

theorem misreads_freshAddress_iff (managed : m.interfaces.find? id = some i)
    (legible : Legible i.addresses) (subnet : Cidr) (reserved : List Cidr) :
    Misreads (m.freshAddress id subnet reserved) ↔ m.Blocked id := by
  obtain ⟨own, read⟩ := legible
  have found : m.interface id = .ok i := Keeper.interface_eq_ok_iff.2 managed
  have held : Misreads (m.heldAddresses id subnet) ↔ m.Blocked id := by
    rw [heldAddresses, misreads_bind_iff, misreads_usedAddresses_iff managed, found]
    refine or_iff_left ?_
    rintro ⟨used, -, impossible⟩
    change Misreads (addressesAt _ i.addresses >>= _) at impossible
    rw [addressesAt_eq_ok_iff.2 read] at impossible
    exact not_misreads_ok _ impossible
  rw [freshAddress, misreads_bind_iff, held]
  refine or_iff_left ?_
  rintro ⟨taken, -, impossible⟩
  split at impossible
  case h_1 => exact not_misreads_ok _ impossible
  case h_2 =>
    obtain ⟨_, _, impossible⟩ := impossible
    cases impossible

/-- Where the interface has no addresses, no address is searched. -/
theorem misreads_freshAddresses_iff (managed : m.interfaces.find? id = some i)
    (read : Cidr.parseList i.addresses = .ok own) :
    Misreads (m.freshAddresses id) ↔ m.Blocked id ∧ own ≠ [] := by
  have found : m.interface id = .ok i := Keeper.interface_eq_ok_iff.2 managed
  have each (c : Cidr) : Misreads (m.freshAddress id c [c]) ↔ m.Blocked id :=
    misreads_freshAddress_iff managed ⟨own, read⟩ c [c]
  have all : Misreads (own.mapM fun c => m.freshAddress id c [c]) ↔ m.Blocked id ∧ own ≠ [] := by
    constructor
    · rintro ⟨place, cause, failed⟩
      obtain ⟨c, hc, failed⟩ := exists_of_mapM_eq_error failed
      exact ⟨(each c).1 ⟨place, cause, failed⟩, List.ne_nil_of_mem hc⟩
    · rintro ⟨blocked, filled⟩
      obtain ⟨c, hc⟩ := List.exists_mem_of_ne_nil own filled
      exact (misreads_mapM_iff fun d _ _ _ => (each d).2 blocked).2 ⟨c, hc, (each c).2 blocked⟩
  rw [freshAddresses, found, ← all]
  change Misreads (addressesAt _ i.addresses >>= _) ↔ _
  rw [addressesAt_eq_ok_iff.2 read]
  exact misreads_bind_pure_iff

end Memory

namespace Keeper

variable {p : Peer} {s t : Keeper} {e : KeeperError}

theorem isMisread_of_peer {m : Memory} {id : PeerId} (h : m.peer id = .error e) :
    e.isMisread = false := by
  rw [(peer_eq_error_iff.1 h).2]
  rfl

/-- What cannot be read when a peer is to be saved is what a committed peer asks for. -/
theorem misread_of_neededChange {m : Memory} (h : neededChange m p = .error e)
    (misread : e.isMisread = true) :
    p.isPrepared = false ∧
      ∃ i, m.interfaces.find? p.tunnel.interfaceId = some i ∧ p.change i.role = .error e := by
  have ends := neededChange_ends m p
  rw [h] at ends
  cases ends with
  | rejected => contradiction
  | unmanaged => contradiction
  | unread managed committed asked => exact ⟨committed, _, managed, asked⟩

theorem misread_of_savePeer (failed : (savePeer p).run.run s = (.error e, t))
    (misread : e.isMisread = true) :
    p.isPrepared = false ∧
      ∃ i, s.memory.interfaces.find? p.tunnel.interfaceId = some i ∧
        p.change i.role = .error e := by
  have ends : Ends (savePeer p) s fun r _ => ∀ e, r = .error e → e.isMisread = true →
      neededChange s.memory p = .error e := by
    unfold savePeer
    apply Step.look_then
    · rintro e needed _ ⟨⟩ _
      exact needed
    intro change _
    apply Step.changeMemory_then
    cases change with
    | none => exact fun _ => nofun
    | some c =>
      apply Step.askKernel_then
      · rintro _ _ _ _ ⟨⟩ ⟨⟩
      intro _ _ _
      apply Step.ends_persist (c := .savePeer p)
      · exact fun _ _ => nofun
      · rintro _ _ _ ⟨⟩ ⟨⟩
  exact misread_of_neededChange (ends.of_run failed e rfl misread) misread

theorem misread_of_removePeer {id : PeerId} (failed : (removePeer id).run.run s = (.error e, t))
    (misread : e.isMisread = true) :
    ∃ p, s.memory.findPeer? id = some p ∧ p.isPrepared = false ∧
      (KeyPlace.publicKey id).parse p.keys.publicKey = .error e := by
  have ends : Ends (removePeer id) s fun r _ => ∀ e, r = .error e → e.isMisread = true →
      ∃ p, s.memory.findPeer? id = some p ∧ p.isPrepared = false ∧
        (KeyPlace.publicKey id).parse p.keys.publicKey = .error e := by
    unfold removePeer
    apply Step.look_then
    · rintro e unknown _ ⟨⟩ misread
      rw [isMisread_of_peer unknown] at misread
      contradiction
    intro p known
    cases committed : p.isPrepared with
    | true => exact fun _ => nofun
    | false =>
      apply Step.check_then
      · rintro e unread _ ⟨⟩ _
        exact ⟨p, peer_eq_ok_iff.1 known, committed, unread⟩
      intro publicKey _
      apply Step.askKernel_then
      · rintro _ _ _ _ ⟨⟩ ⟨⟩
      intro _ _ _
      apply Step.persist_then (c := .deletePeer id)
      · rintro _ _ _ ⟨⟩ ⟨⟩
      · exact fun _ _ => nofun
  exact ends.of_run failed e rfl misread

end Keeper

end TunnelKeeper

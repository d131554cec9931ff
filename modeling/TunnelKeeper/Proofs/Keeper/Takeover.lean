import Mathlib.Data.List.Forall2
import TunnelKeeper.Proofs.Keeper.Allocation
import TunnelKeeper.Proofs.Keeper.Discovery
import TunnelKeeper.Proofs.Keeper.Pushing
import TunnelKeeper.Proofs.Keeper.Sending
import TunnelKeeper.Proofs.Key.Text
import TunnelKeeper.Proofs.Net.CidrLists
import TunnelKeeper.Proofs.Net.CidrText

/-!
# Taking over loses nothing

A candidate says what the kernel holds in text and numbers. Read back, the record of each peer asks
for the settings of the peer, and an update with the record of the device pushes its keys, port and
mark, its addresses in order, and the MTU and the state of its link. Where an endpoint lies is not
compared, as an interface that serves pushes none.
-/
namespace TunnelKeeper
open Effect Kernel Net

/-- Whether a change carries the settings that the kernel holds for a peer. -/
structure Kernel.PeerChange.Carries (c : PeerChange) (k : DevicePeer) : Prop where
  publicKey : c.publicKey = k.publicKey
  presharedKey : c.presharedKey = k.presharedKey
  keepalive : c.keepalive = if k.keepalive = 0 then none else some k.keepalive
  allowedIps : c.allowedIps.Perm k.allowedIps
  kept : c.remove = false

namespace Keeper

variable (i : Interface) (k : DevicePeer)

theorem presharedKey?_importedPeer : (importedPeer i k).presharedKey? = .ok k.presharedKey := by
  unfold Peer.presharedKey? importedPeer
  cases k.presharedKey with
  | none => rfl
  | some key =>
    have filled : key.text.isEmpty = false := by simpa using key.text_ne_empty
    simp only [Option.map_some, filled, KeyPlace.parse, Key.parse_text]
    rfl

theorem addressesAt_listText (place : AddressPlace) (cs : List Cidr) :
    Memory.addressesAt place (Cidr.listText cs) = .ok (Cidr.sort cs) :=
  Memory.addressesAt_eq_ok_iff.2 (Cidr.parseList_listText cs)

theorem routes_importedPeer :
    (importedPeer i k).routes .server = .ok (Cidr.sort k.allowedIps) := by
  have extra : Cidr.sort [] = [] := List.mergeSort_nil
  apply bind_eq_ok_iff.2 ⟨_, addressesAt_listText _ k.allowedIps, ?_⟩
  apply bind_eq_ok_iff.2 ⟨_, addressesAt_listText _ [], ?_⟩
  rw [extra, List.append_nil]
  rfl

theorem keepaliveInterval_toUInt32 (n : UInt16) :
    Peer.keepaliveInterval n.toUInt32 = if n = 0 then none else some n := by
  have bound := n.toNat_lt
  have off : n.toUInt32 = 0 ↔ n = 0 := by
    simp [← UInt32.toNat_inj, ← UInt16.toNat_inj]
  have same : (min n.toUInt32.toNat 65535).toUInt16 = n := by
    rw [UInt16.toNat_toUInt32, Nat.min_eq_left (by omega)]
    exact UInt16.ofNat_toNat
  rw [Peer.keepaliveInterval, same]
  simp only [off]

theorem changeBy_importedPeer (lookUp : String → Option Endpoint) :
    ∃ c, (importedPeer i k).changeBy lookUp .server = .ok c ∧ c.Carries k := by
  have keyed : (KeyPlace.publicKey (importedPeer i k).id).parse k.publicKey.text =
      .ok k.publicKey := KeyPlace.parse_eq_ok_iff.2 (Key.parse_text _)
  refine ⟨_, bind_eq_ok_iff.2 ⟨_, keyed, bind_eq_ok_iff.2 ⟨_, presharedKey?_importedPeer i k,
    bind_eq_ok_iff.2 ⟨_, routes_importedPeer i k, rfl⟩⟩⟩, ?_⟩
  constructor
  · rfl
  · rfl
  · exact keepaliveInterval_toUInt32 k.keepalive
  · exact Cidr.sort_perm k.allowedIps
  · rfl

theorem privateKey?_importedInterface (now : Instant) (d : Device) (link : Link)
    (addresses : List Cidr) :
    privateKey? (importedInterface now d link addresses) = .ok d.privateKey := by
  unfold privateKey? importedInterface
  cases d.privateKey with
  | none => rfl
  | some key =>
    have kept : Text.trim key.text = key.text := by
      rw [Text.trim, Text.trimList_of_not_blank Key.isBlank_of_mem_text, String.ofList_toList]
    have filled : key.text.isEmpty = false := by simpa using key.text_ne_empty
    simp [keyText, Text.nonBlank?, kept, filled, KeyPlace.parse, Except.mapError, Except.map]

def linkAddresses (s : Keeper) (link : Link) : List Cidr :=
  (s.kernel.addresses.find? ⟨link.name⟩).getD []

/-- The change that configures a device as it is. -/
def ownChange (d : Device) : DeviceChange where
  privateKey := d.privateKey
  listenPort := some d.listenPort
  firewallMark := if d.firewallMark = 0 then none else some d.firewallMark

/-- An update with the record of a device pushes what the kernel held. -/
theorem updateInterface_importedInterface (now : Instant) (d : Device) (link : Link)
    (addresses : List Cidr) {t : Keeper} {l : Link} (healthy : t.kernel.Healthy)
    (found : t.kernel.links.find? ⟨d.name⟩ = some l) :
    Ends (updateInterface (importedInterface now d link addresses)) t (PushEnds t ⟨d.name⟩
      (pushCalls d.name l.name link.mtu (Cidr.sort addresses) (ownChange d) link.up)) := by
  have enabled : (importedInterface now d link addresses).isEnabled = link.up := by
    cases up : link.up <;> simp [importedInterface, up, Interface.isEnabled]
  have addressed := addressesAt_listText (.interface ⟨d.name⟩) addresses
  have keyed := privateKey?_importedInterface now d link addresses
  rw [← enabled]
  exact updateInterface_pushEnds (i := importedInterface now d link addresses) healthy found
    addressed keyed

/-- Whether a candidate tells all that the kernel holds of a device: of each peer, what pushing the
peer carries, and of the device and its link, the calls that an update makes. An update is refused
where the device is not managed, or is not named. -/
structure Represents (s : Keeper) (d : Device) (c : ImportCandidate) : Prop where
  peers (lookUp : String → Option Endpoint) : List.Forall₂ (fun k p =>
    ∃ change, p.changeBy lookUp c.interface.role = .ok change ∧ change.Carries k) d.peers c.peers
  pushes : ∃ link addresses, s.kernel.links.find? ⟨d.name⟩ = some link ∧
    addresses.Perm (s.linkAddresses link) ∧ ∀ (t : Keeper) (l : Link), t.kernel.Healthy →
      t.kernel.links.find? ⟨d.name⟩ = some l →
      Ends (updateInterface c.interface) t (PushEnds t ⟨d.name⟩
        (pushCalls d.name l.name link.mtu addresses (ownChange d) link.up))

theorem represents_of_candidate? {s : Keeper} {d : Device} {c : ImportCandidate}
    (h : s.candidate? d = some c) : s.Represents d c := by
  obtain ⟨link, found, rfl⟩ := Option.map_eq_some_iff.1 h
  constructor
  · intro lookUp
    apply List.forall₂_map_right_iff.2
    exact List.forall₂_same.2 fun k _ => changeBy_importedPeer _ k lookUp
  · refine ⟨link, Cidr.sort (s.linkAddresses link), found, Cidr.sort_perm _, ?_⟩
    intro t l healthy there
    exact updateInterface_importedInterface _ d link _ healthy there

theorem represents_of_lists {s : Keeper} {cs : List ImportCandidate} (h : s.Lists cs) :
    List.Forall₂ s.Represents s.unmanaged cs := by
  have all : List.Forall₂ (· = ·) (s.unmanaged.map s.candidate?) (cs.map some) := by
    rw [List.forall₂_eq_eq_eq]
    exact h
  rw [List.forall₂_map_left_iff, List.forall₂_map_right_iff] at all
  exact all.imp fun _ _ => represents_of_candidate?

/-- A search that succeeds represents every unmanaged device; it succeeds where no call fails and
every device has its link. -/
theorem candidates_represent_devices (s : Keeper) :
    Ends importCandidates s fun result _ =>
      (∀ cs, result = .ok cs → List.Forall₂ s.Represents s.unmanaged cs) ∧
        (s.Healthy → (∀ d ∈ s.unmanaged, s.kernel.links.find? ⟨d.name⟩ ≠ none) →
          ∃ cs, result = .ok cs) := by
  constructor
  · intro cs ok
    exact represents_of_lists ((of_importCandidates rfl).2.1 cs ok)
  · intro healthy linked
    have found : ∀ d ∈ s.unmanaged, s.candidate? d ≠ none := by
      intro d hd
      simpa [candidate?] using linked d hd
    obtain ⟨cs, k, ok, -⟩ := importCandidates_healthy healthy found
    exact ⟨cs, congrArg Prod.fst ok⟩

def strayPeer : DevicePeer where
  publicKey := ⟨.replicate 32 1, rfl⟩
  presharedKey := some ⟨.replicate 32 2, rfl⟩
  endpoint := none
  keepalive := 25
  lastHandshake := none
  received := 0
  transmitted := 0
  allowedIps := [⟨.ofValue .v6 7, 128, by decide⟩, ⟨.ofValue .v4 0x0A070003, 32, by decide⟩]

/-- A device with two peers, one of which has no settings. -/
def strayDevice : Device where
  name := "wg7"
  privateKey := some ⟨.replicate 32 3, rfl⟩
  publicKey := none
  listenPort := 51820
  firewallMark := 5
  peers :=
    [strayPeer,
      { strayPeer with
        publicKey := ⟨.replicate 32 4, rfl⟩
        presharedKey := none
        keepalive := 0
        allowedIps := [] }]

/-- A keeper that manages nothing, with the device on a link that is down. -/
def stray : Keeper where
  kernel :=
    { links := Directory.empty.insert ⟨"wg7"⟩ ⟨"wg7", 1280, false⟩
      addresses := Directory.empty.insert ⟨"wg7"⟩
        [⟨.ofValue .v4 0x0A070002, 24, by decide⟩, ⟨.ofValue .v4 0x0A070001, 24, by decide⟩]
      devices := Directory.empty.insert ⟨"wg7"⟩ strayDevice }

theorem candidates_represent_devices_stray : stray.unmanaged = [strayDevice] ∧
    ∃ c, (importCandidates.run.run stray).1 = .ok [c] ∧ stray.Represents strayDevice c := by
  have found : stray.unmanaged = [strayDevice] := rfl
  have healthy : stray.Healthy := ⟨⟨rfl, rfl⟩, rfl⟩
  have linked : ∀ d ∈ stray.unmanaged, stray.kernel.links.find? ⟨d.name⟩ ≠ none := by
    rw [found, List.forall_mem_singleton]
    decide
  obtain ⟨represented, succeeds⟩ := candidates_represent_devices stray
  obtain ⟨cs, ok⟩ := succeeds healthy linked
  have all := represented cs ok
  rw [found, List.forall₂_cons_left_iff] at all
  obtain ⟨c, rest, represents, none, rfl⟩ := all
  rw [List.forall₂_nil_left_iff.1 none] at ok
  exact ⟨found, c, ok, represents⟩

end Keeper
end TunnelKeeper

import TunnelKeeper.Proofs.Keeper.PeerEnds
import TunnelKeeper.Proofs.Kernel.Application

/-!
# What operations send to devices

A committed peer that is saved is sent as one change with all that its record asks for, a removed
one as one removal of its key, and an updated interface as one change without peers. Nothing else is
sent, and an operation that fails was refused before it sent anything, or something was lost.
-/
namespace TunnelKeeper
open Effect Step Kernel

theorem KeyPlace.parse_eq_ok_iff {place : KeyPlace} {s : String} {key : Key} :
    place.parse s = .ok key ↔ Key.parse s = .ok key := by
  unfold parse
  cases Key.parse s with
  | ok k => constructor <;> (rintro ⟨⟩; rfl)
  | error e => exact ⟨nofun, nofun⟩

/-- Whether a change says all that a record asks for under an interface of a role. -/
structure Peer.Asks (role : Role) (p : Peer) (c : PeerChange) : Prop where
  publicKey : Key.parse p.keys.publicKey = .ok c.publicKey
  presharedKey : p.presharedKey? = .ok c.presharedKey
  allowedIps : p.routes role = .ok c.allowedIps
  keepalive : c.keepalive = keepaliveInterval p.keepalive.value
  kept : c.remove = false
  update : c.updateOnly = true
  replaces : c.replaceAllowedIps = true

theorem Peer.of_changeBy {lookUp : String → Option Net.Endpoint} {role : Role} {p : Peer}
    {c : PeerChange} (h : p.changeBy lookUp role = .ok c) :
    p.Asks role c ∧ c.endpoint = if role = .client then p.namedEndpoint lookUp else none := by
  obtain ⟨publicKey, hkey, h⟩ := bind_eq_ok_iff.1 h
  obtain ⟨presharedKey, hpsk, h⟩ := bind_eq_ok_iff.1 h
  obtain ⟨routes, hroutes, h⟩ := bind_eq_ok_iff.1 h
  cases h
  exact ⟨⟨KeyPlace.parse_eq_ok_iff.1 hkey, hpsk, hroutes, rfl, rfl, rfl, rfl⟩, rfl⟩

theorem Peer.asks_of_change {role : Role} {p : Peer} {c : PeerChange} (h : p.change role = .ok c) :
    p.Asks role c :=
  (Peer.of_changeBy h).1

namespace Keeper
open Memory

/-- What saving one peer sends. -/
inductive SaveSends (p : Peer) (s : Keeper) : Except KeeperError Unit → Keeper → Prop
  | refused {e : KeeperError} : SaveSends p s (.error e) s
  | lost {e : KeeperError} {t : Keeper} (h : Lost s t) : SaveSends p s (.error e) t
  | prepared {t : Keeper} (h : p.isPrepared = true) (same : t.kernel = s.kernel) :
      SaveSends p s (.ok ()) t
  | committed {i : Interface} {c : PeerChange} {t : Keeper} (h : p.isPrepared = false)
      (managed : s.memory.interfaces.find? p.tunnel.interfaceId = some i) (asks : p.Asks i.role c)
      (sent : t.kernel.changes =
        s.kernel.changes ++ [(p.tunnel.interfaceId.text, { peers := [c] })]) :
      SaveSends p s (.ok ()) t

theorem savePeer_sends (p : Peer) (s : Keeper) : Ends (savePeer p) s (SaveSends p s) := by
  unfold savePeer
  apply look_then
  · intro _ _
    exact .refused
  intro change needed
  have prepared := (of_neededChange needed).2
  refine changeMemory_then ?_
  cases change with
  | none => exact .prepared prepared rfl
  | some c =>
    obtain ⟨i, managed, asked⟩ := of_neededChange_some needed
    apply askKernel_then
    · intro _ _ run
      exact .lost (.inr (.of_error run))
    intro _ k run
    have sent := ((ends_configureDevice _ _ _).of_run run).1
    apply ends_persist (c := .savePeer p)
    · intro _
      exact .committed prepared managed (Peer.asks_of_change asked) sent
    · intro _ fault
      exact .lost (.inl (.of_fault? (.refl _) fault))

/-- What removing one peer sends. -/
inductive RemoveSends (id : PeerId) (s : Keeper) : Except KeeperError Unit → Keeper → Prop
  | refused {e : KeeperError} : RemoveSends id s (.error e) s
  | lost {e : KeeperError} {t : Keeper} (h : Lost s t) : RemoveSends id s (.error e) t
  | prepared {p : Peer} {t : Keeper} (known : s.memory.findPeer? id = some p)
      (h : p.isPrepared = true) (same : t.kernel = s.kernel)
      (memory : t.memory = s.memory.removePeer p.tunnel.interfaceId id) :
      RemoveSends id s (.ok ()) t
  | committed {p : Peer} {key : Key} {t : Keeper} (known : s.memory.findPeer? id = some p)
      (h : p.isPrepared = false) (keyed : Key.parse p.keys.publicKey = .ok key)
      (sent : t.kernel.changes =
        s.kernel.changes ++ [(p.tunnel.interfaceId.text, { peers := [.removal key] })])
      (memory : t.memory = s.memory.removePeer p.tunnel.interfaceId id) :
      RemoveSends id s (.ok ()) t

theorem removePeer_sends (id : PeerId) (s : Keeper) :
    Ends (removePeer id) s (RemoveSends id s) := by
  unfold removePeer
  apply look_then
  · intro _ _
    exact .refused
  intro p hp
  have known := peer_eq_ok_iff.1 hp
  cases h : p.isPrepared with
  | true => exact .prepared known h rfl rfl
  | false =>
    apply check_then
    · intro _ _
      exact .refused
    intro key hkey
    apply askKernel_then
    · intro _ _ run
      exact .lost (.inr (.of_error run))
    intro _ k run
    have sent := ((ends_configureDevice _ _ _).of_run run).1
    apply persist_then (c := .deletePeer id)
    · intro _ fault
      exact .lost (.inl (.of_fault? (.refl _) fault))
    intro _
    exact .committed known h (KeyPlace.parse_eq_ok_iff.1 hkey) sent rfl

section

variable {α β : Type} {s : Keeper} {cs : List (String × DeviceChange)} {target : String}

def QuietStep (target : String) (x : Step α) : Prop :=
  ∀ (s : Keeper) (cs : List (String × DeviceChange)),
    Yields (WithKernel s fun k => k.changes = cs) (fun _ => True) (Blames target fun _ => True) x

theorem quiet_request {r : Request α} (h : Quiet r) (step : KernelStep) (target : String) :
    QuietStep target (askKernel step target r) :=
  fun s cs => yields_request (h cs) s step target

theorem quiet_setAddresses (target : String) (link : Link) (addresses : List Net.Cidr) :
    QuietStep target (setAddresses target link addresses) := by
  intro s cs
  cases addresses with
  | nil => exact .pure trivial
  | cons first rest =>
    apply (quiet_request (quiet_attempt rfl) .setAddress target s cs).bind
    intro _ _
    apply Yields.forM
    intro c _
    exact quiet_request (quiet_attempt rfl) .setAddress target s cs

theorem quiet_switchLink (i : Interface) (link : Link) :
    QuietStep i.id.text (if i.isEnabled then askKernel .enableLink i.id.text (linkSetUp link)
      else askKernel .disableLink i.id.text (linkSetDown link)) := by
  split
  · exact quiet_request (quiet_linkSetUp link) .enableLink i.id.text
  · exact quiet_request (quiet_linkSetDown link) .disableLink i.id.text

/-- What holds where an operation was done holds after a part of it that sends nothing. -/
theorem quiet_then {x : Step α} {next : α → Step β} {R : Except KeeperError β → Keeper → Prop}
    (quiet : QuietStep target x) (failed : ∀ e t, R (.error e) t)
    (ok : ∀ a k, k.changes = s.kernel.changes → Ends (next a) { s with kernel := k } R) :
    Ends (x >>= next) s R :=
  bounded_then (I := fun k => k.changes = s.kernel.changes) rfl (quiet s s.kernel.changes)
    (fun _ _ _ _ _ => failed _ _) fun a k _ hk => ok a k hk

end

/-- What a push of an interface sends where it is done. -/
theorem pushInterface_sends (i : Interface) (addresses : List Net.Cidr) (privateKey : Option Key)
    (s : Keeper) :
    Ends (pushInterface i addresses privateKey) s fun r t => r = .ok () →
      t.kernel.changes = s.kernel.changes ++ [(i.id.text, deviceChange i privateKey)] := by
  unfold pushInterface
  apply quiet_then (quiet_request (quiet_linkByName _) .openLink i.id.text) fun _ _ => nofun
  intro link k hk
  have rest (k : Kernel) (hk : k.changes = s.kernel.changes) :
      Ends (do
        setAddresses i.id.text link addresses
        askKernel .configureDevice i.id.text
          (Kernel.configureDevice i.id.text (deviceChange i privateKey))
        if i.isEnabled then askKernel .enableLink i.id.text (Kernel.linkSetUp link)
        else askKernel .disableLink i.id.text (Kernel.linkSetDown link)) { s with kernel := k }
        fun r t => r = .ok () →
          t.kernel.changes = s.kernel.changes ++ [(i.id.text, deviceChange i privateKey)] := by
    apply quiet_then (quiet_setAddresses i.id.text link addresses) fun _ _ => nofun
    intro _ k' hk'
    apply askKernel_then fun _ _ _ => nofun
    intro _ k'' run
    have sent := ((ends_configureDevice _ _ _).of_run run).1
    rw [hk', hk] at sent
    apply ((quiet_switchLink i link _ _) _ ⟨k'', sent, rfl⟩).mono
    rintro _ _ ⟨⟨_, same, rfl⟩, -⟩ _
    exact same
  dsimp only
  split
  · have mtu := quiet_request (quiet_linkSetMtu link i.mtu) .setMtu i.id.text
    apply quiet_then mtu fun _ _ => nofun
    intro _ k' hk'
    exact rest k' (hk'.trans hk)
  · exact rest k hk

/-- What an update of an interface sends. -/
theorem updateInterface_sends (i : Interface) (s : Keeper) :
    Ends (updateInterface i) s fun r t => r = .ok () → ∃ key, privateKey? i = .ok key ∧
      t.kernel.changes = s.kernel.changes ++ [(i.id.text, deviceChange i key)] := by
  unfold updateInterface
  apply check_then fun _ _ => nofun
  intro _ _
  apply check_then fun _ _ => nofun
  intro addresses _
  apply check_then fun _ _ => nofun
  intro key keyed
  apply requireInterface_then fun _ => nofun
  intro _
  apply ends_bind.2
  apply (pushInterface_sends i addresses key s).mono
  intro r t sent
  cases r with
  | error e => exact nofun
  | ok _ =>
    rw [andThen_ok]
    refine changeMemory_then ?_
    apply ends_persist (c := .saveInterface i)
    · exact fun _ _ => ⟨key, keyed, sent rfl⟩
    · exact fun _ _ => nofun

end Keeper

end TunnelKeeper

import TunnelKeeper.Proofs.Keeper.Defaults
import TunnelKeeper.Proofs.Keeper.Legibility
import TunnelKeeper.Proofs.Keeper.Takeover
import TunnelKeeper.Proofs.Service.Carrying

/-!
# Which committed peers can be pushed again

A peer is committed only if its record can be pushed. Of what the record says about the peer itself
nothing stops a later push, unless a client becomes a server. Applied defaults are not looked at,
though: they can replace the addresses that the peer inherited by some that cannot be read, and then
the record can no longer be saved as it is. It can still be deleted.
-/
namespace TunnelKeeper
open Effect Keeper Memory

namespace Peer

variable {p : Peer} {role role' : Role} {lookUp : String → Option Net.Endpoint}

/-- Whether nothing but inherited addresses can stop a push of a record under an interface of a
role. -/
structure Sound (role : Role) (p : Peer) : Prop where
  publicKey : ∃ key, Key.parse p.keys.publicKey = .ok key
  presharedKey : ∃ key, p.presharedKey? = .ok key
  chosen : p.allowedIps.isChosen = true → Legible p.allowedIps.value
  extra : role = .server → Legible p.extraAllowedIps

/-- The routes of a record are read from its addresses, and for a server from its extra ones. -/
theorem routes_eq_ok_iff :
    (∃ cs, p.routes role = .ok cs) ↔
      Legible p.allowedIps.value ∧ (role = .server → Legible p.extraAllowedIps) := by
  simp only [routes, bind_eq_ok_iff, addressesAt_eq_ok_iff, Legible]
  cases role with
  | client => simp [pure, Except.pure]
  | server => simp [bind_eq_ok_iff, addressesAt_eq_ok_iff, pure, Except.pure]

theorem sound_of_changeBy {c : Kernel.PeerChange} (h : p.changeBy lookUp role = .ok c) :
    p.Sound role ∧ Legible p.allowedIps.value := by
  obtain ⟨asks, -⟩ := of_changeBy h
  obtain ⟨allowed, extra⟩ := routes_eq_ok_iff.1 ⟨_, asks.allowedIps⟩
  exact ⟨⟨⟨_, asks.publicKey⟩, ⟨_, asks.presharedKey⟩, fun _ => allowed, extra⟩, allowed⟩

namespace Sound

theorem changeBy_iff (h : p.Sound role) (lookUp : String → Option Net.Endpoint) :
    (∃ c, p.changeBy lookUp role = .ok c) ↔ Legible p.allowedIps.value := by
  constructor
  · rintro ⟨c, done⟩
    exact (sound_of_changeBy done).2
  · intro allowed
    obtain ⟨key, hkey⟩ := h.publicKey
    obtain ⟨psk, hpsk⟩ := h.presharedKey
    obtain ⟨cs, hcs⟩ := routes_eq_ok_iff.2 ⟨allowed, h.extra⟩
    exact ⟨_, bind_eq_ok_iff.2 ⟨key, KeyPlace.parse_eq_ok_iff.2 hkey,
      bind_eq_ok_iff.2 ⟨psk, hpsk, bind_eq_ok_iff.2 ⟨cs, hcs, rfl⟩⟩⟩⟩

/-- A server asks for more than a client. -/
theorem change_role (h : p.Sound role) (stays : role = .client → role' = .client) :
    p.Sound role' where
  publicKey := h.publicKey
  presharedKey := h.presharedKey
  chosen := h.chosen
  extra serves := by
    cases role with
    | client =>
      rw [stays rfl] at serves
      contradiction
    | server => exact h.extra rfl

/-- Defaults leave alone what a peer has chosen. -/
theorem applyDefaults (h : p.Sound role) (i : Interface) : (p.applyDefaults i).Sound role where
  publicKey := h.publicKey
  presharedKey := h.presharedKey
  chosen kept := by
    have pushed := (p.renewed_applyDefaults i).allowedIps
    cases before : p.allowedIps.isChosen with
    | true =>
      rw [pushed.kept before]
      exact h.chosen before
    | false =>
      rw [pushed.renewed before] at kept
      contradiction
  extra := h.extra

end Sound

/-- Where the defaults can be read, so can the addresses that a peer inherits from them. -/
theorem legible_applyDefaults {i : Interface} (defaults : Legible i.peerDefaults.allowedIps)
    (h : Legible p.allowedIps.value) : Legible (p.applyDefaults i).allowedIps.value := by
  have pushed := (p.renewed_applyDefaults i).allowedIps
  cases before : p.allowedIps.isChosen with
  | true =>
    rw [pushed.kept before]
    exact h
  | false =>
    rw [pushed.renewed before]
    exact defaults

end Peer

/-- Whether a request leaves an interface a client if it is one. -/
def Request.LeavesClient (id : InterfaceId) (s : Service) : Request → Prop
  | .updateInterface i => i.id = id →
    ∀ j, s.keeper.memory.interfaces.find? id = some j → j.role = .client → i.role = .client
  | _ => True

/-- Whether defaults that a request applies to the peers of an interface can be read. -/
def Request.AppliesLegible (id : InterfaceId) (s : Service) : Request → Prop
  | .applyDefaults j => j = id →
    ∀ i, s.keeper.memory.interfaces.find? id = some i → Legible i.peerDefaults.allowedIps
  | _ => True

namespace Service

variable {s t u : Service} {id : InterfaceId} {i : Interface} {p : Peer}

/-- A committed peer is saved only where its change succeeds. -/
theorem sound_of_neededChange {m : Memory} {change : Option Kernel.PeerChange}
    (needed : neededChange m p = .ok change)
    (managed : m.interfaces.find? p.tunnel.interfaceId = some i)
    (committed : p.isPrepared = false) :
    p.Sound i.role ∧ Legible p.allowedIps.value := by
  have prepared := (of_neededChange needed).2
  rw [committed] at prepared
  cases change with
  | none => contradiction
  | some c =>
    obtain ⟨j, managed', asked⟩ := of_neededChange_some needed
    cases managed.symm.trans managed'
    exact Peer.sound_of_changeBy asked

theorem carries_sound {r : Request} (leaves : r.LeavesClient id s) :
    r.Carries id (fun i p => p.isPrepared = false → p.Sound i.role) s where
  updated asked here managed h committed := by
    subst asked
    exact (h committed).change_role (leaves here _ managed)
  adopted serves k _ := by
    obtain ⟨c, done, -⟩ := changeBy_importedPeer _ k Net.Endpoint.ofText?
    rw [serves]
    exact (Peer.sound_of_changeBy done).1
  renewed _ _ h committed := (h committed).applyDefaults _
  saved _ home managed needed committed := by
    subst home
    exact (sound_of_neededChange needed managed committed).1

theorem carries_legible_allowedIps {r : Request} (applies : r.AppliesLegible id s) :
    r.Carries id (fun _ p => p.isPrepared = false → Legible p.allowedIps.value) s where
  updated _ _ _ h := h
  adopted _ _ _ := legible_listText _
  renewed asked managed h committed := by
    subst asked
    exact Peer.legible_applyDefaults (applies rfl _ managed) (h committed)
  saved _ home managed needed committed := by
    subst home
    exact (sound_of_neededChange needed managed committed).2

/-- An update fails to read what the change of the record fails to read. -/
theorem misread_of_updatePeer {e : KeeperError}
    (failed : (updatePeer p).run s = (.error (.keeper e), u)) (misread : e.isMisread = true) :
    ∃ old, s.keeper.memory.findPeer? p.id = some old ∧
      ∃ i, s.keeper.memory.interfaces.find? p.tunnel.interfaceId = some i ∧
        Peer.change i.role { p with preparedAt := old.preparedAt } = .error e := by
  have ends : (updatePeer p).Ends s fun r _ => ∀ e, r = .error (.keeper e) → e.isMisread = true →
      ∃ old, s.keeper.memory.findPeer? p.id = some old ∧
        ∃ i, s.keeper.memory.interfaces.find? p.tunnel.interfaceId = some i ∧
          Peer.change i.role { p with preparedAt := old.preparedAt } = .error e := by
    apply Job.look_then
    · rintro e unknown _ ⟨⟩ misread
      rw [isMisread_of_peer unknown] at misread
      contradiction
    intro old known
    rw [Job.ends_bind, savePeers_singleton]
    apply Job.ends_keep
    rcases saved : (savePeer { p with preparedAt := old.preparedAt }).run.run s.keeper
      with ⟨_ | _, k⟩ <;> unfold Ends <;> rw [saved]
    case error e =>
      rintro _ ⟨⟩ misread
      exact ⟨old, peer_eq_ok_iff.1 known, (misread_of_savePeer saved misread).2⟩
    case ok =>
      apply Job.ends_keep
      rw [Step.ends_look]
      cases found : k.memory.peer p.id with
      | ok q => exact fun _ => nofun
      | error e =>
        rintro _ ⟨⟩ misread
        rw [isMisread_of_peer found] at misread
        contradiction
  exact ends.of_run failed e rfl misread

theorem misread_of_deletePeer {k : PeerId} {e : KeeperError}
    (failed : (deletePeer k).run s = (.error (.keeper e), u)) (misread : e.isMisread = true) :
    ∃ p, s.keeper.memory.findPeer? k = some p ∧ p.isPrepared = false ∧
      (KeyPlace.publicKey k).parse p.keys.publicKey = .error e := by
  rcases removed : (removePeer k).run.run s.keeper with ⟨r, v⟩
  rw [deletePeer, Job.run_keep removed] at failed
  cases r with
  | ok _ => cases failed
  | error e' =>
    cases failed
    exact misread_of_removePeer removed misread

/-- After every run over an empty store in which an interface that is a client stays one, the change
of a committed peer of it succeeds exactly if its allowed addresses can be read. They can be read if
the peer has chosen them, and if those could that were applied as defaults. Then saving the record
again is not refused for something that cannot be read, and deleting the peer never is. -/
theorem committed_peers_pushable {admits : Request → Service → Service → Prop} {k : PeerId}
    (started : s.keeper.Started) (empty : s.keeper.store.records = {})
    (leaves : ∀ r u v, admits r u v → r.LeavesClient id u)
    (run : Relation.ReflTransGen (Move admits) s t)
    (managed : t.keeper.memory.interfaces.find? id = some i)
    (filed : (t.keeper.memory.peersOf id).find? k = some p) (committed : p.isPrepared = false) :
    (∀ lookUp, (∃ c, p.changeBy lookUp i.role = .ok c) ↔ Legible p.allowedIps.value) ∧
      (p.allowedIps.isChosen = true → Legible p.allowedIps.value) ∧
      ((∀ r u v, admits r u v → r.AppliesLegible id u) → Legible p.allowedIps.value) ∧
      ∀ (e : Surroundings) (cause : KeeperError), cause.isMisread = true →
        (((updatePeer p).run (t.within e)).1 = .error (.keeper cause) →
          ¬ Legible p.allowedIps.value) ∧
        ((deletePeer k).run (t.within e)).1 ≠ .error (.keeper cause) := by
  have sound : p.Sound i.role :=
    under_of_requests started empty (fun r u v admitted => carries_sound (leaves r u v admitted))
      run managed filed committed
  have memory := filed_of_requests started run
  obtain ⟨rfl, home⟩ := memory.peer filed
  have known := memory.findPeer?_of_find? filed
  refine ⟨sound.changeBy_iff, sound.chosen, fun applies => ?_, fun e cause misread => ⟨?_, ?_⟩⟩
  · exact under_of_requests started empty
      (fun r u v admitted => carries_legible_allowedIps (applies r u v admitted))
      run managed filed committed
  · intro failed legible
    obtain ⟨old, known', j, managed', unread⟩ := misread_of_updatePeer (Prod.ext failed rfl) misread
    cases known.symm.trans known'
    rw [home] at managed'
    cases managed.symm.trans managed'
    obtain ⟨c, done⟩ := (sound.changeBy_iff Net.Endpoint.ofText?).2 legible
    cases done.symm.trans unread
  · intro failed
    obtain ⟨q, known', -, unread⟩ := misread_of_deletePeer (Prod.ext failed rfl) misread
    cases known.symm.trans known'
    obtain ⟨key, hkey⟩ := sound.publicKey
    cases (KeyPlace.parse_eq_ok_iff.2 hkey).symm.trans unread

def depot (allowedIps : String) : Interface := { id := ⟨"wg0"⟩, peerDefaults := { allowedIps } }

def settled : Service := serve [.createInterface { id := ⟨"wg0"⟩ }, .createPeer member] vacant

/-- The interface gets defaults, which are then applied. -/
def supplying (allowedIps : String) : List Request :=
  [.updateInterface (depot allowedIps), .applyDefaults ⟨"wg0"⟩]

def supplied (allowedIps : String) : Peer := { member with allowedIps := .inherited allowedIps }

theorem find?_settled :
    settled.keeper.memory.interfaces.find? ⟨"wg0"⟩ = some { id := ⟨"wg0"⟩ } := by
  decide +kernel

theorem committed_peers_pushable_supplied :
    let admits (r : Request) (u _ : Service) : Prop :=
      r.LeavesClient ⟨"wg0"⟩ u ∧ r.AppliesLegible ⟨"wg0"⟩ u
    let t := serve (supplying "10.0.0.0/8") settled
    vacant.keeper.Started ∧ vacant.keeper.store.records = {} ∧
      Relation.ReflTransGen (Move admits) vacant t ∧
      t.keeper.memory.interfaces.find? ⟨"wg0"⟩ = some (depot "10.0.0.0/8") ∧
      (t.keeper.memory.peersOf ⟨"wg0"⟩).find? ⟨"a"⟩ = some (supplied "10.0.0.0/8") ∧
      Legible (supplied "10.0.0.0/8").allowedIps.value ∧
      ∃ c, (supplied "10.0.0.0/8").change .server = .ok c := by
  intro admits t
  have stays : (Request.updateInterface (depot "10.0.0.0/8")).LeavesClient ⟨"wg0"⟩
      settled.healed := by
    intro _ j managed client
    cases find?_settled.symm.trans managed
    contradiction
  have updated : ((Request.updateInterface (depot "10.0.0.0/8")).after
      settled.healed).keeper.memory.interfaces.find? ⟨"wg0"⟩ = some (depot "10.0.0.0/8") := by
    decide +kernel
  have applies : (Request.applyDefaults ⟨"wg0"⟩).AppliesLegible ⟨"wg0"⟩
      ((Request.updateInterface (depot "10.0.0.0/8")).after settled.healed).healed := by
    intro _ i managed
    cases updated.symm.trans managed
    exact ⟨_, rfl⟩
  have first : Relation.ReflTransGen (Move admits) vacant settled :=
    move_serve ⟨⟨trivial, trivial⟩, ⟨trivial, trivial⟩, trivial⟩
  have run : Relation.ReflTransGen (Move admits) vacant t :=
    first.trans (move_serve ⟨⟨stays, trivial⟩, ⟨trivial, applies⟩, trivial⟩)
  have managed : t.keeper.memory.interfaces.find? ⟨"wg0"⟩ = some (depot "10.0.0.0/8") := by
    decide +kernel
  have filed : (t.keeper.memory.peersOf ⟨"wg0"⟩).find? ⟨"a"⟩ = some (supplied "10.0.0.0/8") := by
    decide +kernel
  obtain ⟨change, -, legible, -⟩ := committed_peers_pushable Keeper.started_vacant rfl
    (fun _ _ _ admitted => admitted.1) run managed filed rfl
  have read := legible fun _ _ _ admitted => admitted.2
  exact ⟨Keeper.started_vacant, rfl, run, managed, filed, read, (change _).2 read⟩

/-- Whether a request leaves the roles of interfaces as they are. -/
def KeepsRoles (s : Service) : Request → Prop
  | .updateInterface i =>
    ∀ j, s.keeper.memory.interfaces.find? i.id = some j → i.role = j.role
  | _ => True

/-- Defaults that cannot be read are accepted and applied to a committed peer, which can then no
longer be saved as it is, although nothing fails and the interface never changes its role. -/
theorem committed_peer_not_pushable :
    let admits (r : Request) (u _ : Service) : Prop := u.keeper.Healthy ∧ KeepsRoles u r
    let t := serve (supplying "nonsense") settled
    let unread := KeeperError.addresses (.allowedIps ⟨"a"⟩) (.missingLength "nonsense")
    vacant.keeper.Started ∧ vacant.keeper.store.records = {} ∧
      Relation.ReflTransGen (Move admits) vacant t ∧
      t.keeper.memory.interfaces.find? ⟨"wg0"⟩ = some (depot "nonsense") ∧
      (t.keeper.memory.peersOf ⟨"wg0"⟩).find? ⟨"a"⟩ = some (supplied "nonsense") ∧
      (supplied "nonsense").isPrepared = false ∧
      (supplied "nonsense").change (depot "nonsense").role = .error unread ∧
      ((updatePeer (supplied "nonsense")).run t.healed).1 = .error (.keeper unread) := by
  intro admits t unread
  have healthy (u : Service) : u.healed.keeper.Healthy := healthy_healed u.keeper
  have first : Relation.ReflTransGen (Move admits) vacant settled :=
    move_serve ⟨⟨healthy _, trivial⟩, ⟨healthy _, trivial⟩, trivial⟩
  have same : KeepsRoles settled.healed (.updateInterface (depot "nonsense")) := by
    intro j managed
    cases find?_settled.symm.trans managed
    rfl
  have second : Relation.ReflTransGen (Move admits) settled t :=
    move_serve ⟨⟨healthy _, same⟩, ⟨healthy _, trivial⟩, trivial⟩
  refine ⟨Keeper.started_vacant, rfl, first.trans second, ?_, ?_, rfl, ?_, ?_⟩ <;> decide +kernel

end Service

end TunnelKeeper

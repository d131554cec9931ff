import TunnelKeeper.Proofs.Keeper.Commitment
import TunnelKeeper.Proofs.Keeper.Sending

/-!
# Settings that a record determines

A saved record determines the addresses that the kernel routes to its peer, whatever was sent
before, and an updated interface its port. A pre-shared key, an interval or a firewall mark is
determined by a record that has one. A record without it sends none, so the kernel goes on with
what it had, and the record determines the settings only if that was nothing.
-/
namespace TunnelKeeper
open Effect Kernel

/-- Whether the settings of a peer of the kernel are those of a record, off where it has none. -/
structure Peer.Determines (role : Role) (p : Peer) (q : DevicePeer) : Prop where
  allowedIps : p.routes role = .ok q.allowedIps
  presharedKey : p.presharedKey? = .ok q.presharedKey
  keepalive : q.keepalive = (keepaliveInterval p.keepalive.value).getD 0

/-- What a peer of the kernel becomes when a record is pushed for it. -/
structure Peer.Settles (role : Role) (p : Peer) (before after : DevicePeer) : Prop where
  allowedIps : p.routes role = .ok after.allowedIps
  presharedKey : ∃ k, p.presharedKey? = .ok k ∧ after.presharedKey = k.or before.presharedKey
  keepalive : after.keepalive = (keepaliveInterval p.keepalive.value).getD before.keepalive

/-- Whether a peer of the kernel has none of the settings that a record leaves out. -/
structure Peer.Supersedes (p : Peer) (q : DevicePeer) : Prop where
  presharedKey : p.presharedKey? = .ok none → q.presharedKey = none
  keepalive : p.keepalive.value = 0 → q.keepalive = 0

theorem Peer.Asks.settles {role : Role} {p : Peer} {c : PeerChange} (h : p.Asks role c)
    (q : DevicePeer) : p.Settles role q (q.changed c) := by
  constructor
  · rw [h.allowedIps, DevicePeer.changed, h.replaces]
    rfl
  · exact ⟨c.presharedKey, h.presharedKey, rfl⟩
  · rw [DevicePeer.changed, h.keepalive]

/-- What was set before and is not in the record is all that keeps the record from determining the
settings. -/
theorem Peer.Settles.determines_iff {role : Role} {p : Peer} {before after : DevicePeer}
    (h : p.Settles role before after) : p.Determines role after ↔ p.Supersedes before := by
  obtain ⟨allowedIps, ⟨k, asked, presharedKey⟩, keepalive⟩ := h
  constructor
  · rintro ⟨-, key, interval⟩
    constructor
    · intro none
      rw [none] at asked key
      cases asked
      rw [presharedKey] at key
      exact (Except.ok.inj key).symm
    · intro off
      rw [keepalive, off] at interval
      exact interval
  · rintro ⟨key, interval⟩
    constructor
    · exact allowedIps
    · rw [asked, presharedKey]
      cases k with
      | some k => rfl
      | none => rw [key asked]; rfl
    · rw [keepalive]
      by_cases off : p.keepalive.value = 0
      · rw [interval off]
      · rw [keepaliveInterval, if_neg off]
        rfl

/-- Whether the settings of a device are those of an interface. -/
structure Interface.Determines (i : Interface) (d : Device) : Prop where
  listenPort : d.listenPort = i.listenPort
  firewallMark : d.firewallMark = i.firewallMark

/-- What a device becomes when its interface is updated. -/
structure Interface.Settles (i : Interface) (before after : Device) : Prop where
  listenPort : after.listenPort = i.listenPort
  firewallMark : after.firewallMark = if i.firewallMark = 0 then before.firewallMark
    else i.firewallMark
  peers : after.peers = before.peers

theorem Interface.settles_deviceChange (i : Interface) (key : Option Key) (d : Device) :
    i.Settles d (d.changed (Keeper.deviceChange i key)) := by
  constructor
  · rfl
  · change (Option.getD (if i.firewallMark = 0 then none else some i.firewallMark) _) = _
    split <;> rfl
  · rfl

theorem Interface.Settles.determines_iff {i : Interface} {before after : Device}
    (h : i.Settles before after) :
    i.Determines after ↔ (i.firewallMark = 0 → before.firewallMark = 0) := by
  constructor
  · rintro ⟨-, mark⟩ off
    rw [h.firewallMark, if_pos off] at mark
    exact mark.trans off
  · intro off
    refine ⟨h.listenPort, ?_⟩
    rw [h.firewallMark]
    split
    case isTrue none => exact (off none).trans none.symm
    case isFalse => rfl

namespace Keeper

variable {s t : Keeper} {p : Peer} {ps : List Peer}

/-- Every change that a batch sends is asked for by one of its committed peers. -/
theorem savePeers_sends (saved : (savePeers ps).run.run s = (.ok (), t)) :
    ∃ sent, t.kernel.changes = s.kernel.changes ++ sent ∧
      ∀ e ∈ sent, ∃ q ∈ ps, q.isPrepared = false ∧ ∃ role c, q.Asks role c ∧
        e = (q.tunnel.interfaceId.text, { peers := [c] }) := by
  induction ps generalizing s with
  | nil =>
    cases saved
    exact ⟨[], (List.append_nil _).symm, List.forall_mem_nil _⟩
  | cons p ps ih =>
    obtain ⟨_, u, first, rest⟩ := run_bind_eq_ok_iff.1 saved
    obtain ⟨sent, more, asked⟩ := ih rest
    have those (e : String × DeviceChange) (he : e ∈ sent) : ∃ q ∈ p :: ps, q.isPrepared = false ∧
        ∃ role c, q.Asks role c ∧ e = (q.tunnel.interfaceId.text, { peers := [c] }) := by
      obtain ⟨q, hq, asks⟩ := asked e he
      exact ⟨q, List.mem_cons_of_mem p hq, asks⟩
    cases (savePeer_sends p s).of_run first with
    | prepared _ same => exact ⟨sent, same ▸ more, those⟩
    | @committed i c _ committed _ asks begun =>
      refine ⟨(p.tunnel.interfaceId.text, { peers := [c] }) :: sent, ?_, ?_⟩
      · rw [more, begun, List.append_assoc]
        rfl
      · refine List.forall_mem_cons.2 ⟨?_, those⟩
        exact ⟨p, List.mem_cons_self, committed, _, _, asks, rfl⟩

theorem savePeers_append (ps qs : List Peer) :
    savePeers (ps ++ qs) = savePeers ps >>= fun _ => savePeers qs :=
  List.forM_append

/-- Whether a peer is the last committed one of its interface with its key, before others. -/
def LastOfKey (p : Peer) (rest : List Peer) : Prop :=
  ∀ q ∈ rest, q.isPrepared = false → q.tunnel.interfaceId = p.tunnel.interfaceId →
    Key.parse q.keys.publicKey ≠ Key.parse p.keys.publicKey

/-- The peer with the key of a committed record is settled by the record when it is pushed, and it
stays so to the end of the batch. -/
theorem settles_of_saved {rest : List Peer} (committed : p.isPrepared = false)
    (last : LastOfKey p rest) (saved : (savePeers (p :: rest)).run.run s = (.ok (), t)) :
    ∃ i key sent, s.memory.interfaces.find? p.tunnel.interfaceId = some i ∧
      Key.parse p.keys.publicKey = .ok key ∧ t.kernel.changes = s.kernel.changes ++ sent ∧
      ∀ (d : Device) q, d.peer? key = some q →
        ∃ q', (d.after p.tunnel.interfaceId.text sent).peer? key = some q' ∧
          p.Settles i.role q q' := by
  obtain ⟨_, u, first, others⟩ := run_bind_eq_ok_iff.1 saved
  obtain ⟨sent, more, asked⟩ := savePeers_sends others
  cases (savePeer_sends p s).of_run first with
  | prepared prepared =>
    rw [prepared] at committed
    contradiction
  | @committed i c _ _ managed asks begun =>
    refine ⟨i, c.publicKey, (p.tunnel.interfaceId.text, { peers := [c] }) :: sent, managed,
      asks.publicKey, ?_, fun d q known => ?_⟩
    · rw [more, begun, List.append_assoc]
      rfl
    refine ⟨q.changed c, ?_, asks.settles q⟩
    rw [Device.after_cons_self, Device.peer?_after, Device.changed_singleton,
      Device.peer?_changePeer_self asks.kept asks.update, known]
    · rfl
    · -- the others of the batch have other keys or other interfaces
      rintro e he ⟨here, c', hc', same⟩
      obtain ⟨q', hq', committed', role, c'', asks', rfl⟩ := asked e he
      cases List.mem_singleton.1 hc'
      have home : q'.tunnel.interfaceId = p.tunnel.interfaceId := Id.ext' here
      exact last q' hq' committed' home (by rw [asks'.publicKey, asks.publicKey, same])

/-- Each committed record of a batch that was saved settles the peer with its key, from the moment
at which it is pushed, and an interface that was updated settles its device. Either determines the
settings if nothing was set before that it leaves out, and only then. -/
theorem settings_of_records {s t : Keeper} :
    (∀ {done rest : List Peer} {p : Peer},
      (savePeers (done ++ p :: rest)).run.run s = (.ok (), t) → p.isPrepared = false →
        LastOfKey p rest →
        ∃ u i key sent, (savePeers done).run.run s = (.ok (), u) ∧
          u.memory.interfaces.find? p.tunnel.interfaceId = some i ∧
          Key.parse p.keys.publicKey = .ok key ∧ t.kernel.changes = u.kernel.changes ++ sent ∧
          ∀ (d : Device) q, d.peer? key = some q →
            ∃ q', (d.after p.tunnel.interfaceId.text sent).peer? key = some q' ∧
              p.Settles i.role q q' ∧ (p.Determines i.role q' ↔ p.Supersedes q)) ∧
      ∀ {i : Interface}, (updateInterface i).run.run s = (.ok (), t) →
        ∃ sent, t.kernel.changes = s.kernel.changes ++ sent ∧
          ∀ d : Device, i.Settles d (d.after i.id.text sent) ∧
            (i.Determines (d.after i.id.text sent) ↔
              (i.firewallMark = 0 → d.firewallMark = 0)) := by
  constructor
  · intro done rest p saved committed last
    rw [savePeers_append] at saved
    obtain ⟨_, u, before, saved⟩ := run_bind_eq_ok_iff.1 saved
    obtain ⟨i, key, sent, managed, keyed, more, settled⟩ := settles_of_saved committed last saved
    refine ⟨u, i, key, sent, before, managed, keyed, more, fun d q known => ?_⟩
    obtain ⟨q', found, settles⟩ := settled d q known
    exact ⟨q', found, settles, settles.determines_iff⟩
  · intro i updated
    obtain ⟨key, -, sent⟩ := (updateInterface_sends i s).of_run updated rfl
    refine ⟨_, sent, fun d => ?_⟩
    rw [Device.after_cons_self]
    have settles := i.settles_deviceChange key d
    exact ⟨settles, settles.determines_iff⟩

def guardedMember : Peer :=
  { member with
    presharedKey := some "AwMDAwMDAwMDAwMDAwMDAwMDAwMDAwMDAwMDAwMDAwM="
    keepalive := .chosen 25 }

def markedInterface : Interface := { id := ⟨"wg0"⟩, firewallMark := 5 }

theorem settings_of_records_furnished :
    (∃ t key sent, (savePeers [guardedMember]).run.run furnished = (.ok (), t) ∧
      t.kernel.changes = furnished.kernel.changes ++ sent ∧
      ∀ (d : Device) q, d.peer? key = some q →
        ∃ q', (d.after "wg0" sent).peer? key = some q' ∧ guardedMember.Determines .server q') ∧
      ∃ t sent, (updateInterface markedInterface).run.run furnished = (.ok (), t) ∧
        t.kernel.changes = furnished.kernel.changes ++ sent ∧
        ∀ d : Device, markedInterface.Determines (d.after "wg0" sent) := by
  have complete (q : DevicePeer) : guardedMember.Supersedes q :=
    ⟨fun blank => absurd blank (by decide +kernel), fun off => absurd off (by decide)⟩
  have alone {s t : Keeper} (saved : (savePeers ([] ++ [guardedMember])).run.run s = (.ok (), t)) :
      ∃ i key sent, s.memory.interfaces.find? ⟨"wg0"⟩ = some i ∧
        t.kernel.changes = s.kernel.changes ++ sent ∧ ∀ (d : Device) q, d.peer? key = some q →
          ∃ q', (d.after "wg0" sent).peer? key = some q' ∧
            guardedMember.Determines i.role q' := by
    obtain ⟨u, i, key, sent, before, here, -, more, settled⟩ :=
      settings_of_records.1 saved rfl (List.forall_mem_nil _)
    cases before
    refine ⟨i, key, sent, here, more, fun d q known => ?_⟩
    obtain ⟨q', found, -, determined⟩ := settled d q known
    exact ⟨q', found, determined.2 (complete q)⟩
  have saved : ((savePeers [guardedMember]).run.run furnished).1 = .ok () := by decide +kernel
  have updated : ((updateInterface markedInterface).run.run furnished).1 = .ok () := by
    decide +kernel
  have managed : furnished.memory.interfaces.find? ⟨"wg0"⟩ = some { id := ⟨"wg0"⟩ } := by
    decide +kernel
  constructor
  · rcases run : (savePeers [guardedMember]).run.run furnished with ⟨r, t⟩
    rw [run] at saved
    subst saved
    obtain ⟨i, key, sent, here, more, settled⟩ := alone run
    obtain rfl := Option.some.inj (here.symm.trans managed)
    exact ⟨t, key, sent, rfl, more, settled⟩
  · rcases run : (updateInterface markedInterface).run.run furnished with ⟨r, t⟩
    rw [run] at updated
    subst updated
    obtain ⟨sent, more, settled⟩ := settings_of_records.2 run
    have marked : markedInterface.firewallMark ≠ 0 := by decide
    exact ⟨t, sent, rfl, more, fun d => (settled d).2.2 fun unmarked => absurd unmarked marked⟩

def guardingKey : Key := ⟨List.replicate 32 3, List.length_replicate⟩

/-- What becomes of a device that knows the peer when the record without settings is saved and the
interface without a mark is updated, with all that was sent before. -/
def plainly (s : Keeper) : Except KeeperError Unit × Except KeeperError Unit × Device :=
  let saved := (savePeers [member]).run.run s
  let updated := (updateInterface { id := ⟨"wg0"⟩ }).run.run saved.2
  let d : Device := ⟨"wg0", none, none, 0, 0, [.blank memberKey]⟩
  (saved.1, updated.1, d.after "wg0" updated.2.kernel.changes)

/-- The same record and the same interface leave other settings when some were sent before. -/
theorem settings_linger :
    Key.parse member.keys.publicKey = .ok memberKey ∧
      plainly furnished =
        (.ok (), .ok (), ⟨"wg0", none, none, 0, 0, [.blank memberKey]⟩) ∧
      plainly (carryOut (calmly [.savePeers [guardedMember], .updateInterface markedInterface])
          furnished) =
        (.ok (), .ok (), ⟨"wg0", none, none, 0, 5, [{ DevicePeer.blank memberKey with
          presharedKey := some guardingKey, keepalive := 25 }]⟩) := by
  refine ⟨?_, ?_, ?_⟩ <;> decide +kernel

end Keeper

end TunnelKeeper

import TunnelKeeper.Proofs.Keeper.PeerEnds
import TunnelKeeper.Proofs.Keeper.Upkeep
import TunnelKeeper.Proofs.Memory.Joining

/-!
# Which peers join

A saved peer joins its interface unless it would hide a committed one. The renewed peers of an
interface join it in the places of the old ones, and the peers of a candidate without prepared ones
join it once it is managed. What survives joining therefore holds wherever these passes stop.
-/
namespace TunnelKeeper.Keeper
open TunnelKeeper Memory Store

variable {m : Memory} {K : Memory → Records → Prop} {r : Records}

/-- A peer that fits joins if it may be saved. -/
theorem joins_of_fits {p : Peer} (hm : m.Filed) (fits : Fits m p.tunnel.interfaceId p)
    (allowed : MayBeSaved m p) : Joins m p.tunnel.interfaceId p := by
  constructor
  · exact fits
  · intro _ prepared hq
    exact allowed _ (hm.findPeer?_of_find? hq) prepared

section

variable {id : InterfaceId} {i : Interface}

theorem joins_of_renewed {p : Peer} (hm : m.Filed) (managed : m.interfaces.find? id = some i)
    (hp : p ∈ renewedPeers m i id) : Joins m i.id p := by
  cases hm.interface managed
  obtain ⟨old, hold, rfl⟩ := List.mem_map.1 hp
  obtain ⟨-, found⟩ := hm.of_mem_records hold
  constructor
  · have here := Directory.contains_of_find? found
    exact ⟨Directory.contains_of_find? managed, rfl, hm.alone here⟩
  · intro _ prepared hq
    cases found.symm.trans hq
    exact prepared

theorem eq_of_renewed {p q : Peer} (hm : m.Filed) (hp : p ∈ renewedPeers m i id)
    (hq : q ∈ renewedPeers m i id) (same : p.id = q.id) : p = q := by
  obtain ⟨a, ha, rfl⟩ := List.mem_map.1 hp
  obtain ⟨b, hb, rfl⟩ := List.mem_map.1 hq
  have hid : a.id = b.id := same
  have found := (hm.of_mem_records ha).2
  rw [hid, (hm.of_mem_records hb).2] at found
  rw [Option.some.inj found]

theorem kept_renewed {done rest : List Peer} (hK : SurvivesJoining K) (hm : m.Filed)
    (managed : m.interfaces.find? id = some i) (split : renewedPeers m i id = done ++ rest)
    (h : K m r) :
    K (m.addPeers i.id done) (Change.applyAll (saves done) r) ∧
      ∀ p ∈ rest, Joins (m.addPeers i.id done) i.id p :=
  hK.upTo split h (fun _ hp => joins_of_renewed hm managed hp) fun _ hp _ hq same => by
    rw [eq_of_renewed hm hp hq same]

theorem kept_allRenewed (hK : SurvivesJoining K) (hm : m.Filed)
    (managed : m.interfaces.find? id = some i) (h : K m r) :
    K (m.addPeers i.id (renewedPeers m i id))
      (Change.applyAll (saves (renewedPeers m i id)) r) :=
  (kept_renewed hK hm managed (List.append_nil _).symm h).1

end

variable {c : ImportCandidate}

theorem isPrepared_adopted {p : Peer} (hc : Committed c) (hp : p ∈ adoptedPeers c) :
    p.isPrepared = false := by
  obtain ⟨q, hq, rfl⟩ := List.mem_map.1 hp
  have same : (adopt c.interface.id q).preparedAt = q.preparedAt := by
    unfold adopt
    split <;> rfl
  rw [Peer.isPrepared, same, hc q hq]
  rfl

theorem Importable.joins {p : Peer} (h : Importable m c) (hp : p ∈ adoptedPeers c) :
    Joins (m.addInterface c.interface) c.interface.id p := by
  have unknown := findPeer?_eq_none_iff.1 (h.unknown hp)
  constructor
  · refine ⟨contains_addInterface m c.interface, h.home hp, fun {j} _ => ?_⟩
    rw [peersOf_addInterface, Directory.contains_eq_false_iff, unknown j]
  · intro _ _ hq
    rw [peersOf_addInterface, unknown] at hq
    contradiction

theorem kept_adopted {done rest : List Peer} (hK : SurvivesJoining K) (hc : Committed c)
    (importable : Importable m c) (split : adoptedPeers c = done ++ rest)
    (h : K (m.addInterface c.interface) r) :
    K ((m.addInterface c.interface).addPeers c.interface.id done)
        (Change.applyAll (done.map .savePeer) r) ∧
      ∀ p ∈ rest, Joins ((m.addInterface c.interface).addPeers c.interface.id done)
        c.interface.id p := by
  have saved : saves done = done.map .savePeer := saves_of_committed fun p hp =>
    isPrepared_adopted hc (split ▸ List.mem_append_left rest hp)
  rw [← saved]
  apply hK.upTo split h
  · intro _ hp
    exact importable.joins hp
  · intro p hp q hq _
    rw [isPrepared_adopted hc hp, isPrepared_adopted hc hq]

theorem kept_allAdopted (hK : SurvivesJoining K) (hc : Committed c) (importable : Importable m c)
    (h : K (m.addInterface c.interface) r) :
    K ((m.addInterface c.interface).addPeers c.interface.id (adoptedPeers c))
      (Change.applyAll ((adoptedPeers c).map .savePeer) r) :=
  (kept_adopted hK hc importable (List.append_nil _).symm h).1

end TunnelKeeper.Keeper

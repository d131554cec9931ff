import TunnelKeeper.Proofs.Keeper.Recording

/-!
# Deleting an interface with its peers

Where nothing fails, a managed interface is deleted in every state, and memory forgets it and its
peers. The records of other interfaces stay as they are. A deletion takes those peers out of the
store that memory holds as committed, so a stored peer of the interface is left if memory holds it
as prepared or not at all. It is not left in runs that keep committed peers committed.
-/
namespace TunnelKeeper.Keeper
open TunnelKeeper Effect Memory Store

/-- What is left of everything when an interface was deleted with its peers. -/
structure Cascade (id : InterfaceId) (s t : Keeper) : Prop where
  interfaces : t.memory.interfaces = s.memory.interfaces.erase id
  slots : t.memory.peers = s.memory.peers.erase id
  forgotten {k : PeerId} {p : Peer} : t.memory.findPeer? k = some p → p.tunnel.interfaceId ≠ id
  stored : t.store.records.interfaces = s.store.records.interfaces.erase id
  /-- The stored peers of other interfaces stay. -/
  foreign {k : PeerId} {p : Peer} : p.tunnel.interfaceId ≠ id →
    (t.store.records.peers.find? k = some p ↔ s.store.records.peers.find? k = some p)
  /-- A stored peer of the interface is left if memory does not hold it as committed. -/
  own {k : PeerId} {p : Peer} : p.tunnel.interfaceId = id →
    (t.store.records.peers.find? k = some p ↔ s.store.records.peers.find? k = some p ∧
      ∀ q, (s.memory.peersOf id).find? k = some q → q.isPrepared = true)

variable {s t : Keeper} {id : InterfaceId}

/-- Which identifiers a deletion takes out of the store. -/
theorem exists_committed_iff (hm : s.memory.Filed) {k : PeerId} :
    (∃ q ∈ committedPeers s.memory id, q.id = k) ↔
      ∃ q, (s.memory.peersOf id).find? k = some q ∧ q.isPrepared = false := by
  constructor
  · rintro ⟨q, hq, rfl⟩
    obtain ⟨known, committed⟩ := List.mem_filter.1 hq
    exact ⟨q, (hm.of_mem_records known).2, by simpa using committed⟩
  · rintro ⟨q, hq, committed⟩
    exact ⟨q, mem_committedPeers hq committed, (hm.peer hq).1⟩

theorem cascade_of_deleted (hm : s.memory.Filed) (recorded : s.memory.Recorded s.store.records)
    (memory : t.memory = s.memory.removeInterface id)
    (records : t.store.records =
      (Change.applyAll (deletions (committedPeers s.memory id)) s.store.records).deleteInterface
        id) : Cascade id s t := by
  have left (k : PeerId) : t.store.records.peers.find? k =
      if ∃ q, (s.memory.peersOf id).find? k = some q ∧ q.isPrepared = false then none
      else s.store.records.peers.find? k := by
    rw [records, ← if_congr (exists_committed_iff hm) rfl rfl]
    exact find?_deletions _ _ _
  constructor
  case interfaces => rw [memory]; rfl
  case slots => rw [memory]; rfl
  case forgotten =>
    intro k p known
    obtain ⟨j, hj⟩ := exists_of_findPeer? known
    rw [memory, peersOf_removeInterface] at hj
    split at hj
    case isTrue => contradiction
    case isFalse other => exact (hm.peer hj).2 ▸ other
  case stored =>
    rw [records]
    exact congrArg (Directory.erase · id) (interfaces_deletions _ _)
  case foreign =>
    intro k p other
    rw [left]
    split
    case isTrue deleted =>
      obtain ⟨q, hq, committed⟩ := deleted
      have home := (hm.peer hq).2
      rw [recorded.peer hq committed]
      refine ⟨nofun, ?_⟩
      rintro ⟨⟩
      exact absurd home other
    case isFalse => rfl
  case own =>
    intro k p _
    rw [left]
    split
    case isTrue deleted =>
      obtain ⟨q, hq, committed⟩ := deleted
      refine ⟨nofun, fun ⟨_, hidden⟩ => ?_⟩
      rw [hidden q hq] at committed
      contradiction
    case isFalse kept =>
      refine ⟨fun hp => ⟨hp, fun q hq => ?_⟩, And.left⟩
      exact eq_true_of_ne_false fun committed => kept ⟨q, hq, committed⟩

/-- Nothing of an interface is left if memory covers the store. -/
theorem Cascade.foreign_of_covers (h : Cascade id s t)
    (covers : s.memory.Covers s.store.records) {k : PeerId} {p : Peer}
    (hp : t.store.records.peers.find? k = some p) : p.tunnel.interfaceId ≠ id := by
  rintro rfl
  obtain ⟨stored, hidden⟩ := (h.own rfl).1 hp
  obtain ⟨q, hq, committed⟩ := covers.peer stored
  rw [hidden q hq] at committed
  contradiction

variable {admits : Action → Keeper → Keeper → Prop}

theorem recorded_of_admitted (started : Started s)
    (healthy : ∀ a v w, admits a v w → v.Healthy)
    (run : Relation.ReflTransGen (AdmittedMove admits) s t) :
    t.memory.Recorded t.store.records := by
  induction run with
  | refl =>
    obtain ⟨written, loaded⟩ := started.written_and_memory
    rw [loaded]
    exact .ofRecords written.filed
  | tail before move ih =>
    cases move with
    | act e a admitted =>
      have filed := filed_of_admitted started before
      exact recorded_after (s := Keeper.within _ e) a (healthy _ _ _ admitted) filed ih

/-- After every run in which nothing fails a managed interface is deleted with its peers, up to the
stored peers that memory does not hold as committed; in runs that keep committed peers committed
there are none. -/
theorem cascade_of_run {s t : Keeper} (started : Started s)
    (complete : s.store.records.Complete) (healthy : ∀ a v w, admits a v w → v.Healthy)
    (run : Relation.ReflTransGen (AdmittedMove admits) s t) {e : Surroundings}
    (calm : (t.within e).Healthy) {id : InterfaceId}
    (managed : t.memory.interfaces.contains id = true) :
    ∃ u, (deleteInterface id).run.run (t.within e) = (.ok (), u) ∧ Cascade id t u ∧
      ((∀ a v w, admits a v w → a.KeepsCommitted v.memory) →
        ∀ k p, u.store.records.peers.find? k = some p → p.tunnel.interfaceId ≠ id) := by
  rcases deleted : (deleteInterface id).run.run (t.within e) with ⟨r, u⟩
  have ends := (deleteInterface_healthy id calm).of_run deleted
  cases ends with
  | refused unmanaged => exact absurd managed unmanaged
  | done _ _ memory records =>
    have recorded := recorded_of_admitted started healthy run
    have cascade : Cascade id t u :=
      cascade_of_deleted (filed_of_admitted started run) recorded memory records
    refine ⟨u, rfl, cascade, fun keeps k p hp => ?_⟩
    exact cascade.foreign_of_covers (covers_of_admitted started complete keeps run) hp

theorem cascade_of_run_furnished :
    furnished.memory.interfaces.contains ⟨"wg0"⟩ = true ∧
      furnished.store.records.peers.find? member.id = some member ∧
      ∃ u, (deleteInterface ⟨"wg0"⟩).run.run (furnished.within .calm) = (.ok (), u) ∧
        Cascade ⟨"wg0"⟩ furnished u ∧
        ∀ k p, u.store.records.peers.find? k = some p → p.tunnel.interfaceId ≠ ⟨"wg0"⟩ := by
  let admits (a : Action) (v _ : Keeper) : Prop := v.Healthy ∧ a.KeepsCommitted v.memory
  have alone (m : Memory) : m.AllMayBeSaved [member] :=
    allMayBeSaved_of_committed (List.forall_mem_singleton.2 rfl)
  have run : Relation.ReflTransGen (AdmittedMove admits) vacant furnished := by
    apply admitted_calmly
    refine List.forall_mem_cons.2 ⟨?_, List.forall_mem_singleton.2 ?_⟩
    · exact fun v healthy => ⟨healthy, trivial⟩
    · exact fun v healthy => ⟨healthy, alone v.memory⟩
  have managed : furnished.memory.interfaces.contains ⟨"wg0"⟩ = true := by decide +kernel
  have stored : furnished.store.records.peers.find? member.id = some member := by decide +kernel
  have calm (t : Keeper) : (t.within .calm).Healthy := ⟨⟨rfl, rfl⟩, rfl⟩
  obtain ⟨u, deleted, cascade, foreign⟩ := cascade_of_run started_vacant complete_vacant
    (fun _ _ _ admitted => admitted.1) run (calm furnished) managed
  exact ⟨managed, stored, u, deleted, cascade, foreign fun _ _ _ admitted => admitted.2⟩

/-- Whether operations lead to a managed interface that is deleted while a stored peer of it is
left, although nothing fails. -/
structure LeavesPeer (as : List Action) : Prop where
  run : Relation.ReflTransGen (AdmittedMove fun _ v _ => v.Healthy) vacant
    (carryOut (calmly as) vacant)
  managed : (carryOut (calmly as) vacant).memory.interfaces.contains ⟨"wg0"⟩ = true
  deleted : ((deleteInterface ⟨"wg0"⟩).run.run (carryOut (calmly as) vacant).healed).1 = .ok ()
  gone : ((Action.deleteInterface ⟨"wg0"⟩).after
    (carryOut (calmly as) vacant).healed).store.records.interfaces.contains ⟨"wg0"⟩ = false
  left : ((Action.deleteInterface ⟨"wg0"⟩).after
    (carryOut (calmly as) vacant).healed).store.records.peers.find? member.id = some member

/-- A committed peer that is saved while it is prepared and a prepared one that is taken over with
a device are left when their interface is deleted. -/
theorem cascade_incomplete :
    LeavesPeer (furnishing ++ [.savePeers [preparedMember]]) ∧
      LeavesPeer [.importInterface ⟨{ id := ⟨"wg0"⟩ }, "", "", [preparedMember]⟩] := by
  have calm (as : List Action) : Relation.ReflTransGen (AdmittedMove fun _ v _ => v.Healthy) vacant
      (carryOut (calmly as) vacant) :=
    admitted_calmly vacant fun _ _ _ healthy => healthy
  constructor
  · exact ⟨calm _, by decide +kernel, by decide +kernel, by decide +kernel, by decide +kernel⟩
  · exact ⟨calm _, by decide +kernel, by decide +kernel, by decide +kernel, by decide +kernel⟩

end TunnelKeeper.Keeper

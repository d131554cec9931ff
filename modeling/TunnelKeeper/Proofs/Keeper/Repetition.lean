import TunnelKeeper.Proofs.Keeper.Batch
import TunnelKeeper.Proofs.Keeper.Run

/-!
# Repeating an operation that failed

An operation that changes what is managed can be repeated until it gets through. What a failed try
leaves behind is part of what the operation would have done, and it is no reason to refuse it: the
next try does that part again and everything else, so that it leaves what a single try would have
left. For each operation there is one lemma about what a failed try leaves and one about the try
after it.
-/
namespace TunnelKeeper.Keeper
open TunnelKeeper Effect Step Memory

variable {s t : Keeper} {e : KeeperError} {m : Memory} {r : Store.Records}

/-- One try that met faults and failed. -/
def FailedTry (x : Step Unit) (s t : Keeper) : Prop :=
  ∃ f e, x.run.run (s.under f) = (.error e, t)

section

variable {i : Interface} {id : InterfaceId}

/-- An update keeps the link, however it ends. -/
theorem hasLink_updateInterface (linked : s.kernel.HasLink i.id.text) :
    Ends (updateInterface i) s fun _ t => t.kernel.HasLink i.id.text := by
  unfold updateInterface
  apply check_then
  · exact fun _ _ => linked
  intro _ _
  apply check_then
  · exact fun _ _ => linked
  intro addresses _
  apply check_then
  · exact fun _ _ => linked
  intro privateKey _
  apply requireInterface_then
  · exact fun _ => linked
  intro _
  rw [ends_bind]
  apply (yields_pushInterface s i (.hasLink _) addresses privateKey s ⟨_, linked, rfl⟩).mono
  rintro r _ ⟨⟨k, linked, rfl⟩, -, -⟩
  cases r with
  | error e => exact linked
  | ok _ =>
    rw [andThen_ok]
    apply changeMemory_then
    apply ends_persist (c := .saveInterface i)
    · exact fun _ => linked
    · exact fun _ _ => linked

theorem of_updateInterface_eq_error (h : (updateInterface i).run.run s = (.error e, t)) :
    (t.memory = s.memory ∨ t.memory = withInterface s.memory i) ∧
      t.store.records = s.store.records := by
  cases (updateInterface_ends i s).of_run h with
  | refused => exact ⟨.inl rfl, rfl⟩
  | notPushed => exact ⟨.inl rfl, rfl⟩
  | notStored => exact ⟨.inr rfl, rfl⟩

theorem updateInterface_again (intended : Completes (updateInterface i) s m r)
    (failed : FailedTry (updateInterface i) s t) : Completes (updateInterface i) t m r := by
  obtain ⟨u, rfl, rfl⟩ := completes_updateInterface_iff.1 intended
  obtain ⟨f, e, run⟩ := failed
  have linked : t.kernel.HasLink i.id.text :=
    (hasLink_updateInterface (s := s.under f) u.linked).of_run run
  obtain ⟨memory, records⟩ := of_updateInterface_eq_error run
  have managed : t.memory.interfaces.contains i.id = true := by
    rcases memory with memory | memory <;> rw [memory]
    · exact u.managed
    · exact contains_withInterface _ i
  refine completes_updateInterface_iff.2 ⟨⟨u.named, u.addressed, u.keyed, managed, linked⟩, ?_, ?_⟩
  · rcases memory with memory | memory <;> rw [memory]
    · rfl
    · exact withInterface_withInterface _ i
  · rw [records]
    rfl

theorem of_deleteInterface_eq_error (h : (deleteInterface id).run.run s = (.error e, t)) :
    t.memory = s.memory ∧ ∃ deleted, deleted ⊆ committedPeers s.memory id ∧
      t.store.records = Store.Change.applyAll (Store.deletions deleted) s.store.records := by
  cases (deleteInterface_ends id s).of_run h with
  | refused => exact ⟨rfl, [], List.nil_subset _, rfl⟩
  | notPushed => exact ⟨rfl, [], List.nil_subset _, rfl⟩
  | @peerNotDeleted done rest p cause k managed split fault =>
    refine ⟨rfl, done, ?_, Store.records_changedAll _ _⟩
    rw [split]
    exact List.subset_append_left done _
  | notDeleted => exact ⟨rfl, _, List.Subset.refl _, Store.records_changedAll _ _⟩

theorem deleteInterface_again (intended : Completes (deleteInterface id) s m r)
    (failed : FailedTry (deleteInterface id) s t) : Completes (deleteInterface id) t m r := by
  obtain ⟨managed, rfl, rfl⟩ := completes_deleteInterface_iff.1 intended
  obtain ⟨f, e, run⟩ := failed
  obtain ⟨memory, deleted, known, records⟩ := of_deleteInterface_eq_error run
  rw [completes_deleteInterface_iff, memory, records]
  refine ⟨managed, rfl, ?_⟩
  exact congrArg (Store.Records.deleteInterface · id) (Store.applyAll_deletions_again known _)

/-- Peers of which some have been renewed are renewed to the same. -/
theorem renewedPeers_again {ps : List Peer} (hm : m.Filed)
    (managed : m.interfaces.find? id = some i) (known : ps ⊆ renewedPeers m i id) :
    renewedPeers (m.addPeers i.id ps) i id = renewedPeers m i id := by
  unfold renewedPeers
  rw [← Directory.records_map, ← Directory.records_map, peersOf_addPeers,
    if_pos (hm.interface managed).symm, hm.interface managed, Directory.map_insertAll]
  intro p hp
  obtain ⟨old, hold, rfl⟩ := List.mem_map.1 (known hp)
  exact ⟨old, (hm.of_mem_records hold).2, Peer.applyDefaults_applyDefaults i old⟩

theorem of_applyDefaults_eq_error (managed : s.memory.interfaces.find? id = some i)
    (h : (applyDefaults id).run.run s = (.error e, t)) :
    ∃ filed stored, filed ⊆ renewedPeers s.memory i id ∧ stored ⊆ renewedPeers s.memory i id ∧
      t.memory = s.memory.addPeers i.id filed ∧
      t.store.records = Store.Change.applyAll (Store.saves stored) s.store.records := by
  cases (applyDefaults_ends id s).of_run h with
  | refused => exact ⟨[], [], List.nil_subset _, List.nil_subset _, rfl, rfl⟩
  | @notStored j done rest p cause found split committed fault =>
    cases found.symm.trans managed
    have upTo : done ++ [p] ⊆ renewedPeers s.memory i id := by
      rw [split, List.append_cons done p rest]
      exact List.subset_append_left _ rest
    refine ⟨done ++ [p], done, upTo, ?_, ?_, Store.records_changedAll _ _⟩
    · exact List.Subset.trans (List.subset_append_left done [p]) upTo
    · exact (addPeers_concat s.memory _ done p).symm

theorem applyDefaults_again (hm : s.memory.Filed) (intended : Completes (applyDefaults id) s m r)
    (failed : FailedTry (applyDefaults id) s t) : Completes (applyDefaults id) t m r := by
  obtain ⟨i, managed, rfl, rfl⟩ := completes_applyDefaults_iff.1 intended
  obtain ⟨f, e, run⟩ := failed
  obtain ⟨filed, stored, hf, hs, memory, records⟩ :=
    of_applyDefaults_eq_error (s := s.under f) managed run
  change t.memory = s.memory.addPeers i.id filed at memory
  rw [completes_applyDefaults_iff, memory, records, interfaces_addPeers]
  refine ⟨i, managed, ?_, ?_⟩
  · rw [renewedPeers_again hm managed hf]
    exact fileAll_again _ hf
  · rw [renewedPeers_again hm managed hf]
    exact Store.applyAll_saves_again hs _

end

theorem savePeers_again {ps : List Peer} (intended : Completes (savePeers ps) s m r)
    (failed : FailedTry (savePeers ps) s t) : Completes (savePeers ps) t m r := by
  obtain ⟨savable, rfl, rfl⟩ := completes_savePeers_iff.1 intended
  obtain ⟨f, e, run⟩ := failed
  obtain ⟨filed, stored, hf, hs, memory, records⟩ := of_savePeers_eq_error run
  rw [completes_savePeers_iff, memory, records]
  exact ⟨savable.filePeers hf, fileAll_again _ hf, Store.applyAll_saves_again hs _⟩

theorem of_removePeer_eq_error {id : PeerId} (h : (removePeer id).run.run s = (.error e, t)) :
    t.memory = s.memory ∧ t.store.records = s.store.records := by
  cases (removePeer_ends id s).of_run h with
  | refused => exact ⟨rfl, rfl⟩
  | notPushed => exact ⟨rfl, rfl⟩
  | notStored => exact ⟨rfl, rfl⟩

theorem removePeer_again {id : PeerId} (intended : Completes (removePeer id) s m r)
    (failed : FailedTry (removePeer id) s t) : Completes (removePeer id) t m r := by
  obtain ⟨f, e, run⟩ := failed
  obtain ⟨memory, records⟩ := of_removePeer_eq_error run
  rw [completes_removePeer_iff] at intended ⊢
  rw [memory, records]
  exact intended

/-- The operations on what is there already. -/
inductive Repeatable where
  | updateInterface (i : Interface)
  | deleteInterface (id : InterfaceId)
  | applyDefaults (id : InterfaceId)
  | savePeers (ps : List Peer)
  | removePeer (id : PeerId)

def Repeatable.step : Repeatable → Step Unit
  | .updateInterface i => Keeper.updateInterface i
  | .deleteInterface id => Keeper.deleteInterface id
  | .applyDefaults id => Keeper.applyDefaults id
  | .savePeers ps => Keeper.savePeers ps
  | .removePeer id => Keeper.removePeer id

theorem Repeatable.filed (op : Repeatable) (hm : s.memory.Filed) :
    Ends op.step s fun _ t => t.memory.Filed := by
  cases op with
  | updateInterface i => exact filed_updateInterface i hm
  | deleteInterface id => exact filed_deleteInterface id hm
  | applyDefaults id => exact filed_applyDefaults id hm
  | savePeers ps => exact filed_savePeers ps hm
  | removePeer id => exact filed_removePeer id hm

theorem Repeatable.again {op : Repeatable} (hm : s.memory.Filed)
    (intended : Completes op.step s m r) (failed : FailedTry op.step s t) :
    Completes op.step t m r := by
  cases op with
  | updateInterface i => exact updateInterface_again intended failed
  | deleteInterface id => exact deleteInterface_again intended failed
  | applyDefaults id => exact applyDefaults_again hm intended failed
  | savePeers ps => exact savePeers_again intended failed
  | removePeer id => exact removePeer_again intended failed

/-- What an operation would do is what it does after any number of failed tries. -/
theorem Repeatable.again_and_again {op : Repeatable} (hm : s.memory.Filed)
    (intended : Completes op.step s m r)
    (tries : Relation.ReflTransGen (FailedTry op.step) s t) :
    t.memory.Filed ∧ Completes op.step t m r := by
  induction tries with
  | refl => exact ⟨hm, intended⟩
  | tail _ failed ih =>
    obtain ⟨f, e, run⟩ := id failed
    exact ⟨(op.filed (s := Keeper.under _ f) ih.1).of_run run, again ih.1 ih.2 failed⟩

/-- An operation that would be done where nothing fails is done after any number of failed tries,
and memory and the stored records are then as if it had been done at once. -/
theorem repaired_by_repetition {s₀ s t done : Keeper} (started : Started s₀)
    (run : Relation.ReflTransGen Move s₀ s) (e : Surroundings) (op : Repeatable)
    (intended : op.step.run.run (s.within e).healed = (.ok (), done))
    (tries : Relation.ReflTransGen (FailedTry op.step) (s.within e) t) :
    ∃ u, op.step.run.run t.healed = (.ok (), u) ∧ u.memory = done.memory ∧
      u.store.records = done.store.records := by
  have hm : s.memory.Filed := filed_of_run started run
  have completes := completes_iff_run.2 ⟨done, intended, rfl, rfl⟩
  exact completes_iff_run.1 (Repeatable.again_and_again (s := s.within e) hm completes tries).2

/-- Faults under which no interface is deleted from the store. -/
def undeletable : Faults where
  kernel := .healthy
  supported := true
  store o _ := if o = .deleteInterface then some (.database "locked") else none

/-- A try that gets as far as the stored interface, after its stored peer is gone. -/
theorem repaired_by_repetition_solo :
    ∃ t u, FailedTry (deleteInterface ⟨"wg0"⟩) (solo.within .calm) t ∧
      t.memory.findPeer? ⟨"a"⟩ ≠ none ∧ t.store.records.peers.find? ⟨"a"⟩ = none ∧
      (deleteInterface ⟨"wg0"⟩).run.run t.healed = (.ok (), u) ∧
      u.memory.interfaces.contains ⟨"wg0"⟩ = false ∧
      u.store.records.interfaces.contains ⟨"wg0"⟩ = false := by
  have intended : (deleteInterface ⟨"wg0"⟩).run.run (solo.within .calm).healed =
      (.ok (), ((deleteInterface ⟨"wg0"⟩).run.run (solo.within .calm).healed).2) := rfl
  have failed : FailedTry (deleteInterface ⟨"wg0"⟩) (solo.within .calm)
      ((deleteInterface ⟨"wg0"⟩).run.run ((solo.within .calm).under undeletable)).2 :=
    ⟨undeletable, .persistence .deleteInterface "wg0" (.database "locked"), rfl⟩
  obtain ⟨u, repaired, memory, records⟩ := repaired_by_repetition started_solo .refl .calm
    (.deleteInterface ⟨"wg0"⟩) intended (.single failed)
  refine ⟨_, u, failed, nofun, rfl, repaired, ?_, ?_⟩
  · rw [memory]
    rfl
  · rw [records]
    rfl

end TunnelKeeper.Keeper

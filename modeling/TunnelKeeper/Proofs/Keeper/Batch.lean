import TunnelKeeper.Proofs.Keeper.Health

/-!
# Batches where nothing fails

A batch of peers is saved as a whole if each of them could be saved alone and no two of them claim
one identifier for different interfaces. Whether this holds does not change when some of them have
been filed already. A batch that stops half way has filed the peers up to the one at which it
stopped, and has stored the committed ones before that.
-/
namespace TunnelKeeper.Keeper
open TunnelKeeper Effect Step Memory

variable {m : Memory} {p q : Peer} {ps qs : List Peer}

theorem savable_iff :
    Savable m p ↔ checkPeer p = .ok () ∧ isElsewhere m p = false ∧
      ∃ i, m.interfaces.find? p.tunnel.interfaceId = some i ∧
        (p.isPrepared = false → ∃ c, p.change i.role = .ok c) := by
  unfold Savable neededChange
  constructor
  · rintro ⟨change, h⟩
    obtain ⟨_, checked, h⟩ := bind_eq_ok_iff.1 h
    obtain ⟨i, hi, h⟩ := bind_eq_ok_iff.1 h
    cases elsewhere : isElsewhere m p with
    | true =>
      rw [elsewhere] at h
      contradiction
    | false =>
      refine ⟨checked, rfl, i, interface_eq_ok_iff.1 hi, fun committed => ?_⟩
      rw [elsewhere, committed] at h
      obtain ⟨c, hc, -⟩ := bind_eq_ok_iff.1 h
      exact ⟨c, hc⟩
  · rintro ⟨checked, here, i, hi, pushable⟩
    have found := interface_eq_ok_iff.2 hi
    cases prepared : p.isPrepared with
    | true =>
      refine ⟨none, bind_eq_ok_iff.2 ⟨(), checked, bind_eq_ok_iff.2 ⟨i, found, ?_⟩⟩⟩
      rw [here]
      rfl
    | false =>
      obtain ⟨c, hc⟩ := pushable prepared
      refine ⟨some c, bind_eq_ok_iff.2 ⟨(), checked, bind_eq_ok_iff.2 ⟨i, found, ?_⟩⟩⟩
      rw [here]
      exact bind_eq_ok_iff.2 ⟨c, hc, rfl⟩

/-- A peer stands elsewhere after another one was filed if it did before or if the other one has
taken its identifier elsewhere. -/
theorem isElsewhere_addPeer_eq_false_iff :
    isElsewhere (m.addPeer p.tunnel.interfaceId p) q = false ↔
      isElsewhere m q = false ∧ (q.id = p.id → q.tunnel.interfaceId = p.tunnel.interfaceId) := by
  rw [isElsewhere_eq_false_iff, isElsewhere_eq_false_iff]
  simp only [Directory.contains_eq_false_iff, find?_peersOf_addPeer]
  constructor
  · intro h
    constructor
    · intro i hi
      have after := h i hi
      split at after
      case isTrue => contradiction
      case isFalse => exact after
    · intro same
      refine Decidable.byContradiction fun other => ?_
      have after := h p.tunnel.interfaceId (Ne.symm other)
      rw [if_pos ⟨rfl, same⟩] at after
      contradiction
  · rintro ⟨before, agree⟩ i hi
    rw [if_neg]
    · exact before i hi
    · rintro ⟨rfl, same⟩
      exact hi (agree same).symm

theorem savable_addPeer_iff :
    Savable (m.addPeer p.tunnel.interfaceId p) q ↔
      Savable m q ∧ (q.id = p.id → q.tunnel.interfaceId = p.tunnel.interfaceId) := by
  rw [savable_iff, savable_iff, isElsewhere_addPeer_eq_false_iff]
  exact ⟨fun ⟨checked, ⟨here, agree⟩, i⟩ => ⟨⟨checked, here, i⟩, agree⟩,
    fun ⟨⟨checked, here, i⟩, agree⟩ => ⟨checked, ⟨here, agree⟩, i⟩⟩

/-- Memory after peers were filed one after the other, each under its own interface. -/
def filePeers (m : Memory) (ps : List Peer) : Memory := m.fileAll (·.tunnel.interfaceId) ps

structure AllSavable (m : Memory) (ps : List Peer) : Prop where
  each : ∀ p ∈ ps, Savable m p
  agree : ∀ p ∈ ps, ∀ q ∈ ps, q.id = p.id → q.tunnel.interfaceId = p.tunnel.interfaceId

theorem allSavable_cons_iff :
    AllSavable m (p :: ps) ↔
      Savable m p ∧ AllSavable (m.addPeer p.tunnel.interfaceId p) ps := by
  constructor
  · rintro ⟨each, agree⟩
    rw [List.forall_mem_cons] at each
    refine ⟨each.1, fun q hq => ?_, fun a ha b hb => ?_⟩
    · have together := agree p List.mem_cons_self q (List.mem_cons_of_mem p hq)
      exact savable_addPeer_iff.2 ⟨each.2 q hq, together⟩
    · exact agree a (List.mem_cons_of_mem p ha) b (List.mem_cons_of_mem p hb)
  · rintro ⟨first, each, agree⟩
    have others (q : Peer) (hq : q ∈ ps) := savable_addPeer_iff.1 (each q hq)
    refine ⟨List.forall_mem_cons.2 ⟨first, fun q hq => (others q hq).1⟩, ?_⟩
    intro a ha b hb same
    rcases List.mem_cons.1 ha with rfl | ha' <;> rcases List.mem_cons.1 hb with rfl | hb'
    · rfl
    · exact (others b hb').2 same
    · exact ((others a ha').2 same.symm).symm
    · exact agree a ha' b hb' same

/-- A batch of which some peers are filed already can be saved as before. -/
theorem AllSavable.filePeers (h : AllSavable m ps) (known : qs ⊆ ps) :
    AllSavable (filePeers m qs) ps := by
  induction qs generalizing m with
  | nil => exact h
  | cons q qs ih =>
    obtain ⟨hq, hqs⟩ := List.cons_subset.1 known
    refine ih ⟨fun p hp => ?_, h.agree⟩ hqs
    exact savable_addPeer_iff.2 ⟨h.each p hp, h.agree q hq p hp⟩

theorem savePeers_healthy {s : Keeper} (ps : List Peer) (h : s.Healthy) :
    Ends (savePeers ps) s (HealthyEnds (AllSavable s.memory ps) (filePeers s.memory ps)
      (Store.Change.applyAll (Store.saves ps) s.store.records)) := by
  induction ps generalizing s with
  | nil => exact .done ⟨List.forall_mem_nil _, List.forall_mem_nil _⟩ h rfl rfl
  | cons p ps ih =>
    apply ends_bind.2
    apply (savePeer_healthy p h).mono
    intro r t ht
    cases ht with
    | refused unsavable => exact .refused fun all => unsavable (allSavable_cons_iff.1 all).1
    | done savable healthy memory records =>
      apply (ih healthy).mono
      rw [memory, records]
      intro r u hu
      cases hu with
      | refused unsavable => exact .refused fun all => unsavable (allSavable_cons_iff.1 all).2
      | done rest healthy memory records =>
        refine .done (allSavable_cons_iff.2 ⟨savable, rest⟩) healthy memory ?_
        rw [records, Store.applyAll_saves_cons p ps]

theorem completes_savePeers_iff {s : Keeper} {r : Store.Records} :
    Completes (savePeers ps) s m r ↔ AllSavable s.memory ps ∧ filePeers s.memory ps = m ∧
      Store.Change.applyAll (Store.saves ps) s.store.records = r :=
  completes_iff (savePeers_healthy ps (healthy_healed s))

variable {s t : Keeper}

theorem of_savePeer_eq_ok (h : (savePeer p).run.run s = (.ok (), t)) :
    t.memory = s.memory.addPeer p.tunnel.interfaceId p ∧
      t.store.records = Store.Change.applyAll (Store.saves [p]) s.store.records := by
  cases (savePeer_ends p s).of_run h with
  | prepared _ prepared =>
    rw [Store.saves_of_prepared prepared]
    exact ⟨rfl, rfl⟩
  | done _ committed =>
    rw [Store.saves_of_committed (List.forall_mem_singleton.2 committed)]
    exact ⟨rfl, rfl⟩

/-- A peer that is not saved may be filed but is not stored. -/
theorem of_savePeer_eq_error {e : KeeperError}
    (h : (savePeer p).run.run s = (.error e, t)) :
    (t.memory = s.memory ∨ t.memory = s.memory.addPeer p.tunnel.interfaceId p) ∧
      t.store.records = s.store.records := by
  cases (savePeer_ends p s).of_run h with
  | refused => exact ⟨.inl rfl, rfl⟩
  | notPushed => exact ⟨.inr rfl, rfl⟩
  | notStored => exact ⟨.inr rfl, rfl⟩

/-- A batch that stops half way has filed and stored some of its peers. -/
theorem of_savePeers_eq_error {e : KeeperError} (h : (savePeers ps).run.run s = (.error e, t)) :
    ∃ filed stored, filed ⊆ ps ∧ stored ⊆ ps ∧ t.memory = filePeers s.memory filed ∧
      t.store.records = Store.Change.applyAll (Store.saves stored) s.store.records := by
  induction ps generalizing s with
  | nil => cases h
  | cons p ps ih =>
    change (savePeer p >>= fun _ => savePeers ps).run.run s = _ at h
    rw [run_bind] at h
    rcases first : (savePeer p).run.run s with ⟨_ | _, u⟩ <;> rw [first] at h
    case error =>
      cases h
      obtain ⟨memory, records⟩ := of_savePeer_eq_error first
      rcases memory with memory | memory
      · exact ⟨[], [], List.nil_subset _, List.nil_subset _, memory, records⟩
      · have here : [p] ⊆ p :: ps := List.cons_subset.2 ⟨List.mem_cons_self, List.nil_subset _⟩
        exact ⟨[p], [], here, List.nil_subset _, memory, records⟩
    case ok =>
      obtain ⟨memory, records⟩ := of_savePeer_eq_ok first
      obtain ⟨filed, stored, hf, hs, memory', records'⟩ := ih h
      refine ⟨p :: filed, p :: stored, List.cons_subset_cons p hf, List.cons_subset_cons p hs,
        ?_, ?_⟩
      · rw [memory', memory]
        rfl
      · rw [records', records, Store.applyAll_saves_cons p stored]

end TunnelKeeper.Keeper

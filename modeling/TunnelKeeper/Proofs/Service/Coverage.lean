import TunnelKeeper.Proofs.Keeper.Coverage
import TunnelKeeper.Proofs.Service.Request

/-!
# Requests leave memory ahead of the store

After any requests, one after the other, memory covers the store, whatever calls to the kernel and
writes to the store fail on the way. A deletion that succeeds therefore leaves no stored peer of the
interface behind, and expiry never drops a stored peer.
-/
namespace TunnelKeeper
open Effect

/-- A keeper whose memory is filed and covers the store. -/
structure Keeper.Covered (s : Keeper) : Prop where
  filed : s.memory.Filed
  covers : s.memory.Covers s.store.records

namespace Keeper.Covered

variable {s : Keeper}

theorem of_ends {α : Type} {x : Step α} (filed : Ends x s fun _ t => t.memory.Filed)
    (covers : Ends x s fun _ t => t.memory.Covers t.store.records) :
    Ends x s fun _ t => Covered t :=
  ⟨filed, covers⟩

theorem obligations (h : Covered s) : Obligations Covered s := by
  have ⟨hm, hc⟩ := h
  constructor
  · exact fun k => ⟨hm, hc⟩
  · intro id
    have created := of_ends (filed_createInterface id hm) (covers_createInterface id hc)
    apply created.mono
    intro r t ht
    constructor
    · exact ht
    · exact fun _ i =>
        of_ends (filed_updateInterface i ht.filed) (covers_updateInterface i ht.covers)
  · exact fun i => of_ends (filed_updateInterface i hm) (covers_updateInterface i hc)
  · exact fun id => of_ends (filed_deleteInterface id hm) (covers_deleteInterface id hm hc)
  · exact fun k c committed => of_ends (filed_importInterface c hm)
      (covers_importInterface committed hc)
  · exact fun id => of_ends (filed_applyDefaults id hm) (covers_applyDefaults id hm hc)
  · exact fun allowed => of_ends (filed_savePeer _ hm) (covers_savePeer hm hc allowed)
  · exact fun id => of_ends (filed_removePeer id hm) (covers_removePeer id hm hc)
  · intro maxAge
    have expired := of_ends (filed_expirePrepared maxAge hm) (covers_expirePrepared maxAge hc)
    apply expired.mono
    intro r t ht
    constructor
    · exact ht
    · exact of_ends (filed_refreshStats ht.filed) (covers_refreshStats ht.covers)

end Keeper.Covered

namespace Service

theorem covered_of_run {s t : Service} (started : s.keeper.Started)
    (complete : s.keeper.store.records.Complete)
    (run : Relation.ReflTransGen (Move fun r s _ => r.Fresh s) s t) : t.keeper.Covered := by
  induction run with
  | refl =>
    obtain ⟨written, loaded⟩ := started.written_and_memory
    constructor
    · rw [loaded]
      exact .ofRecords written.filed
    · rw [loaded]
      exact .ofRecords written complete
  | tail _ move ih =>
    cases move with
    | request e r fresh =>
      have before : (Keeper.within _ e).Covered := ⟨ih.filed, ih.covers⟩
      exact Request.keeps before.obligations fresh

/-- A deletion that succeeds takes all peers of the interface out of the store. -/
theorem foreign_of_deleteInterface {t u : Service} (h : t.keeper.Covered) {id : InterfaceId}
    (deleted : (deleteInterface id).run t = (.ok (), u)) {k : PeerId} {p : Peer}
    (hp : u.keeper.store.records.peers.find? k = some p) : p.tunnel.interfaceId ≠ id := by
  have ends : (deleteInterface id).Ends t fun r u => r = .ok () →
      ∀ k p, u.keeper.store.records.peers.find? k = some p → p.tunnel.interfaceId ≠ id := by
    apply Job.ends_keep
    apply (Keeper.deleteInterface_ends id t.keeper).mono
    intro r u hu
    cases hu with
    | refused => exact nofun
    | notPushed => exact nofun
    | peerNotDeleted => exact nofun
    | notDeleted => exact nofun
    | done =>
      intro _ k p hp
      refine h.covers.foreign_of_deletions h.filed (k := k) ?_
      simpa [Store.Change.apply, Store.Records.deleteInterface] using hp
  exact ends.of_run deleted rfl k p hp

/-- Expiry leaves every committed peer where it was. -/
theorem find?_of_expirePrepared {s : Keeper} {i : InterfaceId} {k : PeerId} {q : Peer}
    (hq : (s.memory.peersOf i).find? k = some q) (committed : q.isPrepared = false)
    (maxAge : Int) :
    Ends (Keeper.expirePrepared maxAge) s fun _ t => (t.memory.peersOf i).find? k = some q := by
  apply (Keeper.expirePrepared_ends maxAge s).mono
  intro r t ht
  cases ht with
  | undated => exact hq
  | dropped cutoff => exact Keeper.find?_dropStale_of_committed hq committed cutoff

/-- After every run memory covers the store, a deletion that succeeds leaves no stored peer of its
interface, and expiry drops no stored peer. -/
theorem memory_covers_store {s t : Service} (started : s.keeper.Started)
    (complete : s.keeper.store.records.Complete)
    (run : Relation.ReflTransGen (Move fun r s _ => r.Fresh s) s t) :
    t.keeper.memory.Covers t.keeper.store.records ∧
      (∀ e id u, (deleteInterface id).run (t.within e) = (.ok (), u) →
        ∀ k p, u.keeper.store.records.peers.find? k = some p → p.tunnel.interfaceId ≠ id) ∧
      ∀ e maxAge k p, t.keeper.store.records.peers.find? k = some p →
        ∃ q, (t.keeper.memory.peersOf p.tunnel.interfaceId).find? k = some q ∧
          (((Keeper.Action.expirePrepared maxAge).after (t.keeper.within e)).memory.peersOf
            p.tunnel.interfaceId).find? k = some q := by
  have covered := covered_of_run started complete run
  constructor
  · exact covered.covers
  constructor
  · intro e id u deleted k p hp
    have before : (t.keeper.within e).Covered := ⟨covered.filed, covered.covers⟩
    exact foreign_of_deleteInterface before deleted hp
  · intro e maxAge k p hp
    obtain ⟨q, hq, committed⟩ := covered.covers.peer hp
    exact ⟨q, hq, find?_of_expirePrepared (s := t.keeper.within e) hq committed maxAge⟩

theorem memory_covers_store_solo :
    solo.keeper.Started ∧ solo.keeper.store.records.Complete ∧
      let t := (Request.deleteInterface ⟨"wg0"⟩).after (solo.within .full)
      t.keeper.memory.Covers t.keeper.store.records := by
  have run : Relation.ReflTransGen (Move fun r s _ => r.Fresh s) solo
      ((Request.deleteInterface ⟨"wg0"⟩).after (solo.within .full)) :=
    .single (.request .full _ trivial)
  refine ⟨Keeper.started_solo, Keeper.complete_solo, ?_⟩
  exact (memory_covers_store Keeper.started_solo Keeper.complete_solo run).1

end Service

end TunnelKeeper

import TunnelKeeper.Proofs.Keeper.Mirror
import TunnelKeeper.Proofs.Service.Request

/-!
# Restarting

After any requests, one after the other, in which no write and no change of a device is lost, the
store mirrors memory. A keeper that is started over that store therefore manages the same interfaces
and the same peers, without the prepared ones.
-/
namespace TunnelKeeper
open Effect

namespace Keeper

/-- A keeper whose memory is filed and mirrored by the store. -/
structure Mirrored (s : Keeper) : Prop where
  filed : s.memory.Filed
  mirrors : s.memory.Mirrors s.store.records

/-- A keeper that is mirrored unless something was lost since another state. -/
structure MirroredSince (s t : Keeper) : Prop where
  filed : t.memory.Filed
  mirrors : t.memory.Mirrors t.store.records ∨ Lost s t

variable {s : Keeper}

theorem mirroredSince_of_write {α : Type} {s₀ : Keeper} {x : Step α}
    (filed : Ends x s fun _ t => t.memory.Filed)
    (mirrors : Ends x s fun _ t =>
      t.memory.Mirrors t.store.records ∨ s₀.store.LostWrite t.store) :
    Ends x s fun _ t => MirroredSince s₀ t :=
  ⟨filed, mirrors.imp id Or.inl⟩

theorem Mirrored.obligations (h : Mirrored s) : Obligations (MirroredSince s) s := by
  have ⟨hm, hr⟩ := h
  constructor
  · exact fun k => ⟨hm, .inl hr⟩
  · intro name
    have filed := filed_createInterface name hm
    have created := mirrors_createInterface name hr
    constructor
    · exact ⟨filed, created.1.imp id Or.inl⟩
    · intro ok i
      obtain ⟨mirrors, later⟩ := created.2 ok
      exact mirroredSince_of_write (filed_updateInterface i filed)
        (mirrors_updateInterface later i mirrors)
  · exact fun i => mirroredSince_of_write (filed_updateInterface i hm)
      (mirrors_updateInterface (.refl _) i hr)
  · exact fun id => mirroredSince_of_write (filed_deleteInterface id hm)
      (mirrors_deleteInterface id hm hr)
  · exact fun k c committed => mirroredSince_of_write (filed_importInterface c hm)
      (mirrors_importInterface (s := { s with kernel := k }) committed hr)
  · exact fun id => mirroredSince_of_write (filed_applyDefaults id hm)
      (mirrors_applyDefaults id hm hr)
  · exact fun allowed => ⟨filed_savePeer _ hm, mirrors_savePeer hm hr allowed⟩
  · exact fun id => mirroredSince_of_write (filed_removePeer id hm) (mirrors_removePeer id hm hr)
  · intro maxAge
    have expired : Ends (expirePrepared maxAge) s fun _ t => Mirrored t :=
      ⟨filed_expirePrepared maxAge hm, mirrors_expirePrepared maxAge hr⟩
    apply expired.mono
    intro r t ht
    constructor
    · exact ⟨ht.filed, .inl ht.mirrors⟩
    · exact ⟨filed_refreshStats ht.filed, .inl (mirrors_refreshStats ht.mirrors)⟩

end Keeper

namespace Memory

variable {m : Memory} {r : Store.Records}

theorem Mirrors.filed (h : m.Mirrors r) (hm : m.Filed) : r.Filed := by
  constructor
  · intro id i hi
    rw [h.interfaces] at hi
    exact hm.interface hi
  · intro id p hp
    obtain ⟨i, hp, -⟩ := h.peer.1 hp
    exact (hm.peer hp).1

theorem Mirrors.peersOf_ofRecords (h : m.Mirrors r) (hm : m.Filed) {j : InterfaceId}
    (managed : m.interfaces.contains j = true) :
    (Memory.ofRecords r).peersOf j = (m.peersOf j).filter fun _ p => !p.isPrepared := by
  ext id p
  rw [find?_peersOf_ofRecords (h.filed hm), Directory.find?_filter, Option.filter_eq_some_iff,
    h.peer, h.interfaces, Bool.not_eq_true']
  constructor
  · rintro ⟨⟨i, hp, committed⟩, rfl, -⟩
    exact ⟨(hm.peer hp).2 ▸ hp, committed⟩
  · rintro ⟨hp, committed⟩
    exact ⟨⟨j, hp, committed⟩, (hm.peer hp).2, managed⟩

/-- What is loaded from a store that mirrors memory has the slots of memory without the prepared
peers. -/
theorem Mirrors.peers_ofRecords (h : m.Mirrors r) (hm : m.Filed) :
    (Memory.ofRecords r).peers = m.peers.map fun ps => ps.filter fun _ p => !p.isPrepared := by
  have loaded := Filed.ofRecords (h.filed hm)
  have slots (j : InterfaceId) : (Memory.ofRecords r).peers.contains j = m.peers.contains j := by
    rw [loaded.slots, interfaces_ofRecords (h.filed hm), h.interfaces, hm.slots]
  ext j : 1
  rw [Directory.find?_map]
  cases hj : m.peers.find? j with
  | none =>
    rw [← Directory.contains_eq_false_iff] at hj
    exact Directory.contains_eq_false_iff.1 ((slots j).trans hj)
  | some ps =>
    have there := Directory.contains_of_find? hj
    obtain ⟨qs, hqs⟩ := Directory.contains_iff_find?.1 ((slots j).trans there)
    have same := h.peersOf_ofRecords hm ((hm.slots j).symm.trans there)
    rw [peersOf_of_find? hqs, peersOf_of_find? hj] at same
    rw [hqs, same]
    rfl

end Memory

namespace Service

/-- Whether a request took a fresh key, if any, and lost nothing. -/
def LosesNothing (r : Request) (s t : Service) : Prop := r.Fresh s ∧ ¬ s.keeper.Lost t.keeper

theorem mirrored_of_run {s t : Service} (started : s.keeper.Started)
    (complete : s.keeper.store.records.Complete)
    (run : Relation.ReflTransGen (Move LosesNothing) s t) : t.keeper.Mirrored := by
  induction run with
  | refl =>
    obtain ⟨written, loaded⟩ := started.written_and_memory
    constructor
    · rw [loaded]
      exact .ofRecords written.filed
    · rw [loaded]
      exact .ofRecords written complete
  | tail _ move ih =>
    cases move with
    | request e r kept =>
      have before : (Keeper.within _ e).Mirrored := ⟨ih.filed, ih.mirrors⟩
      obtain ⟨filed, mirrors⟩ := Request.keeps before.obligations kept.1
      exact ⟨filed, mirrors.resolve_right kept.2⟩

/-- After every run that loses nothing the store mirrors memory, and a keeper that is started over
what is stored manages the same interfaces and the same peers without the prepared ones. -/
theorem store_mirrors_memory {s t : Service} (started : s.keeper.Started)
    (complete : s.keeper.store.records.Complete)
    (run : Relation.ReflTransGen (Move LosesNothing) s t) :
    t.keeper.memory.Mirrors t.keeper.store.records ∧
      ∀ u : Keeper, u.store.records = t.keeper.store.records → u.Readable →
        ∃ v, Keeper.load.run.run u = (.ok (), v) ∧
          v.memory.interfaces = t.keeper.memory.interfaces ∧
          v.memory.peers =
            t.keeper.memory.peers.map fun ps => ps.filter fun _ p => !p.isPrepared := by
  obtain ⟨filed, mirrors⟩ := mirrored_of_run started complete run
  constructor
  · exact mirrors
  intro u same readable
  rcases hl : Keeper.load.run.run u with ⟨r, v⟩
  have ends := (Keeper.load_ends u).of_run hl
  cases ends with
  | failed unreadable => exact absurd readable unreadable
  | done =>
    have interfaces : (Memory.ofRecords u.store.records).interfaces =
        t.keeper.memory.interfaces := by
      rw [same, Memory.interfaces_ofRecords (mirrors.filed filed), mirrors.interfaces]
    have peers : (Memory.ofRecords u.store.records).peers =
        t.keeper.memory.peers.map fun ps => ps.filter fun _ p => !p.isPrepared := by
      rw [same, mirrors.peers_ofRecords filed]
    exact ⟨_, rfl, interfaces, peers⟩

theorem losesNothing_solo :
    LosesNothing (.preparePeer ⟨"wg0"⟩ none) (solo.within .calm)
      ((Request.preparePeer ⟨"wg0"⟩ none).after (solo.within .calm)) := by
  constructor
  · rfl
  · rintro (⟨_, _, _, _, fault⟩ | ⟨_, _, _, fault | unsupported⟩)
    · exact fault rfl
    · exact fault rfl
    · contradiction

theorem store_mirrors_memory_solo :
    solo.keeper.Started ∧ solo.keeper.store.records.Complete ∧
      let t := (Request.preparePeer ⟨"wg0"⟩ none).after (solo.within .calm)
      Move LosesNothing solo t ∧ t.keeper.memory.Mirrors t.keeper.store.records := by
  have move : Move LosesNothing solo
      ((Request.preparePeer ⟨"wg0"⟩ none).after (solo.within .calm)) :=
    .request .calm _ losesNothing_solo
  refine ⟨Keeper.started_solo, Keeper.complete_solo, move, ?_⟩
  exact (store_mirrors_memory Keeper.started_solo Keeper.complete_solo (.single move)).1

end Service

end TunnelKeeper

import TunnelKeeper.Proofs.Keeper.Batch
import TunnelKeeper.Proofs.Keeper.Coverage
import TunnelKeeper.Proofs.Keeper.Run

/-!
# Runs that keep committed peers committed

A prepared peer that is saved in the place of a committed one hides the stored record, and a
prepared peer that is taken over with a device is stored and counts as never stored. In runs without
such operations memory stays ahead of the store, whatever fails in them and however often.
-/
namespace TunnelKeeper
open Effect

namespace Memory

variable {m : Memory} {p q : Peer} {ps : List Peer}

/-- Whether a batch can be saved without hiding a committed peer, be it one of the batch. -/
structure AllMayBeSaved (m : Memory) (ps : List Peer) : Prop where
  each : ∀ p ∈ ps, MayBeSaved m p
  agree : ps.Pairwise fun p q => q.id = p.id → q.isPrepared = true → p.isPrepared = true

theorem MayBeSaved.addPeer {id : InterfaceId} (hm : m.Filed) (h : MayBeSaved m q)
    (agree : q.id = p.id → q.isPrepared = true → p.isPrepared = true) :
    MayBeSaved (m.addPeer id p) q := by
  intro old known prepared
  obtain ⟨j, hj⟩ := exists_of_findPeer? known
  rw [find?_peersOf_addPeer] at hj
  split at hj
  case isTrue new =>
    cases hj
    exact agree new.2 prepared
  case isFalse => exact h old (hm.findPeer?_of_find? hj) prepared

/-- Committed peers hide nothing. -/
theorem allMayBeSaved_of_committed (h : ∀ p ∈ ps, p.isPrepared = false) : AllMayBeSaved m ps := by
  constructor
  · intro p hp _ _ prepared
    rw [h p hp] at prepared
    contradiction
  · apply List.pairwise_of_forall_mem_list
    intro _ _ q hq _ prepared
    rw [h q hq] at prepared
    contradiction

theorem AllMayBeSaved.tail {id : InterfaceId} (hm : m.Filed) (h : AllMayBeSaved m (p :: ps)) :
    AllMayBeSaved (m.addPeer id p) ps := by
  obtain ⟨agree, rest⟩ := List.pairwise_cons.1 h.agree
  constructor
  · intro q hq
    exact (h.each q (List.mem_cons_of_mem p hq)).addPeer hm (agree q hq)
  · exact rest

end Memory

namespace Keeper
open Memory

/-- One operation in whatever surroundings it finds, as far as it is admitted with the states
before and after it. -/
inductive AdmittedMove (admits : Action → Keeper → Keeper → Prop) (s : Keeper) : Keeper → Prop
  | act (e : Surroundings) (a : Action) (admitted : admits a (s.within e) (a.after (s.within e))) :
      AdmittedMove admits s (a.after (s.within e))

/-- Whether an operation puts no prepared peer in the place of a committed or a stored one. -/
def Action.KeepsCommitted (m : Memory) : Action → Prop
  | .savePeers ps => m.AllMayBeSaved ps
  | .importInterface c => Committed c
  | _ => True

variable {s t : Keeper} {admits : Action → Keeper → Keeper → Prop}

theorem filed_of_admitted (started : Started s)
    (run : Relation.ReflTransGen (AdmittedMove admits) s t) : t.memory.Filed := by
  induction run with
  | refl => exact started.filed
  | tail _ move ih =>
    cases move with
    | act e a => exact filed_after a ih

theorem covers_savePeers {ps : List Peer} (hm : s.memory.Filed)
    (h : s.memory.Covers s.store.records) (allowed : AllMayBeSaved s.memory ps) :
    Ends (savePeers ps) s fun _ t => t.memory.Covers t.store.records := by
  induction ps generalizing s with
  | nil => exact h
  | cons p ps ih =>
    have filed := filed_savePeer p hm
    have covers := covers_savePeer hm h (allowed.each p List.mem_cons_self)
    apply ends_bind.2
    rcases first : (savePeer p).run.run s with ⟨_ | _, t⟩ <;>
      unfold Ends at filed covers ⊢ <;> rw [first] at filed covers ⊢
    case error => exact covers
    case ok =>
      refine ih filed covers ?_
      rw [(of_savePeer_eq_ok first).1]
      exact allowed.tail hm

theorem covers_after (a : Action) (hm : s.memory.Filed) (h : s.memory.Covers s.store.records)
    (kept : a.KeepsCommitted s.memory) :
    (a.after s).memory.Covers (a.after s).store.records := by
  cases a with
  | createInterface id => exact covers_createInterface id h
  | updateInterface i => exact covers_updateInterface i h
  | deleteInterface id => exact covers_deleteInterface id hm h
  | applyDefaults id => exact covers_applyDefaults id hm h
  | savePeers ps => exact covers_savePeers hm h kept
  | removePeer id => exact covers_removePeer id hm h
  | importInterface c => exact covers_importInterface kept h
  | expirePrepared maxAge => exact covers_expirePrepared maxAge h
  | refreshStats => exact covers_refreshStats h

/-- Memory stays ahead of the store in runs that keep committed peers committed. -/
theorem covers_of_admitted (started : Started s) (complete : s.store.records.Complete)
    (keeps : ∀ a v w, admits a v w → a.KeepsCommitted v.memory)
    (run : Relation.ReflTransGen (AdmittedMove admits) s t) :
    t.memory.Covers t.store.records := by
  induction run with
  | refl =>
    obtain ⟨written, loaded⟩ := started.written_and_memory
    rw [loaded]
    exact .ofRecords written complete
  | tail before move ih =>
    cases move with
    | act e a admitted =>
      have filed := filed_of_admitted started before
      exact covers_after (s := Keeper.within _ e) a filed ih (keeps _ _ _ admitted)

/-- Operations one after the other, each with its own faults ahead of it. -/
def carryOut (plan : List (Faults × Action)) (s : Keeper) : Keeper :=
  plan.foldl (fun s m => m.2.after (s.under m.1)) s

theorem admitted_carryOut {plan : List (Faults × Action)} (s : Keeper)
    (h : ∀ m ∈ plan, ∀ v : Keeper, admits m.2 (v.under m.1) (m.2.after (v.under m.1))) :
    Relation.ReflTransGen (AdmittedMove admits) s (carryOut plan s) := by
  induction plan generalizing s with
  | nil => exact .refl
  | cons m plan ih =>
    rw [List.forall_mem_cons] at h
    have first : AdmittedMove admits s (m.2.after (s.under m.1)) :=
      .act ⟨(s.under m.1).kernel, s.clock, m.1.store⟩ m.2 (h.1 s)
    exact .head first (ih _ h.2)

def calmly (as : List Action) : List (Faults × Action) := as.map fun a => (.none, a)

theorem admitted_calmly {as : List Action} (s : Keeper)
    (h : ∀ a ∈ as, ∀ v : Keeper, v.Healthy → admits a v (a.after v)) :
    Relation.ReflTransGen (AdmittedMove admits) s (carryOut (calmly as) s) := by
  apply admitted_carryOut
  intro m hm v
  obtain ⟨a, ha, rfl⟩ := List.mem_map.1 hm
  exact h a ha _ (healthy_healed v)

def vacant : Keeper := (load.run.run {}).2

theorem started_vacant : Started vacant := ⟨{}, .empty, Prod.ext rfl rfl⟩

theorem complete_vacant : vacant.store.records.Complete := nofun

def member : Peer where
  id := ⟨"a"⟩
  keys := { publicKey := "AAAAAAAAAAAAAAAAAAAAAAAAAAAAAAAAAAAAAAAAAAA=" }
  tunnel := { interfaceId := ⟨"wg0"⟩ }

def memberKey : Key := ⟨List.replicate 32 0, List.length_replicate⟩

def preparedMember : Peer := { member with preparedAt := some .epoch }

/-- An interface is created and a committed peer of it is saved. -/
def furnishing : List Action := [.createInterface ⟨"wg0"⟩, .savePeers [member]]

def furnished : Keeper := carryOut (calmly furnishing) vacant

end Keeper

end TunnelKeeper

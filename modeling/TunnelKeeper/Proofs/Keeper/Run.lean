import Mathlib.Logic.Relation
import TunnelKeeper.Proofs.Keeper.Joining
import TunnelKeeper.Proofs.Memory.Loading

/-!
# Runs of the keeper

A keeper is started by loading what its store holds, and then it takes one operation after the
other. In between the kernel, the clock and the fault plan of the store may become anything. Memory
is filed when the keeper was started, every operation keeps it so however it ends, and so it is
filed after every run.
-/
namespace TunnelKeeper
open Effect Step

namespace Keeper

variable {s : Keeper}

/-- What the keeper does not control. -/
structure Surroundings where
  kernel : Kernel
  clock : Instant
  storeFaults : Store.FaultPlan

def within (s : Keeper) (e : Surroundings) : Keeper :=
  { s with kernel := e.kernel, clock := e.clock, store := { s.store with faults := e.storeFaults } }

inductive Action where
  | createInterface (id : InterfaceId)
  | updateInterface (i : Interface)
  | deleteInterface (id : InterfaceId)
  | applyDefaults (id : InterfaceId)
  | savePeers (ps : List Peer)
  | removePeer (id : PeerId)
  | importInterface (c : ImportCandidate)
  | expirePrepared (maxAge : Int)
  | refreshStats

/-- What an operation leaves, whether or not it fails. -/
def Action.after : Action → Keeper → Keeper
  | .createInterface id, s => ((Keeper.createInterface id).run.run s).2
  | .updateInterface i, s => ((Keeper.updateInterface i).run.run s).2
  | .deleteInterface id, s => ((Keeper.deleteInterface id).run.run s).2
  | .applyDefaults id, s => ((Keeper.applyDefaults id).run.run s).2
  | .savePeers ps, s => ((Keeper.savePeers ps).run.run s).2
  | .removePeer id, s => ((Keeper.removePeer id).run.run s).2
  | .importInterface c, s => ((Keeper.importInterface c).run.run s).2
  | .expirePrepared maxAge, s => ((Keeper.expirePrepared maxAge).run.run s).2
  | .refreshStats, s => (Keeper.refreshStats.run.run s).2

/-- One operation in whatever surroundings it finds. -/
inductive Move (s : Keeper) : Keeper → Prop
  | act (e : Surroundings) (a : Action) : Move s (a.after (s.within e))

def Readable (s : Keeper) : Prop :=
  s.store.faults .interfaceIds (s.store.made .interfaceIds) = none ∧
    s.store.faults .allInterfaces (s.store.made .allInterfaces) = none

/-- How loading ends: memory is replaced by what is stored, or all is left as it was. -/
inductive LoadEnds (s : Keeper) : Except KeeperError Unit → Keeper → Prop
  | failed {cause : StoreError} {st : Store} (unreadable : ¬ s.Readable)
      (same : st.records = s.store.records) :
      LoadEnds s (.error (.load cause)) { s with store := st }
  | done {st : Store} (same : st.records = s.store.records) :
      LoadEnds s (.ok ()) { s with store := st, memory := .ofRecords s.store.records }

theorem load_ends (s : Keeper) : Ends load s (LoadEnds s) := by
  unfold load Store.interfaceIds Store.allInterfaces
  rw [ends_bind]
  apply ends_askStore
  rw [ends_bind]
  apply Store.ends_attempt
  · intro _
    apply ends_bind.2
    apply ends_askStore
    rw [ends_bind]
    apply Store.ends_attempt
    · intro _
      exact .done rfl
    · intro e fault
      have unreadable : ¬ s.Readable := fun readable => by
        have second := readable.2.symm.trans fault
        contradiction
      exact .failed unreadable rfl
  · intro e fault
    have unreadable : ¬ s.Readable := fun readable => by
      have first := readable.1.symm.trans fault
      contradiction
    exact .failed unreadable rfl

/-- A keeper that has just loaded what the changes of a store have left in it. -/
def Started (s : Keeper) : Prop :=
  ∃ s₀ : Keeper, s₀.store.records.Written ∧ load.run.run s₀ = (.ok (), s)

theorem Started.written_and_memory (h : Started s) :
    s.store.records.Written ∧ s.memory = .ofRecords s.store.records := by
  obtain ⟨s₀, written, loaded⟩ := h
  have ends := (load_ends s₀).of_run loaded
  cases ends with
  | done same =>
    change Store.Records.Written _ ∧ Memory.ofRecords _ = Memory.ofRecords _
    rw [same]
    exact ⟨written, rfl⟩

theorem Started.filed (h : Started s) : s.memory.Filed := by
  obtain ⟨written, loaded⟩ := h.written_and_memory
  rw [loaded]
  exact .ofRecords written.filed

theorem filed_createInterface (id : InterfaceId) (hm : s.memory.Filed) :
    Ends (createInterface id) s fun _ t => t.memory.Filed := by
  apply (createInterface_ends id s).mono
  intro r t ht
  cases ht with
  | refused => exact hm
  | notPushed => exact hm
  | notStored => exact hm.addInterface _
  | done => exact hm.addInterface _

theorem filed_updateInterface (i : Interface) (hm : s.memory.Filed) :
    Ends (updateInterface i) s fun _ t => t.memory.Filed := by
  apply (updateInterface_ends i s).mono
  intro r t ht
  cases ht with
  | refused => exact hm
  | notPushed => exact hm
  | notStored managed => exact hm.replaceInterface managed
  | done managed => exact hm.replaceInterface managed

theorem filed_deleteInterface (id : InterfaceId) (hm : s.memory.Filed) :
    Ends (deleteInterface id) s fun _ t => t.memory.Filed := by
  apply (deleteInterface_ends id s).mono
  intro r t ht
  cases ht with
  | refused => exact hm
  | notPushed => exact hm
  | peerNotDeleted => exact hm
  | notDeleted => exact hm
  | done => exact hm.removeInterface id

theorem filed_applyDefaults (id : InterfaceId) (hm : s.memory.Filed) :
    Ends (applyDefaults id) s fun _ t => t.memory.Filed := by
  apply (applyDefaults_ends id s).mono
  intro r t ht
  cases ht with
  | refused => exact hm
  | notStored managed split =>
    apply hm.addPeersUpTo split
    intro p hp
    exact (joins_of_renewed hm managed hp).toFits
  | done managed =>
    apply hm.addPeers
    intro p hp
    exact (joins_of_renewed hm managed hp).toFits

theorem filed_savePeer (p : Peer) (hm : s.memory.Filed) :
    Ends (savePeer p) s fun _ t => t.memory.Filed := by
  apply (savePeer_ends p s).mono
  intro r t ht
  cases ht with
  | refused => exact hm
  | prepared fits => exact hm.addPeer fits
  | notPushed fits => exact hm.addPeer fits
  | notStored fits => exact hm.addPeer fits
  | done fits => exact hm.addPeer fits

theorem filed_savePeers (ps : List Peer) (hm : s.memory.Filed) :
    Ends (savePeers ps) s fun _ t => t.memory.Filed :=
  keeps_forM (fun p _ _ => filed_savePeer p) hm

theorem filed_removePeer (id : PeerId) (hm : s.memory.Filed) :
    Ends (removePeer id) s fun _ t => t.memory.Filed := by
  apply (removePeer_ends id s).mono
  intro r t ht
  cases ht with
  | refused => exact hm
  | prepared => exact hm.removePeer _ id
  | notPushed => exact hm
  | notStored => exact hm
  | done => exact hm.removePeer _ id

theorem filed_importInterface (c : ImportCandidate) (hm : s.memory.Filed) :
    Ends (importInterface c) s fun _ t => t.memory.Filed := by
  apply (importInterface_ends c s).mono
  intro r t ht
  cases ht with
  | refused => exact hm
  | interfaceNotStored => exact hm.addInterface _
  | peerNotStored importable split =>
    apply (hm.addInterface _).addPeersUpTo split
    intro p hp
    exact (importable.joins hp).toFits
  | done importable =>
    apply (hm.addInterface _).addPeers
    intro p hp
    exact (importable.joins hp).toFits

theorem filed_expirePrepared (maxAge : Int) (hm : s.memory.Filed) :
    Ends (expirePrepared maxAge) s fun _ t => t.memory.Filed := by
  apply (expirePrepared_ends maxAge s).mono
  intro r t ht
  cases ht with
  | undated => exact hm
  | dropped cutoff => exact hm.dropStale cutoff

theorem filed_refreshStats (hm : s.memory.Filed) :
    Ends refreshStats s fun _ t => t.memory.Filed := by
  apply (refreshStats_ends s).mono
  intro r t ht
  obtain ⟨k, ps, is, rfl⟩ := ht
  exact hm.congr rfl rfl

/-- Every operation keeps memory filed, however it ends. -/
theorem filed_after (a : Action) (hm : s.memory.Filed) : (a.after s).memory.Filed := by
  cases a with
  | createInterface id => exact filed_createInterface id hm
  | updateInterface i => exact filed_updateInterface i hm
  | deleteInterface id => exact filed_deleteInterface id hm
  | applyDefaults id => exact filed_applyDefaults id hm
  | savePeers ps => exact filed_savePeers ps hm
  | removePeer id => exact filed_removePeer id hm
  | importInterface c => exact filed_importInterface c hm
  | expirePrepared maxAge => exact filed_expirePrepared maxAge hm
  | refreshStats => exact filed_refreshStats hm

/-- Memory is filed after every run. -/
theorem filed_of_run {s t : Keeper} (started : Started s) (run : Relation.ReflTransGen Move s t) :
    t.memory.Filed := by
  induction run with
  | refl =>
    obtain ⟨written, loaded⟩ := started.written_and_memory
    rw [loaded]
    exact .ofRecords written.filed
  | tail _ move ih =>
    cases move with
    | act e a => exact filed_after a ih

def soloStore : Store where
  records := Store.Change.applyAll
    [.saveInterface { id := ⟨"wg0"⟩ },
      .savePeer { id := ⟨"a"⟩, tunnel := { interfaceId := ⟨"wg0"⟩ } }] {}

/-- The keeper that is started over it. -/
def solo : Keeper := (load.run.run { store := soloStore }).2

theorem started_solo : Started solo :=
  ⟨{ store := soloStore }, Store.Records.Written.empty.changeAll _, Prod.ext rfl rfl⟩

theorem complete_solo : solo.store.records.Complete := by
  intro id p hp
  have home : p.tunnel.interfaceId = ⟨"wg0"⟩ := by
    rcases Directory.of_find?_insert hp with ⟨-, rfl⟩ | hp
    · rfl
    · contradiction
  rw [home]
  rfl

def Surroundings.calm : Surroundings := ⟨{}, .epoch, .healthy⟩

def Surroundings.full : Surroundings := ⟨{}, .epoch, fun _ _ => some (.database "full")⟩

theorem filed_of_run_solo :
    Started solo ∧ Move solo ((Action.deleteInterface ⟨"wg0"⟩).after (solo.within .full)) ∧
      ((Action.deleteInterface ⟨"wg0"⟩).after (solo.within .full)).memory.Filed :=
  have move := .act .full (.deleteInterface ⟨"wg0"⟩)
  ⟨started_solo, move, filed_of_run started_solo (.single move)⟩

end Keeper

end TunnelKeeper

import TunnelKeeper.Proofs.Keeper.Commitment
import TunnelKeeper.Proofs.Memory.Counting

/-!
# Stored peers stay reachable

A stored peer whose interface is not stored is not loaded any more. In runs that keep committed
peers committed memory knows every stored peer and so manages its interface, and an interface that
is stored is not deleted while it is managed. Whatever else fails, all stored peers can therefore be
loaded as long as the record of no new interface is lost.
-/
namespace TunnelKeeper
open Effect Store

namespace Store

/-- Whether a change deletes no interface but one that is gone. -/
def Change.Spares (gone : InterfaceId → Prop) (c : Change) : Prop :=
  ∀ id, c = .deleteInterface id → gone id

variable {gone gone' : InterfaceId → Prop}

theorem spares_savePeers (ps : List Peer) : ∀ c ∈ ps.map Change.savePeer, c.Spares gone := by
  intro c hc
  obtain ⟨p, -, rfl⟩ := List.mem_map.1 hc
  exact nofun

theorem spares_deletions (ps : List Peer) : ∀ c ∈ deletions ps, c.Spares gone := by
  intro c hc
  obtain ⟨p, -, rfl⟩ := List.mem_map.1 hc
  exact nofun

namespace Records

variable {r r' : Records}

/-- What changes make of records that delete no interface but those that are gone. -/
inductive Rewritten (gone : InterfaceId → Prop) (r : Records) : Records → Prop
  | same : Rewritten gone r r
  | change {r' : Records} (c : Change) (spares : c.Spares gone) (h : Rewritten gone r r') :
      Rewritten gone r (c.apply r')

namespace Rewritten

theorem changeAll {cs : List Change} (spares : ∀ c ∈ cs, c.Spares gone)
    (h : Rewritten gone r r') : Rewritten gone r (Change.applyAll cs r') := by
  induction cs generalizing r' with
  | nil => exact h
  | cons c cs ih =>
    rw [List.forall_mem_cons] at spares
    exact ih spares.2 (h.change c spares.1)

theorem mono (h : Rewritten gone r r') (more : ∀ id, gone id → gone' id) :
    Rewritten gone' r r' := by
  induction h with
  | same => exact .same
  | change c spares _ ih => exact ih.change c fun id hc => more id (spares id hc)

theorem written (h : Rewritten gone r r') (hr : r.Written) : r'.Written := by
  induction h with
  | same => exact hr
  | change c _ _ ih => exact ih.change c

/-- An interface that is not gone stays stored. -/
theorem stored {id : InterfaceId} (h : Rewritten gone r r') (here : ¬ gone id)
    (hr : r.interfaces.contains id = true) : r'.interfaces.contains id = true := by
  induction h with
  | same => exact hr
  | change c spares _ ih =>
    cases c with
    | saveInterface i =>
      rw [Change.apply, Records.saveInterface, Directory.contains_insert, ih, Bool.or_true]
    | savePeer p => exact ih
    | deleteInterface j =>
      have other : id ≠ j := by
        rintro rfl
        exact here (spares id rfl)
      rw [Change.apply, Records.deleteInterface, Directory.contains_erase, ih,
        decide_eq_false other]
      rfl
    | deletePeer k => exact ih

end Rewritten

end Records

end Store

namespace Keeper
open Memory
open Store.Records (Rewritten)

variable {s t : Keeper}

/-- Whether the stored records were rewritten without deleting an interface that is managed. -/
def RewrittenBy (s t : Keeper) : Prop :=
  Rewritten (fun id => t.memory.interfaces.contains id = false) s.store.records t.store.records

theorem rewritten_createInterface (id : InterfaceId) (s : Keeper) :
    Ends (createInterface id) s fun _ t => RewrittenBy s t := by
  apply (createInterface_ends id s).mono
  intro r t ht
  cases ht with
  | refused => exact .same
  | notPushed => exact .same
  | notStored => exact .same
  | done => exact .change (.saveInterface { id := id }) nofun .same

theorem rewritten_updateInterface (i : Interface) (s : Keeper) :
    Ends (updateInterface i) s fun _ t => RewrittenBy s t := by
  apply (updateInterface_ends i s).mono
  intro r t ht
  cases ht with
  | refused => exact .same
  | notPushed => exact .same
  | notStored => exact .same
  | done => exact .change (.saveInterface i) nofun .same

theorem rewritten_deleteInterface (id : InterfaceId) (s : Keeper) :
    Ends (deleteInterface id) s fun _ t => RewrittenBy s t := by
  apply (deleteInterface_ends id s).mono
  intro r t ht
  cases ht with
  | refused => exact .same
  | notPushed => exact .same
  | peerNotDeleted =>
    rw [RewrittenBy, records_noted, records_changedAll]
    exact .changeAll (spares_deletions _) .same
  | notDeleted =>
    rw [RewrittenBy, records_noted, records_changedAll]
    exact .changeAll (spares_deletions _) .same
  | done =>
    rw [RewrittenBy, records_changed, records_changedAll]
    refine .change (.deleteInterface id) ?_ (.changeAll (spares_deletions _) .same)
    rintro _ ⟨⟩
    exact Directory.contains_eq_false_iff.2 (by simp [removeInterface, Directory.find?_erase])

theorem rewritten_applyDefaults (id : InterfaceId) (s : Keeper) :
    Ends (applyDefaults id) s fun _ t => RewrittenBy s t := by
  apply (applyDefaults_ends id s).mono
  intro r t ht
  cases ht with
  | refused => exact .same
  | notStored =>
    rw [RewrittenBy, records_noted, records_changedAll]
    exact .changeAll (spares_savePeers _) .same
  | done =>
    rw [RewrittenBy, withPeers, records_changedAll]
    exact .changeAll (spares_savePeers _) .same

theorem rewritten_savePeer {gone : InterfaceId → Prop} {r : Records} (p : Peer)
    (h : Rewritten gone r s.store.records) :
    Ends (savePeer p) s fun _ t => Rewritten gone r t.store.records := by
  apply (savePeer_ends p s).mono
  intro _ t ht
  cases ht with
  | refused => exact h
  | prepared => exact h
  | notPushed => exact h
  | notStored => exact h
  | done => exact .change (.savePeer p) nofun h

theorem rewritten_savePeers (ps : List Peer) (s : Keeper) :
    Ends (savePeers ps) s fun _ t => RewrittenBy s t := by
  have kept : Ends (savePeers ps) s fun _ t =>
      Rewritten (fun _ => False) s.store.records t.store.records :=
    keeps_forM (fun p _ _ => rewritten_savePeer p) .same
  apply kept.mono
  intro _ _ ht
  exact ht.mono fun _ => False.elim

theorem rewritten_removePeer (id : PeerId) (s : Keeper) :
    Ends (removePeer id) s fun _ t => RewrittenBy s t := by
  apply (removePeer_ends id s).mono
  intro r t ht
  cases ht with
  | refused => exact .same
  | prepared => exact .same
  | notPushed => exact .same
  | notStored => exact .same
  | done => exact .change (.deletePeer id) nofun .same

theorem rewritten_importInterface (c : ImportCandidate) (s : Keeper) :
    Ends (importInterface c) s fun _ t => RewrittenBy s t := by
  apply (importInterface_ends c s).mono
  intro r t ht
  cases ht with
  | refused => exact .same
  | interfaceNotStored => exact .same
  | peerNotStored =>
    rw [RewrittenBy, records_noted, records_changedAll]
    exact .changeAll (spares_savePeers _) (.change (.saveInterface c.interface) nofun .same)
  | done =>
    rw [RewrittenBy, records_changedAll]
    exact .changeAll (spares_savePeers _) (.change (.saveInterface c.interface) nofun .same)

theorem rewritten_expirePrepared (maxAge : Int) (s : Keeper) :
    Ends (expirePrepared maxAge) s fun _ t => RewrittenBy s t := by
  apply (expirePrepared_ends maxAge s).mono
  intro r t ht
  cases ht with
  | undated => exact .same
  | dropped => exact .same

theorem rewritten_refreshStats (s : Keeper) :
    Ends refreshStats s fun _ t => RewrittenBy s t := by
  apply (refreshStats_ends s).mono
  intro r t ht
  obtain ⟨k, ps, is, rfl⟩ := ht
  exact .same

/-- No operation deletes a stored interface that it leaves managed, however it ends. -/
theorem rewritten_after (a : Action) (s : Keeper) : RewrittenBy s (a.after s) := by
  cases a with
  | createInterface id => exact rewritten_createInterface id s
  | updateInterface i => exact rewritten_updateInterface i s
  | deleteInterface id => exact rewritten_deleteInterface id s
  | applyDefaults id => exact rewritten_applyDefaults id s
  | savePeers ps => exact rewritten_savePeers ps s
  | removePeer id => exact rewritten_removePeer id s
  | importInterface c => exact rewritten_importInterface c s
  | expirePrepared maxAge => exact rewritten_expirePrepared maxAge s
  | refreshStats => exact rewritten_refreshStats s

/-- Whether every managed interface is stored. -/
def AllStored (s : Keeper) : Prop :=
  ∀ id, s.memory.interfaces.contains id = true → s.store.records.interfaces.contains id = true

/-- Whether no interface that is new in memory is missing in the store. -/
def FilesNew (s t : Keeper) : Prop :=
  ∀ id, t.memory.interfaces.contains id = true →
    s.memory.interfaces.contains id = true ∨ t.store.records.interfaces.contains id = true

theorem AllStored.after {a : Action} (h : s.AllStored) (files : s.FilesNew (a.after s)) :
    (a.after s).AllStored := by
  intro id managed
  rcases files id managed with before | stored
  · exact (rewritten_after a s).stored (by simp [managed]) (h id before)
  · exact stored

/-- A stored peer can be reached if memory covers the store and what it manages is stored. -/
theorem AllStored.complete (h : s.AllStored) (hm : s.memory.Filed)
    (covers : s.memory.Covers s.store.records) : s.store.records.Complete := by
  intro k p hp
  obtain ⟨q, hq, -⟩ := covers.peer hp
  apply h
  rw [← hm.slots]
  cases slot : s.memory.peers.find? p.tunnel.interfaceId with
  | some ps => exact Directory.contains_of_find? slot
  | none =>
    rw [peersOf, slot] at hq
    contradiction

variable {admits : Action → Keeper → Keeper → Prop}

theorem written_of_admitted (started : Started s)
    (run : Relation.ReflTransGen (AdmittedMove admits) s t) : t.store.records.Written := by
  induction run with
  | refl => exact started.written_and_memory.1
  | tail _ move ih =>
    cases move with
    | act e a => exact (rewritten_after a _).written ih

theorem allStored_of_admitted (started : Started s)
    (files : ∀ a v w, admits a v w → v.FilesNew w)
    (run : Relation.ReflTransGen (AdmittedMove admits) s t) : t.AllStored := by
  induction run with
  | refl =>
    intro id managed
    obtain ⟨written, loaded⟩ := started.written_and_memory
    rwa [loaded, interfaces_ofRecords written.filed] at managed
  | @tail b _ _ move ih =>
    cases move with
    | act e a admitted => exact AllStored.after (s := b.within e) ih (files _ _ _ admitted)

/-- Whatever fails in a run, all stored peers can be reached, and a keeper that is started over the
store loads as many as are stored, provided that committed peers are kept committed and that the
record of no new interface is lost. -/
theorem stored_peers_reachable {s t : Keeper} (started : Started s)
    (complete : s.store.records.Complete)
    (keeps : ∀ a v w, admits a v w → a.KeepsCommitted v.memory)
    (files : ∀ a v w, admits a v w → v.FilesNew w)
    (run : Relation.ReflTransGen (AdmittedMove admits) s t) :
    t.store.records.Complete ∧
      ∀ u : Keeper, u.store.records = t.store.records → u.Readable →
        ∃ v, load.run.run u = (.ok (), v) ∧
          v.memory.allPeers.length = t.store.records.peers.size := by
  have reached : t.store.records.Complete :=
    (allStored_of_admitted started files run).complete (filed_of_admitted started run)
      (covers_of_admitted started complete keeps run)
  refine ⟨reached, fun u same readable => ?_⟩
  rcases loaded : load.run.run u with ⟨r, v⟩
  have ends := (load_ends u).of_run loaded
  cases ends with
  | failed unreadable => exact absurd readable unreadable
  | done =>
    have counted := (written_of_admitted started run).filed.complete_iff.1 reached
    refine ⟨_, rfl, ?_⟩
    rw [same, counted]

/-- A deletion that stops half way leaves memory as it is. -/
theorem filesNew_deleteInterface (id : InterfaceId) (s : Keeper) :
    Ends (deleteInterface id) s fun _ t => s.FilesNew t := by
  apply (deleteInterface_ends id s).mono
  intro r t ht j managed
  cases ht with
  | refused => exact .inl managed
  | notPushed => exact .inl managed
  | peerNotDeleted => exact .inl managed
  | notDeleted => exact .inl managed
  | done =>
    obtain ⟨i, hi⟩ := Directory.contains_iff_find?.1 managed
    exact .inl (Directory.contains_of_find? (Directory.of_find?_erase hi).2)

def fullStore : Faults := ⟨.healthy, true, fun _ _ => some (.database "full")⟩

/-- The only interface cannot be deleted, since the store fails. -/
def stuck : Keeper := carryOut [(fullStore, .deleteInterface ⟨"wg0"⟩)] solo

theorem stored_peers_reachable_stuck :
    stuck.store.records.Complete ∧ stuck.store.records.peers.size = 1 ∧
      ∃ v, load.run.run (stuck.within .calm) = (.ok (), v) ∧ v.memory.allPeers.length = 1 := by
  let admits (a : Action) (v w : Keeper) : Prop := a.KeepsCommitted v.memory ∧ v.FilesNew w
  have run : Relation.ReflTransGen (AdmittedMove admits) solo stuck := by
    apply admitted_carryOut
    refine List.forall_mem_singleton.2 fun v => ⟨trivial, ?_⟩
    exact filesNew_deleteInterface ⟨"wg0"⟩ (v.under fullStore)
  have counted : stuck.store.records.peers.size = 1 := by decide +kernel
  have readable (t : Keeper) : (t.within .calm).Readable := ⟨rfl, rfl⟩
  obtain ⟨reached, loads⟩ := stored_peers_reachable started_solo complete_solo
    (fun _ _ _ admitted => admitted.1) (fun _ _ _ admitted => admitted.2) run
  obtain ⟨v, loaded, length⟩ := loads (stuck.within .calm) rfl (readable stuck)
  exact ⟨reached, counted, v, loaded, length.trans counted⟩

/-- The record of a new interface is lost, and then a peer of it is saved. -/
def loss : List (Faults × Action) :=
  [(fullStore, .createInterface ⟨"wg0"⟩), (.none, .savePeers [member])]

theorem stored_peer_unreachable :
    Relation.ReflTransGen (AdmittedMove fun _ v _ => v.kernel.Healthy) vacant
        (carryOut loss vacant) ∧
      (carryOut loss vacant).store.records.peers.find? member.id = some member ∧
      (carryOut loss vacant).store.records.interfaces.contains member.tunnel.interfaceId = false ∧
      (carryOut loss vacant).store.records.peers.size = 1 ∧
      (load.run.run (carryOut loss vacant).healed).1 = .ok () ∧
      (load.run.run (carryOut loss vacant).healed).2.memory.allPeers.length = 0 := by
  refine ⟨?_, by decide +kernel, by decide +kernel, by decide +kernel, by decide +kernel,
    by decide +kernel⟩
  apply admitted_carryOut
  refine List.forall_mem_cons.2 ⟨?_, List.forall_mem_singleton.2 ?_⟩
  · exact fun _ => ⟨rfl, rfl⟩
  · exact fun _ => ⟨rfl, rfl⟩

end Keeper

end TunnelKeeper

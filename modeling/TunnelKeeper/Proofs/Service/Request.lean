import Mathlib.Logic.Relation
import TunnelKeeper.Proofs.Keeper.Health
import TunnelKeeper.Proofs.Keeper.Joining
import TunnelKeeper.Proofs.Keeper.Run
import TunnelKeeper.Proofs.Service.PeerEnds

/-!
# Requests one after the other

Requests that change something, each of which runs without gaps, and runs of them. Most requests are
one operation of the keeper between looks at memory. What has to hold after every request therefore
comes down to what has to hold after single operations, where a peer that is saved never hides a
committed one. The rule for a request asks for no more than its operations can do.
-/
namespace TunnelKeeper
open Effect Service

def Service.within (s : Service) (e : Keeper.Surroundings) : Service :=
  { s with keeper := s.keeper.within e }

def Service.under (s : Service) (f : Faults) : Service := { s with keeper := s.keeper.under f }

def Service.healed (s : Service) : Service := { s with keeper := s.keeper.healed }

inductive Request where
  | prepareInterface (c : Settings) (id : InterfaceId)
  | createInterface (i : Interface)
  | updateInterface (i : Interface)
  | deleteInterface (id : InterfaceId)
  | importCandidates
  | importInterface (id : InterfaceId)
  | applyDefaults (id : InterfaceId)
  | preparePeer (id : InterfaceId) (user : Option UserId)
  | createPeer (p : Peer)
  | updatePeer (p : Peer)
  | deletePeer (id : PeerId)
  | runBackground (c : Settings)

namespace Request

/-- What a request leaves, whether or not it fails. -/
def after : Request → Service → Service
  | .prepareInterface c id, s => ((Service.prepareInterface c id).run s).2
  | .createInterface i, s => ((Service.createInterface i).run s).2
  | .updateInterface i, s => ((Service.updateInterface i).run s).2
  | .deleteInterface id, s => ((Service.deleteInterface id).run s).2
  | .importCandidates, s => (Service.importCandidates.run s).2
  | .importInterface id, s => ((Service.importInterface id).run s).2
  | .applyDefaults id, s => ((Job.keep (Keeper.applyDefaults id)).run s).2
  | .preparePeer id user, s => ((Service.preparePeer id user).run s).2
  | .createPeer p, s => ((Service.createPeer p).run s).2
  | .updatePeer p, s => ((Service.updatePeer p).run s).2
  | .deletePeer id, s => ((Service.deletePeer id).run s).2
  | .runBackground c, s => ((Service.runBackground c).run s).2

/-- Whether a public key that the request takes from the source names no peer yet. -/
def Fresh : Request → Service → Prop
  | .preparePeer .., s =>
    s.keeper.memory.findPeer? ⟨(s.keys.pair (s.keys.pairsGiven + 1)).publicKey⟩ = none
  | _, _ => True

end Request

/-- One request in whatever surroundings it finds, as far as the state before it and the one after
it are admitted. -/
inductive Service.Move (admits : Request → Service → Service → Prop) (s : Service) : Service → Prop
  | request (e : Keeper.Surroundings) (r : Request)
      (admitted : admits r (s.within e) (r.after (s.within e))) :
      Service.Move admits s (r.after (s.within e))

namespace Service

variable {P : Keeper → Prop} {s : Service}

theorem after_keep {α : Type} {step : Step α} (h : Ends step s.keeper fun _ t => P t) :
    (Job.keep step).Ends s fun _ t => P t.keeper := by
  apply Job.ends_keep
  apply h.mono
  intro r t ht
  cases r with
  | error e => exact ht
  | ok _ => exact ht

theorem after_keep_look {α β : Type} {step : Step α} {f : Memory → Except KeeperError β}
    (h : Ends step s.keeper fun _ t => P t) :
    (Job.keep step >>= fun _ => Job.look f).Ends s fun _ t => P t.keeper := by
  apply Job.keep_then
  apply h.mono
  intro r t ht
  cases r with
  | error e => exact ht
  | ok _ => exact Job.ends_look ht

theorem after_prepareInterface (h : P s.keeper) (c : Settings) (id : InterfaceId) :
    (prepareInterface c id).Ends s fun _ t => P t.keeper := by
  apply Job.attempt_look_then
  cases s.keeper.memory.interface id with
  | ok _ => exact h
  | error _ => exact Job.look_then (fun _ _ => h) fun _ _ => h

theorem after_createInterface {i : Interface}
    (h : Ends (Keeper.createInterface i.id) s.keeper fun r t =>
      P t ∧ (r = .ok () → Ends (Keeper.updateInterface i) t fun _ u => P u)) :
    (createInterface i).Ends s fun _ t => P t.keeper := by
  apply Job.keep_then
  apply h.mono
  intro r t ht
  cases r with
  | error e => exact ht.1
  | ok _ =>
    apply Job.keep_then
    apply (ht.2 rfl).mono
    intro r u hu
    cases r with
    | error e => exact hu
    | ok _ => exact Job.ends_look hu

theorem after_importCandidates (h : ∀ k, P { s.keeper with kernel := k }) :
    importCandidates.Ends s fun _ t => P t.keeper := by
  apply after_keep
  apply (Keeper.importCandidates_ends s.keeper).mono
  rintro r _ ⟨⟨k, rfl⟩, -⟩
  exact h k

theorem after_importInterface (kernel : ∀ k, P { s.keeper with kernel := k })
    (h : ∀ k c, Keeper.Committed c →
      Ends (Keeper.importInterface c) { s.keeper with kernel := k } fun _ t => P t)
    (id : InterfaceId) : (importInterface id).Ends s fun _ t => P t.keeper := by
  apply Job.keep_then
  apply (Keeper.importCandidates_ends s.keeper).mono
  rintro r _ ⟨⟨k, rfl⟩, committed⟩
  cases r with
  | error e => exact kernel k
  | ok cs =>
    dsimp only
    cases hc : cs.find? fun c => c.interface.id = id with
    | none => exact kernel k
    | some c => exact after_keep_look (h k c (committed cs rfl c (List.mem_of_find?_eq_some hc)))

theorem after_preparePeer (same : P s.keeper) {id : InterfaceId} {user : Option UserId}
    (h : ∀ i addresses, s.keeper.memory.interfaces.find? id = some i →
      Ends (Keeper.savePeer (s.nextPeer i addresses user)) s.keeper fun _ t => P t) :
    (preparePeer id user).Ends s fun _ t => P t.keeper := by
  apply (preparePeer_ends id user s).mono
  intro r t ht
  cases ht with
  | unmanaged => exact same
  | notFound => exact same
  | refused => exact same
  | done managed _ saved => exact (h _ _ managed).of_run saved

theorem SaveEnds.keeper {p : Peer} {r : Except ServiceError Peer} {t : Service}
    (h : SaveEnds p s r t) (same : P s.keeper)
    (saved : Ends (Keeper.savePeer p) s.keeper fun _ t => P t) : P t.keeper := by
  cases h with
  | refused => exact same
  | failed run => exact saved.of_run run
  | done run => exact saved.of_run run

theorem after_createPeer {p : Peer} (same : P s.keeper)
    (h : Ends (Keeper.savePeer (committed p)) s.keeper fun _ t => P t) :
    (createPeer p).Ends s fun _ t => P t.keeper := by
  apply (createPeer_ends p s).mono
  intro r t ht
  exact ht.keeper same h

theorem after_updatePeer {p : Peer} (same : P s.keeper)
    (h : ∀ q, s.keeper.memory.findPeer? p.id = some q →
      Ends (Keeper.savePeer { p with preparedAt := q.preparedAt }) s.keeper fun _ t => P t) :
    (updatePeer p).Ends s fun _ t => P t.keeper := by
  apply (updatePeer_ends p s).mono
  intro r t ht
  cases ht with
  | unknown => exact same
  | known known save => exact save.keeper same (h _ known)

theorem after_runBackground {c : Settings}
    (h : Ends (Keeper.expirePrepared c.preparedTtl) s.keeper fun _ t =>
      P t ∧ Ends Keeper.refreshStats t fun _ u => P u) :
    (runBackground c).Ends s fun _ t => P t.keeper := by
  apply Job.keep_then
  apply h.mono
  intro r t ht
  cases r with
  | error e => exact ht.1
  | ok n =>
    cases n with
    | none => exact ht.1
    | some n => exact after_keep ht.2

end Service

/-- What has to hold of operations from a state on for something to hold after each request. -/
structure Obligations (P : Keeper → Prop) (s : Keeper) : Prop where
  kernel (k : Kernel) : P { s with kernel := k }
  createInterface (id : InterfaceId) : Ends (Keeper.createInterface id) s fun r t =>
    P t ∧ (r = .ok () → ∀ i, Ends (Keeper.updateInterface i) t fun _ u => P u)
  updateInterface (i : Interface) : Ends (Keeper.updateInterface i) s fun _ t => P t
  deleteInterface (id : InterfaceId) : Ends (Keeper.deleteInterface id) s fun _ t => P t
  importInterface (k : Kernel) {c : ImportCandidate} : Keeper.Committed c →
    Ends (Keeper.importInterface c) { s with kernel := k } fun _ t => P t
  applyDefaults (id : InterfaceId) : Ends (Keeper.applyDefaults id) s fun _ t => P t
  savePeer {p : Peer} : Memory.MayBeSaved s.memory p → Ends (Keeper.savePeer p) s fun _ t => P t
  removePeer (id : PeerId) : Ends (Keeper.removePeer id) s fun _ t => P t
  expirePrepared (maxAge : Int) : Ends (Keeper.expirePrepared maxAge) s fun _ t =>
    P t ∧ Ends Keeper.refreshStats t fun _ u => P u

/-- What the operations are obliged to holds after every request. -/
theorem Request.keeps {P : Keeper → Prop} {r : Request} {s : Service} (h : Obligations P s.keeper)
    (fresh : r.Fresh s) : P (r.after s).keeper := by
  have same : P s.keeper := h.kernel s.keeper.kernel
  cases r with
  | prepareInterface c id => exact after_prepareInterface same c id
  | createInterface i =>
    apply after_createInterface
    apply (h.createInterface i.id).mono
    rintro r t ⟨ht, update⟩
    exact ⟨ht, fun ok => update ok i⟩
  | updateInterface i => exact after_keep_look (h.updateInterface i)
  | deleteInterface id => exact after_keep (h.deleteInterface id)
  | importCandidates => exact after_importCandidates h.kernel
  | importInterface id =>
    exact after_importInterface h.kernel (fun k _ brought => h.importInterface k brought) id
  | applyDefaults id => exact after_keep (h.applyDefaults id)
  | preparePeer id user =>
    refine after_preparePeer same fun i addresses _ => h.savePeer fun q hq => ?_
    have unknown : s.keeper.memory.findPeer? (s.nextPeer i addresses user).id = none := fresh
    rw [unknown] at hq
    contradiction
  | createPeer p =>
    refine after_createPeer same (h.savePeer fun _ _ prepared => ?_)
    exact absurd prepared Bool.false_ne_true
  | updatePeer p =>
    refine after_updatePeer same fun known hk => h.savePeer fun q hq prepared => ?_
    cases hk.symm.trans hq
    exact prepared
  | deletePeer id => exact after_keep (h.removePeer id)
  | runBackground c => exact after_runBackground (h.expirePrepared c.preparedTtl)

/-- Every request keeps memory filed. -/
theorem Request.filed_after {s : Service} (r : Request) (hm : s.keeper.memory.Filed) :
    (r.after s).keeper.memory.Filed := by
  let P (k : Keeper) : Prop := k.memory.Filed
  have kernel (k : Kernel) : P { s.keeper with kernel := k } := hm
  cases r with
  | prepareInterface c id => exact after_prepareInterface (P := P) hm c id
  | createInterface i =>
    apply after_createInterface (P := P)
    apply (Keeper.filed_createInterface i.id hm).mono
    intro r t ht
    exact ⟨ht, fun _ => Keeper.filed_updateInterface i ht⟩
  | updateInterface i => exact after_keep_look (P := P) (Keeper.filed_updateInterface i hm)
  | deleteInterface id => exact after_keep (P := P) (Keeper.filed_deleteInterface id hm)
  | importCandidates => exact after_importCandidates (P := P) kernel
  | importInterface id =>
    exact after_importInterface (P := P) kernel (fun k c _ => Keeper.filed_importInterface c hm) id
  | applyDefaults id => exact after_keep (P := P) (Keeper.filed_applyDefaults id hm)
  | preparePeer id user =>
    exact after_preparePeer (P := P) hm fun i addresses _ => Keeper.filed_savePeer _ hm
  | createPeer p => exact after_createPeer (P := P) hm (Keeper.filed_savePeer _ hm)
  | updatePeer p => exact after_updatePeer (P := P) hm fun q _ => Keeper.filed_savePeer _ hm
  | deletePeer id => exact after_keep (P := P) (Keeper.filed_removePeer id hm)
  | runBackground c =>
    apply after_runBackground (P := P)
    apply (Keeper.filed_expirePrepared c.preparedTtl hm).mono
    intro r t ht
    exact ⟨ht, Keeper.filed_refreshStats ht⟩

/-- Memory is filed after every run of requests. -/
theorem Service.filed_of_requests {admits : Request → Service → Service → Prop} {s t : Service}
    (started : s.keeper.Started) (run : Relation.ReflTransGen (Move admits) s t) :
    t.keeper.memory.Filed := by
  induction run with
  | refl => exact started.filed
  | tail _ move ih =>
    cases move with
    | request e r => exact r.filed_after ih

def Service.solo : Service where
  keeper := Keeper.solo
  keys := { pair := fun _ => ⟨"", "b"⟩, presharedKey := fun _ => "" }

end TunnelKeeper

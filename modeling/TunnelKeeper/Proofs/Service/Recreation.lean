import TunnelKeeper.Proofs.Keeper.Discovery
import TunnelKeeper.Proofs.Service.InterfaceEnds

/-!
# Sending a failed creation again

A request that creates something refuses what is known already, and it files its record before its
last step. A fault that meets it before the record is filed leaves nothing in the way, and the same
request sent again is carried out as if nothing had happened. A fault that meets it later leaves the
record in memory, where it is in the way of the same request from then on.
-/
namespace TunnelKeeper
open Keeper

/-- The requests that create something. -/
inductive Creation where
  | interface (i : Interface)
  | peer (p : Peer)
  | imported (id : InterfaceId)

/-- Whether a request ended well or how it failed, without its answer, and what it left. -/
def Job.outcome {α : Type} (j : Job α) (s : Service) : Except ServiceError Unit × Service :=
  ((j.run s).1.map fun _ => (), (j.run s).2)

namespace Creation

def run : Creation → Service → Except ServiceError Unit × Service
  | .interface i, s => (Service.createInterface i).outcome s
  | .peer p, s => (Service.createPeer p).outcome s
  | .imported id, s => (Service.importInterface id).outcome s

/-- Whether memory has a record that is in the way of the request. -/
def Known : Creation → Memory → Prop
  | .interface i, m => m.interfaces.contains i.id = true
  | .peer p, m => ∃ q, m.findPeer? p.id = some q ∧ q.isPrepared = false
  | .imported id, m => m.interfaces.contains id = true

def refusal : Creation → KeeperError
  | .interface i => .interfaceExists i.id
  | .peer p => .rejected (.peerExists p.id)
  | .imported id => .interfaceNotFound id

/-- What a request ends with, and what it leaves in memory and in the store. -/
def Leaves (c : Creation) (s : Service) (r : Except ServiceError Unit) (m : Memory)
    (rs : Store.Records) : Prop :=
  (c.run s).1 = r ∧ (c.run s).2.keeper.memory = m ∧ (c.run s).2.keeper.store.records = rs

/-- What a fault that a request met means for the same request sent again. -/
structure Aftermath (c : Creation) (s t : Service) (e : KeeperError) (m : Memory)
    (r : Store.Records) : Prop where
  /-- At first nothing was in the way. -/
  unknown : ¬ c.Known s.keeper.memory
  /-- Either nothing was filed or the record is there. -/
  filed : t.keeper.memory = s.keeper.memory ∨ c.Known t.keeper.memory
  /-- If nothing was filed, the request leaves what it would have left at once. -/
  repaired : t.keeper.memory = s.keeper.memory → c.Leaves t.healed (.ok ()) m r
  /-- If the record is there, the request is refused for it and changes nothing. -/
  refused : c.Known t.keeper.memory →
    c.Leaves t.healed (.error (.keeper c.refusal)) t.keeper.memory t.keeper.store.records
  /-- The record is there whenever the store failed. -/
  ahead : e.isPersistence = true → c.Known t.keeper.memory
  /-- A peer is there whatever failed. -/
  peer (p : Peer) : c = .peer p → c.Known t.keeper.memory

variable {s t : Service} {e : KeeperError} {m : Memory} {r : Store.Records} {f : Faults}

section

variable {α : Type} {j : Job α}

theorem of_outcome_eq_error {x : ServiceError} (h : j.outcome s = (.error x, t)) :
    j.run s = (.error x, t) := by
  unfold Job.outcome at h
  rcases hj : j.run s with ⟨_ | _, u⟩ <;> rw [hj] at h <;> cases h
  rfl

/-- What a request that cannot fail leaves, if it is accepted. -/
theorem outcome_iff {accepted : Prop} {m' : Memory} {r' : Store.Records}
    (h : j.Ends s fun x t => HealthyEnds accepted m' r' x t.keeper) :
    ((j.outcome s).1 = .ok () ∧ (j.outcome s).2.keeper.memory = m ∧
        (j.outcome s).2.keeper.store.records = r) ↔ accepted ∧ m' = m ∧ r' = r := by
  unfold Job.outcome
  rcases run : j.run s with ⟨x, t⟩
  cases h.of_run run with
  | refused unaccepted =>
    exact ⟨fun ⟨isOk, _⟩ => (nomatch isOk), fun ⟨accepted, _⟩ => absurd accepted unaccepted⟩
  | done accepted _ memory records =>
    subst memory records
    exact ⟨fun ⟨_, made⟩ => ⟨accepted, made⟩, fun ⟨_, made⟩ => ⟨rfl, made⟩⟩

/-- Whether a request is refused and leaves memory and the stored records alone. -/
def IsRefused (j : Job α) (s : Service) (e : KeeperError) : Prop :=
  j.Ends s fun x u => x = .error (.keeper e) ∧ u.keeper.memory = s.keeper.memory ∧
    u.keeper.store.records = s.keeper.store.records

theorem outcome_of_isRefused (h : IsRefused j s e) :
    (j.outcome s).1 = .error (.keeper e) ∧ (j.outcome s).2.keeper.memory = s.keeper.memory ∧
      (j.outcome s).2.keeper.store.records = s.keeper.store.records := by
  unfold Job.outcome
  obtain ⟨answer, same⟩ := h
  rw [answer]
  exact ⟨rfl, same⟩

theorem exists_of_outcome_eq_ok (h : (j.outcome s).1 = .ok ()) :
    ∃ a u, j.run s = (.ok a, u) := by
  unfold Job.outcome at h
  rcases run : j.run s with ⟨_ | a, u⟩
  · rw [run] at h
    contradiction
  · exact ⟨a, u, rfl⟩

end

/-- What a fault means for a request that it meets before anything was filed, unless the record is
there. -/
theorem aftermath_of_either {c : Creation} (others : ∀ p, c ≠ .peer p)
    (unknown : ¬ c.Known s.keeper.memory)
    (after : (t.keeper.memory = s.keeper.memory ∧
        t.keeper.store.records = s.keeper.store.records ∧ e.isPersistence = false) ∨
      c.Known t.keeper.memory)
    (repaired : t.keeper.memory = s.keeper.memory →
      t.keeper.store.records = s.keeper.store.records → c.Leaves t.healed (.ok ()) m r)
    (refused : c.Known t.keeper.memory →
      c.Leaves t.healed (.error (.keeper c.refusal)) t.keeper.memory t.keeper.store.records) :
    c.Aftermath s t e m r where
  unknown := unknown
  filed := after.imp_left (·.1)
  repaired same := by
    rcases after with ⟨-, records, -⟩ | known
    · exact repaired same records
    · rw [same] at known
      exact absurd known unknown
  refused := refused
  ahead behind := by
    rcases after with ⟨-, -, kernel⟩ | known
    · rw [kernel] at behind
      contradiction
    · exact known
  peer p isPeer := absurd isPeer (others p)

/-! ## Interfaces -/

section

variable {i : Interface}

structure Creatable (m : Memory) (i : Interface) : Prop where
  named : checkDeviceName i.id = .ok ()
  absent : m.interfaces.contains i.id = false
  addressed : ∃ cs, Memory.addressesAt (.interface i.id) i.addresses = .ok cs
  keyed : ∃ k, privateKey? i = .ok k

/-- After the bare interface was created, what is left to check is what the record holds. -/
theorem updatable_iff_creatable {k : Keeper}
    (created : (Keeper.createInterface i.id).run.run s.keeper = (.ok (), k)) :
    k.Updatable i ↔ Creatable s.keeper.memory i := by
  have named := Service.named_of_createInterface created
  have bare := Service.bare_of_createInterface created
  obtain ⟨_, identified, -⟩ := bind_eq_ok_iff.1 named
  constructor
  · intro u
    refine ⟨named, ?_, u.addressed, u.keyed⟩
    cases (Keeper.createInterface_ends i.id s.keeper).of_run created with
    | done absent => exact absent
  · intro c
    refine ⟨identified, c.addressed, c.keyed, ?_, bare.link.hasLink⟩
    rw [bare.memory]
    exact Memory.contains_addInterface _ { id := i.id }

theorem createInterface_healthy (i : Interface) (h : s.keeper.Healthy) :
    (Service.createInterface i).Ends s fun x t => HealthyEnds (Creatable s.keeper.memory i)
      (withInterface (s.keeper.memory.addInterface { id := i.id }) i)
      ((s.keeper.store.records.saveInterface { id := i.id }).saveInterface i) x t.keeper := by
  apply (Service.createInterface_ends i s).mono
  intro x t ht
  cases ht with
  | notCreated created =>
    cases (Keeper.createInterface_healthy i.id h).of_run created with
    | refused unaccepted => exact .refused fun c => unaccepted ⟨c.named, c.absent⟩
  | notUpdated created updated =>
    cases (Keeper.createInterface_healthy i.id h).of_run created with
    | done _ healthy memory records =>
      cases (updateInterface_healthy i healthy).of_run updated with
      | refused unaccepted =>
        exact .refused fun c => unaccepted ((updatable_iff_creatable created).2 c)
  | done created updated =>
    cases (Keeper.createInterface_healthy i.id h).of_run created with
    | done _ healthy memory records =>
      cases (updateInterface_healthy i healthy).of_run updated with
      | done updatable healthy memory' records' =>
        rw [memory] at memory'
        rw [records] at records'
        exact .done ((updatable_iff_creatable created).1 updatable) healthy memory' records'

theorem interface_leaves_iff :
    (Creation.interface i).Leaves s.healed (.ok ()) m r ↔ Creatable s.keeper.memory i ∧
      withInterface (s.keeper.memory.addInterface { id := i.id }) i = m ∧
      (s.keeper.store.records.saveInterface { id := i.id }).saveInterface i = r :=
  outcome_iff (createInterface_healthy i (healthy_healed s.keeper))

/-- An interface that is managed is in the way of its creation. -/
theorem interface_refused (named : checkDeviceName i.id = .ok ())
    (known : t.keeper.memory.interfaces.contains i.id = true) :
    IsRefused (Service.createInterface i) t (.interfaceExists i.id) := by
  apply Job.ends_bind.2
  apply Job.ends_keep
  apply Step.check_then
  · intro e he
    rw [named] at he
    contradiction
  intro _ _
  apply requireAbsent_then
  · exact fun _ => ⟨rfl, rfl, rfl⟩
  · intro absent
    rw [known] at absent
    contradiction

/-- A fault meets the creation of an interface before its record is filed, or it is filed. -/
theorem interface_after_fault
    (failed : (Service.createInterface i).run (s.under f) = (.error (.keeper e), t))
    (fault : e.isRefusal = false) :
    (t.keeper.memory = s.keeper.memory ∧ t.keeper.store.records = s.keeper.store.records ∧
        e.isPersistence = false) ∨
      t.keeper.memory.interfaces.contains i.id = true := by
  have ends := (Service.createInterface_ends i (s.under f)).of_run failed
  generalize isError : Except.error (ServiceError.keeper e) = x at ends
  cases ends with
  | done => contradiction
  | notCreated created =>
    cases isError
    cases (Keeper.createInterface_ends i.id _).of_run created with
    | refused refusal =>
      rw [fault] at refusal
      contradiction
    | notPushed => exact .inl ⟨rfl, rfl, rfl⟩
    | notStored => exact .inr (Memory.contains_addInterface _ { id := i.id })
  | notUpdated created updated =>
    cases isError
    refine .inr ?_
    cases (updateInterface_ends i _).of_run updated with
    | refused refusal =>
      rw [fault] at refusal
      contradiction
    | notPushed managed => exact managed
    | notStored => exact contains_withInterface _ i

theorem aftermath_interface (intended : (Creation.interface i).Leaves s.healed (.ok ()) m r)
    (failed : (Creation.interface i).run (s.under f) = (.error (.keeper e), t))
    (fault : e.isRefusal = false) : (Creation.interface i).Aftermath s t e m r := by
  obtain ⟨creatable, rfl, rfl⟩ := interface_leaves_iff.1 intended
  have unknown : ¬ s.keeper.memory.interfaces.contains i.id = true := by
    rw [creatable.absent]
    exact Bool.false_ne_true
  refine aftermath_of_either (fun _ => nofun) unknown ?_ ?_ ?_
  · exact interface_after_fault (of_outcome_eq_error failed) fault
  · intro memory records
    rw [interface_leaves_iff, memory, records]
    exact ⟨creatable, rfl, rfl⟩
  · intro known
    exact outcome_of_isRefused (interface_refused (t := t.healed) creatable.named known)

end

/-! ## Peers -/

section

variable {p : Peer}

/-- A committed peer is in the way of its creation. -/
theorem peer_refused (known : (Creation.peer p).Known t.keeper.memory) :
    IsRefused (Service.createPeer p) t (.rejected (.peerExists p.id)) := by
  obtain ⟨q, hq, committed⟩ := known
  apply Job.attempt_look_then
  rw [peer_eq_ok_iff.2 hq]
  dsimp only
  rw [committed]
  exact ⟨rfl, rfl, rfl⟩

/-- Whatever fault meets the creation of a peer, the peer is filed as a committed one. -/
theorem peer_after_fault (hm : s.keeper.memory.Filed)
    (failed : (Service.createPeer p).run (s.under f) = (.error (.keeper e), t))
    (fault : e.isRefusal = false) : (Creation.peer p).Known t.keeper.memory := by
  have filed (fits : Memory.Fits s.keeper.memory p.tunnel.interfaceId (Service.committed p)) :
      (s.keeper.memory.addPeer p.tunnel.interfaceId (Service.committed p)).findPeer? p.id =
        some (Service.committed p) := by
    apply (hm.addPeer fits).findPeer?_of_find? (i := p.tunnel.interfaceId)
    rw [Memory.find?_peersOf_addPeer, if_pos ⟨rfl, rfl⟩]
  have ends := (Service.createPeer_ends p (s.under f)).of_run failed
  generalize isError : Except.error (ServiceError.keeper e) = x at ends
  cases ends with
  | done => contradiction
  | refused refusal =>
    cases isError
    rw [fault] at refusal
    contradiction
  | failed saved =>
    cases isError
    refine ⟨Service.committed p, ?_, rfl⟩
    cases (savePeer_ends _ _).of_run saved with
    | refused refusal =>
      rw [fault] at refusal
      contradiction
    | notPushed fits => exact filed fits
    | notStored fits => exact filed fits

theorem aftermath_peer (hm : s.keeper.memory.Filed)
    (intended : (Creation.peer p).Leaves s.healed (.ok ()) m r)
    (failed : (Creation.peer p).run (s.under f) = (.error (.keeper e), t))
    (fault : e.isRefusal = false) : (Creation.peer p).Aftermath s t e m r := by
  have unknown : ¬ (Creation.peer p).Known s.keeper.memory := by
    intro known
    have refused := outcome_of_isRefused (peer_refused (t := s.healed) known)
    cases refused.1.symm.trans intended.1
  have known := peer_after_fault hm (of_outcome_eq_error failed) fault
  constructor
  · exact unknown
  · exact .inr known
  · intro same
    rw [same] at known
    exact absurd known unknown
  · exact fun _ => outcome_of_isRefused (peer_refused (t := t.healed) known)
  · exact fun _ => known
  · exact fun _ _ => known

end

/-! ## Devices -/

section

variable {id : InterfaceId} {cs : List ImportCandidate} {c : ImportCandidate}

theorem importInterface_healthy (h : s.keeper.Healthy) (lists : s.keeper.Lists cs)
    (found : (cs.find? fun c => c.interface.id = id) = some c) :
    (Service.importInterface id).Ends s fun x t => HealthyEnds (Takeable s.keeper.memory c)
      ((s.keeper.memory.addInterface c.interface).addPeers c.interface.id (adoptedPeers c))
      (Store.Change.applyAll ((adoptedPeers c).map .savePeer)
        (s.keeper.store.records.saveInterface c.interface)) x t.keeper := by
  obtain ⟨cs', k, listed, healthy, lists'⟩ :=
    importCandidates_healthy h fun _ hd => lists.candidate?_ne_none hd
  cases lists.unique lists'
  have taken := Keeper.importInterface_healthy (s := { s.keeper with kernel := k }) c
    ⟨healthy, h.store⟩
  apply (Service.importInterface_ends id s).mono
  intro x t ht
  cases ht with
  | notListed listed' => cases listed.symm.trans listed'
  | unknown listed' missing =>
    cases listed.symm.trans listed'
    cases found.symm.trans missing
  | notImported listed' found' imported =>
    cases listed.symm.trans listed'
    cases found.symm.trans found'
    cases taken.of_run imported with
    | refused unaccepted => exact .refused unaccepted
  | done listed' found' imported =>
    cases listed.symm.trans listed'
    cases found.symm.trans found'
    cases taken.of_run imported with
    | done accepted healthy memory records => exact .done accepted healthy memory records

theorem imported_leaves_iff (lists : s.keeper.healed.Lists cs)
    (found : (cs.find? fun c => c.interface.id = id) = some c) :
    (Creation.imported id).Leaves s.healed (.ok ()) m r ↔ Takeable s.keeper.memory c ∧
      (s.keeper.memory.addInterface c.interface).addPeers c.interface.id (adoptedPeers c) = m ∧
      Store.Change.applyAll ((adoptedPeers c).map .savePeer)
        (s.keeper.store.records.saveInterface c.interface) = r :=
  outcome_iff (importInterface_healthy (healthy_healed s.keeper) lists found)

/-- A request that can be carried out has found its candidate. -/
theorem found_of_imported (h : ((Service.importInterface id).outcome s).1 = .ok ()) :
    ∃ cs c, s.keeper.Lists cs ∧ (cs.find? fun c => c.interface.id = id) = some c := by
  obtain ⟨a, u, run⟩ := exists_of_outcome_eq_ok h
  cases (Service.importInterface_ends id s).of_run run with
  | done listed found => exact ⟨_, _, (of_importCandidates listed).2.1 _ rfl, found⟩

/-- A device that is managed is not found again. -/
theorem imported_refused (h : s.keeper.Healthy)
    (linked : ∀ d ∈ s.keeper.unmanaged, s.keeper.candidate? d ≠ none)
    (known : s.keeper.memory.interfaces.contains id = true) :
    IsRefused (Service.importInterface id) s (.interfaceNotFound id) := by
  obtain ⟨cs, k, listed, healthy, lists⟩ := importCandidates_healthy h linked
  have missing {c : ImportCandidate} (found : (cs.find? fun c => c.interface.id = id) = some c) :
      False := by
    have free := lists.unmanaged (List.mem_of_find?_eq_some found)
    rw [Service.named_of_found found, known] at free
    contradiction
  apply (Service.importInterface_ends id s).mono
  intro x t ht
  cases ht with
  | notListed listed' => cases listed.symm.trans listed'
  | unknown listed' =>
    cases listed.symm.trans listed'
    exact ⟨rfl, rfl, rfl⟩
  | notImported listed' found =>
    cases listed.symm.trans listed'
    exact (missing found).elim
  | done listed' found =>
    cases listed.symm.trans listed'
    exact (missing found).elim

/-- A fault meets taking over a device before it is managed, or it is managed. -/
theorem imported_after_fault
    (failed : (Service.importInterface id).run (s.under f) = (.error (.keeper e), t))
    (fault : e.isRefusal = false) :
    Narrows s.keeper t.keeper ∧
      ((t.keeper.memory = s.keeper.memory ∧ t.keeper.store.records = s.keeper.store.records ∧
          e.isPersistence = false) ∨
        t.keeper.memory.interfaces.contains id = true) := by
  have ends := (Service.importInterface_ends id (s.under f)).of_run failed
  generalize isError : Except.error (ServiceError.keeper e) = x at ends
  cases ends with
  | done => contradiction
  | unknown =>
    cases isError
    contradiction
  | notListed listed =>
    cases isError
    obtain ⟨⟨k, holds, rfl⟩, -, kernel⟩ := of_importCandidates listed
    exact ⟨(Narrows.of_holds holds).of_under, .inl ⟨rfl, rfl, kernel _ rfl⟩⟩
  | @notImported cs c _ k k' listed found imported =>
    cases isError
    obtain ⟨⟨k, holds, rfl⟩, -, -⟩ := of_importCandidates listed
    obtain ⟨narrows, managed⟩ := of_importInterface_eq_error imported fault
    rw [Service.named_of_found found] at managed
    exact ⟨((Narrows.of_holds holds).trans narrows).of_under, .inr managed⟩

theorem aftermath_imported (intended : (Creation.imported id).Leaves s.healed (.ok ()) m r)
    (failed : (Creation.imported id).run (s.under f) = (.error (.keeper e), t))
    (fault : e.isRefusal = false) : (Creation.imported id).Aftermath s t e m r := by
  obtain ⟨cs, c, lists, found⟩ := found_of_imported intended.1
  obtain ⟨takeable, rfl, rfl⟩ := (imported_leaves_iff lists found).1 intended
  have unknown : ¬ s.keeper.memory.interfaces.contains id = true := by
    rw [← Service.named_of_found found, takeable.absent]
    exact Bool.false_ne_true
  obtain ⟨narrows, after⟩ := imported_after_fault (of_outcome_eq_error failed) fault
  refine aftermath_of_either (fun _ => nofun) unknown after ?_ ?_
  · intro memory records
    rw [imported_leaves_iff (narrows.healed.lists memory lists) found, memory, records]
    exact ⟨takeable, rfl, rfl⟩
  · intro known
    apply outcome_of_isRefused
    apply imported_refused (s := t.healed) (healthy_healed t.keeper) _ known
    intro d hd
    change t.keeper.healed.candidate? d ≠ none
    rw [narrows.healed.candidate?_eq]
    exact lists.candidate?_ne_none (narrows.healed.mem_unmanaged hd)

end

/-- The same request sent again after a fault leaves what it would have left at once if the fault
met it before it filed its record; otherwise it is refused for that record. -/
theorem aftermath_of_fault {s₀ s t : Service} (started : s₀.keeper.Started)
    (run : Relation.ReflTransGen (Service.Move fun _ _ _ => True) s₀ s) (env : Surroundings)
    (c : Creation) (intended : c.Leaves (s.within env).healed (.ok ()) m r)
    (failed : c.run ((s.within env).under f) = (.error (.keeper e), t))
    (fault : e.isRefusal = false) : c.Aftermath (s.within env) t e m r := by
  cases c with
  | interface i => exact aftermath_interface intended failed fault
  | peer p =>
    have hm : s.keeper.memory.Filed := Service.filed_of_requests started run
    exact aftermath_peer (s := s.within env) hm intended failed fault
  | imported id => exact aftermath_imported intended failed fault

/-- Faults under which no link is created. -/
def linkless : Faults where
  kernel o _ := if o = .linkAdd then some .unsupported else none
  supported := true
  store := .healthy

theorem aftermath_of_fault_linkless :
    ∃ t m r, (Creation.interface { id := ⟨"wg1"⟩ }).run
        ((Service.solo.within .calm).under linkless) =
          (.error (.keeper (.kernel .createLink "wg1" .unsupported)), t) ∧
      m.interfaces.contains ⟨"wg1"⟩ = true ∧ r.interfaces.contains ⟨"wg1"⟩ = true ∧
      (Creation.interface { id := ⟨"wg1"⟩ }).Leaves t.healed (.ok ()) m r := by
  have answer : ((Creation.interface { id := ⟨"wg1"⟩ }).run
      (Service.solo.within .calm).healed).1 = .ok () := by
    decide +kernel
  have memory : ((Creation.interface { id := ⟨"wg1"⟩ }).run
      (Service.solo.within .calm).healed).2.keeper.memory.interfaces.contains ⟨"wg1"⟩ = true := by
    decide +kernel
  have records : ((Creation.interface { id := ⟨"wg1"⟩ }).run
      (Service.solo.within .calm).healed).2.keeper.store.records.interfaces.contains ⟨"wg1"⟩ =
        true := by
    decide +kernel
  have failed : (Creation.interface { id := ⟨"wg1"⟩ }).run
      ((Service.solo.within .calm).under linkless) =
        (.error (.keeper (.kernel .createLink "wg1" .unsupported)),
          ((Creation.interface { id := ⟨"wg1"⟩ }).run
            ((Service.solo.within .calm).under linkless)).2) := rfl
  have after := aftermath_of_fault started_solo .refl .calm (.interface { id := ⟨"wg1"⟩ })
    ⟨answer, rfl, rfl⟩ failed rfl
  exact ⟨_, _, _, failed, memory, records, after.repaired rfl⟩

/-- Whether a request would be carried out, fails for a fault, and is refused from then on. -/
def Spoilt (c : Creation) (s : Service) (f : Faults) (fault : KeeperError) : Prop :=
  (c.run s.healed).1 = .ok () ∧ (c.run (s.under f)).1 = .error (.keeper fault) ∧
    (c.run (c.run (s.under f)).2.healed).1 = .error (.keeper c.refusal)

instance (c : Creation) (s : Service) (f : Faults) (fault : KeeperError) :
    Decidable (c.Spoilt s f fault) :=
  inferInstanceAs (Decidable (_ ∧ _ ∧ _))

def newcomer : Peer where
  id := ⟨"b"⟩
  keys := { publicKey := "AAAAAAAAAAAAAAAAAAAAAAAAAAAAAAAAAAAAAAAAAAA=" }
  tunnel := { interfaceId := ⟨"wg0"⟩ }

def neighbourhood : Surroundings where
  kernel :=
    { links := (default : Directory .interface Kernel.Link).insert ⟨"wg1"⟩ ⟨"wg1", 1420, true⟩
      devices := (default : Directory .interface Kernel.Device).insert ⟨"wg1"⟩
        ⟨"wg1", none, none, 0, 0, []⟩ }
  clock := .epoch
  storeFaults := .healthy

def rigid : Faults where
  kernel o _ := if o = .configureDevice then some .unsupported else none
  supported := true
  store := .healthy

def full : Faults where
  kernel := .healthy
  supported := true
  store _ _ := some (.database "full")

/-- Requests of each kind that cannot be sent again, after a fault of the kernel or of the store. -/
theorem creations_spoilt :
    Service.solo.keeper.Started ∧
      Spoilt (.interface { id := ⟨"wg2"⟩ }) (Service.solo.within neighbourhood) rigid
        (.kernel .configureDevice "wg2" .unsupported) ∧
      Spoilt (.interface { id := ⟨"wg2"⟩ }) (Service.solo.within neighbourhood) full
        (.persistence .saveInterface "wg2" (.database "full")) ∧
      Spoilt (.peer newcomer) (Service.solo.within neighbourhood) rigid
        (.kernel .configurePeer "b" .unsupported) ∧
      Spoilt (.peer newcomer) (Service.solo.within neighbourhood) full
        (.persistence .savePeer "b" (.database "full")) ∧
      Spoilt (.imported ⟨"wg1"⟩) (Service.solo.within neighbourhood) full
        (.persistence .saveImportedInterface "wg1" (.database "full")) := by
  refine ⟨started_solo, ?_, ?_, ?_, ?_, ?_⟩ <;> decide +kernel

end Creation

end TunnelKeeper

import TunnelKeeper.Proofs.Keeper.Step
import TunnelKeeper.Proofs.Memory.Slots

/-!
# How operations on interfaces end

For each operation all ways in which it can end, with the state that it leaves. What a refused
operation leaves is the state in which it began. An operation that the kernel does not let through
leaves memory and store alone. A loop over peers leaves the work done for those before the one at
which it stopped.
-/
namespace TunnelKeeper
open Effect

namespace Keeper
open Step Store

theorem refuses_checkInterfaceId (id : InterfaceId) : Refuses (checkInterfaceId id) := by
  unfold checkInterfaceId
  split
  · exact .error rfl
  · exact .ok ()

theorem refuses_checkDeviceName (id : InterfaceId) : Refuses (checkDeviceName id) := by
  apply (refuses_checkInterfaceId id).bind
  intro _
  split
  · exact .error rfl
  · exact .ok ()

theorem refuses_addressesAt (place : AddressPlace) (s : String) :
    Refuses (Memory.addressesAt place s) :=
  .mapError fun _ => rfl

theorem refuses_parse (place : KeyPlace) (s : String) : Refuses (place.parse s) :=
  .mapError fun _ => rfl

theorem refuses_privateKey? (i : Interface) : Refuses (privateKey? i) := by
  unfold privateKey?
  split
  · exact .ok none
  · exact (refuses_parse _ _).map

theorem interface_eq_ok_iff {m : Memory} {id : InterfaceId} {i : Interface} :
    m.interface id = .ok i ↔ m.interfaces.find? id = some i := by
  unfold Memory.interface
  cases m.interfaces.find? id <;> simp

theorem interface_eq_error_iff {m : Memory} {id : InterfaceId} {e : KeeperError} :
    m.interface id = .error e ↔ m.interfaces.find? id = none ∧ e = .interfaceNotFound id := by
  unfold Memory.interface
  cases m.interfaces.find? id <;> simp [eq_comm]

theorem refuses_interface (m : Memory) (id : InterfaceId) : Refuses (m.interface id) := by
  intro e h
  rw [(interface_eq_error_iff.1 h).2]
  rfl

section

variable {β : Type} {s : Keeper} {R : Except KeeperError β → Keeper → Prop} {next : Unit → Step β}

theorem requireInterface_then {id : InterfaceId}
    (refused : s.memory.interfaces.contains id = false → R (.error (.interfaceNotFound id)) s)
    (managed : s.memory.interfaces.contains id = true → Ends (next ()) s R) :
    Ends (requireInterface id >>= next) s R := by
  rw [requireInterface, bind_assoc]
  apply look_then
  · intro e he
    obtain ⟨unmanaged, rfl⟩ := interface_eq_error_iff.1 he
    exact refused (Directory.contains_eq_false_iff.2 unmanaged)
  intro i hi
  exact managed (Directory.contains_of_find? (interface_eq_ok_iff.1 hi))

theorem requireAbsent_then {id : InterfaceId}
    (refused : s.memory.interfaces.contains id = true → R (.error (.interfaceExists id)) s)
    (absent : s.memory.interfaces.contains id = false → Ends (next ()) s R) :
    Ends (requireAbsent id >>= next) s R := by
  apply look_then
  · intro e he
    split at he
    case isTrue present =>
      cases he
      exact refused present
    case isFalse => contradiction
  · intro _ ha
    split at ha
    case isTrue => contradiction
    case isFalse h => exact absent (Bool.eq_false_iff.2 h)

end

/-! ## Creating -/

inductive CreateInterfaceEnds (id : InterfaceId) (s : Keeper) :
    Except KeeperError Unit → Keeper → Prop
  | refused {e : KeeperError} (h : e.isRefusal = true) : CreateInterfaceEnds id s (.error e) s
  | notPushed {step : KernelStep} {cause : KernelError} {k : Kernel}
      (absent : s.memory.interfaces.contains id = false) :
      CreateInterfaceEnds id s (.error (.kernel step id.text cause)) { s with kernel := k }
  | notStored {cause : StoreError} {k : Kernel}
      (absent : s.memory.interfaces.contains id = false)
      (fault : s.store.fault? (.saveInterface { id := id }) = some cause) :
      CreateInterfaceEnds id s (.error (.persistence .saveInterface id.text cause))
        { s with
          kernel := k
          memory := s.memory.addInterface { id := id }
          store := s.store.noted (.saveInterface { id := id }) }
  | done {k : Kernel} (absent : s.memory.interfaces.contains id = false) :
      CreateInterfaceEnds id s (.ok ())
        { s with
          kernel := k
          memory := s.memory.addInterface { id := id }
          store := s.store.changed (.saveInterface { id := id }) }

theorem createInterface_ends (id : InterfaceId) (s : Keeper) :
    Ends (createInterface id) s (CreateInterfaceEnds id s) := by
  unfold createInterface
  apply check_then
  · intro e he
    exact .refused (refuses_checkDeviceName id e he)
  intro _ _
  apply requireAbsent_then
  · intro _
    exact .refused rfl
  intro absent
  apply askKernel_then
  · intro _ _ _
    exact .notPushed absent
  intro _ _ _
  apply askKernel_then
  · intro _ _ _
    exact .notPushed absent
  intro _ _ _
  apply askKernel_then
  · intro _ _ _
    exact .notPushed absent
  intro _ _ _
  apply changeMemory_then
  apply ends_persist (c := .saveInterface { id := id })
  · intro _
    exact .done absent
  · intro _ fault
    exact .notStored absent fault

/-! ## Updating -/

section

variable {I : Kernel → Prop} {E : KernelError → Prop}

theorem yields_setAddresses (s : Keeper) {target : String} (b : Kernel.LinkBounds target I E)
    (link : Kernel.Link) (cs : List Net.Cidr) :
    Yields (WithKernel s I) (fun _ => True) (Blames target E) (setAddresses target link cs) := by
  cases cs with
  | nil => exact .pure trivial
  | cons first rest =>
    apply (yields_request (Kernel.yields_attempt b.toBounds _) s _ _).bind
    intro _ _
    apply Yields.forM
    intro c _
    exact yields_request (Kernel.yields_attempt b.toBounds _) s _ _

/-- Bringing the link up or down, which is the last part of a push. -/
theorem yields_switchLink (s : Keeper) (i : Interface) (b : Kernel.LinkBounds i.id.text I E)
    (link : Kernel.Link) :
    Yields (WithKernel s I) (fun _ => True) (Blames i.id.text E)
      (if i.isEnabled then askKernel .enableLink i.id.text (Kernel.linkSetUp link)
        else askKernel .disableLink i.id.text (Kernel.linkSetDown link)) := by
  split
  · exact yields_request (Kernel.yields_linkSetUp b link) s _ _
  · exact yields_request (Kernel.yields_linkSetDown b link) s _ _

theorem yields_pushInterface (s : Keeper) (i : Interface) (b : Kernel.LinkBounds i.id.text I E)
    (addresses : List Net.Cidr) (privateKey : Option Key) :
    Yields (WithKernel s I) (fun _ => True) (Blames i.id.text E)
      (pushInterface i addresses privateKey) := by
  unfold pushInterface
  apply (yields_request b.yields_linkByName s _ _).bind
  intro link _
  have rest : Yields (WithKernel s I) (fun _ => True) (Blames i.id.text E) (do
      setAddresses i.id.text link addresses
      askKernel .configureDevice i.id.text
        (Kernel.configureDevice i.id.text (deviceChange i privateKey))
      if i.isEnabled then askKernel .enableLink i.id.text (Kernel.linkSetUp link)
      else askKernel .disableLink i.id.text (Kernel.linkSetDown link)) := by
    apply (yields_setAddresses s b _ _).bind
    intro _ _
    apply (yields_request (Kernel.yields_attempt b.toBounds _) s _ _).bind
    intro _ _
    exact yields_switchLink s i b link
  dsimp only
  split
  · apply (yields_request (Kernel.yields_linkSetMtu b link i.mtu) s _ _).bind
    intro _ _
    exact rest
  · exact rest

end

def withInterface (m : Memory) (i : Interface) : Memory :=
  { m with interfaces := m.interfaces.insert i.id i }

/-- The record that was just filed is found. -/
theorem interface_withInterface (m : Memory) (i : Interface) :
    (withInterface m i).interface i.id = .ok i :=
  interface_eq_ok_iff.2 (Directory.find?_insert_self _ _ _)

theorem contains_withInterface (m : Memory) (i : Interface) :
    (withInterface m i).interfaces.contains i.id = true := by
  simp [withInterface, Directory.contains_insert]

theorem withInterface_withInterface (m : Memory) (i : Interface) :
    withInterface (withInterface m i) i = withInterface m i := by
  simp [withInterface, Directory.insert_insert]

inductive UpdateInterfaceEnds (i : Interface) (s : Keeper) :
    Except KeeperError Unit → Keeper → Prop
  | refused {e : KeeperError} (h : e.isRefusal = true) : UpdateInterfaceEnds i s (.error e) s
  | notPushed {step : KernelStep} {cause : KernelError} {k : Kernel}
      (managed : s.memory.interfaces.contains i.id = true) :
      UpdateInterfaceEnds i s (.error (.kernel step i.id.text cause)) { s with kernel := k }
  | notStored {cause : StoreError} {k : Kernel}
      (managed : s.memory.interfaces.contains i.id = true)
      (fault : s.store.fault? (.saveInterface i) = some cause) :
      UpdateInterfaceEnds i s (.error (.persistence .saveInterface i.id.text cause))
        { s with
          kernel := k
          memory := withInterface s.memory i
          store := s.store.noted (.saveInterface i) }
  | done {k : Kernel} (managed : s.memory.interfaces.contains i.id = true) :
      UpdateInterfaceEnds i s (.ok ())
        { s with
          kernel := k
          memory := withInterface s.memory i
          store := s.store.changed (.saveInterface i) }

theorem updateInterface_ends (i : Interface) (s : Keeper) :
    Ends (updateInterface i) s (UpdateInterfaceEnds i s) := by
  unfold updateInterface
  apply check_then
  · intro e he
    exact .refused (refuses_checkInterfaceId i.id e he)
  intro _ _
  apply check_then
  · intro e he
    exact .refused (refuses_addressesAt _ _ e he)
  intro addresses _
  apply check_then
  · intro e he
    exact .refused (refuses_privateKey? i e he)
  intro privateKey _
  apply requireInterface_then
  · intro _
    exact .refused rfl
  intro managed
  apply yields_then (yields_pushInterface s i (.any _) addresses privateKey)
  · intro _ _ _
    exact .notPushed managed
  intro _ _
  apply changeMemory_then
  apply ends_persist (c := .saveInterface i)
  · intro _
    exact .done managed
  · intro _ fault
    exact .notStored managed fault

/-! ## Deleting -/

/-- The peers of an interface that are not prepared only. -/
def committedPeers (m : Memory) (id : InterfaceId) : List Peer :=
  (m.peersOf id).records.filter (! ·.isPrepared)

theorem mem_committedPeers {m : Memory} {id : InterfaceId} {k : PeerId} {p : Peer}
    (hp : (m.peersOf id).find? k = some p) (committed : p.isPrepared = false) :
    p ∈ committedPeers m id := by
  rw [committedPeers, List.mem_filter, committed]
  exact ⟨Directory.mem_records_iff.2 ⟨k, hp⟩, rfl⟩

theorem foldl_changed {β : Type} (f : β → Store.Change) (bs : List β) (s : Keeper) :
    bs.foldl (fun s b => { s with store := s.store.changed (f b) }) s =
      { s with store := s.store.changedAll (bs.map f) } := by
  induction bs generalizing s with
  | nil => rfl
  | cons b bs ih => rw [List.foldl_cons, ih]; rfl

inductive DeleteInterfaceEnds (id : InterfaceId) (s : Keeper) :
    Except KeeperError Unit → Keeper → Prop
  | refused {e : KeeperError} (h : e.isRefusal = true) : DeleteInterfaceEnds id s (.error e) s
  | notPushed {step : KernelStep} {cause : KernelError} {k : Kernel}
      (managed : s.memory.interfaces.contains id = true) :
      DeleteInterfaceEnds id s (.error (.kernel step id.text cause)) { s with kernel := k }
  | peerNotDeleted {done rest : List Peer} {p : Peer} {cause : StoreError} {k : Kernel}
      (managed : s.memory.interfaces.contains id = true)
      (split : committedPeers s.memory id = done ++ p :: rest)
      (fault : (s.store.changedAll (deletions done)).fault? (.deletePeer p.id) = some cause) :
      DeleteInterfaceEnds id s (.error (.persistence .deletePeer p.id.text cause))
        { s with
          kernel := k
          store := (s.store.changedAll (deletions done)).noted (.deletePeer p.id) }
  | notDeleted {cause : StoreError} {k : Kernel}
      (managed : s.memory.interfaces.contains id = true)
      (fault : (s.store.changedAll (deletions (committedPeers s.memory id))).fault?
        (.deleteInterface id) = some cause) :
      DeleteInterfaceEnds id s (.error (.persistence .deleteInterface id.text cause))
        { s with
          kernel := k
          store := (s.store.changedAll (deletions (committedPeers s.memory id))).noted
            (.deleteInterface id) }
  | done {k : Kernel} (managed : s.memory.interfaces.contains id = true) :
      DeleteInterfaceEnds id s (.ok ())
        { s with
          kernel := k
          memory := s.memory.removeInterface id
          store := (s.store.changedAll (deletions (committedPeers s.memory id))).changed
            (.deleteInterface id) }

/-- Deleting stored peers stops at the first fault. -/
theorem deletePeers_ends (ps : List Peer) (s : Keeper) :
    Ends (ps.forM fun p => Step.persist .deletePeer p.id.text (Store.deletePeer p.id)) s
      (LoopEnds (fun p s => { s with store := s.store.changed (.deletePeer p.id) })
        (fun p s e t => ∃ cause, s.store.fault? (.deletePeer p.id) = some cause ∧
          e = .persistence .deletePeer p.id.text cause ∧
          t = { s with store := s.store.noted (.deletePeer p.id) }) ps s) := by
  apply ends_forM
  intro p t
  apply ends_persist (c := .deletePeer p.id)
  · intro _
    rfl
  · intro cause fault
    exact ⟨cause, fault, rfl, rfl⟩

theorem deleteInterface_ends (id : InterfaceId) (s : Keeper) :
    Ends (deleteInterface id) s (DeleteInterfaceEnds id s) := by
  unfold deleteInterface
  apply requireInterface_then
  · intro _
    exact .refused rfl
  intro managed
  apply askKernel_then
  · intro _ _ _
    exact .notPushed managed
  intro _ k _
  rw [ends_bind, ends_get, andThen_ok, ends_bind]
  apply (deletePeers_ends (committedPeers s.memory id) _).mono
  rintro _ t ht
  cases ht with
  | stopped _ split h =>
    obtain ⟨cause, fault, rfl, rfl⟩ := h
    rw [foldl_changed] at fault ⊢
    exact .peerNotDeleted managed split fault
  | done =>
    rw [foldl_changed, andThen_ok]
    apply persist_then (c := .deleteInterface id)
    · intro _ fault
      exact .notDeleted managed fault
    intro _
    exact .done managed

/-! ## Applying defaults -/

def withPeers (s : Keeper) (id : InterfaceId) (ps : List Peer) : Keeper :=
  { s with memory := s.memory.addPeers id ps, store := s.store.changedAll (saves ps) }

theorem withPeers_cons (s : Keeper) (id : InterfaceId) (p : Peer) (ps : List Peer) :
    withPeers s id (p :: ps) = withPeers (withPeers s id [p]) id ps := by
  cases h : p.isPrepared <;> simp [withPeers, saves, h, Store.changedAll]

theorem foldl_withPeers (id : InterfaceId) (f : Peer → Peer) (ps : List Peer) (s : Keeper) :
    ps.foldl (fun s p => withPeers s id [f p]) s = withPeers s id (ps.map f) := by
  induction ps generalizing s with
  | nil => rfl
  | cons p ps ih =>
    rw [List.foldl_cons, ih]
    exact (withPeers_cons s id (f p) (ps.map f)).symm

def renewedPeers (m : Memory) (i : Interface) (id : InterfaceId) : List Peer :=
  (m.peersOf id).records.map (Peer.applyDefaults i)

inductive ApplyDefaultsEnds (id : InterfaceId) (s : Keeper) :
    Except KeeperError Unit → Keeper → Prop
  | refused {e : KeeperError} (h : e.isRefusal = true) : ApplyDefaultsEnds id s (.error e) s
  | notStored {i : Interface} {done rest : List Peer} {p : Peer} {cause : StoreError}
      (managed : s.memory.interfaces.find? id = some i)
      (split : renewedPeers s.memory i id = done ++ p :: rest) (committed : p.isPrepared = false)
      (fault : (s.store.changedAll (saves done)).fault? (.savePeer p) = some cause) :
      ApplyDefaultsEnds id s (.error (.persistence .savePeerDefaults p.id.text cause))
        { s with
          memory := (s.memory.addPeers i.id done).addPeer i.id p
          store := (s.store.changedAll (saves done)).noted (.savePeer p) }
  | done {i : Interface} (managed : s.memory.interfaces.find? id = some i) :
      ApplyDefaultsEnds id s (.ok ()) (withPeers s i.id (renewedPeers s.memory i id))

/-- Pushing defaults into peers stops at the first fault. -/
theorem pushDefaults_ends (i : Interface) (ps : List Peer) (s : Keeper) :
    Ends (ps.forM (pushDefaults i)) s
      (LoopEnds (fun p s => withPeers s i.id [p.applyDefaults i])
        (fun p s e t => p.isPrepared = false ∧ ∃ cause,
          s.store.fault? (.savePeer (p.applyDefaults i)) = some cause ∧
          e = .persistence .savePeerDefaults p.id.text cause ∧
          t = { s with
            memory := s.memory.addPeer i.id (p.applyDefaults i)
            store := s.store.noted (.savePeer (p.applyDefaults i)) }) ps s) := by
  apply ends_forM
  intro p t
  unfold pushDefaults
  apply changeMemory_then
  have same : (p.applyDefaults i).isPrepared = p.isPrepared := rfl
  cases h : p.isPrepared with
  | true => simp [same, h, withPeers, saves, Store.changedAll]
  | false =>
    rw [same, h]
    apply ends_persist (c := .savePeer (p.applyDefaults i))
    · intro _
      simp [withPeers, saves, same, h, Store.changedAll]
    · intro cause fault
      exact ⟨rfl, cause, fault, rfl, rfl⟩

theorem applyDefaults_ends (id : InterfaceId) (s : Keeper) :
    Ends (applyDefaults id) s (ApplyDefaultsEnds id s) := by
  unfold applyDefaults
  apply look_then
  · intro e he
    exact .refused (refuses_interface _ id e he)
  intro i hi
  have managed := interface_eq_ok_iff.1 hi
  rw [ends_bind, ends_get, andThen_ok]
  apply (pushDefaults_ends i _ s).mono
  intro r t ht
  cases ht with
  | done =>
    rw [foldl_withPeers]
    exact .done managed
  | @stopped done rest p _ _ split h =>
    obtain ⟨committed, cause, fault, rfl, rfl⟩ := h
    rw [foldl_withPeers] at fault ⊢
    have renewed : renewedPeers s.memory i id = done.map (Peer.applyDefaults i) ++
        p.applyDefaults i :: rest.map (Peer.applyDefaults i) := by
      rw [renewedPeers, split, List.map_append, List.map_cons]
    exact .notStored managed renewed committed fault

end Keeper

end TunnelKeeper

import TunnelKeeper.Proofs.Keeper.PeerEnds
import TunnelKeeper.Proofs.Memory.Refiling

/-!
# Operations where nothing fails

What an operation does when kernel and store are healthy. Then nothing stops it but a refusal, so
for each operation there is a condition on the input and on what is managed under which it is done,
and memory and the stored records that it leaves follow from those that it found.
-/
namespace TunnelKeeper
open Effect Step

/-- The faults that calls of the kernel and of the store may meet. -/
structure Faults where
  kernel : Kernel.FaultPlan
  supported : Bool
  store : Store.FaultPlan

def Faults.none : Faults := ⟨.healthy, true, .healthy⟩

namespace Keeper

variable {s : Keeper}

def under (s : Keeper) (f : Faults) : Keeper :=
  { s with
    kernel := { s.kernel with faults := f.kernel, supported := f.supported }
    store := { s.store with faults := f.store } }

def healed (s : Keeper) : Keeper := s.under .none

structure Healthy (s : Keeper) : Prop where
  kernel : s.kernel.Healthy
  store : s.store.faults = Store.FaultPlan.healthy

theorem healthy_healed (s : Keeper) : s.healed.Healthy := ⟨⟨rfl, rfl⟩, rfl⟩

theorem Healthy.fault?_eq_none (h : s.Healthy) {st : Store} (later : s.store.Later st)
    (c : Store.Change) : st.fault? c = Option.none := by
  rw [Store.fault?, later.faults, h.store]
  rfl

/-- Where nothing fails nothing is lost. -/
theorem Healthy.not_lost {t : Keeper} (h : s.Healthy) : ¬ s.Lost t := by
  rintro (⟨_, _, -, -, fault⟩ | ⟨_, -, -, fault | unsupported⟩)
  · rw [h.store] at fault
    contradiction
  · rw [h.kernel.faults] at fault
    contradiction
  · rw [h.kernel.supported] at unsupported
    contradiction

/-- How an operation ends where nothing fails: it is done or not accepted. -/
inductive HealthyEnds {ε α : Type} (accepted : Prop) (m : Memory) (r : Store.Records) :
    Except ε α → Keeper → Prop
  | refused {e : ε} {t : Keeper} (h : ¬ accepted) : HealthyEnds accepted m r (.error e) t
  | done {a : α} {t : Keeper} (h : accepted) (healthy : t.Healthy) (memory : t.memory = m)
      (records : t.store.records = r) : HealthyEnds accepted m r (.ok a) t

/-- Whether an operation is done where nothing fails, with what it makes of memory and records. -/
def Completes (x : Step Unit) (s : Keeper) (m : Memory) (r : Store.Records) : Prop :=
  Ends x s.healed fun result t => result = .ok () ∧ t.memory = m ∧ t.store.records = r

theorem completes_iff {x : Step Unit} {accepted : Prop} {m m' : Memory} {r r' : Store.Records}
    (h : Ends x s.healed (HealthyEnds accepted m r)) :
    Completes x s m' r' ↔ accepted ∧ m = m' ∧ r = r' := by
  unfold Completes
  unfold Ends at h ⊢
  generalize (x.run.run s.healed).1 = result at h ⊢
  cases h with
  | refused unaccepted =>
    exact ⟨fun ⟨isOk, _⟩ => (nomatch isOk), fun ⟨accepted, _⟩ => absurd accepted unaccepted⟩
  | done accepted _ memory records =>
    subst memory records
    exact ⟨fun ⟨_, made⟩ => ⟨accepted, made⟩, fun ⟨_, made⟩ => ⟨rfl, made⟩⟩

theorem completes_iff_run {x : Step Unit} {m : Memory} {r : Store.Records} :
    Completes x s m r ↔
      ∃ t, x.run.run s.healed = (.ok (), t) ∧ t.memory = m ∧ t.store.records = r := by
  unfold Completes Ends
  constructor
  · rintro ⟨isOk, made⟩
    exact ⟨_, Prod.ext isOk rfl, made⟩
  · rintro ⟨t, run, made⟩
    rw [run]
    exact ⟨rfl, made⟩

section

variable {α : Type} {x : Step α} {next : α → Step Unit} {P : α → Prop} {I : Kernel → Prop}
  {target : String} {accepted : Prop} {m : Memory} {r : Store.Records}

/-- A look that an accepted operation survives. -/
theorem look_needed {f : Memory → Except KeeperError α}
    (needed : accepted → ∃ a, f s.memory = .ok a)
    (ok : ∀ a, f s.memory = .ok a → Ends (next a) s (HealthyEnds accepted m r)) :
    Ends (look f >>= next) s (HealthyEnds accepted m r) := by
  apply look_then
  · intro e he
    refine .refused fun h => ?_
    obtain ⟨a, ha⟩ := needed h
    rw [ha] at he
    contradiction
  · exact ok

theorem check_needed {q : Except KeeperError α} (needed : accepted → ∃ a, q = .ok a)
    (ok : ∀ a, q = .ok a → Ends (next a) s (HealthyEnds accepted m r)) :
    Ends (check q >>= next) s (HealthyEnds accepted m r) :=
  look_needed needed ok

section

variable {id : InterfaceId} {next : Unit → Step Unit}

theorem requireInterface_needed (needed : accepted → s.memory.interfaces.contains id = true)
    (managed : s.memory.interfaces.contains id = true →
      Ends (next ()) s (HealthyEnds accepted m r)) :
    Ends (requireInterface id >>= next) s (HealthyEnds accepted m r) := by
  apply requireInterface_then
  · intro unmanaged
    refine .refused fun h => ?_
    rw [needed h] at unmanaged
    contradiction
  · exact managed

theorem requireAbsent_needed (needed : accepted → s.memory.interfaces.contains id = false)
    (absent : s.memory.interfaces.contains id = false →
      Ends (next ()) s (HealthyEnds accepted m r)) :
    Ends (requireAbsent id >>= next) s (HealthyEnds accepted m r) := by
  apply requireAbsent_then
  · intro present
    refine .refused fun h => ?_
    rw [needed h] at present
    contradiction
  · exact absent

end

variable {R : Except KeeperError Unit → Keeper → Prop}

/-- A part that changes the kernel alone and that cannot fail. -/
theorem unfailing_then (hs : I s.kernel)
    (h : Yields (WithKernel s I) P (Blames target fun _ => False) x)
    (ok : ∀ a k, I k → Ends (next a) { s with kernel := k } R) : Ends (x >>= next) s R :=
  bounded_then hs h (fun _ _ _ _ impossible => impossible.elim) fun a k _ hk => ok a k hk

/-- A write that no fault meets. -/
theorem healthy_persist {step : StoreStep} {c : Store.Change} (h : s.store.faults = .healthy)
    (ok : R (.ok ()) { s with store := s.store.changed c }) :
    Ends (persist step target c.request) s R := by
  apply ends_persist
  · intro _
    exact ok
  · intro _ fault
    rw [Store.fault?, h] at fault
    contradiction

end

/-! ## Interfaces -/

theorem createInterface_healthy (id : InterfaceId) (h : s.Healthy) :
    Ends (createInterface id) s (HealthyEnds
      (checkDeviceName id = .ok () ∧ s.memory.interfaces.contains id = false)
      (s.memory.addInterface { id := id }) (s.store.records.saveInterface { id := id })) := by
  unfold createInterface
  apply check_needed fun accepted => ⟨_, accepted.1⟩
  intro _ named
  apply requireAbsent_needed fun accepted => accepted.2
  intro absent
  apply askKernel_then
  · intro e k run
    exact (((Kernel.healthy_linkAdd _ s.kernel h.kernel).of_run run).2.2 e rfl).elim
  intro _ k run
  have healthy := ((Kernel.healthy_linkAdd _ s.kernel h.kernel).of_run run).1
  have linked := (Kernel.hasNewLink_of_linkAdd run).hasLink
  have serving := Kernel.LinkBounds.serving id.text
  refine unfailing_then ?_ (yields_request serving.yields_linkByName _ _ _) ?_
  · exact ⟨healthy, linked⟩
  intro link k hk
  refine unfailing_then ?_ (yields_request (Kernel.yields_linkSetUp serving link) _ _ _) ?_
  · exact hk
  intro _ k hk
  apply changeMemory_then
  apply healthy_persist (c := .saveInterface { id := id })
  · exact h.store
  exact .done ⟨named, absent⟩ ⟨hk.1, h.store⟩ rfl rfl

/-- The link of an interface that was created is there and as new. -/
theorem hasNewLink_of_createInterface {id : InterfaceId} {t : Keeper}
    (h : (createInterface id).run.run s = (.ok (), t)) : t.kernel.HasNewLink id.text := by
  have ends : Ends (createInterface id) s fun r t =>
      r = .ok () → t.kernel.HasNewLink id.text := by
    unfold createInterface
    apply check_then
    · exact fun _ _ => nofun
    intro _ _
    apply requireAbsent_then
    · exact fun _ => nofun
    intro _
    apply askKernel_then
    · exact fun _ _ _ => nofun
    intro _ k run
    refine bounded_then ?_ (yields_request (Kernel.yields_linkByName_new id.text) _ _ _) ?_ ?_
    · exact Kernel.hasNewLink_of_linkAdd run
    · exact fun _ _ _ _ _ => nofun
    rintro _ k rfl new
    refine bounded_then ?_ (yields_request (Kernel.yields_linkSetUp_new id.text) _ _ _) ?_ ?_
    · exact new
    · exact fun _ _ _ _ _ => nofun
    intro _ k _ new
    apply changeMemory_then
    apply ends_persist (c := .saveInterface { id := id })
    · exact fun _ _ => new
    · exact fun _ _ => nofun
  exact ends.of_run h rfl

/-- Whether an interface can be updated where nothing fails. -/
structure Updatable (s : Keeper) (i : Interface) : Prop where
  named : checkInterfaceId i.id = .ok ()
  addressed : ∃ cs, Memory.addressesAt (.interface i.id) i.addresses = .ok cs
  keyed : ∃ k, privateKey? i = .ok k
  managed : s.memory.interfaces.contains i.id = true
  linked : s.kernel.HasLink i.id.text

/-- Nothing is pushed to a link that is missing. -/
theorem hasLink_of_pushed (i : Interface) (addresses : List Net.Cidr) (privateKey : Option Key)
    (s : Keeper) :
    Ends (pushInterface i addresses privateKey) s
      fun r _ => r = .ok () → s.kernel.HasLink i.id.text := by
  unfold pushInterface
  apply askKernel_then
  · exact fun _ _ _ => nofun
  intro _ _ found _
  exact Kernel.hasLink_of_linkByName found

theorem updateInterface_healthy (i : Interface) (h : s.Healthy) :
    Ends (updateInterface i) s (HealthyEnds (s.Updatable i) (withInterface s.memory i)
      (s.store.records.saveInterface i)) := by
  unfold updateInterface
  apply check_needed fun u : s.Updatable i => ⟨_, u.named⟩
  intro _ named
  apply check_needed Updatable.addressed
  intro addresses addressed
  apply check_needed Updatable.keyed
  intro privateKey keyed
  apply requireInterface_needed Updatable.managed
  intro managed
  by_cases linked : s.kernel.HasLink i.id.text
  · apply unfailing_then ⟨h.kernel, linked⟩ (yields_pushInterface s i (.serving _) _ _)
    intro _ k hk
    apply changeMemory_then
    apply healthy_persist (c := .saveInterface i)
    · exact h.store
    exact .done ⟨named, ⟨_, addressed⟩, ⟨_, keyed⟩, managed, linked⟩ ⟨hk.1, h.store⟩ rfl rfl
  · rw [ends_bind]
    apply (hasLink_of_pushed i addresses privateKey s).mono
    intro r t found
    cases r with
    | error e => exact .refused fun u => linked u.linked
    | ok _ => exact absurd (found rfl) linked

theorem completes_updateInterface_iff {i : Interface} {m : Memory} {r : Store.Records} :
    Completes (updateInterface i) s m r ↔ s.healed.Updatable i ∧ withInterface s.memory i = m ∧
      s.store.records.saveInterface i = r :=
  completes_iff (updateInterface_healthy i (healthy_healed s))

theorem deleteInterface_healthy (id : InterfaceId) (h : s.Healthy) :
    Ends (deleteInterface id) s (HealthyEnds (s.memory.interfaces.contains id = true)
      (s.memory.removeInterface id)
      ((Store.Change.applyAll (Store.deletions (committedPeers s.memory id))
        s.store.records).deleteInterface id)) := by
  unfold deleteInterface
  apply requireInterface_needed fun managed => managed
  intro managed
  apply unfailing_then h.kernel (yields_request (Kernel.healthy_linkDel _) s _ _)
  intro _ k hk
  rw [ends_bind, ends_get, andThen_ok, ends_bind]
  apply (deletePeers_ends (committedPeers s.memory id) _).mono
  rintro _ t ht
  cases ht with
  | stopped _ _ stop =>
    obtain ⟨cause, fault, -, -⟩ := stop
    rw [foldl_changed, h.fault?_eq_none (.changedAll _ _)] at fault
    contradiction
  | done =>
    rw [foldl_changed, andThen_ok]
    have later := Store.Later.changedAll s.store (Store.deletions (committedPeers s.memory id))
    rw [ends_bind]
    apply healthy_persist (c := .deleteInterface id)
    · exact later.faults.trans h.store
    refine .done managed ⟨hk, later.faults.trans h.store⟩ rfl ?_
    exact congrArg (Store.Records.deleteInterface · id) (Store.records_changedAll _ _)

theorem completes_deleteInterface_iff {id : InterfaceId} {m : Memory} {r : Store.Records} :
    Completes (deleteInterface id) s m r ↔ s.memory.interfaces.contains id = true ∧
      s.memory.removeInterface id = m ∧
      (Store.Change.applyAll (Store.deletions (committedPeers s.memory id))
        s.store.records).deleteInterface id = r :=
  completes_iff (deleteInterface_healthy id (healthy_healed s))

theorem applyDefaults_healthy {id : InterfaceId} {i : Interface} (h : s.Healthy)
    (managed : s.memory.interfaces.find? id = some i) :
    Ends (applyDefaults id) s (HealthyEnds True
      (s.memory.addPeers i.id (renewedPeers s.memory i id))
      (Store.Change.applyAll (Store.saves (renewedPeers s.memory i id)) s.store.records)) := by
  unfold applyDefaults
  apply look_needed fun _ => ⟨i, interface_eq_ok_iff.2 managed⟩
  intro j hj
  cases (interface_eq_ok_iff.1 hj).symm.trans managed
  rw [ends_bind, ends_get, andThen_ok]
  apply (pushDefaults_ends i _ s).mono
  intro r t ht
  cases ht with
  | stopped _ _ stop =>
    obtain ⟨-, cause, fault, -, -⟩ := stop
    rw [foldl_withPeers] at fault
    cases (h.fault?_eq_none (.changedAll _ _) _).symm.trans fault
  | done =>
    rw [foldl_withPeers]
    refine .done trivial ⟨h.kernel, ?_⟩ rfl (Store.records_changedAll _ _)
    exact (Store.Later.changedAll _ _).faults.trans h.store

theorem completes_applyDefaults_iff {id : InterfaceId} {m : Memory} {r : Store.Records} :
    Completes (applyDefaults id) s m r ↔ ∃ i, s.memory.interfaces.find? id = some i ∧
      s.memory.addPeers i.id (renewedPeers s.memory i id) = m ∧
      Store.Change.applyAll (Store.saves (renewedPeers s.memory i id)) s.store.records = r := by
  constructor
  · intro h
    obtain ⟨t, run, -⟩ := completes_iff_run.1 h
    cases (applyDefaults_ends id s.healed).of_run run with
    | @done i managed =>
      have done := (completes_iff (applyDefaults_healthy (healthy_healed s) managed)).1 h
      exact ⟨i, managed, done.2⟩
  · rintro ⟨i, managed, made⟩
    exact (completes_iff (applyDefaults_healthy (healthy_healed s) managed)).2 ⟨trivial, made⟩

/-! ## Peers -/

def Savable (m : Memory) (p : Peer) : Prop := ∃ change, neededChange m p = .ok change

theorem savePeer_healthy (p : Peer) (h : s.Healthy) :
    Ends (savePeer p) s (HealthyEnds (Savable s.memory p)
      (s.memory.addPeer p.tunnel.interfaceId p)
      (Store.Change.applyAll (Store.saves [p]) s.store.records)) := by
  unfold savePeer
  apply look_needed id
  intro change needed
  have prepared := (of_neededChange needed).2
  apply changeMemory_then
  cases change with
  | none =>
    refine .done ⟨_, needed⟩ ⟨h.kernel, h.store⟩ rfl ?_
    rw [Store.saves_of_prepared prepared]
    rfl
  | some c =>
    refine unfailing_then ?_ (yields_request (Kernel.yields_attempt .healthy _) _ _ _) ?_
    · exact h.kernel
    intro _ k hk
    apply healthy_persist (c := .savePeer p)
    · exact h.store
    refine .done ⟨_, needed⟩ ⟨hk, h.store⟩ rfl ?_
    rw [Store.saves_of_committed (List.forall_mem_singleton.2 prepared)]
    rfl

theorem removePeer_healthy {id : PeerId} {p : Peer} (h : s.Healthy)
    (known : s.memory.findPeer? id = some p) :
    Ends (removePeer id) s (HealthyEnds
      (p.isPrepared = false → ∃ key, (KeyPlace.publicKey id).parse p.keys.publicKey = .ok key)
      (s.memory.removePeer p.tunnel.interfaceId id)
      (if p.isPrepared then s.store.records else s.store.records.deletePeer id)) := by
  unfold removePeer
  apply look_needed fun _ => ⟨p, peer_eq_ok_iff.2 known⟩
  intro q hq
  cases (peer_eq_ok_iff.1 hq).symm.trans known
  cases prepared : p.isPrepared with
  | true => exact .done nofun ⟨h.kernel, h.store⟩ rfl rfl
  | false =>
    apply check_needed fun keyed => keyed rfl
    intro key hkey
    apply unfailing_then h.kernel (yields_request (Kernel.yields_attempt .healthy _) s _ _)
    intro _ k hk
    rw [ends_bind]
    apply healthy_persist (c := .deletePeer id)
    · exact h.store
    exact .done (fun _ => ⟨key, hkey⟩) ⟨hk, h.store⟩ rfl rfl

theorem completes_removePeer_iff {id : PeerId} {m : Memory} {r : Store.Records} :
    Completes (removePeer id) s m r ↔ ∃ p, s.memory.findPeer? id = some p ∧
      (p.isPrepared = false → ∃ key, (KeyPlace.publicKey id).parse p.keys.publicKey = .ok key) ∧
      s.memory.removePeer p.tunnel.interfaceId id = m ∧
      (if p.isPrepared then s.store.records else s.store.records.deletePeer id) = r := by
  constructor
  · intro h
    obtain ⟨t, run, -⟩ := completes_iff_run.1 h
    have known : ∃ p, s.memory.findPeer? id = some p := by
      cases (removePeer_ends id s.healed).of_run run with
      | prepared known => exact ⟨_, known⟩
      | done known => exact ⟨_, known⟩
    obtain ⟨p, known⟩ := known
    exact ⟨p, known, (completes_iff (removePeer_healthy (healthy_healed s) known)).1 h⟩
  · rintro ⟨p, known, made⟩
    exact (completes_iff (removePeer_healthy (healthy_healed s) known)).2 made

end Keeper

end TunnelKeeper

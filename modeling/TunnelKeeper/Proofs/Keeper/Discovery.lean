import TunnelKeeper.Proofs.Keeper.Health

/-!
# Which devices are found

The candidates that a search lists are those for the unmanaged devices that the kernel holds, each
with its link and its addresses. A search changes nothing that the kernel holds, so it may be made
again. It fails where a call meets a fault or where the link of a device is missing. Taking over a
candidate does not depend on the kernel.
-/
namespace TunnelKeeper
open Effect Step

/-- A pass that answers each element with what is known of it. -/
theorem Effect.Yields.mapM_some {ε σ α β : Type} {I : σ → Prop} {g : β → Option α}
    {E : β → ε → Prop} {f : β → Effect ε σ α} {bs : List β}
    (h : ∀ b, Yields I (fun a => g b = some a) (E b) (f b)) :
    Yields I (fun as => bs.map g = as.map some) (fun e => ∃ b ∈ bs, E b e) (bs.mapM f) := by
  induction bs with
  | nil => exact .pure rfl
  | cons b bs ih =>
    rw [List.mapM_cons]
    apply ((h b).mono (fun _ ha => ha) fun _ he => ⟨b, List.mem_cons_self, he⟩).bind
    intro a ha
    apply (ih.mono (fun _ has => has) fun _ ⟨c, hc, he⟩ => ⟨c, List.mem_cons_of_mem b hc, he⟩).bind
    intro as has
    apply Yields.pure
    rw [List.map_cons, List.map_cons, ha, has]

/-- Whether a kernel holds the same links, addresses and devices as another one. -/
structure Kernel.Holds (k₀ k : Kernel) : Prop where
  links : k.links = k₀.links
  addresses : k.addresses = k₀.addresses
  devices : k.devices = k₀.devices

namespace Kernel

theorem bounds_holds (k₀ : Kernel) : Bounds k₀.Holds fun _ => True :=
  ⟨fun h _ => ⟨h.links, h.addresses, h.devices⟩, fun _ _ _ _ => trivial⟩

theorem bounds_healthy_holds (k₀ : Kernel) :
    Bounds (fun k => k.Healthy ∧ k₀.Holds k) fun _ => False where
  record h c := ⟨Bounds.healthy.record h.1 c, (bounds_holds k₀).record h.2 c⟩
  fault h _ _ fault := Bounds.healthy.fault h.1 fault

end Kernel

namespace Keeper

variable {s t : Keeper}

/-- The candidate for a device, if its link is there. -/
def candidate? (s : Keeper) (d : Kernel.Device) : Option ImportCandidate :=
  (s.kernel.links.find? ⟨d.name⟩).map fun link =>
    let i := importedInterface s.clock d link ((s.kernel.addresses.find? ⟨link.name⟩).getD [])
    { interface := i
      location := "interface"
      kind := "unknown"
      peers := d.peers.map (importedPeer i) }

def unmanaged (s : Keeper) : List Kernel.Device :=
  s.kernel.devices.records.filter fun d => !s.memory.interfaces.contains ⟨d.name⟩

/-- Whether a list of candidates is the one for the unmanaged devices. -/
def Lists (s : Keeper) (cs : List ImportCandidate) : Prop :=
  s.unmanaged.map s.candidate? = cs.map some

section

variable {I : Kernel → Prop} {F : Prop}

theorem yields_candidate (b : Kernel.Bounds I fun _ => F) (holds : ∀ k, I k → s.kernel.Holds k)
    (d : Kernel.Device) :
    Yields (WithKernel s I) (fun c => s.candidate? d = some c)
      (fun e => e.isPersistence = false ∧ (F ∨ s.candidate? d = none)) (importCandidate d) := by
  have opened : Yields I (fun link => s.kernel.links.find? ⟨d.name⟩ = some link)
      (fun _ => F ∨ s.kernel.links.find? ⟨d.name⟩ = none) (Kernel.linkByName d.name) := by
    refine Kernel.yields_linkByName ⟨b.record, fun h _ _ fault => .inl (b.fault h fault)⟩ ?_ ?_
    · intro k link hk found
      rw [← (holds k hk).links, found]
    · intro k hk absent
      rw [← (holds k hk).links, absent]
      exact .inr rfl
  have listed (link : Kernel.Link) : Yields I
      (· = (s.kernel.addresses.find? ⟨link.name⟩).getD []) (fun _ => F)
      (Kernel.addrList link) := by
    refine Kernel.yields_attempt_read b _ fun k hk => ?_
    rw [(holds k hk).addresses]
  unfold importCandidate
  apply ((yields_request opened s _ _).mono (fun _ found => found) ?_).bind
  · intro link found
    apply ((yields_request (listed link) s _ _).mono (fun _ same => same) ?_).bind
    · rintro _ rfl _ ⟨k, hk, rfl⟩
      rw [ends_bind, ends_get, andThen_ok]
      refine ⟨⟨k, hk, rfl⟩, ?_, nofun⟩
      rintro _ ⟨⟩
      rw [candidate?, found]
      rfl
    · rintro _ ⟨_, _, fault, rfl⟩
      exact ⟨rfl, .inl fault⟩
  · rintro _ ⟨_, _, fault | absent, rfl⟩
    · exact ⟨rfl, .inl fault⟩
    · refine ⟨rfl, .inr ?_⟩
      rw [candidate?, absent]
      rfl

/-- A search that succeeds lists the candidates; it fails only where a fault may meet a call or
where a link is missing. -/
theorem yields_importCandidates (b : Kernel.Bounds I fun _ => F)
    (holds : ∀ k, I k → s.kernel.Holds k) :
    Yields (WithKernel s I) s.Lists
      (fun e => e.isPersistence = false ∧ (F ∨ ∃ d ∈ s.unmanaged, s.candidate? d = none))
      importCandidates := by
  have listed : Yields I (· = s.kernel.devices.records) (fun _ => F) Kernel.listDevices := by
    refine Kernel.yields_attempt_read b _ fun k hk => ?_
    rw [(holds k hk).devices]
  unfold importCandidates
  apply ((yields_request listed s _ _).mono (fun _ same => same) ?_).bind
  · rintro _ rfl t ht
    obtain ⟨k, hk, rfl⟩ := id ht
    rw [ends_bind, ends_get, andThen_ok]
    have all : Yields (WithKernel s I) s.Lists
        (fun e => ∃ d ∈ s.unmanaged, e.isPersistence = false ∧ (F ∨ s.candidate? d = none))
        (s.unmanaged.mapM importCandidate) :=
      .mapM_some fun d => yields_candidate b holds d
    apply all.mono (fun _ lists => lists) _ _ ht
    rintro _ ⟨d, hd, kernel, fault | absent⟩
    · exact ⟨kernel, .inl fault⟩
    · exact ⟨kernel, .inr ⟨d, hd, absent⟩⟩
  · rintro _ ⟨_, _, fault, rfl⟩
    exact ⟨rfl, .inl fault⟩

end

variable {cs : List ImportCandidate}

/-- A search keeps what the kernel holds, and lists the candidates if it succeeds. -/
theorem of_importCandidates {r : Except KeeperError (List ImportCandidate)}
    (run : importCandidates.run.run s = (r, t)) :
    (∃ k, s.kernel.Holds k ∧ t = { s with kernel := k }) ∧ (∀ cs, r = .ok cs → s.Lists cs) ∧
      ∀ e, r = .error e → e.isPersistence = false := by
  have search := yields_importCandidates (Kernel.bounds_holds s.kernel) fun _ holds => holds
  obtain ⟨kept, lists, errors⟩ := (search s ⟨_, ⟨rfl, rfl, rfl⟩, rfl⟩).of_run run
  exact ⟨kept, lists, fun e he => (errors e he).1⟩

/-- A search succeeds where nothing fails and no link is missing. -/
theorem importCandidates_healthy (h : s.Healthy)
    (linked : ∀ d ∈ s.unmanaged, s.candidate? d ≠ none) :
    ∃ cs k, importCandidates.run.run s = (.ok cs, { s with kernel := k }) ∧ k.Healthy ∧
      s.Lists cs := by
  have search := yields_importCandidates (Kernel.bounds_healthy_holds s.kernel) fun _ hk => hk.2
  rcases run : importCandidates.run.run s with ⟨r, t⟩
  obtain ⟨⟨k, hk, rfl⟩, lists, errors⟩ :=
    (search s ⟨_, ⟨h.kernel, ⟨rfl, rfl, rfl⟩⟩, rfl⟩).of_run run
  cases r with
  | ok cs => exact ⟨cs, k, rfl, hk.1, lists cs rfl⟩
  | error e =>
    rcases (errors e rfl).2 with impossible | ⟨d, hd, absent⟩
    · contradiction
    · exact absurd absent (linked d hd)

/-- A state in which a search finds nothing but what it finds in another one. -/
structure Narrows (s t : Keeper) : Prop where
  holds : s.kernel.Holds t.kernel
  clock : t.clock = s.clock
  managed (id : InterfaceId) :
    s.memory.interfaces.contains id = true → t.memory.interfaces.contains id = true

namespace Narrows

theorem of_holds {k : Kernel} (h : s.kernel.Holds k) : Narrows s { s with kernel := k } :=
  ⟨h, rfl, fun _ managed => managed⟩

theorem trans {u : Keeper} (h : Narrows s t) (h' : Narrows t u) : Narrows s u where
  holds := ⟨h'.holds.links.trans h.holds.links, h'.holds.addresses.trans h.holds.addresses,
    h'.holds.devices.trans h.holds.devices⟩
  clock := h'.clock.trans h.clock
  managed id managed := h'.managed id (h.managed id managed)

/-- Which faults are ahead makes no difference. -/
theorem of_under {f : Faults} (h : Narrows (s.under f) t) : Narrows s t :=
  ⟨⟨h.holds.links, h.holds.addresses, h.holds.devices⟩, h.clock, h.managed⟩

theorem healed (h : Narrows s t) : Narrows s.healed t.healed :=
  ⟨⟨h.holds.links, h.holds.addresses, h.holds.devices⟩, h.clock, h.managed⟩

theorem candidate?_eq (h : Narrows s t) (d : Kernel.Device) : t.candidate? d = s.candidate? d := by
  rw [candidate?, h.holds.links, h.holds.addresses, h.clock]
  rfl

theorem mem_unmanaged (h : Narrows s t) {d : Kernel.Device} (hd : d ∈ t.unmanaged) :
    d ∈ s.unmanaged := by
  obtain ⟨known, free⟩ := List.mem_filter.1 hd
  rw [h.holds.devices] at known
  refine List.mem_filter.2 ⟨known, ?_⟩
  cases managed : s.memory.interfaces.contains ⟨d.name⟩ with
  | false => rfl
  | true =>
    rw [h.managed _ managed] at free
    contradiction

/-- With the same interfaces in memory a search finds the same. -/
theorem lists (h : Narrows s t) (same : t.memory = s.memory) (hs : s.Lists cs) : t.Lists cs := by
  have candidates : t.candidate? = s.candidate? := funext h.candidate?_eq
  have devices : t.unmanaged = s.unmanaged := by
    rw [unmanaged, h.holds.devices, same]
    rfl
  rw [Lists, candidates, devices]
  exact hs

end Narrows

theorem Lists.candidate?_ne_none (h : s.Lists cs) {d : Kernel.Device} (hd : d ∈ s.unmanaged) :
    s.candidate? d ≠ none := by
  have listed : s.candidate? d ∈ cs.map some := h ▸ List.mem_map_of_mem hd
  obtain ⟨c, -, found⟩ := List.mem_map.1 listed
  rw [← found]
  exact Option.some_ne_none c

theorem Lists.unique {ds : List ImportCandidate} (h : s.Lists cs) (h' : s.Lists ds) : cs = ds :=
  (List.map_inj_right fun _ _ => Option.some.inj).1 (h.symm.trans h')

theorem Lists.exists_device (h : s.Lists cs) {c : ImportCandidate} (hc : c ∈ cs) :
    ∃ d ∈ s.unmanaged, s.candidate? d = some c :=
  List.mem_map.1 (h ▸ List.mem_map_of_mem hc : some c ∈ s.unmanaged.map s.candidate?)

/-- No candidate is managed. -/
theorem Lists.unmanaged (h : s.Lists cs) {c : ImportCandidate} (hc : c ∈ cs) :
    s.memory.interfaces.contains c.interface.id = false := by
  obtain ⟨d, hd, found⟩ := h.exists_device hc
  have named : c.interface.id = ⟨d.name⟩ := by
    unfold candidate? at found
    obtain ⟨link, -, rfl⟩ := Option.map_eq_some_iff.1 found
    rfl
  rw [named]
  simpa using (List.mem_filter.1 hd).2

/-- A fault meets taking over a candidate once it is managed. -/
theorem of_importInterface_eq_error {c : ImportCandidate} {e : KeeperError}
    (failed : (importInterface c).run.run s = (.error e, t)) (fault : e.isRefusal = false) :
    Narrows s t ∧ t.memory.interfaces.contains c.interface.id = true := by
  have same : t.kernel = s.kernel ∧ t.clock = s.clock := by
    cases (importInterface_ends c s).of_run failed <;> exact ⟨rfl, rfl⟩
  have interfaces : t.memory.interfaces =
      s.memory.interfaces.insert c.interface.id c.interface := by
    cases (importInterface_ends c s).of_run failed with
    | refused refusal =>
      rw [fault] at refusal
      contradiction
    | interfaceNotStored => rfl
    | peerNotStored => exact Memory.interfaces_addPeers _ _ _
  refine ⟨⟨?_, same.2, fun id managed => ?_⟩, ?_⟩
  · rw [same.1]
    exact ⟨rfl, rfl, rfl⟩
  · rw [interfaces, Directory.contains_insert, managed, Bool.or_true]
  · rw [interfaces, Directory.contains_insert, decide_eq_true rfl, Bool.true_or]

/-- Whether a candidate can be taken over where nothing fails. -/
structure Takeable (m : Memory) (c : ImportCandidate) : Prop where
  named : checkInterfaceId c.interface.id = .ok ()
  absent : m.interfaces.contains c.interface.id = false
  checked : (adoptedPeers c).forM (checkImportedPeer m c.interface.id) = .ok ()

theorem importInterface_healthy (c : ImportCandidate) (h : s.Healthy) :
    Ends (importInterface c) s (HealthyEnds (Takeable s.memory c)
      ((s.memory.addInterface c.interface).addPeers c.interface.id (adoptedPeers c))
      (Store.Change.applyAll ((adoptedPeers c).map .savePeer)
        (s.store.records.saveInterface c.interface))) := by
  unfold importInterface
  apply check_needed fun accepted : Takeable s.memory c => ⟨_, accepted.named⟩
  intro _ named
  apply requireAbsent_needed Takeable.absent
  intro absent
  apply look_needed fun accepted : Takeable s.memory c => ⟨_, accepted.checked⟩
  intro _ checked
  apply changeMemory_then
  rw [ends_bind]
  apply healthy_persist (c := .saveInterface c.interface)
  · exact h.store
  have first := Store.Later.changed s.store (.saveInterface c.interface)
  apply (importPeers_ends c.interface.id (adoptedPeers c) _).mono
  intro r t ht
  cases ht with
  | stopped _ _ stop =>
    obtain ⟨cause, fault, -, -⟩ := stop
    rw [foldl_addPeer_changed] at fault
    cases (h.fault?_eq_none (first.trans (.changedAll _ _)) _).symm.trans fault
  | done =>
    rw [foldl_addPeer_changed]
    have later := first.trans (.changedAll _ ((adoptedPeers c).map .savePeer))
    refine .done ⟨named, absent, checked⟩ ⟨h.kernel, later.faults.trans h.store⟩ rfl ?_
    exact Store.records_changedAll _ _

end Keeper

end TunnelKeeper

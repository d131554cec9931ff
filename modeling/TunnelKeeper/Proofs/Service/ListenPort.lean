import TunnelKeeper.Proofs.Service.Carrying

/-!
# Listen numbers of new interfaces

A new interface gets the listen number after the highest one in use, so nothing else listens there.
The numbers end at 65535: an interface that has this number keeps it for itself and for every new
interface as well.
-/
namespace TunnelKeeper.Service
open TunnelKeeper

instance : Std.LawfulOrderMax UInt16 where
  max_eq_or a b := by
    change (if a ≤ b then b else a) = a ∨ (if a ≤ b then b else a) = b
    split <;> simp
  max_le_iff a b c := by
    change (if a ≤ b then b else a) ≤ c ↔ _
    simp only [UInt16.le_iff_toNat_le]
    split <;> omega

variable {c : Settings} {s : Service} {id : InterfaceId} {d : UInt16} {is : List Interface}

theorem toNat_nextListenPort (n : UInt16) :
    (nextListenPort n).toNat = min 65535 (n.toNat + 1) := by
  have bound : n.toNat < 65536 := n.toNat_lt
  unfold nextListenPort
  split
  case isTrue highest => simp [highest]
  case isFalse lower =>
    have below : n.toNat ≠ 65535 := fun same => lower (UInt16.toNat_inj.1 same)
    have step : (n + 1).toNat = (n.toNat + 1) % 65536 := UInt16.toNat_add n 1
    omega

/-- Some interface has the highest number, unless there is none. -/
theorem freeListenPort_cases (d : UInt16) (is : List Interface) :
    is = [] ∧ freeListenPort d is = d ∨
      ∃ h ∈ is, (∀ j ∈ is, j.listenPort.toNat ≤ h.listenPort.toNat) ∧
        (freeListenPort d is).toNat = min 65535 (h.listenPort.toNat + 1) := by
  unfold freeListenPort
  cases found : (is.map (·.listenPort)).max? with
  | none =>
    rw [List.max?_eq_none_iff, List.map_eq_nil_iff] at found
    exact .inl ⟨found, rfl⟩
  | some n =>
    obtain ⟨used, highest⟩ := List.max?_eq_some_iff.1 found
    obtain ⟨h, hh, rfl⟩ := List.mem_map.1 used
    refine .inr ⟨h, hh, fun j hj => ?_, toNat_nextListenPort _⟩
    exact UInt16.le_iff_toNat_le.1 (highest _ (List.mem_map_of_mem hj))

theorem freeListenPort_ne_zero (given : d ≠ 0) : freeListenPort d is ≠ 0 := by
  rcases freeListenPort_cases d is with ⟨-, same⟩ | ⟨h, -, -, next⟩
  · rwa [same]
  · intro zero
    rw [zero, UInt16.toNat_zero] at next
    omega

/-- The number is in use exactly if the last number is. -/
theorem used_freeListenPort_iff (d : UInt16) (is : List Interface) :
    (∃ j ∈ is, j.listenPort = freeListenPort d is) ↔ ∃ j ∈ is, j.listenPort = 65535 := by
  rcases freeListenPort_cases d is with ⟨rfl, -⟩ | ⟨h, hh, highest, next⟩
  · simp
  have bound : h.listenPort.toNat < 65536 := h.listenPort.toNat_lt
  constructor
  · rintro ⟨j, hj, same⟩
    have le := highest j hj
    rw [← same] at next
    exact ⟨j, hj, UInt16.toNat_inj.1 (by change _ = 65535; omega)⟩
  · rintro ⟨j, hj, last⟩
    have le := highest j hj
    rw [last] at le
    change 65535 ≤ _ at le
    exact ⟨j, hj, UInt16.toNat_inj.1 (by rw [next, last]; change 65535 = _; omega)⟩

def nextInterface (s : Service) (c : Settings) (id : InterfaceId) : Interface where
  id := id
  keys := s.keys.pair (s.keys.pairsGiven + 1)
  listenPort := freeListenPort c.defaultListenPort s.keeper.memory.interfaces.records
  displayName := id.text
  driver := c.defaultDriver

/-- A preparation takes a key pair and changes nothing else. -/
theorem run_prepareInterface (unmanaged : s.keeper.memory.interfaces.find? id = none) :
    (prepareInterface c id).run s = (.ok (s.nextInterface c id),
      { s with keys := { s.keys with pairsGiven := s.keys.pairsGiven + 1 } }) := by
  have unknown : s.keeper.memory.interface id = .error (.interfaceNotFound id) := by
    rw [Memory.interface, unmanaged]
  have answer : (prepareInterface c id).Ends s fun r t => (r, t) = (.ok (s.nextInterface c id),
      { s with keys := { s.keys with pairsGiven := s.keys.pairsGiven + 1 } }) := by
    apply Job.attempt_look_then
    rw [unknown]
    apply Job.look_then
    · intro e failed
      contradiction
    · rintro _ ⟨⟩
      rfl
  exact answer

/-- A new interface gets a listen number that is not zero: the one after the highest, as far as
there is one. No other interface has this number, unless one has the last number. -/
theorem prepared_listen_port (unmanaged : s.keeper.memory.interfaces.find? id = none)
    (given : c.defaultListenPort ≠ 0) :
    let others := s.keeper.memory.interfaces.records
    ∃ i t, (prepareInterface c id).run s = (.ok i, t) ∧ t.keeper = s.keeper ∧ i.id = id ∧
      i.listenPort ≠ 0 ∧
      ((∀ j ∈ others, j.listenPort ≠ i.listenPort) ↔ ∀ j ∈ others, j.listenPort ≠ 65535) ∧
      (others = [] ∧ i.listenPort = c.defaultListenPort ∨
        ∃ h ∈ others, (∀ j ∈ others, j.listenPort.toNat ≤ h.listenPort.toNat) ∧
          i.listenPort.toNat = min 65535 (h.listenPort.toNat + 1)) := by
  intro others
  have free := not_congr (used_freeListenPort_iff c.defaultListenPort others)
  simp only [not_exists, not_and] at free
  exact ⟨_, _, run_prepareInterface unmanaged, rfl, rfl, freeListenPort_ne_zero given, free,
    freeListenPort_cases c.defaultListenPort others⟩

def listener (n : UInt16) : Interface := { id := ⟨"wg0"⟩, listenPort := n }

def plainSettings : Settings where
  defaultListenPort := 51820
  defaultDriver := "linux"
  preparedTtl := 900

theorem prepared_listen_port_listener :
    let s := serve [.createInterface (listener 65534)] vacant
    s.keeper.memory.interfaces.find? ⟨"wg1"⟩ = none ∧ plainSettings.defaultListenPort ≠ 0 ∧
      ∃ i t, (prepareInterface plainSettings ⟨"wg1"⟩).run s = (.ok i, t) ∧ i.listenPort = 65535 ∧
        ∀ j ∈ s.keeper.memory.interfaces.records, j.listenPort ≠ i.listenPort := by
  intro s
  have unmanaged : s.keeper.memory.interfaces.find? ⟨"wg1"⟩ = none := by decide +kernel
  have given : plainSettings.defaultListenPort ≠ 0 := by decide
  have others : s.keeper.memory.interfaces.records = [listener 65534] := by decide +kernel
  obtain ⟨i, t, prepared, -, -, -, free, ⟨none, -⟩ | ⟨h, hh, -, next⟩⟩ :=
    prepared_listen_port unmanaged given
  · rw [others] at none
    contradiction
  · rw [others, List.mem_singleton] at hh
    rw [hh] at next
    refine ⟨unmanaged, given, i, t, prepared, UInt16.toNat_inj.1 next, free.2 ?_⟩
    rw [others, List.forall_mem_singleton]
    decide

/-- Beside an interface that listens at the last number a new interface gets the same number. -/
theorem listen_port_taken :
    let s := serve [.createInterface (listener 65535)] vacant
    vacant.keeper.Started ∧
      Relation.ReflTransGen (Move fun _ u _ => u.keeper.Healthy) vacant s ∧
      plainSettings.defaultListenPort ≠ 0 ∧
      s.keeper.memory.interfaces.find? ⟨"wg0"⟩ = some (listener 65535) ∧
      s.keeper.memory.interfaces.find? ⟨"wg1"⟩ = none ∧
      ∃ i t, (prepareInterface plainSettings ⟨"wg1"⟩).run s = (.ok i, t) ∧
        i.listenPort = (listener 65535).listenPort := by
  intro s
  have unmanaged : s.keeper.memory.interfaces.find? ⟨"wg1"⟩ = none := by decide +kernel
  refine ⟨Keeper.started_vacant, move_serve ⟨Keeper.healthy_healed _, trivial⟩, by decide,
    by decide +kernel, unmanaged, _, _, run_prepareInterface unmanaged, ?_⟩
  decide +kernel

end TunnelKeeper.Service

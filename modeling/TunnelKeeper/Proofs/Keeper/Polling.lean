import Mathlib.Data.List.Nodup
import TunnelKeeper.Keeper.Housekeeping
import TunnelKeeper.Proofs.Keeper.Step
import TunnelKeeper.Proofs.Memory.Slots

/-!
# Reading the statistics

The devices of all managed interfaces are read one after the other. A reading never stops the pass:
what can be read is filed, and what cannot is left out. The readings that a kernel gives are worked
out from the kernel alone, and what they leave in memory is worked out from them.
-/
namespace TunnelKeeper
open Effect

namespace Kernel

/-- What the kernel answers to a look at a device, if it answers. -/
def reading? (k : Kernel) (id : InterfaceId) : Option Device :=
  match k.fault? (.device id.text) with
  | some _ => none
  | none => k.devices.find? id

theorem device_ends (k : Kernel) (id : InterfaceId) :
    Ends (device id.text) k fun r t =>
      r.toOption = k.reading? id ∧ t = k.record (.device id.text) := by
  unfold device reading?
  rw [ends_bind]
  apply ends_attempt
  · intro healthy
    rw [andThen_ok, ends_bind, ends_get, andThen_ok, healthy]
    split
    case h_1 d found => exact ⟨Eq.symm found, rfl⟩
    case h_2 missing => exact ⟨Eq.symm missing, rfl⟩
  · intro e fault
    rw [andThen_error, fault]
    exact ⟨rfl, rfl⟩

def readings (k : Kernel) : List InterfaceId → List (InterfaceId × Device)
  | [] => []
  | id :: ids =>
    match k.reading? id with
    | some d => (id, d) :: readings (k.record (.device id.text)) ids
    | none => readings (k.record (.device id.text)) ids

/-- The kernel after looks at devices. -/
def looked (k : Kernel) (ids : List InterfaceId) : Kernel :=
  ids.foldl (fun k id => k.record (.device id.text)) k

/-- Every device is read at most once, in the order of the looks. -/
theorem sublist_readings (k : Kernel) (ids : List InterfaceId) :
    ((k.readings ids).map (·.1)).Sublist ids := by
  induction ids generalizing k with
  | nil => exact .slnil
  | cons id ids ih =>
    unfold readings
    cases k.reading? id with
    | some d => exact (ih _).cons_cons id
    | none => exact (ih _).cons id

variable {k : Kernel} {ids : List InterfaceId} {id : InterfaceId} {d d' : Device}

theorem mem_of_mem_readings (h : (id, d) ∈ k.readings ids) : id ∈ ids :=
  (sublist_readings k ids).subset (List.mem_map_of_mem h)

theorem eq_of_mem_readings (nodup : ids.Nodup) (h : (id, d) ∈ k.readings ids)
    (h' : (id, d') ∈ k.readings ids) : d = d' := by
  have once := (sublist_readings k ids).nodup nodup
  cases List.inj_on_of_nodup_map once h h' rfl
  rfl

theorem readings_append (k : Kernel) (ids rest : List InterfaceId) :
    k.readings (ids ++ rest) = k.readings ids ++ (k.looked ids).readings rest := by
  induction ids generalizing k with
  | nil => rfl
  | cons id ids ih =>
    rw [List.cons_append, readings, readings, ih]
    cases k.reading? id <;> rfl

/-- A device is read if the kernel answers when its turn comes. -/
theorem mem_readings_iff {front back : List InterfaceId} (nodup : (front ++ id :: back).Nodup) :
    (id, d) ∈ k.readings (front ++ id :: back) ↔ (k.looked front).reading? id = some d := by
  obtain ⟨apart, -⟩ := List.nodup_cons.1 (List.nodup_middle.1 nodup)
  rw [List.mem_append, not_or] at apart
  have before : (id, d) ∉ k.readings front := fun read => apart.1 (mem_of_mem_readings read)
  have after (l : Kernel) : (id, d) ∉ l.readings back :=
    fun read => apart.2 (mem_of_mem_readings read)
  rw [readings_append, List.mem_append, readings]
  cases (k.looked front).reading? id with
  | none => simp [before, after]
  | some d' => simp [before, after, eq_comm]

/-- Looks are recorded in their order, and nothing else changes. -/
theorem looked_eq (k : Kernel) (ids : List InterfaceId) :
    k.looked ids =
      { k with
        calls := k.calls ++ ids.map fun id => .device id.text
        made := (k.looked ids).made } := by
  induction ids generalizing k with
  | nil => rw [List.map_nil, List.append_nil]; rfl
  | cons id ids ih =>
    have step : k.looked (id :: ids) = (k.record (.device id.text)).looked ids := rfl
    rw [step, ih, record, List.append_assoc]
    rfl

end Kernel

namespace Keeper

def recordAll (now : Instant) (rs : List (InterfaceId × Kernel.Device)) (m : Memory) : Memory :=
  rs.foldl (fun m r => recordStats now r.1 r.2 m) m

def polled (s : Keeper) (id : InterfaceId) : Keeper :=
  { s with
    kernel := s.kernel.record (.device id.text)
    memory := match s.kernel.reading? id with
      | some d => recordStats s.clock id d s.memory
      | none => s.memory }

theorem run_refreshInterface (s : Keeper) (id : InterfaceId) :
    (refreshInterface id).run s = ((), s.polled id) := by
  obtain ⟨answer, kernel⟩ := Kernel.device_ends s.kernel id
  unfold refreshInterface polled
  simp only [StateT.run_bind, StateT.run_get, pure_bind]
  rcases h : (Kernel.device id.text).run.run s.kernel with ⟨_ | d, k⟩
  · rw [h] at answer kernel
    rw [← answer, ← kernel]
    rfl
  · rw [h] at answer kernel
    rw [← answer, ← kernel]
    rfl

/-- Reading the statistics always succeeds, and it files what the kernel lets be read. -/
theorem run_refreshStats (s : Keeper) :
    refreshStats.run.run s = (.ok (),
      { s with
        kernel := s.kernel.looked s.memory.interfaces.ids
        memory := recordAll s.clock (s.kernel.readings s.memory.interfaces.ids) s.memory }) := by
  have pass (ids : List InterfaceId) (s : Keeper) :
      (ids.forM fun id => (refreshInterface id : Step Unit)).run.run s = (.ok (),
        { s with
          kernel := s.kernel.looked ids
          memory := recordAll s.clock (s.kernel.readings ids) s.memory }) := by
    induction ids generalizing s with
    | nil => rfl
    | cons id ids ih =>
      have one : (refreshInterface id : Step Unit).run.run s = (.ok (), s.polled id) := by
        change ((.ok ((refreshInterface id).run s).1, ((refreshInterface id).run s).2) :
          Except KeeperError Unit × Keeper) = _
        rw [run_refreshInterface]
      change ((refreshInterface id : Step Unit) >>= fun _ =>
        ids.forM fun id => (refreshInterface id : Step Unit)).run.run s = _
      rw [run_bind, one]
      change (ids.forM fun id => (refreshInterface id : Step Unit)).run.run (s.polled id) = _
      rw [ih, Kernel.readings]
      unfold polled
      cases s.kernel.reading? id <;> rfl
  exact pass s.memory.interfaces.ids s

/-- What is filed for the peers of the devices that were read. -/
def statsOfAll (now : Instant) (m : Memory) (rs : List (InterfaceId × Kernel.Device)) :
    List PeerStats :=
  rs.flatMap fun r => r.2.peers.map (statsOf now (m.peersOf r.1).records)

/-- Readings change the statistics and nothing else. -/
theorem recordAll_eq (now : Instant) (rs : List (InterfaceId × Kernel.Device)) (m : Memory) :
    recordAll now rs m =
      { m with
        peerStats := m.peerStats.insertAll (·.id) (statsOfAll now m rs)
        interfaceStats := m.interfaceStats.insertAll (·.id)
          (rs.map fun r => totalsOf now r.1 r.2) } := by
  induction rs generalizing m with
  | nil => rfl
  | cons r rs ih =>
    change recordAll now rs (recordStats now r.1 r.2 m) = _
    have stats : statsOfAll now m (r :: rs) =
        r.2.peers.map (statsOf now (m.peersOf r.1).records) ++ statsOfAll now m rs :=
      List.flatMap_cons
    rw [ih, stats, Directory.insertAll_append]
    rfl

@[simp] theorem interfaces_recordAll (now : Instant) (rs : List (InterfaceId × Kernel.Device))
    (m : Memory) : (recordAll now rs m).interfaces = m.interfaces := by
  rw [recordAll_eq]

theorem totals_of_read {rs : List (InterfaceId × Kernel.Device)} {now : Instant} {m : Memory}
    {id : InterfaceId} {d : Kernel.Device} (once : ∀ d', (id, d') ∈ rs → d' = d)
    (read : (id, d) ∈ rs) :
    (recordAll now rs m).interfaceStats.find? id = some (totalsOf now id d) := by
  rw [recordAll_eq]
  refine Directory.find?_insertAll_of_mem ?_ (List.mem_map_of_mem read)
  intro st hst same
  obtain ⟨⟨j, d'⟩, read', rfl⟩ := List.mem_map.1 hst
  cases (same : j = id)
  rw [once d' read']

theorem totals_of_unread {rs : List (InterfaceId × Kernel.Device)} {id : InterfaceId}
    (unread : ∀ d, (id, d) ∉ rs) (now : Instant) (m : Memory) :
    (recordAll now rs m).interfaceStats.find? id = m.interfaceStats.find? id := by
  rw [recordAll_eq]
  apply Directory.find?_insertAll_of_forall_ne
  intro st hst same
  obtain ⟨⟨j, d⟩, read, rfl⟩ := List.mem_map.1 hst
  cases (same : j = id)
  exact unread d read

@[simp] theorem peersOf_recordAll (now : Instant) (rs : List (InterfaceId × Kernel.Device))
    (m : Memory) (id : InterfaceId) : (recordAll now rs m).peersOf id = m.peersOf id := by
  rw [recordAll_eq]
  rfl

end Keeper

end TunnelKeeper

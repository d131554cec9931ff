import TunnelKeeper.Proofs.Keeper.Expiry
import TunnelKeeper.Proofs.Keeper.Polling
import TunnelKeeper.Proofs.Service.Job
import TunnelKeeper.Service.Peers

/-!
# A round of housekeeping

A round drops the overdue peers and then looks at the device of each managed interface in turn. What
is dropped depends on the clock alone and what is recorded on the kernel alone, so the two halves do
not touch each other. Nothing else changes, whatever the kernel answers.
-/
namespace TunnelKeeper

def Kernel.answer (k : Kernel) (id : InterfaceId) : Except KernelError Device :=
  ((device id.text).run.run k).1

theorem Kernel.reading?_eq_some_iff {k : Kernel} {id : InterfaceId} {d : Device} :
    k.reading? id = some d ↔ k.answer id = .ok d := by
  have same : (k.answer id).toOption = k.reading? id := (device_ends k id).1
  rw [← same]
  cases k.answer id <;> simp [Except.toOption]

namespace Keeper

variable {s : Keeper} {cutoff : Instant} {front back : List InterfaceId} {id : InterfaceId}

def tidied (s : Keeper) (cutoff : Instant) : Keeper :=
  let ids := s.memory.interfaces.ids
  { s with
    kernel := s.kernel.looked ids
    memory := recordAll s.clock (s.kernel.readings ids) (dropStale cutoff s.memory) }

theorem peers_tidied (s : Keeper) (cutoff : Instant) :
    (s.tidied cutoff).memory.peers = (dropStale cutoff s.memory).peers := by
  rw [tidied, recordAll_eq]

theorem totals_tidied_of_ok {d : Kernel.Device}
    (turn : s.memory.interfaces.ids = front ++ id :: back)
    (answer : (s.kernel.looked front).answer id = .ok d) :
    (s.tidied cutoff).memory.interfaceStats.find? id = some (totalsOf s.clock id d) := by
  have nodup := s.memory.interfaces.nodup_ids
  have read : (id, d) ∈ s.kernel.readings s.memory.interfaces.ids := by
    rw [turn] at nodup ⊢
    exact (Kernel.mem_readings_iff nodup).2 (Kernel.reading?_eq_some_iff.2 answer)
  exact totals_of_read (fun d' read' => Kernel.eq_of_mem_readings nodup read' read) read

theorem totals_tidied_of_error {e : KernelError}
    (turn : s.memory.interfaces.ids = front ++ id :: back)
    (answer : (s.kernel.looked front).answer id = .error e) :
    (s.tidied cutoff).memory.interfaceStats.find? id = s.memory.interfaceStats.find? id := by
  have nodup := s.memory.interfaces.nodup_ids
  refine totals_of_unread (fun d read => ?_) _ _
  rw [turn] at nodup read
  rw [Kernel.mem_readings_iff nodup, Kernel.reading?_eq_some_iff, answer] at read
  contradiction

theorem totals_tidied_of_unmanaged (unmanaged : s.memory.interfaces.contains id = false) :
    (s.tidied cutoff).memory.interfaceStats.find? id = s.memory.interfaceStats.find? id := by
  refine totals_of_unread (fun d read => ?_) _ _
  rw [Directory.contains_iff.2 (Kernel.mem_of_mem_readings read)] at unmanaged
  contradiction

end Keeper

namespace Service
open Keeper

variable {c : Settings} {s : Service} {cutoff : Instant}

theorem run_runBackground (due : staleBefore? s.keeper.clock c.preparedTtl = some cutoff) :
    (runBackground c).run s = (.ok (), { s with keeper := s.keeper.tidied cutoff }) := by
  have expired := Job.run_keep (run_expirePrepared due)
  rw [runBackground]
  change ((Job.keep (expirePrepared c.preparedTtl)).bind _).run s = _
  rw [Job.run_bind, expired]
  exact Job.run_keep (run_refreshStats _)

theorem run_runBackground_of_undated (undated : staleBefore? s.keeper.clock c.preparedTtl = none) :
    (runBackground c).run s = (.error .noSuchInstant, s) := by
  have skipped := Job.run_keep (run_expirePrepared_of_undated undated)
  rw [runBackground]
  change ((Job.keep (expirePrepared c.preparedTtl)).bind _).run s = _
  rw [Job.run_bind, skipped]
  rfl

/-- What a round of housekeeping leaves behind, where prepared peers are kept for some seconds. -/
structure Tidied (ttl : Int) (s t : Service) : Prop where
  interfaces : t.keeper.memory.interfaces = s.keeper.memory.interfaces
  slots : ∀ i, t.keeper.memory.peers.contains i = s.keeper.memory.peers.contains i
  /-- Overdue peers are gone, and all others are as they were. -/
  peers : ∀ i k p, (t.keeper.memory.peersOf i).find? k = some p ↔
    (s.keeper.memory.peersOf i).find? k = some p ∧ ¬ p.Overdue s.keeper.clock ttl
  /-- Nothing was written, nor was it tried. -/
  store : t.keeper.store = s.keeper.store
  ordered : s.keeper.memory.interfaces.ids.Pairwise (· < ·)
  /-- One look at each device is all that the kernel sees. -/
  kernel : t.keeper.kernel = { s.keeper.kernel with
    calls := s.keeper.kernel.calls ++
      s.keeper.memory.interfaces.ids.map fun id => .device id.text
    made := t.keeper.kernel.made }
  unread : ∀ front id back e, s.keeper.memory.interfaces.ids = front ++ id :: back →
    (s.keeper.kernel.looked front).answer id = .error e →
      t.keeper.memory.interfaceStats.find? id = s.keeper.memory.interfaceStats.find? id
  read : ∀ front id back d, s.keeper.memory.interfaces.ids = front ++ id :: back →
    (s.keeper.kernel.looked front).answer id = .ok d →
      t.keeper.memory.interfaceStats.find? id = some (totalsOf s.keeper.clock id d)
  unmanaged : ∀ id, s.keeper.memory.interfaces.contains id = false →
    t.keeper.memory.interfaceStats.find? id = s.keeper.memory.interfaceStats.find? id
  clock : t.keeper.clock = s.keeper.clock
  keys : t.keys = s.keys

theorem tidied_tidied (due : staleBefore? s.keeper.clock c.preparedTtl = some cutoff) :
    Tidied c.preparedTtl s { s with keeper := s.keeper.tidied cutoff } where
  interfaces := interfaces_recordAll _ _ _
  slots i := by
    rw [peers_tidied]
    exact Directory.contains_map _ _ i
  peers i k p := by
    rw [Memory.peersOf_congr (peers_tidied _ _), Memory.peersOf_dropStale, Directory.find?_filter,
      Option.filter_eq_some_iff, Bool.not_eq_true', ← Bool.not_eq_true, isStale_iff due]
  store := rfl
  ordered := List.pairwise_map.2 s.keeper.memory.interfaces.sorted
  kernel := Kernel.looked_eq _ _
  unread _ _ _ _ := totals_tidied_of_error
  read _ _ _ _ := totals_tidied_of_ok
  unmanaged _ := totals_tidied_of_unmanaged
  clock := rfl
  keys := rfl

/-- As far as the clock reaches back, a round drops the overdue peers, which expiry counts, and
looks at the devices, and it changes nothing else. -/
theorem housekeeping_tidies (reaches : s.keeper.clock.Reaches c.preparedTtl) :
    ∃ t n k, (runBackground c).run s = (.ok (), t) ∧ Tidied c.preparedTtl s t ∧
      (expirePrepared c.preparedTtl).run.run s.keeper = (.ok (some n), k) ∧
      k.memory.peers = t.keeper.memory.peers ∧
      n = s.keeper.memory.allPeers.countP (·.Overdue s.keeper.clock c.preparedTtl) ∧
      n + t.keeper.memory.allPeers.length = s.keeper.memory.allPeers.length := by
  obtain ⟨cutoff, due⟩ := exists_staleBefore?_iff.2 reaches
  have left := peers_tidied s.keeper cutoff
  have fewer := countStale_add_length cutoff s.keeper.memory
  rw [Memory.allPeers, ← left] at fewer
  exact ⟨_, _, _, run_runBackground due, tidied_tidied due, run_expirePrepared due, left.symm,
    countStale_eq_countP due, fewer⟩

def lodger (id : String) (second : Int) : Peer where
  id := ⟨id⟩
  preparedAt := Instant.ofParts? second 0
  tunnel := { interfaceId := ⟨"wg0"⟩ }

def oldTotals : InterfaceStats := ⟨⟨"wg0"⟩, 1, 10, 20, .epoch⟩

/-- A service one hour after the beginning of 1970. One of its interfaces has two prepared peers,
and only the other one has a device. -/
def inn : Service where
  keeper :=
    { memory :=
        { ((({} : Memory).addInterface { id := ⟨"wg0"⟩ }).addInterface { id := ⟨"wg1"⟩ }).addPeers
            ⟨"wg0"⟩ [lodger "a" 100, lodger "b" 3000] with
          interfaceStats := Directory.empty.insert ⟨"wg0"⟩ oldTotals }
      kernel := { devices := Directory.empty.insert ⟨"wg1"⟩ ⟨"wg1", none, none, 0, 0, []⟩ }
      clock := ⟨3600, 0, by decide⟩ }
  keys := { pair := fun _ => {}, presharedKey := fun _ => "" }

theorem housekeeping_tidies_inn :
    let c : Settings := ⟨51820, "linux", 900⟩
    inn.keeper.clock.Reaches c.preparedTtl ∧ ∃ t k, (runBackground c).run inn = (.ok (), t) ∧
      (expirePrepared c.preparedTtl).run.run inn.keeper = (.ok (some 1), k) ∧
      (t.keeper.memory.peersOf ⟨"wg0"⟩).find? ⟨"a"⟩ = none ∧
      (t.keeper.memory.peersOf ⟨"wg0"⟩).find? ⟨"b"⟩ = some (lodger "b" 3000) ∧
      t.keeper.kernel.calls = [.device "wg0", .device "wg1"] ∧
      t.keeper.memory.interfaceStats.find? ⟨"wg0"⟩ = some oldTotals := by
  intro c
  have reaches : inn.keeper.clock.Reaches c.preparedTtl := by decide +kernel
  obtain ⟨t, n, k, run, tidied, expired, -, counted, -⟩ := housekeeping_tidies reaches
  have one : n = 1 := by
    rw [counted]
    decide +kernel
  refine ⟨reaches, t, k, run, one ▸ expired, ?_, ?_, ?_, ?_⟩
  · rw [Option.eq_none_iff_forall_ne_some]
    intro p found
    obtain ⟨filed, fresh⟩ := (tidied.peers _ _ _).1 found
    have own : (inn.keeper.memory.peersOf ⟨"wg0"⟩).find? ⟨"a"⟩ = some (lodger "a" 100) := by
      decide +kernel
    cases own.symm.trans filed
    exact fresh (by decide +kernel)
  · exact (tidied.peers _ _ _).2 ⟨by decide +kernel, by decide +kernel⟩
  · rw [tidied.kernel]
    change inn.keeper.kernel.calls ++ inn.keeper.memory.interfaces.ids.map (.device ·.text) = _
    decide +kernel
  · have turn : inn.keeper.memory.interfaces.ids = [] ++ ⟨"wg0"⟩ :: [⟨"wg1"⟩] := by decide +kernel
    have missing : (inn.keeper.kernel.looked []).answer ⟨"wg0"⟩ =
        .error (.wireguard "no device wg0") := by
      decide +kernel
    rw [tidied.unread _ _ _ _ turn missing]
    decide +kernel

end Service

end TunnelKeeper

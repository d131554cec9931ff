import TunnelKeeper.Proofs.Keeper.Expiry
import TunnelKeeper.Proofs.Keeper.Polling

/-!
# How housekeeping ends

Expiry changes memory alone, and only the peers in it. Reading the statistics changes the kernel and
the statistics. Looking for candidates changes the kernel, and no peer of a candidate is marked as
prepared.
-/
namespace TunnelKeeper.Keeper
open TunnelKeeper Effect Step

inductive ExpireEnds (s : Keeper) : Except KeeperError (Option Nat) → Keeper → Prop
  | undated : ExpireEnds s (.ok none) s
  | dropped (cutoff : Instant) :
      ExpireEnds s (.ok (some (countStale cutoff s.memory)))
        { s with memory := dropStale cutoff s.memory }

theorem expirePrepared_ends (maxAge : Int) (s : Keeper) :
    Ends (expirePrepared maxAge) s (ExpireEnds s) := by
  unfold Ends
  cases due : staleBefore? s.clock maxAge with
  | none =>
    rw [run_expirePrepared_of_undated due]
    exact .undated
  | some cutoff =>
    rw [run_expirePrepared due]
    exact .dropped cutoff

/-- A committed peer is never stale. -/
theorem isStale_of_committed {cutoff : Instant} {p : Peer} (h : p.isPrepared = false) :
    isStale cutoff p = false := by
  rw [Peer.isPrepared, Option.isSome_eq_false_iff, Option.isNone_iff_eq_none] at h
  rw [isStale, h]

theorem find?_dropStale_of_committed {m : Memory} {i : InterfaceId} {k : PeerId} {p : Peer}
    (hp : (m.peersOf i).find? k = some p) (committed : p.isPrepared = false) (cutoff : Instant) :
    ((dropStale cutoff m).peersOf i).find? k = some p := by
  rw [Memory.peersOf_dropStale, Directory.find?_filter, hp, Option.filter_some,
    isStale_of_committed committed]
  rfl

/-- Two states that differ in nothing but the kernel and the statistics. -/
def SameRecords (s t : Keeper) : Prop :=
  ∃ k ps is, t = { s with
    kernel := k
    memory := { s.memory with peerStats := ps, interfaceStats := is } }

theorem refreshStats_ends (s : Keeper) : Ends refreshStats s fun _ t => SameRecords s t := by
  unfold Ends
  rw [run_refreshStats, recordAll_eq]
  exact ⟨_, _, _, rfl⟩

/-- Whether a candidate brings committed peers only. -/
def Committed (c : ImportCandidate) : Prop := ∀ p ∈ c.peers, p.preparedAt = none

theorem yields_importCandidate (s : Keeper) (d : Kernel.Device) :
    Yields (SameButKernel s) Committed (IsKernelError d.name) (importCandidate d) := by
  unfold importCandidate
  apply (yields_askKernel s _ _ _).bind
  intro link _
  apply (yields_askKernel s _ _ _).bind
  intro addresses _ t ht
  rw [ends_bind, ends_get, andThen_ok]
  refine ⟨ht, ?_, nofun⟩
  rintro _ ⟨⟩ p hp
  obtain ⟨k, -, rfl⟩ := List.mem_map.1 hp
  rfl

theorem importCandidates_ends (s : Keeper) :
    Ends importCandidates s fun r t =>
      SameButKernel s t ∧ ∀ cs, r = .ok cs → ∀ c ∈ cs, Committed c := by
  have all : Yields (SameButKernel s) (fun cs => ∀ c ∈ cs, Committed c) (fun _ => True)
      importCandidates := by
    apply (yields_askKernel s _ _ _).anyError.bind
    intro devices _ t ht
    rw [ends_bind, ends_get, andThen_ok]
    exact Yields.mapM (fun d _ => (yields_importCandidate s d).anyError) t ht
  apply (all s ⟨s.kernel, rfl⟩).mono
  rintro r t ⟨ht, results, -⟩
  exact ⟨ht, results⟩

end TunnelKeeper.Keeper

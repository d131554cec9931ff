import TunnelKeeper.Keeper.Housekeeping
import TunnelKeeper.Proofs.Directory
import TunnelKeeper.Proofs.Effect

/-!
# Expiry of prepared peers

A peer is overdue when it was prepared longer ago than prepared peers are kept. Expiry needs an
instant that long ago. Where there is one, expiry drops the overdue peers, wherever they are filed,
and counts them. Where there is none, it does nothing.
-/
namespace TunnelKeeper

theorem Time.firstSecond_eq : firstSecond = -8334601228800 := by decide

theorem Time.lastSecond_eq : lastSecond = 8210266876799 := by decide

namespace Instant

variable {i j : Instant}

theorem ofParts?_eq_some_iff {second : Int} {nano : Nat} :
    ofParts? second nano = some i ↔ i.second = second ∧ i.nano = nano := by
  unfold ofParts?
  split
  case isTrue valid =>
    rw [Option.some.injEq]
    constructor
    · rintro rfl
      exact ⟨rfl, rfl⟩
    · obtain ⟨_, _, _⟩ := i
      rintro ⟨rfl, rfl⟩
      rfl
  case isFalse invalid =>
    simp only [reduceCtorEq, false_iff]
    rintro ⟨rfl, rfl⟩
    exact invalid i.valid

/-- Whether there is an instant a number of seconds before this one, and the number can be
handled. -/
def Reaches (i : Instant) (seconds : Int) : Prop :=
  seconds.natAbs ≤ longestSpan.natAbs ∧
    Time.firstSecond ≤ i.second - seconds ∧ i.second - seconds ≤ Time.lastSecond

instance (i : Instant) (seconds : Int) : Decidable (i.Reaches seconds) :=
  inferInstanceAs (Decidable (_ ∧ _ ∧ _))

theorem exists_minusSeconds?_iff {seconds : Int} :
    (∃ j, i.minusSeconds? seconds = some j) ↔
      Time.firstSecond ≤ i.second - seconds ∧ i.second - seconds ≤ Time.lastSecond := by
  have short : i.nano % 1000000000 < 1000000000 := Nat.mod_lt _ (by decide)
  simp only [minusSeconds?, ofParts?_eq_some_iff]
  constructor
  · rintro ⟨j, second, -⟩
    obtain ⟨after, before, -⟩ := j.valid
    exact second ▸ ⟨after, before⟩
  · rintro ⟨after, before⟩
    have valid : Time.isInstant (i.second - seconds) (i.nano % 1000000000) :=
      ⟨after, before, by omega, by omega⟩
    exact ⟨⟨_, _, valid⟩, rfl, rfl⟩

/-- Looking back, the first year is reached long before numbers cannot be handled. -/
theorem reaches_natCast_iff {n : Nat} :
    i.Reaches n ↔ (n : Int) ≤ i.second - Time.firstSecond := by
  obtain ⟨-, before, -⟩ := i.valid
  rw [Reaches, Time.firstSecond_eq, longestSpan]
  rw [Time.lastSecond_eq] at before ⊢
  omega

end Instant

/-- Whether a peer was prepared earlier than a number of seconds before an instant. -/
def Peer.Overdue (p : Peer) (now : Instant) (seconds : Int) : Prop :=
  ∃ t ∈ p.preparedAt, t.second < now.second - seconds ∨
    t.second = now.second - seconds ∧ t.nano < now.nano % 1000000000

instance (p : Peer) (now : Instant) (seconds : Int) : Decidable (p.Overdue now seconds) :=
  inferInstanceAs (Decidable (∃ t ∈ p.preparedAt, _))

namespace Keeper

variable {now cutoff : Instant} {seconds : Int} {m : Memory} {s : Keeper} {p : Peer}

theorem staleBefore?_eq_some_iff : staleBefore? now seconds = some cutoff ↔
    seconds.natAbs ≤ Instant.longestSpan.natAbs ∧ cutoff.second = now.second - seconds ∧
      cutoff.nano = now.nano % 1000000000 := by
  rw [staleBefore?, Option.ite_none_right_eq_some, Instant.minusSeconds?,
    Instant.ofParts?_eq_some_iff]

theorem exists_staleBefore?_iff :
    (∃ cutoff, staleBefore? now seconds = some cutoff) ↔ now.Reaches seconds := by
  simp only [staleBefore?, Option.ite_none_right_eq_some, exists_and_left,
    Instant.exists_minusSeconds?_iff, Instant.Reaches]

theorem staleBefore?_eq_none_iff : staleBefore? now seconds = none ↔ ¬ now.Reaches seconds := by
  rw [← exists_staleBefore?_iff, ← Option.isSome_iff_exists, Option.not_isSome_iff_eq_none]

theorem isStale_iff (due : staleBefore? now seconds = some cutoff) :
    isStale cutoff p = true ↔ p.Overdue now seconds := by
  obtain ⟨-, second, nano⟩ := staleBefore?_eq_some_iff.1 due
  unfold isStale Peer.Overdue
  cases p.preparedAt with
  | none => simp
  | some t => simp [Instant.earlier, second, nano]

theorem run_expirePrepared (due : staleBefore? s.clock seconds = some cutoff) :
    (expirePrepared seconds).run.run s =
      (.ok (some (countStale cutoff s.memory)),
        { s with memory := dropStale cutoff s.memory }) := by
  have ends : Effect.Ends (expirePrepared seconds) s fun r t =>
      (r, t) = (.ok (some (countStale cutoff s.memory)),
        { s with memory := dropStale cutoff s.memory }) := by
    rw [expirePrepared, Effect.ends_bind, Effect.ends_get, Effect.andThen_ok, due]
    rfl
  exact ends

theorem run_expirePrepared_of_undated (undated : staleBefore? s.clock seconds = none) :
    (expirePrepared seconds).run.run s = (.ok none, s) := by
  have ends : Effect.Ends (expirePrepared seconds) s fun r t => (r, t) = (.ok none, s) := by
    rw [expirePrepared, Effect.ends_bind, Effect.ends_get, Effect.andThen_ok, undated]
    rfl
  exact ends

theorem allPeers_dropStale (cutoff : Instant) (m : Memory) :
    (dropStale cutoff m).allPeers = m.allPeers.filter fun p => !isStale cutoff p := by
  have slot (ps : Directory .peer Peer) : (ps.filter fun _ p => !isStale cutoff p).records =
      ps.records.filter fun p => !isStale cutoff p := by
    rw [Directory.records, Directory.records, List.filter_map]
    rfl
  rw [Memory.allPeers, dropStale, Directory.records_map, List.flatMap_map, Memory.allPeers,
    List.filter_flatMap]
  simp only [slot]

/-- The peers that are counted are the overdue ones. -/
theorem countStale_eq_countP (due : staleBefore? now seconds = some cutoff) :
    countStale cutoff m = m.allPeers.countP fun p => p.Overdue now seconds := by
  rw [countStale, ← List.countP_eq_length_filter]
  apply List.countP_congr
  intro p _
  rw [isStale_iff due, decide_eq_true_iff]

/-- As many peers are counted as are no longer there. -/
theorem countStale_add_length (cutoff : Instant) (m : Memory) :
    countStale cutoff m + (dropStale cutoff m).allPeers.length = m.allPeers.length := by
  rw [countStale, allPeers_dropStale, ← List.countP_eq_length_filter,
    ← List.countP_eq_length_filter, List.length_eq_countP_add_countP (isStale cutoff)]
  simp only [Bool.not_eq_true, Bool.decide_eq_false]

end Keeper

end TunnelKeeper

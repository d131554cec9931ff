import TunnelKeeper.Proofs.Service.Housekeeping
import TunnelKeeper.Settings.Config

/-!
# How long prepared peers may be kept

A configuration may set any number of seconds for which prepared peers are kept, and it is accepted
whatever this number is. There are two ways in which the number can be too large: it makes no span
of time, so that there are no settings, or it reaches back beyond the first instant, so that no
round of housekeeping is carried out.
-/
namespace TunnelKeeper

def Time.yearSecond (year : Int) : Int := (yearStart year - epochDay) * 86400

/-- Whether an instant lies in the years from 2026 to 2090. -/
def Instant.IsPresent (i : Instant) : Prop :=
  Time.yearSecond 2026 ≤ i.second ∧ i.second < Time.yearSecond 2091

instance (i : Instant) : Decidable i.IsPresent := inferInstanceAs (Decidable (_ ∧ _))

namespace Config
open Service

variable {c : Config} {settings : Settings} {s : Service}

theorem settings?_eq_some_iff : c.settings? = some settings ↔
    (c.preparedTtl.toNat : Int) ≤ Instant.longestSpan ∧
      settings = ⟨c.defaultListenPort, c.defaultDriver, c.preparedTtl.toNat⟩ := by
  have span : c.preparedTtl.toNat ≤ Instant.longestSpan.natAbs ↔
      (c.preparedTtl.toNat : Int) ≤ Instant.longestSpan := by
    rw [Instant.longestSpan]
    omega
  rw [settings?, ttl?, ← span]
  split
  case isTrue short => simp [short, eq_comm]
  case isFalse long => simp [long]

theorem settings?_eq_none_iff :
    c.settings? = none ↔ Instant.longestSpan < c.preparedTtl.toNat := by
  rw [← Int.not_le, ← Option.not_isSome_iff_eq_none, Option.isSome_iff_exists]
  simp only [settings?_eq_some_iff, exists_and_left, exists_eq, and_true]

theorem startBackground_of_validate (accepted : c.validate = .ok ()) (settings : Settings) :
    startBackground settings c.backgroundInterval.toNat = runBackground settings := by
  have pause : c.backgroundInterval.toNat ≠ 0 := by
    intro zero
    have none : c.backgroundInterval = 0 := UInt64.toNat_inj.1 zero
    rw [validate, if_pos none] at accepted
    split at accepted <;> contradiction
  rw [startBackground, if_neg pause]

/-- The background jobs are carried out, or the first instant is too close and nothing happens. -/
theorem runBackground_cases (built : c.settings? = some settings) (s : Service) :
    ((runBackground settings).run s).1 = .ok () ∧
        (c.preparedTtl.toNat : Int) ≤ s.keeper.clock.second - Time.firstSecond ∨
      (runBackground settings).run s = (.error .noSuchInstant, s) ∧
        s.keeper.clock.second - Time.firstSecond < c.preparedTtl.toNat := by
  obtain ⟨-, rfl⟩ := settings?_eq_some_iff.1 built
  rw [← Int.not_le, ← Instant.reaches_natCast_iff]
  by_cases reaches : s.keeper.clock.Reaches c.preparedTtl.toNat
  · obtain ⟨cutoff, due⟩ := Keeper.exists_staleBefore?_iff.2 reaches
    exact .inl ⟨by rw [run_runBackground due], reaches⟩
  · exact .inr ⟨run_runBackground_of_undated (Keeper.staleBefore?_eq_none_iff.2 reaches), reaches⟩

def idle : Service where
  keeper := { clock := ⟨Time.yearSecond 2026, 0, by decide⟩ }
  keys := { pair := fun _ => {}, presharedKey := fun _ => "" }

/-- Whether a configuration is accepted does not depend on how long prepared peers are kept. There
are settings if this makes a span of time, and the background jobs are carried out unless the first
instant is too close. So they are carried out at any present time exactly for times up to the one
from the first instant to the beginning of 2026. -/
theorem background_carried_out_iff (accepted : c.validate = .ok ()) :
    (∀ ttl, ({ c with preparedTtl := ttl } : Config).validate = .ok ()) ∧
      (c.settings? = none ↔ Instant.longestSpan < c.preparedTtl.toNat) ∧
      (∀ settings, startBackground settings c.backgroundInterval.toNat = runBackground settings) ∧
      (∀ settings s, c.settings? = some settings →
        ((runBackground settings).run s).1 = .ok () ∧
            (c.preparedTtl.toNat : Int) ≤ s.keeper.clock.second - Time.firstSecond ∨
          (runBackground settings).run s = (.error .noSuchInstant, s) ∧
            s.keeper.clock.second - Time.firstSecond < c.preparedTtl.toNat) ∧
      ((∃ settings, c.settings? = some settings ∧
          ∀ s, s.keeper.clock.IsPresent → ((runBackground settings).run s).1 = .ok ()) ↔
        (c.preparedTtl.toNat : Int) ≤ Time.yearSecond 2026 - Time.firstSecond) := by
  refine ⟨fun ttl => accepted, settings?_eq_none_iff, startBackground_of_validate accepted,
    fun settings s built => runBackground_cases built s, ?_, fun short => ?_⟩
  · rintro ⟨settings, built, always⟩
    have present : idle.keeper.clock.IsPresent := by decide
    have done := always idle present
    rcases runBackground_cases built idle with ⟨-, short⟩ | ⟨failed, -⟩
    · exact short
    · rw [failed] at done
      contradiction
  · have span : Time.yearSecond 2026 - Time.firstSecond ≤ Instant.longestSpan := by decide
    have built := settings?_eq_some_iff.2 ⟨Int.le_trans short span, rfl⟩
    refine ⟨_, built, fun s present => ?_⟩
    rcases runBackground_cases built s with ⟨done, -⟩ | ⟨-, long⟩
    · exact done
    · have after := present.1
      omega

def keepingFor (seconds : UInt64) : Config := { adminToken := "secret", preparedTtl := seconds }

theorem background_carried_out_longest :
    let c := keepingFor 8336368454400
    c.validate = .ok () ∧ ∃ settings, c.settings? = some settings ∧ ∀ s : Service,
      s.keeper.clock.IsPresent → ((runBackground settings).run s).1 = .ok () := by
  intro c
  have accepted : c.validate = .ok () := by decide +kernel
  obtain ⟨-, -, -, -, always⟩ := background_carried_out_iff accepted
  exact ⟨accepted, always.2 (by decide +kernel)⟩

/-- An accepted configuration need not have settings, and with its settings the background jobs need
not be carried out. -/
theorem background_not_carried_out :
    (keepingFor 9223372036854776).validate = .ok () ∧
      (keepingFor 9223372036854776).settings? = none ∧
      (keepingFor 9000000000000).validate = .ok () ∧
      idle.keeper.clock.IsPresent ∧
      ∃ settings, (keepingFor 9000000000000).settings? = some settings ∧
        (runBackground settings).run idle = (.error .noSuchInstant, idle) := by
  have built : (keepingFor 9000000000000).settings? = some ⟨51820, "linux", 9000000000000⟩ := by
    decide +kernel
  refine ⟨by decide +kernel, by decide +kernel, by decide +kernel, by decide, _, built, ?_⟩
  exact run_runBackground_of_undated (by decide +kernel)

end Config

end TunnelKeeper

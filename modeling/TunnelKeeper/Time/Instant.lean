import TunnelKeeper.Time.Calendar

/-!
# Instants

An instant counts seconds since the beginning of 1970 in universal time, and nanoseconds within the
second. A second nanosecond round, from one thousand million on, marks a leap second, which can only
follow the last second of a minute. Instants reach from the year −262143 to the year 262142.
-/
namespace TunnelKeeper

namespace Time

/-- The number of 1970-01-01. -/
def epochDay : Int := 719528

/-- The first second of the year −262143. -/
def firstSecond : Int := (yearStart (-262143) - epochDay) * 86400

/-- The last second of the year 262142. -/
def lastSecond : Int := (yearStart 262143 - epochDay) * 86400 - 1

def isInstant (second : Int) (nano : Nat) : Prop :=
  firstSecond ≤ second ∧ second ≤ lastSecond ∧ nano < 2000000000 ∧
    (1000000000 ≤ nano → second % 60 = 59)

instance (second : Int) (nano : Nat) : Decidable (isInstant second nano) :=
  inferInstanceAs (Decidable (_ ∧ _ ∧ _ ∧ _))

end Time

structure Instant where
  second : Int
  nano : Nat
  valid : Time.isInstant second nano
deriving DecidableEq, Repr

namespace Instant

def ofParts? (second : Int) (nano : Nat) : Option Instant :=
  if h : Time.isInstant second nano then some ⟨second, nano, h⟩ else none

def epoch : Instant := ⟨0, 0, by decide⟩

def earlier (a b : Instant) : Bool :=
  decide (a.second < b.second) || (a.second == b.second && decide (a.nano < b.nano))

/-- The instant a number of seconds before this one, unless it is out of reach. A leap second counts
as the second that it follows. -/
def minusSeconds? (i : Instant) (seconds : Int) : Option Instant :=
  ofParts? (i.second - seconds) (i.nano % 1000000000)

def nanosBetween (a b : Instant) : Int :=
  (b.second - a.second) * 1000000000 + ((b.nano : Int) - a.nano)

/-- The longest span of time in seconds that can be handled. -/
def longestSpan : Int := 9223372036854775

end Instant

end TunnelKeeper

/-!
# The calendar

Dates of the Gregorian calendar, extended without end in both directions, and their numbers. Day 0
is the first of January of the year 0. Splitting a day number takes away whole years and then whole
months, so putting the parts together again gives the number back.
-/
namespace TunnelKeeper.Time

structure Date where
  year : Int
  month : Nat
  day : Nat
deriving DecidableEq, Repr

def isLeapYear (year : Int) : Bool := year % 4 == 0 && (year % 100 != 0 || year % 400 == 0)

/-- The number of the first of January of a year. -/
def yearStart (year : Int) : Int :=
  365 * year + (year + 3) / 4 - (year + 99) / 100 + (year + 399) / 400

/-- The year in which a day lies. A year has 146097 / 400 days on average, so the estimate is off by
at most one. -/
def yearOf (day : Int) : Int :=
  let guess := day * 400 / 146097
  if day < yearStart guess then guess - 1
  else if day < yearStart (guess + 1) then guess else guess + 1

def monthLengths (year : Int) : List Nat :=
  [31, if isLeapYear year then 29 else 28, 31, 30, 31, 30, 31, 31, 30, 31, 30, 31]

/-- The month, counted from 1, and the day in it, counted from 0, of the day `n` of a year. -/
def splitMonths : List Nat → Nat → Nat × Nat
  | [], n => (0, n)
  | length :: rest, n =>
    if n < length then (1, n)
    else
      let p := splitMonths rest (n - length)
      (p.1 + 1, p.2)

namespace Date

def ofDayNumber (day : Int) : Date :=
  let year := yearOf day
  let p := splitMonths (monthLengths year) (day - yearStart year).toNat
  ⟨year, p.1, p.2 + 1⟩

def dayNumber (d : Date) : Int :=
  let before := ((monthLengths d.year).take (d.month - 1)).foldr (· + ·) 0
  yearStart d.year + (before + (d.day - 1) : Nat)

/-- Whether the month and the day exist. -/
def exists? (d : Date) : Bool :=
  1 ≤ d.month && 1 ≤ d.day &&
    match (monthLengths d.year)[d.month - 1]? with
    | some length => d.day ≤ length
    | none => false

end Date

end TunnelKeeper.Time

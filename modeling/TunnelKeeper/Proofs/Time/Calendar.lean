import Mathlib.Data.Int.Order.Basic
import TunnelKeeper.Time.Calendar

/-!
# Days and dates

Every day number belongs to one date, which exists, and putting that date together again gives the
number back. The estimate of the year is right because no year begins more than two days away from
where an average year would begin.
-/
namespace TunnelKeeper.Time

theorem yearStart_yearOf_le (day : Int) : yearStart (yearOf day) ≤ day := by
  unfold yearOf
  simp only
  split
  · unfold yearStart
    omega
  · split <;> omega

theorem lt_yearStart_yearOf (day : Int) : day < yearStart (yearOf day + 1) := by
  unfold yearOf
  simp only
  split
  · simpa using ‹_›
  · split
    · assumption
    · unfold yearStart
      omega

theorem yearStart_mono {a b : Int} (h : a ≤ b) : yearStart a ≤ yearStart b := by
  unfold yearStart
  omega

def daysIn (lengths : List Nat) : Nat := lengths.foldr (· + ·) 0

theorem yearStart_succ (year : Int) :
    yearStart (year + 1) = yearStart year + daysIn (monthLengths year) := by
  have leap : isLeapYear year = true ↔ year % 4 = 0 ∧ (year % 100 ≠ 0 ∨ year % 400 = 0) := by
    simp [isLeapYear]
  unfold yearStart monthLengths daysIn
  by_cases h : isLeapYear year
  · have := leap.1 h
    simp [h]
    omega
  · have := mt leap.2 h
    simp [h]
    omega

theorem le_of_mem_monthLengths {year : Int} {length : Nat} (h : length ∈ monthLengths year) :
    length ≤ 31 := by
  unfold monthLengths at h
  split at h <;> simp at h <;> omega

/-- Where the day `n` of a year lies: in a month that exists, after all months before it. -/
structure Lies (lengths : List Nat) (n month day : Nat) : Prop where
  pos : 1 ≤ month
  within : ∃ length, lengths[month - 1]? = some length ∧ day < length
  before : daysIn (lengths.take (month - 1)) + day = n

theorem lies_splitMonths {lengths : List Nat} {n : Nat} (h : n < daysIn lengths) :
    Lies lengths n (splitMonths lengths n).1 (splitMonths lengths n).2 := by
  induction lengths generalizing n with
  | nil => contradiction
  | cons length rest ih =>
    change n < length + daysIn rest at h
    simp only [splitMonths]
    split
    case isTrue lt => exact ⟨Nat.le_refl 1, ⟨length, rfl, lt⟩, Nat.zero_add n⟩
    case isFalse ge =>
      obtain ⟨pos, within, before⟩ := ih (n := n - length) (by omega)
      obtain ⟨month, hmonth⟩ : ∃ month, (splitMonths rest (n - length)).1 = month + 1 :=
        ⟨_, (Nat.sub_add_cancel pos).symm⟩
      rw [hmonth] at within before ⊢
      refine ⟨Nat.succ_pos _, within, ?_⟩
      change daysIn (rest.take month) + _ = n - length at before
      change length + daysIn (rest.take month) + _ = n
      omega

namespace Date

theorem lies_ofDayNumber (day : Int) :
    Lies (monthLengths (ofDayNumber day).year) (day - yearStart (ofDayNumber day).year).toNat
      (ofDayNumber day).month ((ofDayNumber day).day - 1) := by
  apply lies_splitMonths
  have start := yearStart_yearOf_le day
  have next := lt_yearStart_yearOf day
  rw [yearStart_succ] at next
  change (day - yearStart (yearOf day)).toNat < daysIn (monthLengths (yearOf day))
  omega

/-- The date of a day exists. -/
theorem exists_ofDayNumber (day : Int) : (ofDayNumber day).exists? = true := by
  obtain ⟨pos, ⟨length, found, lt⟩, -⟩ := lies_ofDayNumber day
  have fits : (ofDayNumber day).day ≤ length := by omega
  have first : 1 ≤ (ofDayNumber day).day := Nat.succ_pos _
  rw [exists?, found]
  simp [pos, first, fits]

/-- A day number that was taken apart is put together again. -/
theorem dayNumber_ofDayNumber (day : Int) : (ofDayNumber day).dayNumber = day := by
  have start : yearStart (ofDayNumber day).year ≤ day := yearStart_yearOf_le day
  change yearStart (ofDayNumber day).year + (daysIn _ + _ : Nat) = day
  rw [(lies_ofDayNumber day).before]
  omega

theorem month_ofDayNumber_le (day : Int) : (ofDayNumber day).month ≤ 12 := by
  obtain ⟨pos, ⟨length, found, -⟩, -⟩ := lies_ofDayNumber day
  have := (List.getElem?_eq_some_iff.1 found).1
  change _ < 12 at this
  omega

theorem day_ofDayNumber_le (day : Int) : (ofDayNumber day).day ≤ 31 := by
  obtain ⟨pos, ⟨length, found, lt⟩, -⟩ := lies_ofDayNumber day
  have := le_of_mem_monthLengths (List.mem_of_getElem? found)
  omega

/-- Days of certain years have dates in those years. -/
theorem year_ofDayNumber {first last day : Int} (after : yearStart first ≤ day)
    (before : day < yearStart (last + 1)) :
    first ≤ (ofDayNumber day).year ∧ (ofDayNumber day).year ≤ last := by
  have start : yearStart (ofDayNumber day).year ≤ day := yearStart_yearOf_le day
  have next : day < yearStart ((ofDayNumber day).year + 1) := lt_yearStart_yearOf day
  constructor
  · by_contra early
    have := yearStart_mono (show (ofDayNumber day).year + 1 ≤ first by omega)
    omega
  · by_contra late
    have := yearStart_mono (show last + 1 ≤ (ofDayNumber day).year by omega)
    omega

end Date

end TunnelKeeper.Time

import Mathlib.Data.Nat.Basic
import TunnelKeeper.Proofs.Text.Digits
import TunnelKeeper.Proofs.Time.Calendar
import TunnelKeeper.Time.Text

/-!
# Written instants

An instant is read back from its text, leap seconds and years of any length included. Every number
in the text has the width that its reader takes at most, or is followed by a mark, so that no reader
takes too much.
-/
namespace TunnelKeeper.Instant
open TunnelKeeper Time

namespace Reader

/-- Whether a number ends before this text. -/
def EndsNumber (cs : List Char) : Prop := ∀ c ∈ cs.head?, c.isDigit = false

variable {α β : Type} {cs ds rest : List Char}

/-- A reader goes on where another one stopped. -/
theorem run_bind {x : Reader α} {f : α → Reader β} {a : α} (h : x.run cs = some (a, rest)) :
    (x >>= f).run cs = (f a).run rest := by
  rw [StateT.run_bind, h]
  rfl

theorem endsNumber_cons {c : Char} (h : c.isDigit = false) (rest : List Char) :
    EndsNumber (c :: rest) := by
  simpa [EndsNumber] using h

theorem EndsNumber.takeWhile_take (h : EndsNumber cs) (k : Nat) :
    (cs.take k).takeWhile Char.isDigit = [] := by
  cases cs with
  | nil => simp
  | cons c cs =>
    have mark : c.isDigit = false := h c rfl
    cases k <;> simp [mark]

theorem EndsNumber.dropWhile (h : EndsNumber cs) : cs.dropWhile Char.isDigit = cs := by
  cases cs with
  | nil => rfl
  | cons c cs => simp [h c rfl]

theorem digits_append {width : Nat} (digit : ∀ c ∈ ds, c.isDigit = true) (some : ds ≠ [])
    (short : ds.length ≤ width) (ends : EndsNumber rest) :
    (digits width).run (ds ++ rest) = .some (ds, rest) := by
  have taken : ((ds ++ rest).take width).takeWhile Char.isDigit = ds := by
    rw [List.take_append, List.take_of_length_le short, List.takeWhile_append_of_pos digit,
      ends.takeWhile_take, List.append_nil]
  have given : ds.isEmpty = false := by simpa using some
  change digits width (ds ++ rest) = _
  simp only [digits, taken, given]
  simp

theorem trimStart_digits (digit : ∀ c ∈ ds, c.isDigit = true) (some : ds ≠ []) (rest : List Char) :
    Text.trimStart (ds ++ rest) = ds ++ rest := by
  cases ds with
  | nil => exact absurd rfl some
  | cons c ds =>
    have mark := Text.isBlank_of_isDigit (digit c List.mem_cons_self)
    rw [Text.trimStart, List.cons_append, List.dropWhile_cons, mark]
    rfl

theorem number_padded (width : Nat) {n : Nat} (pos : 0 < width) (h : n < Nat.pow 10 width)
    (ends : EndsNumber rest) :
    (number width).run (Text.padded width n ++ rest) = some (n, rest) := by
  have digit : ∀ c ∈ Text.padded width n, c.isDigit = true := fun c => Text.isDigit_of_mem_padded
  have given := Text.padded_ne_nil width n
  have read := digits_append digit given (Nat.le_of_eq (Text.length_padded pos h)) ends
  simp [number, skipBlank, trimStart_digits digit given, read]

theorem char_cons {p : Char → Bool} {c : Char} (h : p c = true) (rest : List Char) :
    (char p).run (c :: rest) = some (c, rest) := by
  simp [char, StateT.run, h]

theorem mark_cons {c : Char} (h : Text.isBlank c = false) (rest : List Char) :
    (mark c).run (c :: rest) = some ((), rest) := by
  have read : (char (· == c)).run (c :: rest) = some (c, rest) := char_cons (by simp) rest
  simp [mark, skipBlank, Text.trimStart, h, read]

theorem year_unsigned (digit : ∀ c ∈ ds, c.isDigit = true) (some : ds ≠ [])
    (short : ds.length ≤ 4) (ends : EndsNumber rest) :
    year.run (ds ++ rest) = .some ((Nat.ofDigitChars 10 ds 0 : Int), rest) := by
  have read := digits_append digit some short ends
  have blank := trimStart_digits digit some rest
  obtain ⟨c, cs, rfl⟩ := List.exists_cons_of_ne_nil some
  have first := digit c List.mem_cons_self
  rw [List.cons_append] at read blank ⊢
  simp only [year, skipBlank, StateT.run_bind, StateT.run_modify, StateT.run_get,
    Option.pure_def, Option.bind_eq_bind, Option.bind_some, blank]
  split
  case h_1 sign =>
    cases (List.cons.inj sign).1
    contradiction
  case h_2 sign =>
    cases (List.cons.inj sign).1
    contradiction
  case h_3 => simp [read]

theorem year_signed (digit : ∀ c ∈ ds, c.isDigit = true) (some : ds ≠ [])
    (ends : EndsNumber rest) :
    year.run ('-' :: (ds ++ rest)) = .some (-(Nat.ofDigitChars 10 ds 0 : Int), rest) ∧
      year.run ('+' :: (ds ++ rest)) = .some ((Nat.ofDigitChars 10 ds 0 : Int), rest) := by
  have short : ds.length ≤ (ds ++ rest).length := by simp
  have read := digits_append digit some short ends
  have minus : Text.trimStart ('-' :: (ds ++ rest)) = '-' :: (ds ++ rest) := rfl
  have plus : Text.trimStart ('+' :: (ds ++ rest)) = '+' :: (ds ++ rest) := rfl
  rw [List.length_append] at read
  constructor
  · simp [year, skipBlank, minus, read]
  · simp [year, skipBlank, plus, read]

/-- A year is written so that its reader stops right after it. -/
theorem exists_yearText (d : Date) :
    ∃ cs, dateText d = cs ++ '-' :: Text.padded 2 d.month ++ '-' :: Text.padded 2 d.day ∧
      ∀ rest, EndsNumber rest → year.run (cs ++ rest) = some (d.year, rest) := by
  refine ⟨_, rfl, ?_⟩
  intro rest ends
  have digit (n : Nat) : ∀ c ∈ Text.padded 4 n, c.isDigit = true :=
    fun c => Text.isDigit_of_mem_padded
  split
  case isTrue h =>
    have four : (Text.padded 4 d.year.toNat).length = 4 :=
      Text.length_padded (by decide) (by change _ < 10000; omega)
    have value : (d.year.toNat : Int) = d.year := Int.toNat_of_nonneg h.1
    rw [year_unsigned (digit _) (Text.padded_ne_nil _ _) (Nat.le_of_eq four) ends,
      Text.ofDigitChars_padded, value]
  case isFalse =>
    have signed := year_signed (digit d.year.natAbs) (Text.padded_ne_nil _ _) ends
    rw [Text.ofDigitChars_padded] at signed
    split
    case isTrue neg =>
      have value : -(d.year.natAbs : Int) = d.year := by omega
      rw [List.cons_append, signed.1, value]
    case isFalse =>
      have value : (d.year.natAbs : Int) = d.year := by omega
      rw [List.cons_append, signed.2, value]

theorem date_dateText {d : Date} (month : d.month < 100) (day : d.day < 100)
    (ends : EndsNumber rest) : date.run (dateText d ++ rest) = some (d, rest) := by
  obtain ⟨cs, eq, readYear⟩ := exists_yearText d
  have dash (rest : List Char) : EndsNumber ('-' :: rest) := endsNumber_cons rfl rest
  have readDash (rest : List Char) := mark_cons (c := '-') rfl rest
  have readMonth (rest : List Char) := number_padded 2 (by decide) month (dash rest)
  have readDay := number_padded 2 (by decide) day ends
  rw [eq]
  simp [date, readYear, dash, readDash, readMonth, readDay]

theorem fraction_point (digit : ∀ c ∈ ds, c.isDigit = true) (some : ds ≠ [])
    (short : ds.length ≤ 9) (ends : EndsNumber rest) :
    fraction.run ('.' :: (ds ++ rest)) =
      .some (Nat.ofDigitChars 10 ds 0 * Nat.pow 10 (9 - ds.length), rest) := by
  have read := digits_append digit some short ends
  simp [fraction, read, ends.dropWhile]

theorem fraction_padded {width n : Nat} (pos : 0 < width) (short : width ≤ 9)
    (h : n < Nat.pow 10 width) (ends : EndsNumber rest) :
    fraction.run ('.' :: (Text.padded width n ++ rest)) =
      some (n * Nat.pow 10 (9 - width), rest) := by
  have length := Text.length_padded pos h
  rw [fraction_point (fun c => Text.isDigit_of_mem_padded) (Text.padded_ne_nil _ _)
    (length.symm ▸ short) ends, Text.ofDigitChars_padded, length]

theorem fraction_fractionText {nano : Nat} (h : nano < 1000000000) :
    fraction.run (fractionText nano ++ ['Z']) = some (nano, ['Z']) := by
  have ends : EndsNumber ['Z'] := endsNumber_cons rfl []
  unfold fractionText
  split
  case isTrue zero =>
    rw [zero]
    rfl
  case isFalse =>
    split
    case isTrue milli =>
      rw [List.cons_append,
        fraction_padded (by decide) (by decide) (by change _ < 1000; omega) ends]
      change some (nano / 1000000 * 1000000, _) = _
      rw [Nat.div_mul_cancel (Nat.dvd_of_mod_eq_zero milli)]
    case isFalse =>
      split
      case isTrue micro =>
        rw [List.cons_append,
          fraction_padded (by decide) (by decide) (by change _ < 1000000; omega) ends]
        change some (nano / 1000 * 1000, _) = _
        rw [Nat.div_mul_cancel (Nat.dvd_of_mod_eq_zero micro)]
      case isFalse =>
        rw [List.cons_append, fraction_padded (by decide) (by decide) h ends]
        change some (nano * 1, _) = _
        rw [Nat.mul_one]

theorem endsNumber_fractionText (nano : Nat) : EndsNumber (fractionText nano ++ ['Z']) := by
  unfold fractionText
  repeat' split
  all_goals exact endsNumber_cons rfl _

end Reader

/-- What is read of a written date and time is their instant. -/
theorem readAll_written (d : Date) (hour minute second nano : Nat) (month : d.month < 100)
    (day : d.day < 100) (hour_lt : hour < 100) (minute_lt : minute < 100)
    (second_lt : second < 100) (nano_lt : nano < 1000000000) :
    readAll.run
        (dateText d ++ 'T' :: Text.padded 2 hour ++ ':' :: Text.padded 2 minute ++
          ':' :: Text.padded 2 second ++ fractionText nano ++ ['Z']) =
      (ofLocal? d hour minute second nano 0).map (·, []) := by
  have colon (rest : List Char) : Reader.EndsNumber (':' :: rest) :=
    Reader.endsNumber_cons rfl rest
  have readDate (rest : List Char) :=
    Reader.date_dateText month day (Reader.endsNumber_cons (c := 'T') rfl rest)
  have readT (rest : List Char) :
      (Reader.char fun c => c == 't' || c == 'T' || c == ' ').run ('T' :: rest) =
        some ('T', rest) :=
    Reader.char_cons rfl rest
  have readHour (rest : List Char) :=
    Reader.number_padded 2 (by decide) hour_lt (colon rest)
  have readMinute (rest : List Char) :=
    Reader.number_padded 2 (by decide) minute_lt (colon rest)
  have readSecond :=
    Reader.number_padded 2 (by decide) second_lt (Reader.endsNumber_fractionText nano)
  have readColon (rest : List Char) := Reader.mark_cons (c := ':') rfl rest
  have readFraction := Reader.fraction_fractionText nano_lt
  have readZone : Reader.zone.run ['Z'] = some (0, []) := rfl
  simp only [List.append_assoc, List.cons_append]
  have readEnd : Reader.skipBlank.run [] = some ((), []) := rfl
  rw [readAll, Reader.run_bind (readDate _), Reader.run_bind (readT _),
    Reader.run_bind (readHour _), Reader.run_bind (readColon _), Reader.run_bind (readMinute _),
    Reader.run_bind (readColon _), Reader.run_bind readSecond, Reader.run_bind readFraction,
    Reader.run_bind readZone, Reader.run_bind readEnd]
  change (ofLocal? d hour minute second nano 0).bind (fun i => some (i, [])) = _
  rw [Option.map_eq_bind]
  rfl

/-- The year of an instant can be given. -/
theorem year_of_isInstant {second : Int} {nano : Nat} (h : isInstant second nano) :
    -262143 ≤ (Date.ofDayNumber (second / 86400 + epochDay)).year ∧
      (Date.ofDayNumber (second / 86400 + epochDay)).year ≤ 262142 := by
  obtain ⟨after, before, -, -⟩ := h
  unfold firstSecond at after
  unfold lastSecond at before
  apply Date.year_ofDayNumber
  · omega
  · change _ < yearStart 262143
    omega

/-- The parts of an instant are put together again. -/
theorem ofLocal?_parts {second : Int} {nano leap : Nat} (h : isInstant second nano)
    (hleap : leap = if 1000000000 ≤ nano then 1 else 0) :
    ofLocal? (Date.ofDayNumber (second / 86400 + epochDay)) ((second % 86400).toNat / 3600)
        ((second % 86400).toNat / 60 % 60) ((second % 86400).toNat % 60 + leap)
        (nano % 1000000000) 0 =
      some ⟨second, nano, h⟩ := by
  have year := year_of_isInstant h
  have day := Date.dayNumber_ofDayNumber (second / 86400 + epochDay)
  have exist := Date.exists_ofDayNumber (second / 86400 + epochDay)
  obtain ⟨-, -, short, last⟩ := id h
  have clock : ((second % 86400).toNat : Int) = second % 86400 := by omega
  have lt : (second % 86400).toNat < 86400 := by omega
  generalize (second % 86400).toNat = n at *
  have leaps : (if n % 60 + leap = 60 then 1 else 0) = leap := by
    split at hleap <;> split <;> omega
  have bounds : n / 3600 < 24 ∧ n / 60 % 60 < 60 ∧ n % 60 + leap ≤ 60 := by
    split at hleap <;> omega
  have whole : (second / 86400 + epochDay - epochDay) * 86400 +
      (3600 * (n / 3600 : Nat) + 60 * (n / 60 % 60 : Nat) + (n % 60 + leap : Nat) - leap) - 0 =
        second := by
    omega
  have fraction : nano % 1000000000 + 1000000000 * leap = nano := by
    split at hleap <;> omega
  simp only [ofLocal?, exist, year, bounds, leaps, day, whole, fraction]
  simp [ofParts?, h]

/-- An instant is read back from its text. -/
theorem ofText?_text (i : Instant) : ofText? i.text = some i := by
  obtain ⟨second, nano, valid⟩ := i
  obtain ⟨leap, hleap⟩ : ∃ leap, leap = if 1000000000 ≤ nano then 1 else 0 := ⟨_, rfl⟩
  have month := Date.month_ofDayNumber_le (second / 86400 + epochDay)
  have day := Date.day_ofDayNumber_le (second / 86400 + epochDay)
  have most : leap ≤ 1 := by split at hleap <;> omega
  have read := readAll_written (Date.ofDayNumber (second / 86400 + epochDay))
    ((second % 86400).toNat / 3600) ((second % 86400).toNat / 60 % 60)
    ((second % 86400).toNat % 60 + leap) (nano % 1000000000)
    (by omega) (by omega) (by omega) (by omega) (by omega) (by omega)
  rw [ofLocal?_parts valid hleap] at read
  rw [ofText?, text, String.toList_ofList, ← hleap, read]
  rfl

end TunnelKeeper.Instant

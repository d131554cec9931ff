import TunnelKeeper.Time.Instant
import TunnelKeeper.Text.Blank
import TunnelKeeper.Text.Digits

/-!
# Text of instants

An instant is written as date, time and `Z`, with no fraction or one of three, six or nine digits,
and with a signed year outside 0 to 9999. The reader is more liberal: blank characters between the
parts, fewer digits, a space in place of `T`, any fraction, and a zone given as `Z`, `UTC` or an
offset in hours and minutes. The instant it gives is always in universal time.
-/
namespace TunnelKeeper.Instant
open TunnelKeeper Time

def dateText (d : Date) : List Char :=
  let year :=
    if 0 ≤ d.year ∧ d.year ≤ 9999 then Text.padded 4 d.year.toNat
    else (if d.year < 0 then '-' else '+') :: Text.padded 4 d.year.natAbs
  year ++ '-' :: Text.padded 2 d.month ++ '-' :: Text.padded 2 d.day

def fractionText (nano : Nat) : List Char :=
  if nano = 0 then []
  else if nano % 1000000 = 0 then '.' :: Text.padded 3 (nano / 1000000)
  else if nano % 1000 = 0 then '.' :: Text.padded 6 (nano / 1000)
  else '.' :: Text.padded 9 nano

def text (i : Instant) : String :=
  let clock := (i.second % 86400).toNat
  let leap := if 1000000000 ≤ i.nano then 1 else 0
  String.ofList <|
    dateText (Date.ofDayNumber (i.second / 86400 + epochDay)) ++
      'T' :: Text.padded 2 (clock / 3600) ++ ':' :: Text.padded 2 (clock / 60 % 60) ++
      ':' :: Text.padded 2 (clock % 60 + leap) ++ fractionText (i.nano % 1000000000) ++ ['Z']

/-- A reader takes a value from the front of a text. -/
abbrev Reader (α : Type) := StateT (List Char) Option α

namespace Reader

def skipBlank : Reader Unit := modify Text.trimStart

def char (p : Char → Bool) : Reader Char := fun cs =>
  match cs with
  | [] => none
  | c :: cs => if p c then some (c, cs) else none

/-- The run of at most `width` digits at the front. -/
def digits (width : Nat) : Reader (List Char) := fun cs =>
  let ds := (cs.take width).takeWhile Char.isDigit
  if ds.isEmpty then none else some (ds, cs.drop ds.length)

/-- A number of at most `width` digits, after blank characters. -/
def number (width : Nat) : Reader Nat := do
  skipBlank
  return Nat.ofDigitChars 10 (← digits width) 0

/-- A mark between two numbers, after blank characters. -/
def mark (c : Char) : Reader Unit := do
  skipBlank
  let _ ← char (· == c)

/-- Four digits at most, or a sign and any number of digits. -/
def year : Reader Int := do
  skipBlank
  match ← get with
  | '-' :: cs => do
    set cs
    return -(Nat.ofDigitChars 10 (← digits cs.length) 0 : Int)
  | '+' :: cs => do
    set cs
    return Nat.ofDigitChars 10 (← digits cs.length) 0
  | _ => return Nat.ofDigitChars 10 (← digits 4) 0

def date : Reader Date := do
  let year ← year
  mark '-'
  let month ← number 2
  mark '-'
  return ⟨year, month, ← number 2⟩

/-- The nanoseconds after a decimal point; digits after the ninth do not count. -/
def fraction : Reader Nat := do
  match ← get with
  | '.' :: cs => do
    set cs
    let ds ← digits 9
    modify fun rest => rest.dropWhile Char.isDigit
    return Nat.ofDigitChars 10 ds 0 * Nat.pow 10 (9 - ds.length)
  | _ => return 0

/-- Two digits, the first of which is at most `highest`. -/
def twoDigits (highest : Char) : Reader Nat := do
  let a ← char fun c => c.isDigit && c ≤ highest
  let b ← char Char.isDigit
  return Nat.ofDigitChars 10 [a, b] 0

def zone : Reader Int := do
  skipBlank
  let cs ← get
  if (cs.take 3).map Char.toUpper = ['U', 'T', 'C'] then
    set (cs.drop 3)
    return 0
  let sign ← char fun c => c == 'Z' || c == 'z' || c == '+' || c == '-' || c == '−'
  if sign = 'Z' ∨ sign = 'z' then return 0
  let hours ← twoDigits '9'
  modify fun rest => rest.dropWhile fun c => c == ':' || Text.isBlank c
  let minutes ← twoDigits '5'
  let seconds : Int := 3600 * hours + 60 * minutes
  guard (seconds < 86400)
  return if sign = '+' then seconds else -seconds

end Reader

/-- The instant at a date and time of a zone with an offset in seconds. A second of 60 is a leap
second. -/
def ofLocal? (d : Date) (hour minute second nano : Nat) (offset : Int) : Option Instant := do
  guard (-262143 ≤ d.year ∧ d.year ≤ 262142 ∧ d.exists?)
  guard (hour < 24 ∧ minute < 60 ∧ second ≤ 60)
  let leap : Nat := if second = 60 then 1 else 0
  let clock : Int := 3600 * hour + 60 * minute + second - leap
  ofParts? ((d.dayNumber - epochDay) * 86400 + clock - offset) (nano + 1000000000 * leap)

def readAll : Reader Instant := do
  let date ← Reader.date
  let _ ← Reader.char fun c => c == 't' || c == 'T' || c == ' '
  let hour ← Reader.number 2
  Reader.mark ':'
  let minute ← Reader.number 2
  Reader.mark ':'
  let second ← Reader.number 2
  let nano ← Reader.fraction
  let offset ← Reader.zone
  Reader.skipBlank
  guard (← get).isEmpty
  ofLocal? date hour minute second nano offset

def ofText? (s : String) : Option Instant := (readAll.run s.toList).map (·.1)

end TunnelKeeper.Instant

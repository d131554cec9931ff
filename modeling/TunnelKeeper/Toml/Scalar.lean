import TunnelKeeper.Text.Digits
import TunnelKeeper.Time.Calendar

/-!
# TOML values

The values of the TOML configuration language, as far as a configuration needs them: what a float or
a date says is not kept, only that it is one. The entries of a table remember how the table came
about, because that decides what may still be added to it.

Read here are the words that are neither strings nor brackets: booleans, integers in four bases,
floats, and dates and times. Single underscores may stand between digits.
-/
namespace TunnelKeeper

inductive TomlOrigin where
  /-- On the way to a deeper table header. -/
  | implied
  /-- By its own header. -/
  | header
  /-- On the way of a dotted key. -/
  | dotted
  /-- As a value between braces, which is complete. -/
  | braces
deriving DecidableEq, Repr

inductive Toml where
  | string (s : String)
  | integer (n : Int)
  | bool (b : Bool)
  | float
  | date
  /-- A value between square brackets, which is complete. -/
  | array (elements : List Toml)
  /-- Tables under the same doubled header. -/
  | tables (elements : List Toml)
  | table (origin : TomlOrigin) (entries : List (String × Toml))
deriving Inhabited

namespace Toml

/-- The digits without the underscores, which may only stand singly between two digits. -/
def joinDigits? (isDigit : Char → Bool) : List Char → Option (List Char)
  | [] => none
  | [c] => if isDigit c then some [c] else none
  | c :: '_' :: cs => if isDigit c then (joinDigits? isDigit cs).map (c :: ·) else none
  | c :: cs => if isDigit c then (joinDigits? isDigit cs).map (c :: ·) else none

def isBinary (c : Char) : Bool := c == '0' || c == '1'

def isOctal (c : Char) : Bool := '0' ≤ c && c ≤ '7'

def isHexadecimal (c : Char) : Bool := (Text.hexDigit? c).isSome

def baseValue (base : Nat) (cs : List Char) : Nat :=
  cs.foldl (fun n c => base * n + (Text.hexDigit? c).getD 0) 0

/-- Decimal digits without a needless zero in front. -/
def whole? (cs : List Char) : Option (List Char) :=
  (joinDigits? Char.isDigit cs).filter fun ds => ds.head? != some '0' || ds.length == 1

/-- A sign and what follows it. -/
def splitSign : List Char → Bool × List Char
  | '-' :: cs => (true, cs)
  | '+' :: cs => (false, cs)
  | cs => (false, cs)

/-- Integers that fit neither 128 signed nor 128 unsigned bits cannot be held. -/
def holdsInteger (n : Int) : Bool := -(Nat.pow 2 127 : Nat) ≤ n && n < (Nat.pow 2 128 : Nat)

def integer? (cs : List Char) : Option Toml :=
  let value :=
    match cs with
    | '0' :: 'x' :: ds => (joinDigits? isHexadecimal ds).map fun ds => (baseValue 16 ds : Int)
    | '0' :: 'o' :: ds => (joinDigits? isOctal ds).map fun ds => (baseValue 8 ds : Int)
    | '0' :: 'b' :: ds => (joinDigits? isBinary ds).map fun ds => (baseValue 2 ds : Int)
    | cs =>
      let p := splitSign cs
      (whole? p.2).map fun ds => if p.1 then -(baseValue 10 ds : Int) else baseValue 10 ds
  (value.filter holdsInteger).map .integer

/-- Whether the number with these digits, times a power of ten, is too large for a float. -/
def overflowsFloat (digits : Nat) (exponent : Int) : Bool :=
  let size : Int := (Text.decimal digits).length + exponent
  if digits = 0 || size < 300 then false
  else if 320 < size then true
  else
    let limit := Nat.pow 2 1024 - Nat.pow 2 970
    if 0 ≤ exponent then limit ≤ digits * Nat.pow 10 exponent.toNat
    else limit * Nat.pow 10 exponent.natAbs ≤ digits

/-- The value of an exponent; a missing one is zero. -/
def exponent? : List Char → Option Int
  | [] => some 0
  | e :: cs =>
    if e = 'e' ∨ e = 'E' then
      let p := splitSign cs
      (joinDigits? Char.isDigit p.2).map fun ds =>
        if p.1 then -(baseValue 10 ds : Int) else baseValue 10 ds
    else none

def isExponentMark (c : Char) : Bool := c == 'e' || c == 'E'

/-- A number with a fraction, an exponent or both, or a special value. -/
def float? (cs : List Char) : Option Toml := do
  let p := splitSign cs
  if p.2 = ['i', 'n', 'f'] ∨ p.2 = ['n', 'a', 'n'] then return .float
  let mantissa := p.2.takeWhile (! isExponentMark ·)
  guard (mantissa.contains '.' || mantissa.length != p.2.length)
  let exponent ← exponent? (p.2.drop mantissa.length)
  let (front, places) ←
    match mantissa.splitOn '.' with
    | [front] => (whole? front).map (·, [])
    | [front, back] => do
      let front ← whole? front
      let back ← joinDigits? Char.isDigit back
      some (front, back)
    | _ => none
  guard (!overflowsFloat (baseValue 10 (front ++ places)) (exponent - places.length))
  return .float

def fixed? (count : Nat) (cs : List Char) : Option Nat :=
  if cs.length = count then Text.natural? cs else none

def isDate (cs : List Char) : Bool :=
  match cs.splitOn '-' with
  | [y, m, d] =>
    match fixed? 4 y, fixed? 2 m, fixed? 2 d with
    | some y, some m, some d => Time.Date.exists? ⟨y, m, d⟩
    | _, _, _ => false
  | _ => false

def isBelow (limit : Nat) (cs : List Char) : Bool :=
  match fixed? 2 cs with
  | some n => n < limit
  | none => false

def isSecond (cs : List Char) : Bool :=
  match cs.splitOn '.' with
  | [s] => isBelow 61 s
  | [s, f] => isBelow 61 s && (Text.natural? f).isSome
  | _ => false

def isTime (cs : List Char) : Bool :=
  match cs.splitOn ':' with
  | [h, m] => isBelow 24 h && isBelow 60 m
  | [h, m, s] => isBelow 24 h && isBelow 60 m && isSecond s
  | _ => false

def isOffset (cs : List Char) : Bool :=
  match cs with
  | sign :: rest =>
    (sign == '+' || sign == '-') &&
      match rest.splitOn ':' with
      | [h, m] => isBelow 24 h && isBelow 60 m
      | _ => false
  | [] => false

def isZonedTime (cs : List Char) : Bool :=
  match cs.getLast? with
  | some 'Z' => isTime cs.dropLast
  | some 'z' => isTime cs.dropLast
  | _ =>
    let time := cs.takeWhile fun c => c != '+' && c != '-'
    let rest := cs.drop time.length
    isTime time && (rest.isEmpty || isOffset rest)

/-- A date, a time, or both with a `T` or a space between them. -/
def date? (cs : List Char) : Option Toml :=
  let isMark (c : Char) : Bool := c == 'T' || c == 't' || c == ' '
  let found :=
    match cs.drop 10 with
    | [] => isDate cs || isTime cs
    | mark :: rest => (isMark mark && isDate (cs.take 10) && isZonedTime rest) || isTime cs
  if found then some .date else none

def word? (cs : List Char) : Option Toml :=
  if cs = ['t', 'r', 'u', 'e'] then some (.bool true)
  else if cs = ['f', 'a', 'l', 's', 'e'] then some (.bool false)
  else (integer? cs).or ((float? cs).or (date? cs))

end Toml

end TunnelKeeper

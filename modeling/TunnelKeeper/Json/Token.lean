import TunnelKeeper.Json.Basic
import TunnelKeeper.Text.Digits

/-!
# JSON tokens

The first of two steps of reading JSON. A text is cut into punctuation, literals and scalars; blanks
between them are spaces, tabs and line ends only.
-/
namespace TunnelKeeper.Json
open TunnelKeeper

inductive Token where
  | openArray
  | closeArray
  | openObject
  | closeObject
  | comma
  | colon
  | scalar (j : Json)

/-- One element of a string literal: a character, or a UTF-16 unit given by its number. -/
inductive StringPart where
  | char (c : Char)
  | unit (n : Nat)

def simpleEscape? (c : Char) : Option Char :=
  if c = '\x22' ∨ c = '\\' ∨ c = '/' then some c
  else if c = 'b' then some '\x08'
  else if c = 'f' then some '\x0c'
  else if c = 'n' then some '\n'
  else if c = 'r' then some '\r'
  else if c = 't' then some '\t'
  else none

/-- The elements up to the closing quote, and what follows it. -/
def stringParts : List Char → Option (List StringPart × List Char)
  | [] => none
  | '\x22' :: cs => some ([], cs)
  | '\\' :: 'u' :: a :: b :: c :: d :: cs =>
    match Text.hexValue? [a, b, c, d], stringParts cs with
    | some n, some (parts, rest) => some (.unit n :: parts, rest)
    | _, _ => none
  | '\\' :: e :: cs =>
    match simpleEscape? e, stringParts cs with
    | some c, some (parts, rest) => some (.char c :: parts, rest)
    | _, _ => none
  | c :: cs =>
    if c.toNat < 0x20 ∨ c = '\\' then none
    else
      match stringParts cs with
      | some (parts, rest) => some (.char c :: parts, rest)
      | none => none

def isHighSurrogate (n : Nat) : Bool := 0xd800 ≤ n && n ≤ 0xdbff

def isLowSurrogate (n : Nat) : Bool := 0xdc00 ≤ n && n ≤ 0xdfff

/-- The characters of a literal, with each surrogate pair joined; nothing if a half stands alone. -/
def joinUnits : List StringPart → Option (List Char)
  | [] => some []
  | .char c :: ps => (joinUnits ps).map (c :: ·)
  | .unit high :: .unit low :: ps =>
    if isHighSurrogate high && isLowSurrogate low then
      (joinUnits ps).map (Char.ofNat (0x10000 + (high - 0xd800) * 0x400 + (low - 0xdc00)) :: ·)
    else if isHighSurrogate high || isLowSurrogate high then none
    else (joinUnits (.unit low :: ps)).map (Char.ofNat high :: ·)
  | .unit n :: ps =>
    if isHighSurrogate n || isLowSurrogate n then none
    else (joinUnits ps).map (Char.ofNat n :: ·)

def isNumberChar (c : Char) : Bool :=
  c.isDigit || c == '-' || c == '+' || c == '.' || c == 'e' || c == 'E'

def isDigits (cs : List Char) : Bool := !cs.isEmpty && cs.all Char.isDigit

def isExponent : List Char → Bool
  | [] => true
  | e :: cs =>
    (e == 'e' || e == 'E') &&
      match cs with
      | '+' :: ds => isDigits ds
      | '-' :: ds => isDigits ds
      | ds => isDigits ds

def isFraction : List Char → Bool
  | '.' :: cs => isDigits (cs.takeWhile Char.isDigit) && isExponent (cs.dropWhile Char.isDigit)
  | cs => isExponent cs

/-- A number without its sign. -/
def magnitude? (negative : Bool) (cs : List Char) : Option Json :=
  let whole := cs.takeWhile Char.isDigit
  let rest := cs.dropWhile Char.isDigit
  if whole.isEmpty || (whole.head? == some '0' && whole.length != 1) || !isFraction rest then none
  else
    let n := Nat.ofDigitChars 10 whole 0
    if !rest.isEmpty || (negative && n == 0) then
      some (.decimal (String.ofList (if negative then '-' :: cs else cs)))
    else some (.integer (if negative then -(n : Int) else n))

def number? : List Char → Option Json
  | '-' :: cs => magnitude? true cs
  | cs => magnitude? false cs

def word? (cs : List Char) : Option Json :=
  if cs = ['n', 'u', 'l', 'l'] then some .null
  else if cs = ['t', 'r', 'u', 'e'] then some (.bool true)
  else if cs = ['f', 'a', 'l', 's', 'e'] then some (.bool false)
  else none

def punctuation? (c : Char) : Option Token :=
  if c = '[' then some .openArray
  else if c = ']' then some .closeArray
  else if c = '\x7b' then some .openObject
  else if c = '\x7d' then some .closeObject
  else if c = ',' then some .comma
  else if c = ':' then some .colon
  else none

def isSpace (c : Char) : Bool := c == ' ' || c == '\t' || c == '\n' || c == '\r'

theorem length_stringParts {cs rest : List Char} {parts : List StringPart}
    (h : stringParts cs = some (parts, rest)) : rest.length < cs.length := by
  fun_induction stringParts cs generalizing parts rest with
  | case1 => contradiction
  | case2 cs =>
    cases h
    simp
  | case3 a b c d cs n ps r hs hn ih =>
    cases h
    have := ih hs
    simp only [List.length_cons]
    omega
  | case4 => contradiction
  | case5 e cs _ c ps r hs he ih =>
    cases h
    have := ih hs
    simp only [List.length_cons]
    omega
  | case6 => contradiction
  | case7 => contradiction
  | case8 c cs _ _ _ _ ps r hs ih =>
    cases h
    have := ih hs
    simp only [List.length_cons]
    omega
  | case9 => contradiction

theorem length_dropWhile_le (p : Char → Bool) (cs : List Char) :
    (cs.dropWhile p).length ≤ cs.length := by
  induction cs with
  | nil => simp
  | cons c cs ih =>
    simp only [List.dropWhile]
    split
    · exact Nat.le_succ_of_le ih
    · exact Nat.le_refl _

/-- The tokens of a text. -/
def tokens? : List Char → Option (List Token)
  | [] => some []
  | c :: cs =>
    if isSpace c then tokens? cs
    else
      match punctuation? c with
      | some t => (tokens? cs).map (t :: ·)
      | none =>
        if c = '\x22' then
          match _h : stringParts cs with
          | some (parts, rest) =>
            (tokens? rest).map (.scalar (.string ((joinUnits parts).map String.ofList)) :: ·)
          | none => none
        else if isNumberChar c && c != 'e' && c != 'E' then
          match number? (c :: cs.takeWhile isNumberChar) with
          | some j => (tokens? (cs.dropWhile isNumberChar)).map (.scalar j :: ·)
          | none => none
        else
          match word? (c :: cs.takeWhile Char.isAlpha) with
          | some j => (tokens? (cs.dropWhile Char.isAlpha)).map (.scalar j :: ·)
          | none => none
termination_by cs => cs.length
decreasing_by
  · simp
  · simp
  · have := length_stringParts _h
    simp only [List.length_cons]
    omega
  · have := length_dropWhile_le isNumberChar cs
    simp only [List.length_cons]
    omega
  · have := length_dropWhile_le Char.isAlpha cs
    simp only [List.length_cons]
    omega

end TunnelKeeper.Json

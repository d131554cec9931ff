import TunnelKeeper.Net.Address
import TunnelKeeper.Text.Digits

/-!
# Address text

IPv4 addresses are four decimal numbers without leading zeros. IPv6 addresses are eight groups of
up to four hexadecimal digits, where `::` may stand for one or more groups of zeros and the last two
groups may be an IPv4 address. An IPv6 address is written with `::` for its first longest run of at
least two zero groups, and with an IPv4 tail exactly when it embeds one under `::ffff`.
-/
namespace TunnelKeeper.Net.Address
open TunnelKeeper

/-- A number from 0 to 255 without leading zeros. -/
def octet? (cs : List Char) : Option Nat :=
  if cs.head? = some '0' ∧ cs.length ≠ 1 then none else Text.naturalUpTo? 255 cs

def v4Value? (cs : List Char) : Option Nat :=
  match (cs.splitOn '.').mapM octet? with
  | some [a, b, c, d] => some (ofGroups 8 [a, b, c, d])
  | _ => none

def segment? (cs : List Char) : Option Nat :=
  if 1 ≤ cs.length ∧ cs.length ≤ 4 then Text.hexValue? cs else none

/-- Groups between colons, of which the last may be an IPv4 address that counts as two. -/
def tailSegments? (words : List (List Char)) : Option (List Nat) :=
  match words.reverse with
  | [] => some []
  | last :: front =>
    match v4Value? last with
    | some v => (front.reverse.mapM segment?).map (· ++ [v / 65536, v % 65536])
    | none => words.mapM segment?

def colonWords (cs : List Char) : List (List Char) := if cs.isEmpty then [] else cs.splitOn ':'

/-- What stands before and after the first `::`. -/
def splitGap : List Char → Option (List Char × List Char)
  | [] => none
  | [_] => none
  | a :: b :: cs =>
    if a = ':' ∧ b = ':' then some ([], cs)
    else (splitGap (b :: cs)).map fun p => (a :: p.1, p.2)

def v6Value? (cs : List Char) : Option Nat :=
  match splitGap cs with
  | none =>
    match tailSegments? (colonWords cs) with
    | some gs => if gs.length = 8 then some (ofGroups 16 gs) else none
    | none => none
  | some (front, back) =>
    match (colonWords front).mapM segment?, tailSegments? (colonWords back) with
    | some hs, some ts =>
      if hs.length + ts.length ≤ 7 then
        some (ofGroups 16 (hs ++ List.replicate (8 - hs.length - ts.length) 0 ++ ts))
      else none
    | _, _ => none

/-- An address of either family. -/
def ofText? (cs : List Char) : Option Address :=
  match v4Value? cs with
  | some v => some (ofValue .v4 v)
  | none => (v6Value? cs).map (ofValue .v6)

def v4Text (value : Nat) : List Char := ['.'].intercalate ((octets value).map Text.decimal)

def segmentsText (gs : List Nat) : List Char := [':'].intercalate (gs.map Text.hexadecimal)

def leadingZeros (gs : List Nat) : Nat := (gs.takeWhile (· == 0)).length

/-- Where the first longest run of zero groups begins, and its length. -/
def longestZeroRun (gs : List Nat) : Nat × Nat :=
  (List.range gs.length).foldl
    (fun best i =>
      let run := leadingZeros (gs.drop i)
      if best.2 < run then (i, run) else best)
    (0, 0)

def v6Text (value : Nat) : List Char :=
  let gs := segments value
  if gs.take 6 = [0, 0, 0, 0, 0, 0xffff] then [':', ':', 'f', 'f', 'f', 'f', ':'] ++ v4Text value
  else
    let run := longestZeroRun gs
    if run.2 < 2 then segmentsText gs
    else segmentsText (gs.take run.1) ++ [':', ':'] ++ segmentsText (gs.drop (run.1 + run.2))

def text (a : Address) : List Char :=
  match a.family with
  | .v4 => v4Text a.value
  | .v6 => v6Text a.value

end TunnelKeeper.Net.Address

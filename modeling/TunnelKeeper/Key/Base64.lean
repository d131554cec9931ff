/-!
# Base64

Three bytes are written as four symbols, and a shorter last group is filled with padding. Only the
canonical text of a byte sequence is read: padding is required and the bits that carry no byte must
be zero. An error names the first fault and the byte offset at which it stands.
-/
namespace TunnelKeeper.Key.Base64

inductive DecodeError where
  | symbol (byte offset : Nat)
  | inputLength (length : Nat)
  | lastSymbol (byte offset : Nat)
  | padding
deriving DecidableEq, Repr

def DecodeError.message : DecodeError → String
  | .symbol byte offset => s!"Invalid symbol {byte}, offset {offset}."
  | .inputLength length => s!"Invalid input length: {length}"
  | .lastSymbol byte offset => s!"Invalid last symbol {byte}, offset {offset}."
  | .padding => "Invalid padding"

def pad : UInt8 := 61

def symbol (n : Nat) : UInt8 :=
  if n < 26 then (n + 65).toUInt8
  else if n < 52 then (n + 71).toUInt8
  else if n < 62 then (n - 4).toUInt8
  else if n = 62 then 43 else 47

def sextet? (b : UInt8) : Option Nat :=
  let n := b.toNat
  if 65 ≤ n ∧ n ≤ 90 then some (n - 65)
  else if 97 ≤ n ∧ n ≤ 122 then some (n - 71)
  else if 48 ≤ n ∧ n ≤ 57 then some (n + 4)
  else if n = 43 then some 62
  else if n = 47 then some 63
  else none

def encode : List UInt8 → List UInt8
  | [] => []
  | [a] => [symbol (a.toNat / 4), symbol (a.toNat % 4 * 16), pad, pad]
  | [a, b] =>
    [symbol (a.toNat / 4), symbol (a.toNat % 4 * 16 + b.toNat / 16), symbol (b.toNat % 16 * 4), pad]
  | a :: b :: c :: rest =>
    symbol (a.toNat / 4) :: symbol (a.toNat % 4 * 16 + b.toNat / 16) ::
      symbol (b.toNat % 16 * 4 + c.toNat / 64) :: symbol (c.toNat % 64) :: encode rest

/-- The bits of the symbols of one group, the first of which stands at `offset`. -/
def sextets (offset : Nat) : List UInt8 → Except DecodeError (List Nat)
  | [] => .ok []
  | b :: bs =>
    match sextet? b with
    | none => .error (.symbol b.toNat offset)
    | some n => (sextets (offset + 1) bs).map (n :: ·)

/-- The bytes that whole sextets stand for; what remains of the last one is left over. -/
def bytesOf : List Nat → List UInt8
  | a :: b :: rest =>
    (a * 4 + b / 16).toUInt8 ::
      match rest with
      | [] => []
      | [c] => [(b % 16 * 16 + c / 4).toUInt8]
      | c :: d :: _ => [(b % 16 * 16 + c / 4).toUInt8, (c % 4 * 64 + d).toUInt8]
  | _ => []

/-- The bits of the sextets of a group that belong to no byte. -/
def spareBits : List Nat → Nat
  | [_, b] => b % 16
  | [_, _, c] => c % 4
  | _ => 0

/-- The last group: up to four symbols, of which the last ones may be padding. -/
def decodeLast (offset : Nat) (bs : List UInt8) : Except DecodeError (List UInt8) := do
  let body := bs.takeWhile (· ≠ pad)
  let tail := bs.drop body.length
  let ns ← sextets offset body
  if tail ≠ [] ∧ (body.length < 2 ∨ tail.any (· ≠ pad)) then
    throw (.symbol pad.toNat (offset + body.length))
  if body.length < 2 ∧ bs ≠ [] then throw (.inputLength (offset + body.length))
  if bs.length % 4 ≠ 0 then throw .padding
  if spareBits ns ≠ 0 then
    throw (.lastSymbol (body.getLastD 0).toNat (offset + body.length - 1))
  return bytesOf ns

/-- All groups from `offset` on; only the last one may be short. -/
def decodeFrom (offset : Nat) : List UInt8 → Except DecodeError (List UInt8)
  | a :: b :: c :: d :: e :: rest => do
    let ns ← sextets offset [a, b, c, d]
    return bytesOf ns ++ (← decodeFrom (offset + 4) (e :: rest))
  | last => decodeLast offset last

/-- The bytes with this text. A single symbol behind whole groups that is none is found before
anything else. -/
def decode (bs : List UInt8) : Except DecodeError (List UInt8) :=
  match bs.getLast? with
  | some b =>
    if bs.length % 4 = 1 ∧ b ≠ pad ∧ sextet? b = none then
      .error (.symbol b.toNat (bs.length - 1))
    else decodeFrom 0 bs
  | none => .ok []

end TunnelKeeper.Key.Base64

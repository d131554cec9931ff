import TunnelKeeper.Net.AddressText
import TunnelKeeper.Net.Cidr
import TunnelKeeper.Text.Blank
import TunnelKeeper.Text.Quoted

/-!
# CIDR text

A CIDR is written as its address, a slash and its length. It is read with blank characters around
it, and for IPv4 the length may be given as a netmask. A list is written with commas; reading one
passes over blank elements, fails at the first element that is no CIDR, and sorts the rest.
-/
namespace TunnelKeeper.Net
open TunnelKeeper

inductive CidrError where
  | missingLength (input : String)
  | invalid (input : String)
  | lengthTooLong (length width : Nat)
deriving DecidableEq, Repr

def CidrError.message : CidrError → String
  | .missingLength input => s!"invalid CIDR {Text.quoted input}: missing prefix length"
  | .invalid input => s!"invalid CIDR {Text.quoted input}: invalid address: {input}"
  | .lengthTooLong length width => s!"prefix length {length} exceeds {width} bits"

namespace Cidr

def text (c : Cidr) : String := String.ofList (c.addr.text ++ '/' :: Text.decimal c.length)

def make (addr : Address) (length : Nat) : Except CidrError Cidr :=
  if h : length ≤ addr.family.width then .ok ⟨addr, length, h⟩
  else .error (.lengthTooLong length addr.family.width)

def withLength (c : Cidr) (length : Nat) : Except CidrError Cidr := make c.addr length

/-- The length of a netmask: ones, then only zeros. -/
def maskLength? (mask : Nat) : Option Nat :=
  (List.range 33).find? fun n => mask = blockSize 32 - blockSize (32 - n)

/-- A length up to the width of the family; leading zeros and a plus sign are allowed. -/
def length? (family : Family) (cs : List Char) : Option Nat :=
  (Text.signedUpTo? 255 cs).filter (· ≤ family.width)

def v4Length? (cs : List Char) : Option Nat :=
  match Address.v4Value? cs with
  | some mask => maskLength? mask
  | none => length? .v4 cs

def ofParts? (addr length : List Char) : Option Cidr :=
  match Address.v4Value? addr with
  | some v =>
    match v4Length? length with
    | some n => (make (.ofValue .v4 v) n).toOption
    | none => none
  | none =>
    match Address.v6Value? addr, length? .v6 length with
    | some v, some n => (make (.ofValue .v6 v) n).toOption
    | _, _ => none

/-- The CIDR with exactly this text. -/
def ofText? (cs : List Char) : Option Cidr :=
  match cs.splitOn '/' with
  | [addr, length] => ofParts? addr length
  | _ => none

/-- The CIDR written in the text, with blank characters around it. -/
def parse (input : String) : Except CidrError Cidr :=
  let trimmed := Text.trim input
  if trimmed.toList.contains '/' then
    match ofText? trimmed.toList with
    | some c => .ok c
    | none => .error (.invalid trimmed)
  else .error (.missingLength trimmed)

/-- The CIDRs of a comma separated list, in ascending order. -/
def parseList (s : String) : Except CidrError (List Cidr) :=
  ((Text.listElements s).mapM parse).map sort

def listText (cs : List Cidr) : String := ",".intercalate (cs.map text)

end Cidr

end TunnelKeeper.Net

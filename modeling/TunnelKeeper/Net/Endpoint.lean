import TunnelKeeper.Net.AddressText
import TunnelKeeper.Text.Blank

/-!
# Endpoints

An endpoint is an address with the number of a UDP socket on it. IPv6 addresses stand in square
brackets and may carry a scope number, which is written only when it is not zero.
-/
namespace TunnelKeeper.Net
open TunnelKeeper

structure Endpoint where
  addr : Address
  scope : Nat := 0
  socket : UInt16
deriving DecidableEq, Repr

namespace Endpoint

def splitLast (c : Char) (cs : List Char) : Option (List Char × List Char) :=
  match cs.reverse.span (· ≠ c) with
  | (_, []) => none
  | (after, _ :: before) => some (before.reverse, after.reverse)

/-- An IPv6 address with an optional scope number after a percent sign. -/
def scoped? (cs : List Char) : Option (Nat × Nat) :=
  match cs.splitOn '%' with
  | [addr] => (Address.v6Value? addr).map (·, 0)
  | [addr, scope] =>
    match Address.v6Value? addr, Text.naturalUpTo? 4294967295 scope with
    | some v, some n => some (v, n)
    | _, _ => none
  | _ => none

def bracketed? : List Char → Option (List Char)
  | '[' :: cs => if cs.getLast? = some ']' then some cs.dropLast else none
  | _ => none

def ofList? (cs : List Char) : Option Endpoint :=
  match splitLast ':' cs with
  | none => none
  | some (host, number) =>
    match Text.naturalUpTo? 65535 number with
    | none => none
    | some n =>
      match Address.v4Value? host with
      | some v => some ⟨.ofValue .v4 v, 0, n.toUInt16⟩
      | none =>
        ((bracketed? host).bind scoped?).map fun p => ⟨.ofValue .v6 p.1, p.2, n.toUInt16⟩

def text (e : Endpoint) : String :=
  let number := ':' :: Text.decimal e.socket.toNat
  let scope := if e.scope = 0 then [] else '%' :: Text.decimal e.scope
  match e.addr.family with
  | .v4 => String.ofList (e.addr.text ++ number)
  | .v6 => String.ofList ('[' :: e.addr.text ++ scope ++ ']' :: number)

/-- The endpoint that a setting names, with blank characters around it. Host names are not looked
up. -/
def ofText? (s : String) : Option Endpoint := ofList? (Text.trimList s.toList)

end Endpoint

end TunnelKeeper.Net

import TunnelKeeper.Keeper.Memory

/-!
# Free addresses

A new peer gets the lowest address of a subnet that is in use nowhere: not by a peer of the
interface, prepared ones included, not by the interface itself, and not reserved by the caller. The
first address of a subnet and, for IPv4, its last one are never given out.
-/
namespace TunnelKeeper.Memory
open TunnelKeeper Net

def addressesAt (place : AddressPlace) (s : String) : Except KeeperError (List Cidr) :=
  (Cidr.parseList s).mapError (.addresses place)

def parseSubnet (s : String) : Except KeeperError Cidr :=
  (Cidr.parse s).mapError (.addresses .subnet)

/-- The addresses of the peers of an interface that pass, in ascending order. -/
def usedAddresses (m : Memory) (id : InterfaceId) (p : Cidr → Bool) :
    Except KeeperError (List Cidr) := do
  let peers ← m.peersOfInterface id
  let used ← peers.mapM fun peer => addressesAt (.peer peer.id) peer.tunnel.addresses.value
  return Cidr.sort (used.flatten.filter p)

def isSetApart (subnet : Cidr) (a : Address) : Bool :=
  a = subnet.network.addr || (subnet.addr.isV4 && a = subnet.broadcast.addr)

def isTaken (subnet : Cidr) (held : List Cidr) (a : Address) : Bool :=
  isSetApart subnet a || held.any fun c => c.addr = a

/-- How many addresses there are from a candidate on. -/
def remaining : Option Cidr → Nat
  | none => 0
  | some c => blockSize c.addr.family.width - c.addr.value

theorem remaining_next?_lt (c : Cidr) : remaining c.next? < remaining (some c) := by
  have bound := c.addr.value_lt
  rw [Cidr.next?_eq]
  split
  case isTrue => simp only [remaining, Cidr.withAddress]; omega
  case isFalse => simp only [remaining]; omega

/-- The first address from a candidate on that is not taken, up to the end of a subnet. -/
def firstFree? (subnet : Cidr) (taken : Address → Bool) : Option Cidr → Option Cidr
  | none => none
  | some c =>
    if subnet.contains c.addr then if taken c.addr then firstFree? subnet taken c.next? else some c
    else none
termination_by candidate => remaining candidate
decreasing_by exact remaining_next?_lt c

/-- The addresses that a subnet of an interface cannot give out. -/
def heldAddresses (m : Memory) (id : InterfaceId) (subnet : Cidr) :
    Except KeeperError (List Cidr) := do
  let used ← m.usedAddresses id fun c => subnet.contains c.addr
  let i ← m.interface id
  let own ← addressesAt (.interface id) i.addresses
  return used ++ own.filter fun c => subnet.contains c.addr

def freshAddress (m : Memory) (id : InterfaceId) (subnet : Cidr) (reserved : List Cidr) :
    Except KeeperError Cidr := do
  let held ← m.heldAddresses id subnet
  match firstFree? subnet (isTaken subnet (reserved ++ held)) (some subnet.network) with
  | some c => .ok c
  | none => .error (.exhausted subnet.network)

def freshAddresses (m : Memory) (id : InterfaceId) : Except KeeperError String := do
  let i ← m.interface id
  let own ← addressesAt (.interface id) i.addresses
  let fresh ← own.mapM fun c => m.freshAddress id c [c]
  return Cidr.listText fresh

end TunnelKeeper.Memory

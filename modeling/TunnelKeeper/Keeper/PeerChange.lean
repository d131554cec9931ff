import TunnelKeeper.Keeper.Allocation

/-!
# The change that a peer asks for

A peer record is pushed to the kernel as one change. A server routes the allowed and the extra
addresses to the peer and waits for it; a client routes only the allowed ones and knows where the
peer is. The change never creates a peer.
-/
namespace TunnelKeeper
open Net Kernel

namespace KeyPlace

def parse (place : KeyPlace) (s : String) : Except KeeperError Key :=
  (Key.parse s).mapError (.key place)

end KeyPlace

namespace Peer

/-- The pre-shared key, unless there is none or its text is empty. -/
def presharedKey? (p : Peer) : Except KeeperError (Option Key) :=
  match p.presharedKey with
  | none => .ok none
  | some s => if s.isEmpty then .ok none else (KeyPlace.presharedKey p.id).parse s |>.map some

/-- An interval in seconds; zero turns it off, and longer ones are cut to the longest. -/
def keepaliveInterval (seconds : UInt32) : Option UInt16 :=
  if seconds = 0 then none else some (min seconds.toNat 65535).toUInt16

def routes (role : Role) (p : Peer) : Except KeeperError (List Cidr) := do
  let allowed ← Memory.addressesAt (.allowedIps p.id) p.allowedIps.value
  match role with
  | .client => return allowed
  | .server => return allowed ++ (← Memory.addressesAt (.extraAllowedIps p.id) p.extraAllowedIps)

/-- The endpoint that the peer names, as it is looked up; a blank text names none. -/
def namedEndpoint (lookUp : String → Option Endpoint) (p : Peer) : Option Endpoint :=
  (Text.nonBlank? p.endpoint.value).bind lookUp

/-- The change for a peer of an interface with the given role, where endpoints are looked up. -/
def changeBy (lookUp : String → Option Endpoint) (role : Role) (p : Peer) :
    Except KeeperError PeerChange := do
  let publicKey ← (KeyPlace.publicKey p.id).parse p.keys.publicKey
  let presharedKey ← p.presharedKey?
  let routes ← p.routes role
  return {
    publicKey := publicKey
    remove := false
    updateOnly := true
    presharedKey := presharedKey
    endpoint := if role = .client then p.namedEndpoint lookUp else none
    keepalive := keepaliveInterval p.keepalive.value
    replaceAllowedIps := true
    allowedIps := routes }

/-- The change where a look-up finds the endpoints that are given by numbers. -/
def change (role : Role) (p : Peer) : Except KeeperError PeerChange :=
  p.changeBy Endpoint.ofText? role

end Peer

end TunnelKeeper

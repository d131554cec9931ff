import TunnelKeeper.Key.Basic
import TunnelKeeper.Model.Peer
import TunnelKeeper.Net.CidrText
import TunnelKeeper.Net.Endpoint

/-!
# What the kernel holds

Links and tunnel devices as the kernel reports them, and the changes that are sent to it. A change
of a device leaves alone what it does not set.
-/
namespace TunnelKeeper.Kernel
open TunnelKeeper Net

structure Link where
  name : String
  mtu : UInt32
  up : Bool
deriving DecidableEq, Repr

structure DevicePeer where
  publicKey : Key
  presharedKey : Option Key
  endpoint : Option Endpoint
  /-- Seconds; zero when off. -/
  keepalive : UInt16
  lastHandshake : Option Instant
  received : UInt64
  transmitted : UInt64
  allowedIps : List Cidr
deriving DecidableEq, Repr

structure Device where
  name : String
  privateKey : Option Key
  publicKey : Option Key
  listenPort : UInt16
  firewallMark : UInt32
  peers : List DevicePeer
deriving DecidableEq, Repr

structure PeerChange where
  publicKey : Key
  remove : Bool
  /-- A peer that the kernel does not know is not created. -/
  updateOnly : Bool
  presharedKey : Option Key
  endpoint : Option Endpoint
  keepalive : Option UInt16
  /-- Whether the listed addresses replace those of the peer. -/
  replaceAllowedIps : Bool
  allowedIps : List Cidr
deriving DecidableEq, Repr

structure DeviceChange where
  privateKey : Option Key := none
  listenPort : Option UInt16 := none
  firewallMark : Option UInt32 := none
  peers : List PeerChange := []
deriving DecidableEq, Repr

def PeerChange.removal (publicKey : Key) : PeerChange where
  publicKey := publicKey
  remove := true
  updateOnly := false
  presharedKey := none
  endpoint := none
  keepalive := none
  replaceAllowedIps := false
  allowedIps := []

end TunnelKeeper.Kernel

import TunnelKeeper.Model.Id
import TunnelKeeper.Time.Instant

/-!
# Interfaces

An interface is a tunnel device with its own keys, addresses and shell hooks. It also holds the
defaults that its peers inherit. Lists of addresses or servers are kept as the comma separated text
that was given.
-/
namespace TunnelKeeper

/-- The base64 text of a private key and of its public key; either may be empty. -/
structure KeyPair where
  privateKey : String := ""
  publicKey : String := ""
deriving DecidableEq, Repr, Inhabited

/-- A server has many peers that connect to it; the peers of a client are its remote ends. -/
inductive Role where
  | server
  | client
deriving DecidableEq, Repr

instance : Inhabited Role := ⟨.server⟩

def Role.text : Role → String
  | .server => "server"
  | .client => "client"

structure Hooks (α : Type) where
  preUp : α
  postUp : α
  preDown : α
  postDown : α
deriving DecidableEq, Repr, Inhabited

/-- What peers of an interface inherit. Zero stands for no value of a number. -/
structure PeerDefaults where
  dns : String := ""
  dnsSearch : String := ""
  endpoint : String := ""
  allowedIps : String := ""
  mtu : UInt32 := 0
  keepalive : UInt32 := 0
  firewallMark : UInt32 := 0
  routingTable : String := ""
  hooks : Hooks String := default
deriving DecidableEq, Repr, Inhabited

structure Interface where
  id : InterfaceId
  keys : KeyPair := {}
  listenPort : UInt16 := 0
  addresses : String := ""
  dns : String := ""
  dnsSearch : String := ""
  mtu : UInt32 := 0
  firewallMark : UInt32 := 0
  routingTable : String := ""
  hooks : Hooks String := default
  displayName : String := ""
  role : Role := .server
  driver : String := ""
  disabledAt : Option Instant := none
  peerDefaults : PeerDefaults := {}
deriving DecidableEq, Repr, Inhabited

def Interface.isEnabled (i : Interface) : Bool := i.disabledAt.isNone

/-- The sums over the peers of an interface, as they were last read from the kernel. -/
structure InterfaceStats where
  id : InterfaceId
  peerCount : UInt64
  bytesReceived : UInt64
  bytesTransmitted : UInt64
  updatedAt : Instant
deriving DecidableEq, Repr

end TunnelKeeper

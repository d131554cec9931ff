import TunnelKeeper.Model.Interface

/-!
# Peers

A peer is one remote end of an interface. Besides its own data it carries the settings of its side
of the tunnel, with a copy of what it needs to know about the interface. A prepared peer is held in
memory only until it is committed.
-/
namespace TunnelKeeper

/-- A setting either follows the defaults of the interface or was chosen by a user. Only the former
changes when defaults are pushed. -/
inductive Setting (α : Type) where
  | inherited (value : α)
  | chosen (value : α)
deriving DecidableEq, Repr

namespace Setting

variable {α : Type}

instance [Inhabited α] : Inhabited (Setting α) := ⟨.inherited default⟩

def value : Setting α → α
  | .inherited v => v
  | .chosen v => v

def isChosen : Setting α → Bool
  | .inherited _ => false
  | .chosen _ => true

/-- The setting after a default is pushed: only an inherited value gives way. -/
def push (v : α) : Setting α → Setting α
  | .inherited _ => .inherited v
  | .chosen w => .chosen w

end Setting

/-- The peer's side of the tunnel. -/
structure TunnelSettings where
  interfaceId : InterfaceId := default
  role : Role := .server
  publicKey : String := ""
  addresses : Setting String := default
  dns : Setting String := default
  dnsSearch : Setting String := default
  mtu : Setting UInt32 := default
  firewallMark : Setting UInt32 := default
  routingTable : Setting String := default
  hooks : Hooks (Setting String) := default
deriving DecidableEq, Repr, Inhabited

def TunnelSettings.ofInterface (i : Interface) (addresses : String) : TunnelSettings where
  interfaceId := i.id
  role := i.role
  publicKey := i.keys.publicKey
  addresses := .inherited addresses
  dns := .inherited i.peerDefaults.dns
  dnsSearch := .inherited i.peerDefaults.dnsSearch
  mtu := .inherited i.peerDefaults.mtu
  firewallMark := .inherited i.peerDefaults.firewallMark
  routingTable := .inherited i.peerDefaults.routingTable
  hooks :=
    { preUp := .inherited i.peerDefaults.hooks.preUp
      postUp := .inherited i.peerDefaults.hooks.postUp
      preDown := .inherited i.peerDefaults.hooks.preDown
      postDown := .inherited i.peerDefaults.hooks.postDown }

structure Peer where
  id : PeerId
  displayName : String := ""
  owner : Option UserId := none
  endpoint : Setting String := default
  /-- What the peer may reach, also written into its own file. -/
  allowedIps : Setting String := default
  /-- Further routes that only a server knows. -/
  extraAllowedIps : String := ""
  keys : KeyPair := {}
  presharedKey : Option String := none
  keepalive : Setting UInt32 := default
  /-- Set while the peer is prepared but not committed. -/
  preparedAt : Option Instant := none
  disabledAt : Option Instant := none
  tunnel : TunnelSettings := {}
deriving DecidableEq, Repr, Inhabited

namespace Peer

def isDisabled (p : Peer) : Bool := p.disabledAt.isSome

def isPrepared (p : Peer) : Bool := p.preparedAt.isSome

/-- The peer with every inherited setting brought up to date with its interface. -/
def applyDefaults (i : Interface) (p : Peer) : Peer :=
  let d := i.peerDefaults
  { p with
    endpoint := p.endpoint.push d.endpoint
    allowedIps := p.allowedIps.push d.allowedIps
    keepalive := p.keepalive.push d.keepalive
    tunnel :=
      { p.tunnel with
        interfaceId := i.id
        role := i.role
        publicKey := i.keys.publicKey
        dns := p.tunnel.dns.push d.dns
        dnsSearch := p.tunnel.dnsSearch.push d.dnsSearch
        mtu := p.tunnel.mtu.push d.mtu
        firewallMark := p.tunnel.firewallMark.push d.firewallMark
        routingTable := p.tunnel.routingTable.push d.routingTable
        hooks :=
          { preUp := p.tunnel.hooks.preUp.push d.hooks.preUp
            postUp := p.tunnel.hooks.postUp.push d.hooks.postUp
            preDown := p.tunnel.hooks.preDown.push d.hooks.preDown
            postDown := p.tunnel.hooks.postDown.push d.hooks.postDown } } }

end Peer

/-- What was last read from the kernel about a peer. -/
structure PeerStats where
  id : PeerId
  lastHandshake : Option Instant
  lastEndpoint : Option String
  connected : Bool
  bytesReceived : UInt64
  bytesTransmitted : UInt64
  updatedAt : Instant
deriving DecidableEq, Repr

/-- A device that is not managed yet, as it would be taken over. -/
structure ImportCandidate where
  interface : Interface
  location : String
  kind : String
  peers : List Peer
deriving DecidableEq, Repr

end TunnelKeeper

import TunnelKeeper.Kernel.Basic
import TunnelKeeper.Store.Basic

/-!
# Why an operation fails

An operation fails because it names something unknown, because its input is rejected, or because the
kernel or the store fails at one of its steps. Each cause has one message.
-/
namespace TunnelKeeper
open Net

/-- Inputs that are refused before anything is done. -/
inductive Rejection where
  | missingInterfaceId
  | nameTooLong (id : InterfaceId)
  | missingPeerId
  | missingInterfaceOfPeer (peer : PeerId)
  | peerElsewhere (peer : PeerId)
  | foreignPeer (peer : PeerId) (id : InterfaceId)
  | peerExists (peer : PeerId)
deriving DecidableEq, Repr

/-- Device names of the kernel have at most this many bytes. -/
def maxNameBytes : Nat := 15

def Rejection.message : Rejection → String
  | .missingInterfaceId => "missing interface identifier"
  | .nameTooLong id => s!"interface name {id} is longer than {maxNameBytes} bytes"
  | .missingPeerId => "missing peer identifier"
  | .missingInterfaceOfPeer peer => s!"missing interface identifier for peer {peer}"
  | .peerElsewhere peer => s!"peer {peer} already belongs to another interface"
  | .foreignPeer peer id => s!"peer {peer} does not belong to interface {id}"
  | .peerExists peer => s!"peer {peer} already exists"

inductive KernelStep where
  | createLink
  | openLink
  | enableLink
  | disableLink
  | deleteLink
  | setMtu
  | setAddress
  | configureDevice
  | configurePeer
  | removePeer
  | listDevices
  | listAddresses
deriving DecidableEq, Repr

def KernelStep.text : KernelStep → String
  | .createLink => "create link"
  | .openLink => "open link"
  | .enableLink => "enable link"
  | .disableLink => "disable link"
  | .deleteLink => "delete link"
  | .setMtu => "set MTU"
  | .setAddress => "set address"
  | .configureDevice => "configure device"
  | .configurePeer => "configure peer"
  | .removePeer => "remove peer"
  | .listDevices => "list devices"
  | .listAddresses => "list addresses"

inductive StoreStep where
  | saveInterface
  | savePeer
  | savePeerDefaults
  | saveImportedInterface
  | saveImportedPeer
  | deleteInterface
  | deletePeer
deriving DecidableEq, Repr

def StoreStep.text : StoreStep → String
  | .saveInterface => "save interface"
  | .savePeer => "save peer"
  | .savePeerDefaults => "save peer defaults"
  | .saveImportedInterface => "save imported interface"
  | .saveImportedPeer => "save imported peer"
  | .deleteInterface => "delete interface"
  | .deletePeer => "delete peer"

/-- Where a list of addresses stands that cannot be read. -/
inductive AddressPlace where
  | subnet
  | interface (id : InterfaceId)
  | peer (id : PeerId)
  | allowedIps (id : PeerId)
  | extraAllowedIps (id : PeerId)
deriving DecidableEq, Repr

def AddressPlace.text : AddressPlace → String
  | .subnet => "subnet"
  | .interface id => s!"addresses of interface {id}"
  | .peer id => s!"addresses of peer {id}"
  | .allowedIps id => s!"allowed IPs of peer {id}"
  | .extraAllowedIps id => s!"extra allowed IPs of peer {id}"

inductive KeyPlace where
  | interface (id : InterfaceId)
  | publicKey (id : PeerId)
  | presharedKey (id : PeerId)
deriving DecidableEq, Repr

def KeyPlace.text : KeyPlace → String
  | .interface id => s!"interface {id}"
  | .publicKey id => s!"public key of peer {id}"
  | .presharedKey id => s!"pre-shared key of peer {id}"

inductive KeeperError where
  | interfaceNotFound (id : InterfaceId)
  | peerNotFound (id : PeerId)
  | interfaceExists (id : InterfaceId)
  | rejected (cause : Rejection)
  | kernel (step : KernelStep) (target : String) (cause : KernelError)
  | persistence (step : StoreStep) (target : String) (cause : StoreError)
  | load (cause : StoreError)
  | addresses (place : AddressPlace) (cause : CidrError)
  | key (place : KeyPlace) (cause : KeyError)
  | exhausted (subnet : Cidr)
deriving DecidableEq, Repr

namespace KeeperError

def message : KeeperError → String
  | .interfaceNotFound id => s!"interface {id} not found"
  | .peerNotFound id => s!"peer {id} not found"
  | .interfaceExists id => s!"interface {id} already exists"
  | .rejected cause => s!"invalid record: {cause.message}"
  | .kernel step target cause => s!"failed to {step.text} for {target}: {cause.message}"
  | .persistence step target cause => s!"failed to {step.text} {target} in store: {cause.message}"
  | .load cause => s!"failed to load state from store: {cause.message}"
  | .addresses place cause => s!"failed to parse {place.text}: {cause.message}"
  | .key place cause => s!"invalid key in {place.text}: {cause.message}"
  | .exhausted subnet => s!"ip range exceeded in {subnet.text}"

/-- Whether the operation names an interface or peer that is unknown. -/
def isNotFound : KeeperError → Bool
  | .interfaceNotFound _ => true
  | .peerNotFound _ => true
  | _ => false

/-- Whether the store may be behind kernel and memory. -/
def isPersistence : KeeperError → Bool
  | .persistence .. => true
  | _ => false

end KeeperError

end TunnelKeeper

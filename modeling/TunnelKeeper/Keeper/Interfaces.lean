import TunnelKeeper.Keeper.Basic

/-!
# Operations on interfaces

Input is checked before anything is done. The kernel is changed first, then memory, then the store;
only a deletion writes to the store before it touches memory.
-/
namespace TunnelKeeper.Keeper
open TunnelKeeper

def checkInterfaceId (id : InterfaceId) : Except KeeperError Unit :=
  if id.isBlank then .error (.rejected .missingInterfaceId) else .ok ()

def checkDeviceName (id : InterfaceId) : Except KeeperError Unit := do
  checkInterfaceId id
  if id.text.utf8ByteSize > maxNameBytes then throw (.rejected (.nameTooLong id))

def requireInterface (id : InterfaceId) : Step Unit := do
  let _ ← Step.look (·.interface id)

def requireAbsent (id : InterfaceId) : Step Unit :=
  Step.look fun m =>
    if m.interfaces.contains id then .error (.interfaceExists id) else .ok ()

/-- Creates the device of a new interface, brings it up and starts managing it. -/
def createInterface (id : InterfaceId) : Step Unit := do
  Step.check (checkDeviceName id)
  requireAbsent id
  Step.askKernel .createLink id.text (Kernel.linkAdd id.text)
  let link ← Step.askKernel .openLink id.text (Kernel.linkByName id.text)
  Step.askKernel .enableLink id.text (Kernel.linkSetUp link)
  let i : Interface := { id := id }
  Step.changeMemory (·.addInterface i)
  Step.persist .saveInterface id.text (Store.saveInterface i)

def privateKey? (i : Interface) : Except KeeperError (Option Key) :=
  match Text.nonBlank? i.keys.privateKey with
  | none => .ok none
  | some s => ((KeyPlace.interface i.id).parse s).map some

/-- Sets the first address in place of the old ones and adds the others. -/
def setAddresses (target : String) (link : Kernel.Link) : List Net.Cidr → Step Unit
  | [] => pure ()
  | first :: rest => do
    Step.askKernel .setAddress target (Kernel.addrReplace link first)
    rest.forM fun c => Step.askKernel .setAddress target (Kernel.addrAdd link c)

/-- The change of the device of an interface. -/
def deviceChange (i : Interface) (privateKey : Option Key) : Kernel.DeviceChange where
  privateKey := privateKey
  listenPort := some i.listenPort
  firewallMark := if i.firewallMark = 0 then none else some i.firewallMark

/-- Pushes an interface to the kernel, in the order MTU, addresses, device, link. -/
def pushInterface (i : Interface) (addresses : List Net.Cidr) (privateKey : Option Key) :
    Step Unit := do
  let target := i.id.text
  let link ← Step.askKernel .openLink target (Kernel.linkByName target)
  if i.mtu ≠ 0 then Step.askKernel .setMtu target (Kernel.linkSetMtu link i.mtu)
  setAddresses target link addresses
  Step.askKernel .configureDevice target
    (Kernel.configureDevice target (deviceChange i privateKey))
  if i.isEnabled then Step.askKernel .enableLink target (Kernel.linkSetUp link)
  else Step.askKernel .disableLink target (Kernel.linkSetDown link)

/-- Pushes a managed interface to the kernel and then commits it. -/
def updateInterface (i : Interface) : Step Unit := do
  Step.check (checkInterfaceId i.id)
  let addresses ← Step.check (Memory.addressesAt (.interface i.id) i.addresses)
  let privateKey ← Step.check (privateKey? i)
  requireInterface i.id
  pushInterface i addresses privateKey
  Step.changeMemory fun m => { m with interfaces := m.interfaces.insert i.id i }
  Step.persist .saveInterface i.id.text (Store.saveInterface i)

/-- Deletes the link, then the stored peers and the stored interface, and then forgets them. -/
def deleteInterface (id : InterfaceId) : Step Unit := do
  requireInterface id
  Step.askKernel .deleteLink id.text (Kernel.linkDel id.text)
  let committed := ((← get).memory.peersOf id).records.filter (! ·.isPrepared)
  committed.forM fun p => Step.persist .deletePeer p.id.text (Store.deletePeer p.id)
  Step.persist .deleteInterface id.text (Store.deleteInterface id)
  Step.changeMemory (·.removeInterface id)

/-- Pushes the defaults of an interface into one peer, which is stored unless it is prepared. -/
def pushDefaults (i : Interface) (p : Peer) : Step Unit := do
  let p := p.applyDefaults i
  Step.changeMemory (·.addPeer i.id p)
  if !p.isPrepared then Step.persist .savePeerDefaults p.id.text (Store.savePeer p)

/-- Pushes the defaults of an interface into all of its peers, up to the first failing write. -/
def applyDefaults (id : InterfaceId) : Step Unit := do
  let i ← Step.look (·.interface id)
  ((← get).memory.peersOf id).records.forM (pushDefaults i)

end TunnelKeeper.Keeper

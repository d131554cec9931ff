import TunnelKeeper.Keeper.Peers

/-!
# Taking over devices

A device that the kernel knows and that is not managed can be taken over. The candidate record says
what the kernel holds, so that pushing it back would change nothing. Taking over does not touch the
kernel.
-/
namespace TunnelKeeper.Keeper
open TunnelKeeper Net

def keyText (k : Option Key) : String := (k.map Key.text).getD ""

def importedPeer (i : Interface) (k : Kernel.DevicePeer) : Peer :=
  let key := k.publicKey.text
  let allowed := Cidr.listText k.allowedIps
  { id := ⟨key⟩
    displayName := s!"Autodetected Peer ({key.take 8})"
    endpoint := .inherited ((k.endpoint.map Endpoint.text).getD "")
    allowedIps := .inherited allowed
    keys := { publicKey := key }
    presharedKey := k.presharedKey.map Key.text
    keepalive := .inherited k.keepalive.toUInt32
    tunnel := { TunnelSettings.ofInterface i allowed with mtu := .inherited i.mtu } }

/-- The record of a device with its link and addresses. A link that is down makes the interface
disabled as of now. -/
def importedInterface (now : Instant) (d : Kernel.Device) (link : Kernel.Link)
    (addresses : List Cidr) : Interface where
  id := ⟨d.name⟩
  keys := { privateKey := keyText d.privateKey, publicKey := keyText d.publicKey }
  listenPort := d.listenPort
  addresses := Cidr.listText addresses
  mtu := link.mtu
  firewallMark := d.firewallMark
  driver := "linux"
  disabledAt := if link.up then none else some now

def importCandidate (d : Kernel.Device) : Step ImportCandidate := do
  let link ← Step.askKernel .openLink d.name (Kernel.linkByName d.name)
  let addresses ← Step.askKernel .listAddresses d.name (Kernel.addrList link)
  let i := importedInterface (← get).clock d link addresses
  return {
    interface := i
    location := "interface"
    kind := "unknown"
    peers := d.peers.map (importedPeer i) }

/-- The candidates for all devices that are not managed. -/
def importCandidates : Step (List ImportCandidate) := do
  let devices ← Step.askKernel .listDevices "host" Kernel.listDevices
  let m := (← get).memory
  (devices.filter fun d => !m.interfaces.contains ⟨d.name⟩).mapM importCandidate

/-- A peer of a candidate, which belongs to the interface if it does not say where. -/
def adopt (id : InterfaceId) (p : Peer) : Peer :=
  if p.tunnel.interfaceId.isBlank then { p with tunnel := { p.tunnel with interfaceId := id } }
  else p

def checkImportedPeer (m : Memory) (id : InterfaceId) (p : Peer) : Except KeeperError Unit := do
  checkPeer p
  if p.tunnel.interfaceId ≠ id then throw (.rejected (.foreignPeer p.id id))
  if (m.findPeer? p.id).isSome then throw (.rejected (.peerExists p.id))

/-- Starts managing a candidate and its peers. -/
def importInterface (c : ImportCandidate) : Step Unit := do
  let i := c.interface
  let peers := c.peers.map (adopt i.id)
  Step.check (checkInterfaceId i.id)
  requireAbsent i.id
  Step.look fun m => peers.forM (checkImportedPeer m i.id)
  Step.changeMemory (·.addInterface i)
  Step.persist .saveImportedInterface i.id.text (Store.saveInterface i)
  peers.forM fun p => do
    Step.changeMemory (·.addPeer i.id p)
    Step.persist .saveImportedPeer p.id.text (Store.savePeer p)

end TunnelKeeper.Keeper

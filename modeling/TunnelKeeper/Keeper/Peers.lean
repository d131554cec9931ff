import TunnelKeeper.Keeper.Interfaces

/-!
# Operations on peers

Peers are saved one after the other; those before a failure stay saved. A prepared peer is only kept
in memory. A committed one is filed in memory, pushed to the kernel and then stored, and it is
removed from the kernel, the store and memory in this order.
-/
namespace TunnelKeeper.Keeper
open TunnelKeeper

/-- Refuses a peer that does not say which one it is or where it belongs. -/
def checkPeer (p : Peer) : Except KeeperError Unit :=
  if p.id.isBlank then .error (.rejected .missingPeerId)
  else if p.tunnel.interfaceId.isBlank then .error (.rejected (.missingInterfaceOfPeer p.id))
  else .ok ()

def isElsewhere (m : Memory) (p : Peer) : Bool :=
  m.peers.entries.any fun e => e.1 ≠ p.tunnel.interfaceId && e.2.contains p.id

/-- What has to be pushed for a peer before it is filed; nothing for a prepared one. -/
def neededChange (m : Memory) (p : Peer) : Except KeeperError (Option Kernel.PeerChange) := do
  checkPeer p
  let i ← m.interface p.tunnel.interfaceId
  if isElsewhere m p then throw (.rejected (.peerElsewhere p.id))
  if p.isPrepared then return none else return some (← p.change i.role)

def savePeer (p : Peer) : Step Unit := do
  let change ← Step.look (neededChange · p)
  let id := p.tunnel.interfaceId
  Step.changeMemory (·.addPeer id p)
  match change with
  | none => pure ()
  | some c => do
    Step.askKernel .configurePeer p.id.text (Kernel.configureDevice id.text { peers := [c] })
    Step.persist .savePeer p.id.text (Store.savePeer p)

def savePeers (ps : List Peer) : Step Unit := ps.forM savePeer

def removePeer (id : PeerId) : Step Unit := do
  let p ← Step.look (·.peer id)
  let interfaceId := p.tunnel.interfaceId
  if !p.isPrepared then
    let publicKey ← Step.check ((KeyPlace.publicKey id).parse p.keys.publicKey)
    Step.askKernel .removePeer id.text
      (Kernel.configureDevice interfaceId.text { peers := [.removal publicKey] })
    Step.persist .deletePeer id.text (Store.deletePeer id)
  Step.changeMemory (·.removePeer interfaceId id)

end TunnelKeeper.Keeper

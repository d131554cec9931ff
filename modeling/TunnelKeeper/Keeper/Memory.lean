import TunnelKeeper.ConfigFile.Render
import TunnelKeeper.Keeper.Error

/-!
# What is managed

The managed interfaces, the peers of each, and the statistics that were last read. Peers are filed
under their interface and there under their own identifier. Look-ups never change anything, and
files are made of what is found.
-/
namespace TunnelKeeper

structure Memory where
  interfaces : Directory .interface Interface := default
  peers : Directory .interface (Directory .peer Peer) := default
  peerStats : Directory .peer PeerStats := default
  interfaceStats : Directory .interface InterfaceStats := default
deriving Inhabited

namespace Memory

/-- The peers filed under an interface; none if it has no slot. -/
def peersOf (m : Memory) (id : InterfaceId) : Directory .peer Peer :=
  (m.peers.find? id).getD .empty

def allPeers (m : Memory) : List Peer := m.peers.records.flatMap (·.records)

def findPeer? (m : Memory) (id : PeerId) : Option Peer :=
  m.peers.records.findSome? (·.find? id)

/-- Files an interface and sees to it that it has a slot for peers. -/
def addInterface (m : Memory) (i : Interface) : Memory :=
  { m with
    interfaces := m.interfaces.insert i.id i
    peers := m.peers.insert i.id (m.peersOf i.id) }

def addPeer (m : Memory) (id : InterfaceId) (p : Peer) : Memory :=
  { m with peers := m.peers.insert id ((m.peersOf id).insert p.id p) }

/-- Takes a peer out of the slot of an interface, if it has one, and forgets its statistics. -/
def removePeer (m : Memory) (id : InterfaceId) (peer : PeerId) : Memory :=
  { m with
    peers :=
      match m.peers.find? id with
      | some ps => m.peers.insert id (ps.erase peer)
      | none => m.peers
    peerStats := m.peerStats.erase peer }

/-- Forgets an interface with its peers and their statistics. -/
def removeInterface (m : Memory) (id : InterfaceId) : Memory :=
  { interfaces := m.interfaces.erase id
    peers := m.peers.erase id
    peerStats := m.peerStats.filter fun peer _ => !(m.peersOf id).contains peer
    interfaceStats := m.interfaceStats.erase id }

/-- What a store holds, with each stored peer under the interface it was loaded with. -/
def ofLoaded (loaded : List (Interface × List Peer)) : Memory :=
  loaded.foldl (fun m e => e.2.foldl (fun m p => m.addPeer e.1.id p) (m.addInterface e.1)) {}

def interface (m : Memory) (id : InterfaceId) : Except KeeperError Interface :=
  match m.interfaces.find? id with
  | some i => .ok i
  | none => .error (.interfaceNotFound id)

def peersOfInterface (m : Memory) (id : InterfaceId) : Except KeeperError (List Peer) :=
  if m.interfaces.contains id then .ok (m.peersOf id).records else .error (.interfaceNotFound id)

def peersOfUser (m : Memory) (user : UserId) : List Peer :=
  m.allPeers.filter fun p => p.owner = some user

def peer (m : Memory) (id : PeerId) : Except KeeperError Peer :=
  match m.findPeer? id with
  | some p => .ok p
  | none => .error (.peerNotFound id)

def statsOfPeers (m : Memory) (id : InterfaceId) : Except KeeperError (List PeerStats) :=
  match m.peers.find? id, m.interfaces.contains id with
  | some ps, true => .ok (ps.ids.filterMap m.peerStats.find?)
  | _, _ => .error (.interfaceNotFound id)

def statsOfInterface (m : Memory) (id : InterfaceId) :
    Except KeeperError (Option InterfaceStats) :=
  if m.interfaces.contains id then .ok (m.interfaceStats.find? id)
  else .error (.interfaceNotFound id)

/-- The file of an interface names its committed peers in the order of their identifiers. -/
def interfaceFile (m : Memory) (version : String) (id : InterfaceId) : Except KeeperError String :=
  (m.interface id).map fun i =>
    ConfigFile.interfaceFile version i ((m.peersOf id).records.filter (! ·.isPrepared))

def peerFile (m : Memory) (version : String) (id : PeerId) : Except KeeperError String :=
  (m.peer id).map (ConfigFile.peerFile version)

end Memory

end TunnelKeeper

import TunnelKeeper.Keeper.Basic

/-!
# Housekeeping

Prepared peers that nobody committed are dropped after a while, and the statistics of all managed
interfaces are read from the kernel. A device that cannot be read is passed over.
-/
namespace TunnelKeeper.Keeper
open TunnelKeeper

/-- A peer counts as connected while its last handshake is younger than this many seconds. -/
def connectedWindow : Int := 180

def isStale (cutoff : Instant) (p : Peer) : Bool :=
  match p.preparedAt with
  | some t => t.earlier cutoff
  | none => false

def dropStale (cutoff : Instant) (m : Memory) : Memory :=
  { m with peers := m.peers.map fun ps => ps.filter fun _ p => !isStale cutoff p }

def countStale (cutoff : Instant) (m : Memory) : Nat := (m.allPeers.filter (isStale cutoff)).length

/-- The instant before which prepared peers are stale, if there is such an instant. -/
def staleBefore? (now : Instant) (maxAge : Int) : Option Instant :=
  if maxAge.natAbs ≤ Instant.longestSpan.natAbs then now.minusSeconds? maxAge else none

/-- Drops the prepared peers older than a number of seconds and says how many there were. Without an
instant that long ago there is no answer and nothing changes. -/
def expirePrepared (maxAge : Int) : Step (Option Nat) := do
  let s ← get
  match staleBefore? s.clock maxAge with
  | none => return none
  | some cutoff => do
    set { s with memory := dropStale cutoff s.memory }
    return some (countStale cutoff s.memory)

/-- The peer of an interface with a public key; of several the last one. -/
def peerWithKey? (peers : List Peer) (key : String) : Option PeerId :=
  (peers.reverse.find? fun p => p.keys.publicKey = key).map (·.id)

def isConnected (now : Instant) (handshake : Option Instant) : Bool :=
  match handshake with
  | some t => decide (t.nanosBetween now < connectedWindow * 1000000000)
  | none => false

/-- The statistics of a peer of the kernel, which goes by its key if no peer has that key. -/
def statsOf (now : Instant) (peers : List Peer) (k : Kernel.DevicePeer) : PeerStats where
  id := (peerWithKey? peers k.publicKey.text).getD ⟨k.publicKey.text⟩
  lastHandshake := k.lastHandshake
  lastEndpoint := k.endpoint.map Net.Endpoint.text
  connected := isConnected now k.lastHandshake
  bytesReceived := k.received
  bytesTransmitted := k.transmitted
  updatedAt := now

def totalsOf (now : Instant) (id : InterfaceId) (d : Kernel.Device) : InterfaceStats where
  id := id
  peerCount := d.peers.length.toUInt64
  bytesReceived := (d.peers.map (·.received)).foldl (· + ·) 0
  bytesTransmitted := (d.peers.map (·.transmitted)).foldl (· + ·) 0
  updatedAt := now

def recordStats (now : Instant) (id : InterfaceId) (d : Kernel.Device) (m : Memory) : Memory :=
  let stats := d.peers.map (statsOf now (m.peersOf id).records)
  { m with
    peerStats := m.peerStats.insertAll (·.id) stats
    interfaceStats := m.interfaceStats.insert id (totalsOf now id d) }

/-- Reads the device of one interface, if it can be read. -/
def refreshInterface (id : InterfaceId) : StateM Keeper Unit := do
  let s ← get
  let (result, kernel) := (Kernel.device id.text).run.run s.kernel
  match result with
  | .ok d => set { s with kernel := kernel, memory := recordStats s.clock id d s.memory }
  | .error _ => set { s with kernel := kernel }

def refreshStats : Step Unit := do
  let ids := (← get).memory.interfaces.ids
  ids.forM fun id => (refreshInterface id : StateM Keeper Unit)

end TunnelKeeper.Keeper

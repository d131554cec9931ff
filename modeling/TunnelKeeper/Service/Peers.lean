import TunnelKeeper.Service.Interfaces
import TunnelKeeper.Service.Search

/-!
# Requests about peers

A new peer is first prepared: it gets keys and free addresses and is held in memory, so that its
addresses are not given out again. Creating it commits it.
-/
namespace TunnelKeeper.Service
open TunnelKeeper

def preparedPeer (i : Interface) (addresses : String) (user : Option UserId) (keys : KeyPair)
    (presharedKey : String) (now : Instant) : Peer :=
  Peer.applyDefaults i
    { id := ⟨keys.publicKey⟩
      displayName := s!"Peer {String.ofList (keys.publicKey.toList.take 8)}"
      owner := user
      keys := keys
      presharedKey := some presharedKey
      preparedAt := some now
      tunnel := .ofInterface i addresses }

def preparePeer (id : InterfaceId) (user : Option UserId) : Job Peer := do
  let i ← Job.look (·.interface id)
  let addresses ← Job.look (·.freshAddresses id)
  let keys ← Job.keyPair
  let presharedKey ← Job.presharedKey
  let p := preparedPeer i addresses user keys presharedKey (← Job.now)
  Job.keep (Keeper.savePeers [p])
  return p

/-- Commits a peer, prepared or not known before. -/
def createPeer (p : Peer) : Job Peer := do
  match ← Job.attempt (Step.look (·.peer p.id)) with
  | .ok known =>
    if !known.isPrepared then .fail (.keeper (.rejected (.peerExists p.id))) else commit
  | .error e => if e.isNotFound then commit else .fail (.keeper e)
where
  commit : Job Peer := do
    Job.keep (Keeper.savePeers [{ p with preparedAt := none }])
    Job.look (·.peer p.id)

/-- Replaces a known peer, which stays prepared if it was. -/
def updatePeer (p : Peer) : Job Peer := do
  let known ← Job.look (·.peer p.id)
  Job.keep (Keeper.savePeers [{ p with preparedAt := known.preparedAt }])
  Job.look (·.peer p.id)

def deletePeer (id : PeerId) : Job Unit := Job.keep (Keeper.removePeer id)

/-- The peers among which a search looks. -/
def searched (s : Search) : Job (List Peer) :=
  match s.interface?, s.user? with
  | some i, some u =>
    Job.look fun m => .ok ((m.peersOfUser u).filter fun p => p.tunnel.interfaceId = i)
  | some i, none => Job.look (·.peersOfInterface i)
  | none, some u => Job.look fun m => .ok (m.peersOfUser u)
  | none, none => .fail .missingFilter

def findPeers (s : Search) : Job (List Peer) := do
  match s.select? (← searched s) with
  | some found => return found
  | none => .fail .noMorePages

/-- Drops stale prepared peers and reads the statistics. -/
def runBackground (s : Settings) : Job Unit := do
  match ← Job.keep (Keeper.expirePrepared s.preparedTtl) with
  | none => .fail .noSuchInstant
  | some _ => Job.keep Keeper.refreshStats

/-- What a loop with a pause of so many seconds does at its start. -/
def startBackground (s : Settings) (interval : Nat) : Job Unit :=
  if interval = 0 then .fail .noInterval else runBackground s

end TunnelKeeper.Service

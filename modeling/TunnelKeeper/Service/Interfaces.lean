import TunnelKeeper.Service.Job

/-!
# Requests about interfaces

A new interface is prepared as a record with fresh keys and the listen number after the highest one
in use, and is created with its full configuration.
-/
namespace TunnelKeeper.Service
open TunnelKeeper

structure Settings where
  defaultListenPort : UInt16
  defaultDriver : String
  /-- How many seconds a prepared peer is kept. -/
  preparedTtl : Int
deriving DecidableEq, Repr

/-- One more, but never beyond the highest number. -/
def nextListenPort (n : UInt16) : UInt16 := if n = 65535 then n else n + 1

/-- The listen number of a new interface beside those that are managed. -/
def freeListenPort (d : UInt16) (interfaces : List Interface) : UInt16 :=
  match (interfaces.map (·.listenPort)).max? with
  | some highest => nextListenPort highest
  | none => d

def prepareInterface (s : Settings) (id : InterfaceId) : Job Interface := do
  match ← Job.attempt (Step.look (·.interface id)) with
  | .ok _ => .fail (.keeper (.interfaceExists id))
  | .error _ =>
    let interfaces ← Job.look fun m => .ok m.interfaces.records
    let keys ← Job.keyPair
    return {
      id := id
      keys := keys
      listenPort := freeListenPort s.defaultListenPort interfaces
      displayName := id.text
      driver := s.defaultDriver }

def createInterface (i : Interface) : Job Interface := do
  Job.keep (Keeper.createInterface i.id)
  Job.keep (Keeper.updateInterface i)
  Job.look (·.interface i.id)

def updateInterface (i : Interface) : Job Interface := do
  Job.keep (Keeper.updateInterface i)
  Job.look (·.interface i.id)

def deleteInterface (id : InterfaceId) : Job Unit := Job.keep (Keeper.deleteInterface id)

def importCandidates : Job (List ImportCandidate) := Job.keep Keeper.importCandidates

def importInterface (id : InterfaceId) : Job Interface := do
  match (← importCandidates).find? fun c => c.interface.id = id with
  | none => .fail (.keeper (.interfaceNotFound id))
  | some c => do
    Job.keep (Keeper.importInterface c)
    Job.look (·.interface id)

end TunnelKeeper.Service

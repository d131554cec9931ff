import TunnelKeeper.Model.Directory
import TunnelKeeper.Model.Peer

/-!
# The store

The store keeps interfaces and committed peers under their identifiers; saving a record replaces the
one that was there. The mark of a prepared peer is never stored. Attempted writes are recorded, and
any operation may fail by the fault plan, without effect.
-/
namespace TunnelKeeper

inductive StoreError where
  | database (text : String)
  | migration (text : String)
  | interfaceNotFound (id : InterfaceId)
  | unavailable (text : String)
deriving DecidableEq, Repr

def StoreError.message : StoreError → String
  | .database text => s!"database error: {text}"
  | .migration text => s!"migration error: {text}"
  | .interfaceNotFound id => s!"interface {id} not found"
  | .unavailable text => s!"store unavailable: {text}"

namespace Store

inductive Operation where
  | interfaceIds
  | allInterfaces
  | interface
  | saveInterface
  | savePeer
  | deleteInterface
  | deletePeer
deriving DecidableEq, Repr

inductive Write where
  | saveInterface (id : InterfaceId)
  | savePeer (id : PeerId)
  | deleteInterface (id : InterfaceId)
  | deletePeer (id : PeerId)
deriving DecidableEq, Repr

/-- For each operation, the fault of its n-th call, if it has one. -/
abbrev FaultPlan := Operation → Nat → Option StoreError

def FaultPlan.healthy : FaultPlan := fun _ _ => none

/-- The records themselves. -/
structure Records where
  interfaces : Directory .interface Interface := default
  peers : Directory .peer Peer := default

namespace Records

/-- The stored peers that name an interface, in the order of their identifiers. -/
def peersOf (r : Records) (id : InterfaceId) : List Peer :=
  r.peers.records.filter fun p => p.tunnel.interfaceId = id

def saveInterface (r : Records) (i : Interface) : Records :=
  { r with interfaces := r.interfaces.insert i.id i }

def savePeer (r : Records) (p : Peer) : Records :=
  { r with peers := r.peers.insert p.id { p with preparedAt := none } }

def deleteInterface (r : Records) (id : InterfaceId) : Records :=
  { r with interfaces := r.interfaces.erase id }

def deletePeer (r : Records) (id : PeerId) : Records := { r with peers := r.peers.erase id }

/-- The interfaces among `ids` that are stored, each with its peers. -/
def load (r : Records) (ids : List InterfaceId) : List (Interface × List Peer) :=
  ids.filterMap fun id => (r.interfaces.find? id).map fun i => (i, r.peersOf i.id)

end Records

end Store

structure Store where
  records : Store.Records := {}
  faults : Store.FaultPlan := Store.FaultPlan.healthy
  /-- The calls since the fault plan was laid, per operation. -/
  made : Store.Operation → Nat := fun _ => 0
  writes : List Store.Write := []

namespace Store

/-- A request to the store: it changes the store only where it succeeds, apart from the record of
attempts. -/
abbrev Request (α : Type) := ExceptT StoreError (StateM Store) α

/-- Counts a call, and fails if a fault meets it. -/
def attempt (o : Operation) : Request Unit := do
  let s ← get
  set { s with made := fun q => if q = o then s.made q + 1 else s.made q }
  match s.faults o (s.made o) with
  | some e => throw e
  | none => pure ()

/-- Records a write, and carries it out unless a fault meets it. -/
def write (o : Operation) (w : Write) (f : Records → Records) : Request Unit := do
  modify fun s => { s with writes := s.writes ++ [w] }
  attempt o
  modify fun s => { s with records := f s.records }

def interfaceIds : Request (List InterfaceId) := do
  attempt .interfaceIds
  return (← get).records.interfaces.ids

def allInterfaces (ids : List InterfaceId) : Request (List (Interface × List Peer)) := do
  attempt .allInterfaces
  return (← get).records.load ids

def interface (id : InterfaceId) : Request (Interface × List Peer) := do
  attempt .interface
  let r := (← get).records
  match r.interfaces.find? id with
  | some i => return (i, r.peersOf id)
  | none => throw (.interfaceNotFound id)

def saveInterface (i : Interface) : Request Unit :=
  write .saveInterface (.saveInterface i.id) (·.saveInterface i)

def savePeer (p : Peer) : Request Unit := write .savePeer (.savePeer p.id) (·.savePeer p)

def deleteInterface (id : InterfaceId) : Request Unit :=
  write .deleteInterface (.deleteInterface id) (·.deleteInterface id)

def deletePeer (id : PeerId) : Request Unit :=
  write .deletePeer (.deletePeer id) (·.deletePeer id)

end Store

end TunnelKeeper

import TunnelKeeper.Store.Basic
import TunnelKeeper.Store.DatabaseUrl

/-!
# The store of a service

Without a database address records are kept in memory. With one the database has to be reached,
which never succeeds here: an address that cannot be understood is told apart from a database that
is not there. A database that went away answers no query.
-/
namespace TunnelKeeper.Store
open TunnelKeeper

inductive OpenError where
  | configuration
  | unreachable
deriving DecidableEq, Repr

/-- The store at a database address. -/
def openAt (address : Option String) : Except OpenError Store :=
  match address with
  | none => .ok {}
  | some s =>
    if ((DatabaseUrl.ofText? s).map (·.isReadable)).getD false then .error .unreachable
    else .error .configuration

/-- What a query says when the database went away. -/
def closedPool : String := "attempted to acquire a connection on a closed pool"

/-- A store whose database went away. -/
def disconnected : Store := { faults := fun _ _ => some (.database closedPool) }

/-- What bringing the tables up to date says when the database went away. -/
def migrationFault : StoreError := .migration s!"while executing migrations: {closedPool}"

/-- The interfaces with some identifiers. None at all need no query. -/
def interfacesAmong (ids : List InterfaceId) : Request (List (Interface × List Peer)) :=
  if ids.isEmpty then return [] else allInterfaces ids

end TunnelKeeper.Store

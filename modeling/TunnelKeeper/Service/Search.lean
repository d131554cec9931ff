import TunnelKeeper.Keeper.Memory
import TunnelKeeper.Text.Lowercase

/-!
# Searching peers

A search names an interface, a user or both, and may ask for a text that has to occur in one of four
fields of a peer, whatever its letter case. What it finds is given out page by page. A page size of
zero gives out everything. An offset beyond the end is refused, but the first page of an empty
result is empty.
-/
namespace TunnelKeeper

structure Listing (α : Type) where
  elements : List α
  pageSize : Nat := 0

namespace Listing

variable {α : Type}

/-- The elements in order; equal ones stay as they stood. -/
def sortBy (l : Listing α) (compare : α → α → Ordering) : Listing α :=
  { l with elements := l.elements.mergeSort fun a b => (compare a b).isLE }

/-- The page that begins at an offset, unless the offset lies beyond the end. -/
def page? (l : Listing α) (offset : Nat) : Option (List α) :=
  if l.pageSize = 0 then some l.elements
  else if 0 < offset ∧ l.elements.length ≤ offset then none
  else some ((l.elements.drop offset).take l.pageSize)

end Listing

inductive SortKey where
  | identifier
  | displayName
  | publicKey
deriving DecidableEq, Repr

structure Search where
  interface : Option InterfaceId := none
  user : Option UserId := none
  filter : String := ""
  sort : SortKey := .identifier
  descending : Bool := false
  offset : Nat := 0
  /-- The page size; zero asks for everything. -/
  size : Nat := 0
deriving DecidableEq, Repr

namespace Search

/-- The fields of a peer in which the text may occur. -/
def fields (p : Peer) : List String :=
  [p.id.text, p.displayName, p.keys.publicKey, p.tunnel.addresses.value]

def matchesPeer (s : Search) (p : Peer) : Bool :=
  let needle := Text.lowercaseList (Text.trimList s.filter.toList)
  needle.isEmpty || (fields p).any fun f => Text.occursIn needle (Text.lowercaseList f.toList)

def keyOf (k : SortKey) (p : Peer) : String :=
  match k with
  | .identifier => p.id.text
  | .displayName => p.displayName
  | .publicKey => p.keys.publicKey

def compareText (a b : String) : Ordering := if a < b then .lt else if a = b then .eq else .gt

def comparePeers (s : Search) (a b : Peer) : Ordering :=
  let order := compareText (keyOf s.sort a) (keyOf s.sort b)
  if s.descending then order.swap else order

/-- The interface that is asked for; a blank one counts as none. -/
def interface? (s : Search) : Option InterfaceId := s.interface.filter (! ·.isBlank)

def user? (s : Search) : Option UserId := s.user.filter (! ·.isBlank)

/-- The matching peers among those given, page by page. -/
def select? (s : Search) (peers : List Peer) : Option (List Peer) :=
  let found : Listing Peer := { elements := peers.filter s.matchesPeer }
  { found.sortBy s.comparePeers with pageSize := s.size }.page? s.offset

end Search

end TunnelKeeper

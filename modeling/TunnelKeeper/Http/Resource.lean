import TunnelKeeper.Url.Percent
import TunnelKeeper.Model.Id

/-!
# Resources

A path leads to a resource. The routes are tried in order and the first one that fits wins, so a
word that stands where an identifier may stand hides the identifier of that name. An identifier is
one segment, in which a slash has to be encoded.
-/
namespace TunnelKeeper.Http
open TunnelKeeper Url

inductive Resource where
  | health
  | interfaces
  | newInterface (id : InterfaceId)
  | interface (id : InterfaceId)
  | interfaceDefaults (id : InterfaceId)
  | interfaceFile (id : InterfaceId)
  | freshAddresses (id : InterfaceId)
  | statistics (id : InterfaceId)
  | importCandidates
  | importCandidate (id : InterfaceId)
  | peers
  | newPeer (id : InterfaceId)
  | peer (id : PeerId)
  | peerFile (id : PeerId)
deriving DecidableEq, Repr

inductive RoutePart where
  | word (s : String)
  | identifier
deriving DecidableEq, Repr

structure Route where
  parts : List RoutePart
  /-- The resource for an identifier; a route without one passes over it. -/
  resource : String → Resource

namespace Route

/-- The segments at the identifiers of a route, if the segments fit it. -/
def captured? : List RoutePart → List (List Char) → Option (List (List Char))
  | [], [] => some []
  | .word w :: parts, s :: rest => if s = w.toList then captured? parts rest else none
  | .identifier :: parts, s :: rest =>
    if s.isEmpty then none else (captured? parts rest).map (s :: ·)
  | _, _ => none

def identifierText (segment : List Char) : String := String.ofList (Percent.decode segment)

def resource? (r : Route) (segments : List (List Char)) : Option Resource :=
  (captured? r.parts segments).map fun captured => r.resource (identifierText (captured.headD []))

end Route

def interfacesPath : List RoutePart := [.word "api", .word "interfaces"]

def interfacePath : List RoutePart := interfacesPath ++ [.identifier]

def candidatesPath : List RoutePart := [.word "api", .word "importable-interfaces"]

def peersPath : List RoutePart := [.word "api", .word "peers"]

def peerPath : List RoutePart := peersPath ++ [.identifier]

/-- The routes in the order in which they are tried. -/
def routes : List Route :=
  [⟨[.word "health"], fun _ => .health⟩,
    ⟨interfacesPath, fun _ => .interfaces⟩,
    ⟨interfacesPath ++ [.word "prepare", .identifier], fun s => .newInterface ⟨s⟩⟩,
    ⟨interfacePath, fun s => .interface ⟨s⟩⟩,
    ⟨interfacePath ++ [.word "apply-defaults"], fun s => .interfaceDefaults ⟨s⟩⟩,
    ⟨interfacePath ++ [.word "config"], fun s => .interfaceFile ⟨s⟩⟩,
    ⟨interfacePath ++ [.word "fresh-ips"], fun s => .freshAddresses ⟨s⟩⟩,
    ⟨interfacePath ++ [.word "stats"], fun s => .statistics ⟨s⟩⟩,
    ⟨candidatesPath, fun _ => .importCandidates⟩,
    ⟨candidatesPath ++ [.identifier], fun s => .importCandidate ⟨s⟩⟩,
    ⟨peersPath, fun _ => .peers⟩,
    ⟨interfacePath ++ [.word "peers", .word "prepare"], fun s => .newPeer ⟨s⟩⟩,
    ⟨peerPath, fun s => .peer ⟨s⟩⟩,
    ⟨peerPath ++ [.word "config"], fun s => .peerFile ⟨s⟩⟩]

/-- The resource at the segments of a path, of which the first has to be empty. -/
def Resource.ofSegments? : List (List Char) → Option Resource
  | [] :: segments => routes.findSome? (·.resource? segments)
  | _ => none

end TunnelKeeper.Http

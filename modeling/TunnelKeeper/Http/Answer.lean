import TunnelKeeper.Http.Message
import TunnelKeeper.Http.Resource
import TunnelKeeper.Http.SearchForm
import TunnelKeeper.Model.Codec
import TunnelKeeper.Service.Peers

/-!
# Answering requests

Every resource but the health check needs the token. What a request asks for is found first; then
the token is checked, and only then are the query and the body read. A request without the token
thus learns whether a path and a method exist and nothing else, and its answer is a job without
steps.
-/
namespace TunnelKeeper.Http
open TunnelKeeper Url

/-- What is done with a request once it has shown the token. -/
abbrev Handler := Request → Job Response

namespace Handler

def respond {α : Type} (job : Job α) (response : α → Response) : Job Response :=
  (job.bind fun a => .done (response a)).recover Response.ofError

/-- A handler that needs nothing from the request. -/
def run {α : Type} (job : Job α) (response : α → Response) : Handler := fun _ =>
  respond job response

def withRecord {α : Type} (decode : Json → Option α) (next : α → Job Response) : Handler :=
  fun r =>
    match r.record? decode with
    | some a => next a
    | none => .done ⟨400, .empty⟩

def withFields {α : Type} (decode : Form.Fields → Option α) (next : α → Job Response) : Handler :=
  fun r =>
    match decode r.fields with
    | some a => next a
    | none => .done ⟨400, .empty⟩

end Handler

def listed {α : Type} (toJson : α → Json) (as : List α) : Response := .json 200 (.list toJson as)

/-- A record of which the body and the path give different identifiers. -/
def mismatch {kind : IdKind} (body path : Id kind) : Job Response :=
  .done (.invalid s!"body identifier {body} does not match {path}")

def replaceInterface (id : InterfaceId) (i : Interface) : Job Response :=
  if i.id = id then Handler.respond (Service.updateInterface i) fun i => .json 200 i.toJson
  else mismatch i.id id

def replacePeer (id : PeerId) (p : Peer) : Job Response :=
  if p.id = id then Handler.respond (Service.updatePeer p) fun p => .json 200 p.toJson
  else mismatch p.id id

def statisticsOf (id : InterfaceId) : Job Json := do
  let interface ← Job.look (·.statsOfInterface id)
  let peers ← Job.look (·.statsOfPeers id)
  return .record
    [("interface", .optional InterfaceStats.toJson interface),
      ("peers", .list PeerStats.toJson peers)]

/-- The user in the query of a new peer; a blank one counts as none. -/
def owner? (fs : Form.Fields) : Option (Option UserId) :=
  (Form.named? ["user"] fs).map fun fs =>
    ((fs.lookup "user").map Id.mk).filter (! ·.isBlank)

def file (text : String) : Response := ⟨200, .text text⟩

/-- What a method does to a resource that needs the token. -/
def Resource.handler? (settings : Service.Settings) : Resource → Method → Option Handler
  | .interfaces, .get =>
    some (.run (Job.look fun m => .ok m.interfaces.records) (listed Interface.toJson))
  | .interfaces, .post =>
    some (.withRecord Interface.ofJson? fun i =>
      Handler.respond (Service.createInterface i) fun i => .json 201 i.toJson)
  | .newInterface id, .get =>
    some (.run (Service.prepareInterface settings id) fun i => .json 200 i.toJson)
  | .interface id, .get => some (.run (Job.look (·.interface id)) fun i => .json 200 i.toJson)
  | .interface id, .put => some (.withRecord Interface.ofJson? (replaceInterface id))
  | .interface id, .delete => some (.run (Service.deleteInterface id) fun _ => ⟨204, .empty⟩)
  | .interfaceDefaults id, .post =>
    some (.run (Job.keep (Keeper.applyDefaults id)) fun _ => ⟨204, .empty⟩)
  | .interfaceFile id, .get =>
    some (.run (Job.look (·.interfaceFile ConfigFile.defaultVersion id)) file)
  | .freshAddresses id, .get =>
    some (.run (Job.look (·.freshAddresses id)) fun s =>
      .json 200 (.record [("address_str", .text s)]))
  | .statistics id, .get => some (.run (statisticsOf id) (.json 200))
  | .importCandidates, .get => some (.run Service.importCandidates (listed ImportCandidate.toJson))
  | .importCandidate id, .post =>
    some (.run (Service.importInterface id) fun i => .json 201 i.toJson)
  | .peers, .get =>
    some (.withFields Search.ofFields? fun s =>
      Handler.respond (Service.findPeers s) (listed Peer.toJson))
  | .peers, .post =>
    some (.withRecord Peer.ofJson? fun p =>
      Handler.respond (Service.createPeer p) fun p => .json 201 p.toJson)
  | .newPeer id, .post =>
    some (.withFields owner? fun user =>
      Handler.respond (Service.preparePeer id user) fun p => .json 200 p.toJson)
  | .peer id, .get => some (.run (Job.look (·.peer id)) fun p => .json 200 p.toJson)
  | .peer id, .put => some (.withRecord Peer.ofJson? (replacePeer id))
  | .peer id, .delete => some (.run (Service.deletePeer id) fun _ => ⟨204, .empty⟩)
  | .peerFile id, .get => some (.run (Job.look (·.peerFile ConfigFile.defaultVersion id)) file)
  | _, _ => none

/-- How an interface to the service is set up. Without any token nobody is let in. -/
structure Api where
  settings : Service.Settings
  token : Option String
deriving DecidableEq, Repr

namespace Api

def scheme : List Char := "Bearer ".toList

/-- Whether a request shows the token, which must not be empty. -/
def hasToken (token : String) (r : Request) : Bool :=
  header? r.authorization = some (scheme ++ token.toList) && !token.isEmpty

def guarded (api : Api) (handler : Handler) (r : Request) : Job Response :=
  match api.token with
  | none => .done .internal
  | some token => if hasToken token r then handler r else .done .unauthorized

def answer (api : Api) (r : Request) : Job Response :=
  match Resource.ofSegments? r.segments with
  | none => .done ⟨404, .empty⟩
  | some .health =>
    if r.method = .get then .done (.json 200 (.record [("status", .text "ok")]))
    else .done ⟨404, .empty⟩
  | some resource =>
    match resource.handler? api.settings r.method with
    | none => .done ⟨405, .empty⟩
    | some handler => api.guarded handler r

end Api

end TunnelKeeper.Http

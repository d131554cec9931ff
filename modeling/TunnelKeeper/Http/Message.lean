import TunnelKeeper.Url.Form
import TunnelKeeper.Http.MediaType
import TunnelKeeper.Json.Reader
import TunnelKeeper.Service.Job

/-!
# Requests and responses

A request names a target by a path and a query. A response carries JSON, a plain text or nothing.
The failures of a job become responses here; what went wrong inside is not told.
-/
namespace TunnelKeeper.Http
open TunnelKeeper Url

inductive Method where
  | get
  | post
  | put
  | delete
  | other
deriving DecidableEq, Repr

def Method.ofText (s : String) : Method :=
  if s = "GET" then .get
  else if s = "POST" then .post
  else if s = "PUT" then .put
  else if s = "DELETE" then .delete
  else .other

structure Request where
  method : Method
  target : String
  /-- The value of the header with this name, if there is one. -/
  authorization : Option String
  contentType : Option String
  body : String
deriving DecidableEq, Repr

inductive Body where
  | empty
  | json (j : Json)
  | text (s : String)

structure Response where
  status : Nat
  body : Body := .empty

def plainText : String := "text/plain; charset=utf-8"

/-- Whether a header can be read: only visible characters, spaces and tabs. -/
def isHeaderText (s : String) : Bool :=
  s.toList.all fun c => c = '\t' || 32 ≤ c.toNat && c.toNat < 127

def header? (value : Option String) : Option (List Char) :=
  (value.filter isHeaderText).map String.toList

namespace Request

def plainTarget (r : Request) : List Char := r.target.toList.takeWhile (· ≠ '#')

/-- What follows the authority of a target that names one, with the slash of an empty path. -/
def afterAuthority : List Char → List Char
  | [] => []
  | ':' :: '/' :: '/' :: cs =>
    match cs.dropWhile fun c => c ≠ '/' && c ≠ '?' with
    | '/' :: rest => '/' :: rest
    | rest => '/' :: rest
  | _ :: cs => afterAuthority cs

def pathAndQuery (r : Request) : List Char :=
  match r.plainTarget with
  | '/' :: cs => '/' :: cs
  | cs => afterAuthority cs

/-- The segments of the path, the first of which is what stands before the first slash. Each may
still hold encoded slashes, percent and plus signs. -/
def segments (r : Request) : List (List Char) :=
  (Percent.decodePath (r.pathAndQuery.takeWhile (· ≠ '?'))).splitOn '/'

def fields (r : Request) : Form.Fields :=
  Form.fields ((r.pathAndQuery.dropWhile (· ≠ '?')).drop 1)

def hasJson (r : Request) : Bool :=
  (((header? r.contentType).bind MediaType.ofList?).map (·.isJson)).getD false

def record? {α : Type} (r : Request) (decode : Json → Option α) : Option α :=
  if r.hasJson then (Json.ofText? r.body).bind decode else none

end Request

namespace Response

def json (status : Nat) (j : Json) : Response := ⟨status, .json j⟩

def failure (status : Nat) (text : String) : Response :=
  json status (.record [("error", .text text)])

def unauthorized : Response := failure 401 "unauthorized"

def invalid (text : String) : Response := failure 400 s!"validation error: {text}"

def internal : Response := failure 500 "internal server error"

def ofKeeperError (e : KeeperError) : Response :=
  match e with
  | .interfaceNotFound _ | .peerNotFound _ => failure 404 e.message
  | .interfaceExists _ => failure 409 e.message
  | .rejected _ | .addresses .. | .key .. | .exhausted _ => invalid e.message
  | .kernel .. | .persistence .. | .load _ => internal

def ofError : ServiceError → Response
  | .keeper e => ofKeeperError e
  | .missingFilter => invalid ServiceError.missingFilter.message
  | .noMorePages => invalid ServiceError.noMorePages.message
  | .noSuchInstant => internal
  | .noInterval => internal

end Response

end TunnelKeeper.Http

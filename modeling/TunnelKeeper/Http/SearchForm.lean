import TunnelKeeper.Url.Form
import TunnelKeeper.Model.Codec
import TunnelKeeper.Service.Search

/-!
# Forms of a search

A search is given as JSON or as a query. Both have the same names, all of which may be missing.
-/
namespace TunnelKeeper
open Url

def SortKey.text : SortKey → String
  | .identifier => "identifier"
  | .displayName => "display_name"
  | .publicKey => "public_key"

/-- All names of a key; the first one is its own. -/
def SortKey.aliases : SortKey → List String
  | .identifier => ["identifier"]
  | .displayName => ["display_name", "name", "displayname"]
  | .publicKey => ["public_key", "publickey"]

def SortKey.ofText? (s : String) : Option SortKey :=
  [.identifier, .displayName, .publicKey].find? fun k => k.aliases.contains s

namespace Search

def names : List String := ["interface", "user", "filter", "sort", "desc", "offset", "size"]

def ofJson? (j : Json) : Option Search := do
  let m ← Json.members? names j
  let size? := Json.natural? Url.Form.maxSize
  return {
    interface := ← m.read "interface" (Json.optional? Id.ofJson?) none
    user := ← m.read "user" (Json.optional? Id.ofJson?) none
    filter := ← m.read "filter" Json.string? ""
    sort := ← m.read "sort" (fun j => j.alternative?.bind SortKey.ofText?) .identifier
    descending := ← m.read "desc" Json.bool? false
    offset := ← m.read "offset" size? 0
    size := ← m.read "size" size? 0 }

def ofFields? (fs : Form.Fields) : Option Search := do
  let fs ← Form.named? names fs
  return {
    interface := (fs.lookup "interface").map (⟨·⟩)
    user := (fs.lookup "user").map (⟨·⟩)
    filter := (fs.lookup "filter").getD ""
    sort := ← Form.read fs "sort" SortKey.ofText? .identifier
    descending := ← Form.read fs "desc" Form.truth? false
    offset := ← Form.read fs "offset" Form.size? 0
    size := ← Form.read fs "size" Form.size? 0 }

end Search

end TunnelKeeper

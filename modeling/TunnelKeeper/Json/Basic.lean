/-!
# JSON values

The values of the JSON data format. Members of an object keep their order and may repeat. Integers
are told apart from other numbers, and a string literal may be grammatical without denoting any
text, when an escape in it is one half of a surrogate pair.
-/
namespace TunnelKeeper

/-- The text of a string literal; nothing when it holds half a surrogate pair. -/
abbrev JsonText := Option String

inductive Json where
  | null
  | bool (b : Bool)
  | integer (n : Int)
  /-- A number with a fraction or an exponent, or a negative zero, as it is written. -/
  | decimal (literal : String)
  | string (s : JsonText)
  | array (elements : List Json)
  | object (members : List (JsonText × Json))
deriving Inhabited

namespace Json

def text (s : String) : Json := .string (some s)

def natural (n : Nat) : Json := .integer n

def record (members : List (String × Json)) : Json :=
  .object (members.map fun m => (some m.1, m.2))

def optional {α : Type} (toJson : α → Json) : Option α → Json
  | none => .null
  | some a => toJson a

def list {α : Type} (toJson : α → Json) (as : List α) : Json := .array (as.map toJson)

end Json

end TunnelKeeper

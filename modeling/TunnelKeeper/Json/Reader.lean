import TunnelKeeper.Json.Token

/-!
# Reading JSON

The second step of reading JSON. The tokens of a text are taken one by one; the arrays and objects
that are still open lie on a stack, the innermost first.
-/
namespace TunnelKeeper.Json
open TunnelKeeper

/-- An array or object that is still open, with its completed content in reverse. -/
inductive Frame where
  | array (elements : List Json)
  | object (members : List (JsonText × Json))
  /-- An object in which a value for this name has to come next. -/
  | member (members : List (JsonText × Json)) (name : JsonText)

inductive Progress where
  /-- A value has to come next. -/
  | value (stack : List Frame)
  /-- An array was just opened: a value or its end. -/
  | first (stack : List Frame)
  /-- A name has to come next. -/
  | name (members : List (JsonText × Json)) (stack : List Frame)
  /-- An object was just opened: a name or its end. -/
  | firstName (stack : List Frame)
  | colon (members : List (JsonText × Json)) (name : JsonText) (stack : List Frame)
  /-- A value was completed inside the innermost frame: a comma or its end. -/
  | next (frame : Frame) (stack : List Frame)
  | done (j : Json)

def Progress.complete (j : Json) : List Frame → Progress
  | [] => .done j
  | .array elements :: stack => .next (.array (j :: elements)) stack
  | .member members key :: stack => .next (.object ((key, j) :: members)) stack
  | .object members :: stack => .next (.object members) stack

def Progress.start (stack : List Frame) : Token → Option Progress
  | .scalar j => some (.complete j stack)
  | .openArray => some (.first stack)
  | .openObject => some (.firstName stack)
  | _ => none

def Progress.step : Progress → Token → Option Progress
  | .value stack, t => start stack t
  | .first stack, .closeArray => some (complete (.array []) stack)
  | .first stack, t => start (.array [] :: stack) t
  | .name members stack, .scalar (.string s) => some (.colon members s stack)
  | .firstName stack, .closeObject => some (complete (.object []) stack)
  | .firstName stack, .scalar (.string s) => some (.colon [] s stack)
  | .colon members s stack, .colon => some (.value (.member members s :: stack))
  | .next (.array elements) stack, .comma => some (.value (.array elements :: stack))
  | .next (.array elements) stack, .closeArray => some (complete (.array elements.reverse) stack)
  | .next (.object members) stack, .comma => some (.name members stack)
  | .next (.object members) stack, .closeObject =>
    some (complete (.object members.reverse) stack)
  | _, _ => none

def ofTokens? (ts : List Token) : Option Json :=
  match ts.foldlM Progress.step (.value []) with
  | some (.done j) => some j
  | _ => none

/-- The value written in a text. -/
def ofText? (s : String) : Option Json := (tokens? s.toList).bind ofTokens?

end TunnelKeeper.Json

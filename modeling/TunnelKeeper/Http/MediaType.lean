/-!
# Media types

A media type names what a body holds: two words with a slash between them, of which the second may
carry a suffix after its last plus sign, and parameters after semicolons. The letter case of the
words does not matter.
-/
namespace TunnelKeeper.Http

def isTokenChar (c : Char) : Bool := c.isAlphanum || "!#$%&\x27+-.^_\x60|~".toList.contains c

/-- What may come next in the parameters of a media type. -/
inductive ParameterState where
  /-- Spaces, or the name of a parameter. -/
  | gap
  | name
  /-- The beginning of a value. -/
  | start
  | value
  /-- The first character of a quoted value, which may be a quote itself. -/
  | firstQuoted
  | quoted
  /-- Spaces, or the semicolon after a quoted value. -/
  | closed
deriving DecidableEq

def isQuotedChar (c : Char) : Bool := 31 < c.toNat && c.toNat ≠ 127

def ParameterState.step (s : ParameterState) (c : Char) : Option ParameterState :=
  let token (next : ParameterState) := if isTokenChar c then some next else none
  match s with
  | .gap => if c = ' ' then some .gap else token .name
  | .name => if c = '=' then some .start else token .name
  | .start => if c = '\x22' then some .firstQuoted else token .value
  | .value => if c = ';' then some .gap else token .value
  | .firstQuoted => if isQuotedChar c then some .quoted else none
  | .quoted => if c = '\x22' then some .closed else if isQuotedChar c then some .quoted else none
  | .closed => if c = ';' then some .gap else if c = ' ' then some .closed else none

def ParameterState.isComplete : ParameterState → Bool
  | .gap | .start | .value | .closed => true
  | .name | .firstQuoted | .quoted => false

def areParameters (cs : List Char) : Bool :=
  ((cs.foldlM ParameterState.step .gap).map (·.isComplete)).getD false

structure MediaType where
  main : List Char
  sub : List Char
  suffix : Option (List Char)
deriving DecidableEq, Repr

namespace MediaType

/-- What stands before and after the last plus sign, if one stands behind the first character. -/
def splitSuffix (cs : List Char) : List Char × Option (List Char) :=
  let suffix := (cs.reverse.takeWhile (· ≠ '+')).reverse
  if suffix.length + 1 < cs.length then (cs.take (cs.length - suffix.length - 1), some suffix)
  else (cs, none)

def ofWords (main sub : List Char) : MediaType :=
  let (sub, suffix) := splitSuffix (sub.map Char.toLower)
  ⟨main.map Char.toLower, sub, suffix⟩

def ofList? (cs : List Char) : Option MediaType :=
  let main := cs.takeWhile isTokenChar
  match cs.dropWhile isTokenChar with
  | '/' :: rest =>
    let sub := rest.takeWhile isTokenChar
    match rest.dropWhile isTokenChar with
    | [] => if main.isEmpty then none else some (ofWords main sub)
    | ';' :: parameters =>
      if main.isEmpty || sub.isEmpty || !areParameters parameters then none
      else some (ofWords main sub)
    | _ => none
  | _ => none

def json : List Char := ['j', 's', 'o', 'n']

def isJson (m : MediaType) : Bool := m.sub = json || m.suffix = some json

end MediaType

end TunnelKeeper.Http

import TunnelKeeper.Url.Percent

/-!
# Query fields

A query is a list of names with values, divided by ampersands. The first equals sign ends a name, a
plus sign stands for a space, and empty pieces do not count.
-/
namespace TunnelKeeper.Url.Form
open TunnelKeeper

abbrev Fields := List (String × String)

def fieldText (cs : List Char) : String :=
  String.ofList (Percent.decode (cs.map fun c => if c = '+' then ' ' else c))

def field (piece : List Char) : String × String :=
  (fieldText (piece.takeWhile (· ≠ '=')), fieldText ((piece.dropWhile (· ≠ '=')).drop 1))

def fields (query : List Char) : Fields :=
  ((query.splitOn '&').filter (! ·.isEmpty)).map field

/-- The fields that have one of the names, none of which may stand twice. -/
def named? (names : List String) (fs : Fields) : Option Fields :=
  let known := fs.filter fun f => names.contains f.1
  if (known.map (·.1)).Nodup then some known else none

def read {α : Type} (fs : Fields) (name : String) (decode : String → Option α) (default : α) :
    Option α :=
  match fs.lookup name with
  | some s => decode s
  | none => some default

def truth? (s : String) : Option Bool :=
  if s = "true" then some true else if s = "false" then some false else none

def maxSize : Nat := 18446744073709551615

def size? (s : String) : Option Nat := Text.signedUpTo? maxSize s.toList

end TunnelKeeper.Url.Form

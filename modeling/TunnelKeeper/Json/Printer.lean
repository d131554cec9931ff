import TunnelKeeper.Json.Basic
import TunnelKeeper.Text.Digits

/-!
# Writing JSON

Values are written without any space. In strings only the quote, the backslash and the control
characters below the space are escaped.
-/
namespace TunnelKeeper.Json
open TunnelKeeper

def fourHex (n : Nat) : List Char :=
  let ds := Text.hexadecimal n
  List.replicate (4 - ds.length) '0' ++ ds

def escapedChar (c : Char) : List Char :=
  if c = '\x22' ∨ c = '\\' then ['\\', c]
  else if c = '\x08' then ['\\', 'b']
  else if c = '\x0c' then ['\\', 'f']
  else if c = '\n' then ['\\', 'n']
  else if c = '\r' then ['\\', 'r']
  else if c = '\t' then ['\\', 't']
  else if c.toNat < 0x20 then '\\' :: 'u' :: fourHex c.toNat
  else [c]

def stringLiteral (s : String) : List Char :=
  '\x22' :: s.toList.flatMap escapedChar ++ ['\x22']

def integerLiteral (n : Int) : List Char :=
  if n < 0 then '-' :: Text.decimal n.natAbs else Text.decimal n.natAbs

/-- A literal without any text, for a string that has none. -/
def brokenLiteral : List Char := ['\x22', '\\', 'u', 'd', '8', '0', '0', '\x22']

def textLiteral : JsonText → List Char
  | some s => stringLiteral s
  | none => brokenLiteral

mutual

def write : Json → List Char
  | .null => ['n', 'u', 'l', 'l']
  | .bool true => ['t', 'r', 'u', 'e']
  | .bool false => ['f', 'a', 'l', 's', 'e']
  | .integer n => integerLiteral n
  | .decimal literal => literal.toList
  | .string s => textLiteral s
  | .array elements => '[' :: writeElements elements ++ [']']
  | .object members => '\x7b' :: writeMembers members ++ ['\x7d']

def writeElements : List Json → List Char
  | [] => []
  | [v] => write v
  | v :: vs => write v ++ ',' :: writeElements vs

def writeMembers : List (JsonText × Json) → List Char
  | [] => []
  | [(name, v)] => textLiteral name ++ ':' :: write v
  | (name, v) :: ms => textLiteral name ++ ':' :: write v ++ ',' :: writeMembers ms

end

def toText (j : Json) : String := String.ofList (write j)

end TunnelKeeper.Json

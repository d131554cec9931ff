import TunnelKeeper.Text.Digits
import TunnelKeeper.Text.Utf8

/-!
# Percent encoding

A byte may be written as a percent sign and two hexadecimal digits. A percent sign without two
digits stands for itself, and so does one whose byte the reader wants to keep in its written form.
What is read need not be UTF-8; broken characters are shown as U+FFFD.
-/
namespace TunnelKeeper.Url.Percent
open TunnelKeeper

def sign : UInt8 := 37

def hexByte? (high low : UInt8) : Option UInt8 :=
  (Text.hexValue? [Char.ofNat high.toNat, Char.ofNat low.toNat]).map Nat.toUInt8

/-- The bytes that a text stands for, where the bytes in `kept` stay encoded. -/
def decodeBytes (kept : List UInt8) : List UInt8 → List UInt8
  | [] => []
  | [a] => [a]
  | [a, b] => [a, b]
  | a :: b :: c :: rest =>
    if a = sign then
      match hexByte? b c with
      | some n => if kept.contains n then a :: decodeBytes kept (b :: c :: rest)
        else n :: decodeBytes kept rest
      | none => a :: decodeBytes kept (b :: c :: rest)
    else a :: decodeBytes kept (b :: c :: rest)

def decode (cs : List Char) : List Char := Text.decodeLenient (decodeBytes [] (Text.encode cs))

/-- As `decode`, unless the bytes are no UTF-8. -/
def decodeStrict? (cs : List Char) : Option (List Char) :=
  Text.decodeStrict? (decodeBytes [] (Text.encode cs))

/-- The bytes of a path that stay encoded at first, so that a path is cut only where a slash is
written as such: the slash, the percent sign and the plus sign. -/
def keptInPath : List UInt8 := [47, 37, 43]

def decodePath (cs : List Char) : List Char :=
  Text.decodeLenient (decodeBytes keptInPath (Text.encode cs))

end TunnelKeeper.Url.Percent
